import LineCalculator.Text.Blank

/-!
# Lines of text

A line ends at a line feed.  Depending on the stream that the text comes from, it
also ends at a carriage return, and a carriage return right before a line feed
ends the same line; otherwise carriage returns belong to their lines.  A last line
that is not empty needs no end.
-/

namespace LineCalculator.Lines

/-- What ends a line: a line feed only, or a carriage return as well. -/
inductive Ends where
  | feed
  | any
  deriving DecidableEq, Repr

/-- The lines of a text read from the back, and whether the text begins with a
line feed. -/
structure Split where
  lines : List (List Char) := []
  feedAhead : Bool := false
  deriving DecidableEq, Repr

/-- Put a character in front of a text that has been split.  A carriage return
right before a line feed ends the same line as the line feed. -/
def Split.cons (ends : Ends) (character : Char) (behind : Split) : Split :=
  if character = '\n' then
    { lines := [] :: behind.lines, feedAhead := true }
  else if character = '\r' ∧ ends = .any then
    { lines := if behind.feedAhead then behind.lines else [] :: behind.lines }
  else
    match behind.lines with
    | [] =>
        { lines := [[character]] }
    | first :: later =>
        { lines := (character :: first) :: later }

def split (ends : Ends) (text : List Char) : List (List Char) :=
  (text.foldr (Split.cons ends) {}).lines

/-- The lines of a text that have ended, when more text may be coming.  A
carriage return at the very end has not ended its line yet: it may be half of
an end of two characters. -/
def splitEnded (ends : Ends) (text : List Char) : List (List Char) :=
  if text.getLast? = some '\n' then
    split ends text
  else
    (split ends text).dropLast

def isLineEnd (character : Char) : Bool :=
  character == '\r' || character == '\n'

def trimEnd (line : List Char) : List Char :=
  (line.reverse.dropWhile isLineEnd).reverse

end LineCalculator.Lines
