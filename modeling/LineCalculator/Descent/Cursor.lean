import LineCalculator.Text.Blank

/-!
# Cursors

A cursor stands in a line: it knows how many characters lie behind it and
which ones lie ahead.  It only moves forward.  Looking for a symbol skips the
blanks in front of it, whether or not the symbol is found.
-/

namespace LineCalculator

structure Cursor where
  /-- The number of characters already passed. -/
  offset : Nat
  /-- The characters ahead. -/
  rest : List Char
  deriving DecidableEq, Repr

namespace Cursor

def ofLine (line : List Char) : Cursor :=
  ⟨0, line⟩

/-- The longest run of accepted characters ahead, and the cursor behind it. -/
def takeWhile (accepts : Char → Bool) (cursor : Cursor) :
    List Char × Cursor :=
  let run := cursor.rest.takeWhile accepts
  (run, ⟨cursor.offset + run.length, cursor.rest.dropWhile accepts⟩)

def skipBlanks (cursor : Cursor) : Cursor :=
  (cursor.takeWhile isBlank).2

/-- Skip blanks and tell whether the symbol comes next. -/
def peek (symbol : Char) (cursor : Cursor) : Bool × Cursor :=
  let next := cursor.skipBlanks
  (next.rest.head? == some symbol, next)

/-- Skip blanks and move over the next character if it is among those for
which the choice has an answer. -/
def choose {α : Type} (choice : Char → Option α) (cursor : Cursor) :
    Option α × Cursor :=
  let next := cursor.skipBlanks
  match next.rest with
  | [] =>
      (none, next)
  | first :: rest =>
      match choice first with
      | none =>
          (none, next)
      | some answer =>
          (some answer, ⟨next.offset + 1, rest⟩)

/-- Skip blanks and move over the symbol if it comes next. -/
def accept (symbol : Char) (cursor : Cursor) : Bool × Cursor :=
  let (answer, next) :=
    cursor.choose fun first => if first = symbol then some () else none
  (answer.isSome, next)

end Cursor

end LineCalculator
