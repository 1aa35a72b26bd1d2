import LineCalculator.Text.Lines
import Mathlib.Data.List.DropRight

/-!
# How a text falls into lines

A text is a sequence of lines, each with its end, and behind the last end may
stand a line without one, if it is not empty.  Line feeds end lines; where
carriage returns do so as well, one that a line feed follows shares the end with
it.  Either way exactly one sequence of lines makes up a text, and `split` finds
it.

The two ways differ only at carriage returns that another character follows:
elsewhere a carriage return that belongs to a line is trimmed off its end.
-/

namespace LineCalculator.Lines

variable {ends : Ends}

def Unended (ends : Ends) (line : List Char) : Prop :=
  ∀ character ∈ line,
    character ≠ '\n' ∧ (ends = .any → character ≠ '\r')

inductive Splits (ends : Ends) : List Char → List (List Char) → Prop where
  | nothing :
      Splits ends [] []
  | tail
      {line : List Char}
      (nonempty : line ≠ []) (unended : Unended ends line) :
      Splits ends line [line]
  | feed
      {line text : List Char} {lines : List (List Char)}
      (unended : Unended ends line) (behind : Splits ends text lines) :
      Splits ends (line ++ '\n' :: text) (line :: lines)
  | returnFeed
      {line text : List Char} {lines : List (List Char)}
      (isAny : ends = .any)
      (unended : Unended ends line) (behind : Splits ends text lines) :
      Splits ends (line ++ '\r' :: '\n' :: text) (line :: lines)
  | loneReturn
      {line text : List Char} {lines : List (List Char)}
      (isAny : ends = .any)
      (unended : Unended ends line) (alone : text.head? ≠ some '\n')
      (behind : Splits ends text lines) :
      Splits ends (line ++ '\r' :: text) (line :: lines)

/-! ## The first character of a text -/

private theorem unended_nil : Unended ends [] :=
  fun _ member => absurd member List.not_mem_nil

/-- A character that ends no line may be put in front of a text. -/
private theorem Splits.cons
    {character : Char} {text : List Char} {lines : List (List Char)}
    (notFeed : character ≠ '\n')
    (notReturn : ends = .any → character ≠ '\r')
    (splits : Splits ends text lines) :
    ∃ longer, Splits ends (character :: text) longer := by
  have extend {line : List Char} (unended : Unended ends line) :
      Unended ends (character :: line) := by
    intro other member
    rcases List.mem_cons.mp member with rfl | member
    · exact ⟨notFeed, notReturn⟩
    · exact unended other member
  cases splits with
  | nothing =>
      exact ⟨_, .tail (List.cons_ne_nil _ _) (extend unended_nil)⟩
  | tail nonempty unended =>
      exact ⟨_, .tail (List.cons_ne_nil _ _) (extend unended)⟩
  | feed unended behind =>
      exact ⟨_, .feed (extend unended) behind⟩
  | returnFeed isAny unended behind =>
      exact ⟨_, .returnFeed isAny (extend unended) behind⟩
  | loneReturn isAny unended alone behind =>
      exact ⟨_, .loneReturn isAny (extend unended) alone behind⟩

/-- Behind every carriage return of the text stands a line feed or nothing. -/
def ReturnsPaired (text : List Char) : Prop :=
  ∀ next, ['\r', next] <:+: text → next = '\n'

private theorem ReturnsPaired.tail
    {character : Char} {text : List Char}
    (paired : ReturnsPaired (character :: text)) :
    ReturnsPaired text :=
  fun next isInfix => paired next (List.infix_cons isInfix)

end LineCalculator.Lines
