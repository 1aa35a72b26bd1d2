import LineCalculator.Proofs.Syntax.Phrase
import Mathlib.Data.List.Basic

/-!
# Going forward in a line

More relations between two places in the same line:

* `Reaches`: the second place is not in front of the first.
* `PassesDigit`: a digit lies between them, as it does in every phrase.
* `Apart` and `Past`: what lies between them does not end with a digit, so a run
  of digits that starts at the second place starts there for the first, too.
-/

namespace LineCalculator

/-! ## Going forward -/

namespace Cursor

def Reaches (start finish : Cursor) : Prop :=
  ∃ text, start.Passes text finish

def PassesDigit (start finish : Cursor) : Prop :=
  ∃ text,
    start.Passes text finish ∧ ∃ digit ∈ text, digit.isDigit = true

/-- What lies between the two places does not end with a digit.  So a run of
digits behind the second place does not begin in front of it. -/
def Apart (start place : Cursor) : Prop :=
  ∃ front,
    start.Passes front place ∧
      ∀ last ∈ front.getLast?, last.isDigit = false

/-- What lies between the two places ends with a character other than a
digit. -/
def Past (start place : Cursor) : Prop :=
  ∃ front symbol,
    start.Passes (front ++ [symbol]) place ∧ symbol.isDigit = false

section

variable {start middle place finish : Cursor}

theorem Reaches.refl
    (cursor : Cursor) :
    cursor.Reaches cursor :=
  ⟨[], .refl cursor⟩

theorem Reaches.trans
    (first : start.Reaches middle)
    (second : middle.Reaches finish) :
    start.Reaches finish := by
  obtain ⟨front, frontPasses⟩ := first
  obtain ⟨back, backPasses⟩ := second
  exact ⟨front ++ back, frontPasses.trans backPasses⟩

theorem PassesDigit.reaches
    (passesDigit : start.PassesDigit finish) :
    start.Reaches finish := by
  obtain ⟨text, passes, _⟩ := passesDigit
  exact ⟨text, passes⟩

/-- A digit that lies between two places lies between any that are further
apart. -/
theorem PassesDigit.widen
    (before : start.Reaches middle)
    (passesDigit : middle.PassesDigit place)
    (behind : place.Reaches finish) :
    start.PassesDigit finish := by
  obtain ⟨front, frontPasses⟩ := before
  obtain ⟨text, passes, digit, member, isDigit⟩ := passesDigit
  obtain ⟨back, backPasses⟩ := behind
  refine ⟨front ++ text ++ back, (frontPasses.trans passes).trans backPasses,
    digit, ?_, isDigit⟩
  exact List.mem_append_left _ (List.mem_append_right _ member)

theorem Passes.apart
    {text : List Char}
    (passes : start.Passes text finish)
    (noDigit : ∀ character ∈ text, character.isDigit = false) :
    start.Apart finish :=
  ⟨text, passes, fun last isLast => noDigit last (List.mem_of_getLast? isLast)⟩

theorem Apart.reaches
    (apart : start.Apart finish) :
    start.Reaches finish := by
  obtain ⟨front, passes, _⟩ := apart
  exact ⟨front, passes⟩

theorem Apart.trans
    (first : start.Apart middle)
    (second : middle.Apart finish) :
    start.Apart finish := by
  obtain ⟨front, frontPasses, frontEnds⟩ := first
  obtain ⟨back, backPasses, backEnds⟩ := second
  refine ⟨front ++ back, frontPasses.trans backPasses, ?_⟩
  intro last isLast
  by_cases empty : back = []
  · rw [empty, List.append_nil] at isLast
    exact frontEnds last isLast
  · rw [List.getLast?_append_of_ne_nil front empty] at isLast
    exact backEnds last isLast

theorem Past.apart
    (past : start.Past finish) :
    start.Apart finish := by
  obtain ⟨front, symbol, passes, notDigit⟩ := past
  refine ⟨front ++ [symbol], passes, ?_⟩
  intro last isLast
  rw [List.getLast?_concat] at isLast
  cases isLast
  exact notDigit

theorem Past.of_reaches
    (reaches : start.Reaches middle)
    (past : middle.Past finish) :
    start.Past finish := by
  obtain ⟨before, beforePasses⟩ := reaches
  obtain ⟨front, symbol, passes, notDigit⟩ := past
  refine ⟨before ++ front, symbol, ?_, notDigit⟩
  rw [List.append_assoc]
  exact beforePasses.trans passes

theorem Blanks.reaches
    {blank : Char → Bool}
    (blanks : Blanks blank start finish) :
    start.Reaches finish := by
  obtain ⟨spaces, _, passes⟩ := blanks
  exact ⟨spaces, passes⟩

theorem Blanks.apart
    (blanks : Blanks isBlank start finish) :
    start.Apart finish := by
  obtain ⟨spaces, spacesBlank, passes⟩ := blanks
  exact passes.apart fun space member =>
    isBlank_separatesTokens.not_isDigit (spacesBlank space member)

theorem Symbol.exists_text
    {blank : Char → Bool} {symbol : Char}
    (isSymbol : Symbol blank start symbol finish) :
    ∃ spaces,
      (∀ space ∈ spaces, blank space = true) ∧
        start.Passes (spaces ++ [symbol]) finish := by
  obtain ⟨before, ⟨spaces, spacesBlank, spacesPass⟩, passes⟩ := isSymbol
  exact ⟨spaces, spacesBlank, spacesPass.trans passes⟩

theorem Symbol.reaches
    {blank : Char → Bool} {symbol : Char}
    (isSymbol : Symbol blank start symbol finish) :
    start.Reaches finish := by
  obtain ⟨spaces, _, passes⟩ := isSymbol.exists_text
  exact ⟨spaces ++ [symbol], passes⟩

theorem Symbol.past
    {blank : Char → Bool} {symbol : Char}
    (isSymbol : Symbol blank start symbol finish)
    (isMark : symbol ∈ marks) :
    start.Past finish := by
  have notDigit : ∀ mark ∈ marks, mark.isDigit = false :=
    forall_mem_marks.mpr (by decide)
  obtain ⟨spaces, _, passes⟩ := isSymbol.exists_text
  exact ⟨spaces, symbol, passes, notDigit symbol isMark⟩

end

end Cursor

open Cursor

/-! ## Success -/

namespace Syntax

theorem Signs.reaches
    {blank : Char → Bool} {start finish : Cursor} {signs : List Sign}
    (isSigns : Signs blank start signs finish) :
    start.Reaches finish := by
  induction isSigns with
  | nil cursor =>
      exact .refl cursor
  | cons isSymbol _ inductionHypothesis =>
      exact isSymbol.reaches.trans inductionHypothesis

/-- Every phrase has a digit. -/
theorem Phrase.passesDigit
    {α : Type} {blank : Char → Bool} {meaning : Meaning α} {level : Level}
    {start finish : Cursor} {value : α}
    (phrase : Phrase blank meaning level start value finish) :
    start.PassesDigit finish := by
  induction phrase with
  | @number _ place finish run _ blanks nonempty digits passes _ _ =>
      have isDigit := digits _ (List.head_mem nonempty)
      have runDigit : place.PassesDigit finish :=
        ⟨run, passes, _, List.head_mem nonempty, isDigit⟩
      exact .widen blanks.reaches runDigit (.refl finish)
  | group opening _ closing inside =>
      exact .widen opening.reaches inside closing.reaches
  | @unary _ _ finish _ _ signs _ operand =>
      exact .widen signs.reaches operand (.refl finish)
  | single _ inductionHypothesis =>
      exact inductionHypothesis
  | @extend _ start _ _ _ _ _ _ _ _ isSymbol _ _ left right =>
      exact .widen (.refl start) left (isSymbol.reaches.trans right.reaches)

end Syntax

end LineCalculator
