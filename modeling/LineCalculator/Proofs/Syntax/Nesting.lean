import LineCalculator.Proofs.Syntax.Phrase

/-!
# Open parentheses

`mostOpen` counts how many parentheses are open at once in a text, `unclosed`
how many it leaves open.  A phrase closes what it opens, so what follows it sees
no more open parentheses than the text with the phrase in front.
-/

namespace LineCalculator.Syntax

open Cursor

def openBehind (opened : Nat) : Char → Nat
  | '(' => opened + 1
  | ')' => opened - 1
  | _ => opened

/-- The greatest number of parentheses that are open at once in a text in front
of which some have been opened already. -/
def mostOpen (opened : Nat) : List Char → Nat
  | [] => opened
  | character :: later =>
      max opened (mostOpen (openBehind opened character) later)

theorem le_mostOpen
    (opened : Nat) (text : List Char) :
    opened ≤ mostOpen opened text := by
  cases text with
  | nil =>
      exact Nat.le_refl _
  | cons character later =>
      exact Nat.le_max_left _ _

private theorem mostOpen_behind_le
    (opened : Nat) (character : Char) (later : List Char) :
    mostOpen (openBehind opened character) later ≤
      mostOpen opened (character :: later) :=
  Nat.le_max_right _ _

/-- The number of parentheses that a text leaves open, behind some that have
been opened already. -/
def openAfter (opened : Nat) (text : List Char) : Nat :=
  text.foldl openBehind opened

/-- The number of opening parentheses of a text that are not closed in it. -/
def unclosed (text : List Char) : Nat :=
  openAfter 0 text

theorem openAfter_append
    (opened : Nat) (first second : List Char) :
    openAfter opened (first ++ second) =
      openAfter (openAfter opened first) second :=
  List.foldl_append

theorem openAfter_of_neutral
    {text : List Char}
    (neutral :
      ∀ character ∈ text, ∀ opened, openBehind opened character = opened)
    (opened : Nat) :
    openAfter opened text = opened := by
  induction text with
  | nil =>
      rfl
  | cons character later inductionHypothesis =>
      have laterEq :=
        inductionHypothesis fun other member =>
          neutral other (List.mem_cons_of_mem _ member)
      rw [openAfter, List.foldl_cons, neutral character List.mem_cons_self]
      exact laterEq

/-- Behind a part of a text as many parentheses are open at once as in the whole
text, at the most. -/
theorem mostOpen_openAfter_le
    (opened : Nat) (first second : List Char) :
    mostOpen (openAfter opened first) second ≤
      mostOpen opened (first ++ second) := by
  induction first generalizing opened with
  | nil =>
      exact Nat.le_refl _
  | cons character later inductionHypothesis =>
      exact Nat.le_trans (inductionHypothesis (openBehind opened character))
        (mostOpen_behind_le opened character (later ++ second))

/-- Two pieces of a text are counted one after the other. -/
theorem mostOpen_append
    (opened : Nat) (first second : List Char) :
    mostOpen opened (first ++ second) =
      max (mostOpen opened first)
        (mostOpen (openAfter opened first) second) := by
  induction first generalizing opened with
  | nil =>
      exact (Nat.max_eq_right (le_mostOpen opened second)).symm
  | cons character later inductionHypothesis =>
      rw [List.cons_append, mostOpen, mostOpen, inductionHypothesis,
        Nat.max_assoc]
      rfl

theorem mostOpen_of_neutral
    {text : List Char}
    (neutral :
      ∀ character ∈ text, ∀ opened, openBehind opened character = opened)
    (opened : Nat) :
    mostOpen opened text = opened := by
  induction text with
  | nil =>
      rfl
  | cons character later inductionHypothesis =>
      have laterEq :=
        inductionHypothesis fun other member =>
          neutral other (List.mem_cons_of_mem _ member)
      rw [mostOpen, neutral character List.mem_cons_self, laterEq,
        Nat.max_self]

private theorem openBehind_mono
    {opened more : Nat} (character : Char)
    (atMost : opened ≤ more) :
    openBehind opened character ≤ openBehind more character := by
  unfold openBehind
  split <;> omega

theorem mostOpen_mono
    {opened more : Nat} (text : List Char)
    (atMost : opened ≤ more) :
    mostOpen opened text ≤ mostOpen more text := by
  induction text generalizing opened more with
  | nil =>
      exact atMost
  | cons character later inductionHypothesis =>
      have laterBound := inductionHypothesis (openBehind_mono character atMost)
      rw [mostOpen, mostOpen]
      omega

theorem openBehind_of_isDigit
    {digit : Char} (opened : Nat)
    (isDigit : digit.isDigit = true) :
    openBehind opened digit = opened := by
  unfold openBehind
  split
  · cases isDigit
  · cases isDigit
  · rfl

theorem openBehind_of_blank
    {blank : Char → Bool} (separates : SeparatesTokens blank)
    {space : Char} (opened : Nat)
    (isBlank : blank space = true) :
    openBehind opened space = opened := by
  have notMark := separates.not_mem_marks isBlank
  unfold openBehind
  split
  · exact absurd (by decide) notMark
  · exact absurd (by decide) notMark
  · rfl

private theorem openBehind_sign
    (opened : Nat) (sign : Sign) :
    openBehind opened sign.symbol = opened := by
  cases sign <;> rfl

theorem openBehind_operator
    {strength : Precedence} {symbol : Char} {operator : Operator}
    (opened : Nat)
    (isOperator : strength.operator? symbol = some operator) :
    openBehind opened symbol = opened := by
  unfold openBehind
  split
  · cases strength <;> cases isOperator
  · cases strength <;> cases isOperator
  · rfl

/-- A text without parentheses can be left out. -/
private theorem mostOpen_of_passes
    {start finish : Cursor} {text : List Char}
    (passes : start.Passes text finish)
    (neutral :
      ∀ character ∈ text, ∀ opened, openBehind opened character = opened)
    (opened : Nat) :
    mostOpen opened finish.rest ≤ mostOpen opened start.rest := by
  rw [passes.rest_eq]
  clear passes
  induction text with
  | nil =>
      exact Nat.le_refl _
  | cons character later inductionHypothesis =>
      have laterBound :=
        inductionHypothesis fun other member =>
          neutral other (List.mem_cons_of_mem _ member)
      have characterBound :=
        mostOpen_behind_le opened character (later ++ finish.rest)
      rw [neutral character List.mem_cons_self] at characterBound
      exact Nat.le_trans laterBound characterBound

section

variable {α : Type} {blank : Char → Bool} {meaning : Meaning α}
  (separates : SeparatesTokens blank)

include separates

theorem mostOpen_of_blanks
    {start finish : Cursor}
    (blanks : Blanks blank start finish) (opened : Nat) :
    mostOpen opened finish.rest ≤ mostOpen opened start.rest := by
  obtain ⟨spaces, spacesBlank, passes⟩ := blanks
  apply mostOpen_of_passes passes
  intro space member count
  exact openBehind_of_blank separates count (spacesBlank space member)

theorem mostOpen_of_symbol
    {start finish : Cursor} {symbol : Char}
    (isSymbol : Symbol blank start symbol finish) (opened : Nat) :
    mostOpen (openBehind opened symbol) finish.rest ≤
      mostOpen opened start.rest := by
  obtain ⟨before, blanks, passes⟩ := isSymbol
  have blanksBound := mostOpen_of_blanks separates blanks opened
  have symbolBound := mostOpen_behind_le opened symbol finish.rest
  rw [passes.rest_eq] at blanksBound
  exact Nat.le_trans symbolBound blanksBound

theorem mostOpen_of_signs
    {start finish : Cursor} {signs : List Sign}
    (isSigns : Signs blank start signs finish) (opened : Nat) :
    mostOpen opened finish.rest ≤ mostOpen opened start.rest := by
  induction isSigns with
  | nil =>
      exact Nat.le_refl _
  | @cons _ _ _ sign _ isSymbol _ inductionHypothesis =>
      have symbolBound := mostOpen_of_symbol separates isSymbol opened
      rw [openBehind_sign] at symbolBound
      exact Nat.le_trans inductionHypothesis symbolBound

/-- A phrase leaves as many parentheses open as there were. -/
theorem mostOpen_of_phrase
    {level : Level} {start finish : Cursor} {value : α}
    (phrase : Phrase blank meaning level start value finish)
    (opened : Nat) :
    mostOpen opened finish.rest ≤ mostOpen opened start.rest := by
  induction phrase generalizing opened with
  | number blanks _ digits passes _ _ =>
      have blanksBound := mostOpen_of_blanks separates blanks opened
      have digitsBound :=
        mostOpen_of_passes passes
          (fun digit member count =>
            openBehind_of_isDigit count (digits digit member))
          opened
      exact Nat.le_trans digitsBound blanksBound
  | group opening _ closing inductionHypothesis =>
      have openingBound := mostOpen_of_symbol separates opening opened
      have closingBound :=
        mostOpen_of_symbol separates closing (opened + 1)
      exact Nat.le_trans closingBound
        (Nat.le_trans (inductionHypothesis (opened + 1)) openingBound)
  | unary signs _ inductionHypothesis =>
      exact Nat.le_trans (inductionHypothesis opened)
        (mostOpen_of_signs separates signs opened)
  | single _ inductionHypothesis =>
      exact inductionHypothesis opened
  | extend _ isSymbol isOperator _ leftHypothesis rightHypothesis =>
      have symbolBound := mostOpen_of_symbol separates isSymbol opened
      rw [openBehind_operator opened isOperator] at symbolBound
      exact Nat.le_trans (rightHypothesis opened)
        (Nat.le_trans symbolBound (leftHypothesis opened))

end

end LineCalculator.Syntax
