import LineCalculator.Proofs.Grammar.Division
import LineCalculator.Proofs.Syntax.Nesting
import Mathlib.Data.List.Infix

/-!
# Matching parentheses

A list of items, some of which open a group and some of which close one, is
paired if no front closes more groups than it opens and the whole closes them
all.  So the two ends of a group match exactly if what stands between them is
paired; and such a group lies within one of two pieces of a list.  A text is
paired exactly where its tokens are.
-/

namespace LineCalculator

section

variable {α : Type}

/-- Every group that is opened is closed behind, and nothing else is closed. -/
def Paired (opens closes : α → Bool) (items : List α) : Prop :=
  (∀ front ∈ items.inits, front.countP closes ≤ front.countP opens) ∧
    items.countP closes = items.countP opens

instance (opens closes : α → Bool) (items : List α) :
    Decidable (Paired opens closes items) :=
  inferInstanceAs (Decidable (_ ∧ _))

namespace Paired

variable {opens closes : α → Bool}

private theorem count_le
    {items front back : List α}
    (paired : Paired opens closes items)
    (itemsEq : items = front ++ back) :
    front.countP closes ≤ front.countP opens :=
  paired.1 front ((List.mem_inits _ _).mpr ⟨back, itemsEq.symm⟩)

theorem of_neutral
    {items : List α}
    (noneOpens : ∀ item ∈ items, opens item = false)
    (noneCloses : ∀ item ∈ items, closes item = false) :
    Paired opens closes items := by
  have noCount :
      ∀ {test : α → Bool} {front : List α},
        (∀ item ∈ items, test item = false) → front ⊆ items →
          front.countP test = 0 := by
    intro test front noneTests within
    rw [List.countP_eq_zero]
    intro item member
    rw [noneTests item (within member)]
    exact Bool.false_ne_true
  constructor
  · intro front isFront
    have within := ((List.mem_inits _ _).mp isFront).subset
    rw [noCount noneCloses within]
    exact Nat.zero_le _
  · rw [noCount noneCloses (List.Subset.refl _),
      noCount noneOpens (List.Subset.refl _)]

theorem append
    {first second : List α}
    (firstPaired : Paired opens closes first)
    (secondPaired : Paired opens closes second) :
    Paired opens closes (first ++ second) := by
  constructor
  · intro front isFront
    obtain ⟨back, split⟩ := (List.mem_inits _ _).mp isFront
    rcases List.append_eq_append_iff.mp split with
      ⟨middle, firstEq, _⟩ | ⟨middle, frontEq, secondEq⟩
    · exact firstPaired.count_le firstEq
    · have firstTotal := firstPaired.2
      have secondCount := secondPaired.count_le secondEq
      rw [frontEq, List.countP_append, List.countP_append]
      omega
  · have firstTotal := firstPaired.2
    have secondTotal := secondPaired.2
    rw [List.countP_append, List.countP_append]
    omega

theorem enclosed
    {opening closing : α} {inside : List α}
    (isOpening : opens opening = true ∧ closes opening = false)
    (isClosing : opens closing = false ∧ closes closing = true)
    (paired : Paired opens closes inside) :
    Paired opens closes (opening :: (inside ++ [closing])) := by
  obtain ⟨doesOpen, notCloses⟩ := isOpening
  obtain ⟨notOpens, doesClose⟩ := isClosing
  have insideTotal := paired.2
  constructor
  · intro front isFront
    obtain ⟨back, split⟩ := (List.mem_inits _ _).mp isFront
    cases front with
    | nil =>
        exact Nat.le_refl _
    | cons first more =>
        rw [List.cons_append] at split
        obtain ⟨rfl, moreEq⟩ := List.cons.inj split
        rcases List.append_eq_append_iff.mp moreEq with
          ⟨middle, insideEq, _⟩ | ⟨middle, rfl, lastEq⟩
        · have moreCount := paired.count_le insideEq
          simp only [List.countP_cons, doesOpen, notCloses, if_true,
            Bool.false_eq_true, if_false]
          omega
        · have middleCount : middle.countP closes ≤ 1 := by
            have lastCount :=
              (List.IsPrefix.sublist ⟨back, lastEq.symm⟩).countP_le
                (p := closes)
            simpa [doesClose] using lastCount
          simp only [List.countP_cons, List.countP_append, doesOpen,
            notCloses, if_true, Bool.false_eq_true, if_false]
          omega
  · simp only [List.countP_cons, List.countP_append, List.countP_nil,
      doesOpen, notCloses, notOpens, doesClose, if_true]
    omega

/-- The end of a group is where its inside is paired. -/
theorem inside_unique
    {inside other back otherBack : List α} {closing otherClosing : α}
    (isClosing : opens closing = false ∧ closes closing = true)
    (isOtherClosing :
      opens otherClosing = false ∧ closes otherClosing = true)
    (paired : Paired opens closes inside)
    (otherPaired : Paired opens closes other)
    (same :
      inside ++ closing :: back = other ++ otherClosing :: otherBack) :
    inside = other ∧ closing = otherClosing ∧ back = otherBack := by
  have tooMany :
      ∀ {first second middle : List α} {last : α},
        Paired opens closes first → Paired opens closes second →
          opens last = false ∧ closes last = true →
            first ≠ second ++ last :: middle := by
    intro first second middle last firstPaired secondPaired isLast split
    obtain ⟨notOpens, doesClose⟩ := isLast
    have splitEq : first = (second ++ [last]) ++ middle := by
      rw [split, List.append_assoc, List.singleton_append]
    have frontCount := firstPaired.count_le splitEq
    have secondTotal := secondPaired.2
    simp only [List.countP_append, List.countP_singleton, notOpens, doesClose,
      if_true, Bool.false_eq_true, if_false] at frontCount
    omega
  rcases List.append_eq_append_iff.mp same with
    ⟨middle, otherEq, backEq⟩ | ⟨middle, insideEq, backEq⟩
  · cases middle with
    | nil =>
        cases backEq
        exact ⟨(otherEq.trans (List.append_nil _)).symm, rfl, rfl⟩
    | cons first more =>
        cases backEq
        exact absurd otherEq (tooMany otherPaired paired isClosing)
  · cases middle with
    | nil =>
        cases backEq
        exact ⟨insideEq.trans (List.append_nil _), rfl, rfl⟩
    | cons first more =>
        cases backEq
        exact absurd insideEq (tooMany paired otherPaired isOtherClosing)

/-- A group lies within one of two pieces of a list if the first piece is
paired: that piece cannot end inside of the group and leave it open. -/
theorem group_in_append
    {front inside back first second : List α} {opening closing : α}
    (isOpening : opens opening = true ∧ closes opening = false)
    (paired : Paired opens closes inside)
    (firstPaired : Paired opens closes first)
    (split :
      front ++ opening :: (inside ++ closing :: back) = first ++ second) :
    (∃ behind,
        first = front ++ opening :: (inside ++ closing :: behind) ∧
          back = behind ++ second) ∨
      ∃ ahead,
        front = first ++ ahead ∧
          second = ahead ++ opening :: (inside ++ closing :: back) := by
  have notInside :
      ∀ {early late : List α},
        inside = early ++ late → first ≠ front ++ opening :: early := by
    intro early late insideEq firstEq
    obtain ⟨doesOpen, notCloses⟩ := isOpening
    have earlyCount := paired.count_le insideEq
    have frontCount := firstPaired.count_le firstEq
    have firstTotal := firstPaired.2
    rw [firstEq] at firstTotal
    simp only [List.countP_append, List.countP_cons, doesOpen, notCloses,
      if_true, Bool.false_eq_true, if_false] at firstTotal
    omega
  rcases List.append_eq_append_iff.mp split with
    ⟨middle, firstEq, groupEq⟩ | ⟨middle, frontEq, secondEq⟩
  · cases middle with
    | nil =>
        right
        exact ⟨[], by rw [firstEq, List.append_nil, List.append_nil],
          groupEq.symm⟩
    | cons symbol more =>
        obtain ⟨rfl, moreEq⟩ := List.cons.inj groupEq
        rcases List.append_eq_append_iff.mp moreEq with
          ⟨late, rfl, closeEq⟩ | ⟨late, insideEq, _⟩
        · cases late with
          | nil =>
              rw [List.append_nil] at firstEq
              exact absurd firstEq (notInside (List.append_nil _).symm)
          | cons last behind =>
              obtain ⟨rfl, backEq⟩ := List.cons.inj closeEq
              exact Or.inl ⟨behind, firstEq, backEq⟩
        · exact absurd firstEq (notInside insideEq)
  · exact Or.inr ⟨middle, frontEq, secondEq⟩

end Paired

end

/-! ## Paired texts -/

namespace Syntax

private theorem openBehind_add_countP
    {opened : Nat} {character : Char}
    (covered : [character].countP (· == ')') ≤ opened) :
    openBehind opened character + [character].countP (· == ')') =
      opened + [character].countP (· == '(') := by
  by_cases isOpening : character = '('
  · subst isOpening
    rfl
  · by_cases isClosing : character = ')'
    · subst isClosing
      exact Nat.sub_add_cancel covered
    · have unchanged : openBehind opened character = opened := by
        unfold openBehind
        split
        · exact absurd rfl isOpening
        · exact absurd rfl isClosing
        · rfl
      simp [unchanged, isOpening, isClosing]

/-- A text that closes no more than has been opened leaves open what it does not
close. -/
private theorem openAfter_add_countP
    {text : List Char} {opened : Nat}
    (covered :
      ∀ front back, text = front ++ back →
        front.countP (· == ')') ≤ opened + front.countP (· == '(')) :
    openAfter opened text + text.countP (· == ')') =
      opened + text.countP (· == '(') := by
  induction text generalizing opened with
  | nil =>
      rfl
  | cons character later inductionHypothesis =>
      have consCount :
          ∀ (test : Char → Bool) (front : List Char),
            (character :: front).countP test =
              [character].countP test + front.countP test := by
        intro test front
        rw [← List.countP_append, List.singleton_append]
      have characterCovered :
          [character].countP (· == ')') ≤ opened := by
        have firstCovered := covered [character] later rfl
        by_cases isClosing : character = ')'
        · subst isClosing
          exact firstCovered
        · simp [isClosing]
      have behind := openBehind_add_countP characterCovered
      have laterCovered :
          ∀ front back, later = front ++ back →
            front.countP (· == ')') ≤
              openBehind opened character + front.countP (· == '(') := by
        intro front back laterEq
        have frontCovered :=
          covered (character :: front) back (by rw [laterEq]; rfl)
        have closings := consCount (· == ')') front
        have openings := consCount (· == '(') front
        omega
      have laterEq := inductionHypothesis laterCovered
      have consEq :
          openAfter opened (character :: later) =
            openAfter (openBehind opened character) later := rfl
      have closings := consCount (· == ')') later
      have openings := consCount (· == '(') later
      omega

theorem openAfter_of_paired
    {text : List Char}
    (paired : Paired (· == '(') (· == ')') text)
    (opened : Nat) :
    openAfter opened text = opened := by
  have covered :
      ∀ front back, text = front ++ back →
        front.countP (· == ')') ≤ opened + front.countP (· == '(') :=
    fun front back textEq =>
      Nat.le_trans (paired.count_le textEq) (Nat.le_add_left _ _)
  have total := paired.2
  have counts := openAfter_add_countP covered
  omega

end Syntax

/-! ## Paired tokens -/

namespace Token

open Cursor

def isCharacter (character : Char) (token : Token) : Bool :=
  token.kind == .ofCharacter character

private theorem isCharacter_number
    (character : Char) (run : List Char) (start : Nat) :
    isCharacter character ⟨.number run, start⟩ = false :=
  beq_false_of_ne (TokenKind.ofCharacter_ne_number character run).symm

private theorem isCharacter_ofCharacter
    (character other : Char) (start : Nat) :
    isCharacter character ⟨.ofCharacter other, start⟩ =
      (other == character) := by
  by_cases same : other = character
  · subst same
    rw [isCharacter, beq_self_eq_true, beq_self_eq_true]
  · have kindsDiffer :
        TokenKind.ofCharacter other ≠ .ofCharacter character :=
      fun kindEq => same (TokenKind.ofCharacter_injective kindEq)
    rw [isCharacter, beq_false_of_ne kindsDiffer, beq_false_of_ne same]

private theorem countP_consDigit
    (character digit : Char) (position : Nat) (later : List Token) :
    (consDigit digit position later).countP (isCharacter character) =
      later.countP (isCharacter character) := by
  unfold consDigit
  split
  · split <;> simp [isCharacter_number]
  · simp [isCharacter_number]

variable {blank : Char → Bool} (separates : SeparatesTokens blank)

include separates

/-- Each mark of a text is a token of its own. -/
private theorem countP_scanFrom
    {mark : Char} (isMark : mark ∈ marks)
    (position : Nat) (text : List Char) :
    (scanFrom blank position text).countP (isCharacter mark) =
      text.countP (· == mark) := by
  induction text generalizing position with
  | nil =>
      rfl
  | cons character later inductionHypothesis =>
      have laterEq := inductionHypothesis (position + 1)
      rw [scanFrom_cons, consCharacter, List.countP_cons, ← laterEq]
      by_cases isBlank : blank character = true
      · have notMark : (character == mark) = false := by
          apply beq_false_of_ne
          rintro rfl
          exact separates.not_mem_marks isBlank isMark
        rw [if_pos isBlank, notMark]
        rfl
      · rw [if_neg isBlank]
        by_cases isDigit : character.isDigit = true
        · have notMark : (character == mark) = false := by
            apply beq_false_of_ne
            rintro rfl
            have notDigit : ∀ other ∈ marks, other.isDigit = false :=
              forall_mem_marks.mpr (by decide)
            rw [notDigit character isMark] at isDigit
            cases isDigit
          rw [if_pos isDigit, countP_consDigit, notMark]
          rfl
        · rw [if_neg isDigit, List.countP_cons, isCharacter_ofCharacter]

theorem paired_scanFrom
    {text : List Char}
    (paired : Paired (· == '(') (· == ')') text)
    (position : Nat) :
    Paired (isCharacter '(') (isCharacter ')')
      (scanFrom blank position text) := by
  have countOpening :
      ∀ part,
        (scanFrom blank position part).countP (isCharacter '(') =
          part.countP (· == '(') :=
    countP_scanFrom separates (by decide) position
  have countClosing :
      ∀ part,
        (scanFrom blank position part).countP (isCharacter ')') =
          part.countP (· == ')') :=
    countP_scanFrom separates (by decide) position
  constructor
  · intro front isFront
    obtain ⟨back, split⟩ := (List.mem_inits _ _).mp isFront
    cases back with
    | nil =>
        rw [List.append_nil] at split
        rw [split, countOpening, countClosing]
        exact Nat.le_of_eq paired.2
    | cons token more =>
        have tokensEq :
            tokens blank ⟨position, text⟩ = front ++ token :: more :=
          split.symm
        obtain ⟨early, place, finish, passes, rfl, _, _, _⟩ :=
          exists_division separates tokensEq
        rw [countOpening, countClosing]
        exact paired.count_le passes.rest_eq
  · rw [countOpening, countClosing]
    exact paired.2

end Token

end LineCalculator
