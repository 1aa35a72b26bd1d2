import LineCalculator.Proofs.Grammar.Scan
import LineCalculator.Proofs.Grammar.Shift

/-!
# Phrases are shifted

Shifting the tokens of a phrase completes an operand that closes to the tree of
the phrase.  What was pending in front of the phrase and is not part of it stays
pending.
-/

namespace LineCalculator.Grammar

open Cursor Syntax

/-- A phrase of the given kind can begin here: no part that it would have to
include is pending. -/
def Fresh (pending : Pending) : Level → Prop
  | .primary =>
      True
  | .unary =>
      pending.signs = []
  | .chain .multiplicative =>
      pending.product = none ∧ pending.signs = []
  | .chain .additive =>
      pending.sum = none ∧ pending.product = none ∧ pending.signs = []

/-- A phrase of the given kind has been shifted since some parts were pending:
the completed operand, put together with what the phrase left pending, is the
tree of the phrase. -/
def Closes
    (before : Pending) (operand : Tree) (after : Pending) (value : Tree) :
    Level → Prop
  | .primary =>
      after = before ∧ operand = before.applySigns value
  | .unary =>
      after.sum = before.sum ∧ after.product = before.product ∧
        operand = value
  | .chain .multiplicative =>
      after.sum = before.sum ∧ after.closeProduct operand = value
  | .chain .additive =>
      after.closeSum operand = value

theorem Fresh.operand
    {strength : Precedence} {pending : Pending}
    (fresh : Fresh pending (.chain strength)) :
    Fresh pending (.operand strength) := by
  cases strength with
  | additive =>
      exact fresh.2
  | multiplicative =>
      exact fresh.2

theorem Fresh.join
    (strength : Precedence) (pending : Pending) (operand : Tree)
    (operator : Operator) :
    Fresh (pending.join operand operator strength) (.operand strength) := by
  cases strength with
  | additive =>
      exact ⟨rfl, rfl⟩
  | multiplicative =>
      rfl

theorem Closes.single
    {strength : Precedence} {before after : Pending} {operand value : Tree}
    (fresh : Fresh before (.chain strength))
    (closes : Closes before operand after value (.operand strength)) :
    Closes before operand after value (.chain strength) := by
  cases strength with
  | additive =>
      obtain ⟨sumEq, productEq⟩ := closes
      have noSum : after.sum = none := sumEq.trans fresh.1
      show supply after.sum (after.closeProduct operand) = value
      rw [noSum, productEq]
      rfl
  | multiplicative =>
      obtain ⟨sumEq, productEq, operandEq⟩ := closes
      have noProduct : after.product = none := productEq.trans fresh.1
      refine ⟨sumEq, ?_⟩
      rw [Pending.closeProduct, noProduct, operandEq]
      rfl

theorem Closes.extend
    {strength : Precedence} {before middle after : Pending}
    {operand last left right : Tree} {operator : Operator}
    (leftCloses : Closes before operand middle left (.chain strength))
    (rightCloses :
      Closes (middle.join operand operator strength) last after right
        (.operand strength)) :
    Closes before last after (.binary left operator right)
      (.chain strength) := by
  cases strength with
  | additive =>
      obtain ⟨sumEq, productEq⟩ := rightCloses
      have sumIs : after.sum = some (left, operator) :=
        sumEq.trans (congrArg (fun tree => some (tree, operator)) leftCloses)
      show supply after.sum (after.closeProduct last) = _
      rw [sumIs, productEq]
      rfl
  | multiplicative =>
      obtain ⟨leftSumEq, leftProductEq⟩ := leftCloses
      obtain ⟨sumEq, productEq, operandEq⟩ := rightCloses
      have productIs : after.product = some (left, operator) :=
        productEq.trans
          (congrArg (fun tree => some (tree, operator)) leftProductEq)
      refine ⟨sumEq.trans leftSumEq, ?_⟩
      rw [Pending.closeProduct, productIs, operandEq]
      rfl

section

variable {blank : Char → Bool} (separates : SeparatesTokens blank)

include separates

/-- Signs join the pending ones, the last one first. -/
private theorem shiftAll_of_signs
    {start finish : Cursor} {signs : List Sign}
    (isSigns : Signs blank start signs finish)
    (pending : Pending) (enclosing : List Pending) :
    shiftAll (start.tokens blank) (.awaiting pending enclosing) =
      shiftAll (finish.tokens blank)
        (.awaiting { pending with signs := signs.reverse ++ pending.signs }
          enclosing) := by
  induction isSigns generalizing pending with
  | nil =>
      rfl
  | @cons _ _ _ sign signs isSymbol _ inductionHypothesis =>
      obtain ⟨position, tokensEq⟩ :=
        isSymbol.tokens_eq separates sign.symbol_mem_marks
      rw [tokensEq,
        shiftAll_cons (shift_sign pending enclosing sign position),
        inductionHypothesis]
      simp only [Pending.sign, List.reverse_cons, List.append_assoc,
        List.singleton_append]

/-- By induction on the phrase: whatever is pending and enclosing, its tokens
complete an operand that closes to its tree. -/
theorem shiftAll_of_phrase
    {level : Level} {start finish : Cursor} {value : Tree}
    (phrase : Phrase blank .tree level start value finish)
    (pending : Pending) (enclosing : List Pending)
    (fresh : Fresh pending level) :
    ∃ operand after,
      shiftAll (start.tokens blank) (.awaiting pending enclosing) =
          shiftAll (finish.tokens blank)
            (.complete operand after enclosing) ∧
        Closes pending operand after value level := by
  induction phrase generalizing pending enclosing with
  | number blanks nonempty digits passes stops stands =>
      cases stands
      have next : NextToken blank _ _ _ :=
        .number blanks nonempty digits passes stops
      rw [next.tokens_eq separates]
      exact ⟨_, pending, shiftAll_cons rfl _, rfl, rfl⟩
  | @group _ _ _ _ value opening _ closing inductionHypothesis =>
      obtain ⟨opened, openingEq⟩ := opening.tokens_eq separates (by decide)
      obtain ⟨closed, closingEq⟩ := closing.tokens_eq separates (by decide)
      obtain ⟨operand, after, shifted, closes⟩ :=
        inductionHypothesis {} (pending :: enclosing) ⟨rfl, rfl, rfl⟩
      have closes : after.closeSum operand = value := closes
      refine ⟨pending.applySigns value, pending, ?_, rfl, rfl⟩
      rw [openingEq, shiftAll_cons (shift_opening pending enclosing opened),
        shifted, closingEq,
        shiftAll_cons (shift_closing operand after pending enclosing closed),
        closes]
  | @unary _ _ _ signs _ isSigns _ inductionHypothesis =>
      have noSigns : pending.signs = [] := fresh
      obtain ⟨last, after, shifted, afterEq, operandEq⟩ :=
        inductionHypothesis { pending with signs := signs.reverse } enclosing
          trivial
      refine ⟨last, after, ?_, ?_, ?_, ?_⟩
      · rw [shiftAll_of_signs separates isSigns, noSigns, List.append_nil]
        exact shifted
      · rw [afterEq]
      · rw [afterEq]
      · rw [operandEq, Pending.applySigns_eq, List.reverse_reverse]
  | single _ inductionHypothesis =>
      obtain ⟨operand, after, shifted, closes⟩ :=
        inductionHypothesis pending enclosing fresh.operand
      exact ⟨operand, after, shifted, closes.single fresh⟩
  | @extend strength _ _ _ _ _ operator _ _ _ isSymbol isOperator _
      leftHypothesis rightHypothesis =>
      obtain ⟨position, tokensEq⟩ :=
        isSymbol.tokens_eq separates (mem_marks_of_operator? isOperator)
      obtain ⟨operand, between, leftShifted, leftCloses⟩ :=
        leftHypothesis pending enclosing fresh
      obtain ⟨last, after, rightShifted, rightCloses⟩ :=
        rightHypothesis (between.join operand operator strength) enclosing
          (.join strength between operand operator)
      refine ⟨last, after, ?_, leftCloses.extend rightCloses⟩
      rw [leftShifted, tokensEq,
        shiftAll_cons
          (shift_operator isOperator operand between enclosing position),
        rightShifted]

/-- The tokens of a derivable line are shifted and leave nothing open. -/
theorem shiftAll_of_derives
    {line : List Char} {value : Tree}
    (derives : Derives blank .tree line value) :
    ∃ operand after,
      shiftAll (Token.scan blank line) (.awaiting {} []) =
          .ok (.complete operand after []) ∧
        after.closeSum operand = value := by
  obtain ⟨finish, last, phrase, blanks, atEnd⟩ := derives
  obtain ⟨operand, after, shifted, closes⟩ :=
    shiftAll_of_phrase separates phrase {} [] ⟨rfl, rfl, rfl⟩
  have noTokens : finish.tokens blank = [] := by
    rw [blanks.tokens_eq, tokens, atEnd]
    rfl
  rw [noTokens] at shifted
  exact ⟨operand, after, shifted, closes⟩

end

/-- Every derivable line has the tree that it is derived for. -/
theorem tree_of_derives
    {line : List Char} {value : Tree}
    (derives : Derives isPlainBlank .tree line value) :
    tree line = .ok value := by
  obtain ⟨operand, after, shifted, closes⟩ :=
    shiftAll_of_derives isPlainBlank_separatesTokens derives
  rw [tree, shifted]
  exact congrArg Except.ok closes

end LineCalculator.Grammar
