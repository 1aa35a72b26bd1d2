import LineCalculator.Grammar.Automaton
import LineCalculator.Proofs.Syntax.Phrase

/-!
# What one token does

The cases of a shift that is not refused, what the pending parts make of an
operand, and where a refused token is reported.
-/

namespace LineCalculator.Grammar

open Syntax

namespace Pending

/-- The pending parts behind an operator: the chain of its strength that ends
with the operand now waits for another one. -/
def join (pending : Pending) (operand : Tree) (operator : Operator) :
    Precedence → Pending
  | .additive =>
      { sum := some (pending.closeSum operand, operator) }
  | .multiplicative =>
      { sum := pending.sum,
        product := some (pending.closeProduct operand, operator) }

def sign (pending : Pending) (sign : Sign) : Pending :=
  { pending with signs := sign :: pending.signs }

theorem applySigns_eq
    (pending : Pending) (operand : Tree) :
    pending.applySigns operand =
      Meaning.tree.signed pending.signs.reverse operand := by
  unfold applySigns
  cases pendingSigns : pending.signs with
  | nil =>
      rfl
  | cons last earlier =>
      cases reversed : (last :: earlier).reverse with
      | nil =>
          simp at reversed
      | cons first later =>
          show Tree.unary (last :: earlier).reverse operand =
            .unary (first :: later) operand
          rw [reversed]

end Pending

/-! ## The cases of a shift -/

theorem shift_sign
    (pending : Pending) (enclosing : List Pending) (sign : Sign)
    (position : Nat) :
    shift (.awaiting pending enclosing)
        ⟨.ofCharacter sign.symbol, position⟩ =
      .ok (.awaiting (pending.sign sign) enclosing) := by
  cases sign <;> rfl

theorem shift_opening
    (pending : Pending) (enclosing : List Pending) (position : Nat) :
    shift (.awaiting pending enclosing) ⟨.ofCharacter '(', position⟩ =
      .ok (.awaiting {} (pending :: enclosing)) :=
  rfl

theorem shift_operator
    {strength : Precedence} {symbol : Char} {operator : Operator}
    (isOperator : strength.operator? symbol = some operator)
    (operand : Tree) (pending : Pending) (enclosing : List Pending)
    (position : Nat) :
    shift (.complete operand pending enclosing)
        ⟨.ofCharacter symbol, position⟩ =
      .ok (.awaiting (pending.join operand operator strength) enclosing) := by
  unfold Precedence.operator? at isOperator
  split at isOperator <;> cases isOperator <;> rfl

theorem shift_closing
    (operand : Tree) (pending outer : Pending) (further : List Pending)
    (position : Nat) :
    shift (.complete operand pending (outer :: further))
        ⟨.ofCharacter ')', position⟩ =
      .ok (.complete (outer.applySigns (pending.closeSum operand)) outer
        further) :=
  rfl

/-- An operand starts with a number, a sign or a parenthesis. -/
theorem shift_awaiting_cases
    {pending : Pending} {enclosing : List Pending} {token : Token}
    {next : State}
    (shifted : shift (.awaiting pending enclosing) token = .ok next) :
    (∃ run,
        token.kind = .number run ∧
          next =
            .complete (pending.applySigns (.number run token.start)) pending
              enclosing) ∨
      (∃ sign : Sign,
        token.kind = .ofCharacter sign.symbol ∧
          next = .awaiting (pending.sign sign) enclosing) ∨
      (token.kind = .ofCharacter '(' ∧
        next = .awaiting {} (pending :: enclosing)) := by
  rcases token with ⟨kind, start⟩
  cases kind with
  | number run =>
      cases shifted
      exact Or.inl ⟨run, rfl, rfl⟩
  | operator operator =>
      cases operator with
      | add =>
          cases shifted
          exact Or.inr (Or.inl ⟨.plus, rfl, rfl⟩)
      | sub =>
          cases shifted
          exact Or.inr (Or.inl ⟨.minus, rfl, rfl⟩)
      | mul | div =>
          cases shifted
  | opening =>
      cases shifted
      exact Or.inr (Or.inr ⟨rfl, rfl⟩)
  | closing | stray =>
      cases shifted

/-- An operator continues a chain behind an operand, and a parenthesis closes
one. -/
theorem shift_complete_cases
    {operand : Tree} {pending : Pending} {enclosing : List Pending}
    {token : Token} {next : State}
    (shifted : shift (.complete operand pending enclosing) token = .ok next) :
    (∃ (strength : Precedence) (symbol : Char) (operator : Operator),
        strength.operator? symbol = some operator ∧
          token.kind = .ofCharacter symbol ∧
          next =
            .awaiting (pending.join operand operator strength) enclosing) ∨
      (∃ outer further,
        enclosing = outer :: further ∧
          token.kind = .ofCharacter ')' ∧
          next =
            .complete (outer.applySigns (pending.closeSum operand)) outer
              further) := by
  rcases token with ⟨kind, start⟩
  cases kind with
  | operator operator =>
      cases operator with
      | add =>
          cases shifted
          exact Or.inl ⟨.additive, '+', .add, rfl, rfl, rfl⟩
      | sub =>
          cases shifted
          exact Or.inl ⟨.additive, '-', .sub, rfl, rfl, rfl⟩
      | mul =>
          cases shifted
          exact Or.inl ⟨.multiplicative, '*', .mul, rfl, rfl, rfl⟩
      | div =>
          cases shifted
          exact Or.inl ⟨.multiplicative, '/', .div, rfl, rfl, rfl⟩
  | closing =>
      cases enclosing with
      | nil =>
          cases shifted
      | cons outer further =>
          cases shifted
          exact Or.inr ⟨outer, further, rfl, rfl, rfl⟩
  | number | opening | stray =>
      cases shifted

/-! ## Refused tokens -/

/-- A refused token is reported at its start, and the rejection says whether it
is a character that belongs to no phrase at all. -/
theorem rejection_of_shift_error
    {state : State} {token : Token} {rejection : Rejection}
    (refused : shift state token = .error rejection) :
    rejection.error.position? = some token.start ∧
      rejection.stray = token.isStray := by
  cases state with
  | awaiting pending enclosing =>
      rw [shift] at refused
      unfold shiftAwaiting at refused
      split at refused <;> cases refused
      exact ⟨rfl, rfl⟩
  | complete operand pending enclosing =>
      rw [shift] at refused
      unfold shiftComplete at refused
      split at refused <;> cases refused <;> exact ⟨rfl, rfl⟩

/-- A character that belongs to no phrase is refused everywhere. -/
theorem shift_stray
    (state : State) (character : Char) (position : Nat) :
    ∃ rejection,
      shift state ⟨.stray character, position⟩ = .error rejection := by
  cases state with
  | awaiting pending enclosing =>
      exact ⟨_, rfl⟩
  | complete operand pending enclosing =>
      cases enclosing <;> exact ⟨_, rfl⟩

/-! ## Many tokens -/

theorem shiftAll_cons
    {state next : State} {token : Token}
    (shifted : shift state token = .ok next) (later : List Token) :
    shiftAll (token :: later) state = shiftAll later next := by
  rw [shiftAll, shifted]

theorem shiftAll_append
    (first second : List Token) (state : State) :
    shiftAll (first ++ second) state =
      (shiftAll first state).bind (shiftAll second) := by
  induction first generalizing state with
  | nil =>
      rfl
  | cons token later inductionHypothesis =>
      rw [List.cons_append, shiftAll, shiftAll]
      cases shifted : shift state token with
      | error rejection =>
          rfl
      | ok next =>
          exact inductionHypothesis next

/-- A run that is refused is refused at a token that is reached. -/
theorem shiftAll_eq_error
    {tokens : List Token} {state : State} {rejection : Rejection}
    (refused : shiftAll tokens state = .error rejection) :
    ∃ before token later reached,
      tokens = before ++ token :: later ∧
        shiftAll before state = .ok reached ∧
        shift reached token = .error rejection := by
  induction tokens generalizing state with
  | nil =>
      cases refused
  | cons token later inductionHypothesis =>
      cases shifted : shift state token with
      | error found =>
          rw [shiftAll, shifted] at refused
          cases refused
          exact ⟨[], token, later, state, rfl, rfl, shifted⟩
      | ok next =>
          rw [shiftAll_cons shifted] at refused
          obtain ⟨before, other, more, reached, laterEq, reaches, refuses⟩ :=
            inductionHypothesis refused
          refine ⟨token :: before, other, more, reached, ?_, ?_, refuses⟩
          · rw [laterEq]
            rfl
          · rw [shiftAll_cons shifted]
            exact reaches

end LineCalculator.Grammar
