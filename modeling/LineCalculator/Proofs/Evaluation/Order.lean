import LineCalculator.Proofs.Evaluation.Budget

/-!
# Failures in evaluation order

Unless a number is too long to be traced, the evaluation of an expression has the
result of the structural recursion; and a failure is that of the first node that
fails, in the order in which nodes are completed.
-/

namespace LineCalculator

open Evaluation

namespace Expr

theorem evaluate_fst
    {expression : Expr} {tracer : Tracer}
    (writable : tracer.enabled = true → expression.Writable)
    (nesting : expression.rightNesting ≤ nestingLimit) :
    (expression.evaluate tracer).1 = expression.reduce := by
  rw [evaluate_eq_reduceTraced tracer nesting,
    reduceTraced_fst expression tracer writable]

/-! ## The first failure -/

private theorem applyOperator_eq_error
    {operator : Operator} {left right : Int} {error : EvaluationError}
    (result : applyOperator operator left right = .error error) :
    operator = .div ∧ right = 0 ∧ error = .divisionByZero := by
  rw [applyOperator] at result
  cases hasResult : operator.result? left right with
  | none =>
      rw [hasResult] at result
      cases result
      have zeroDivisor :=
        (operator.result?_eq_none_iff left right).mp hasResult
      exact ⟨zeroDivisor.1, zeroDivisor.2, rfl⟩
  | some exact =>
      rw [hasResult] at result
      cases result

/-- An operator fails with the failure of its left operand, else with that of
its right operand, else with its own. -/
theorem reduce_binary_eq_error_iff
    (left : Expr) (operator : Operator) (right : Expr)
    (error : EvaluationError) :
    (binary left operator right).reduce = .error error ↔
      left.reduce = .error error ∨
        ∃ leftValue,
          left.reduce = .ok leftValue ∧
            (right.reduce = .error error ∨
              ∃ rightValue,
                right.reduce = .ok rightValue ∧
                  applyOperator operator leftValue rightValue =
                    .error error) := by
  rw [reduce]
  cases left.reduce with
  | error leftError =>
      simp
  | ok leftValue =>
      cases right.reduce with
      | error rightError =>
          simp
      | ok rightValue =>
          simp

/-- What makes a node fail although its operands have values. -/
inductive FailsAt : Expr → EvaluationError → Prop
  | unknown (kind : String) :
      FailsAt (.unknown kind) (.unsupported kind)
  | zeroDivisor {left right : Expr} {dividend : Int} :
      left.reduce = .ok dividend →
      right.reduce = .ok 0 →
      FailsAt (.binary left .div right) .divisionByZero

/-- In the order of completion, a node fails with the error and all nodes before
it have values. -/
def FirstFailure (expression : Expr) (error : EvaluationError) : Prop :=
  ∃ before node after,
    expression.nodes = before ++ node :: after ∧
      (∀ earlier ∈ before, ∃ value, earlier.reduce = .ok value) ∧
      FailsAt node error

theorem exists_value_of_mem_nodes
    {expression : Expr} {value : Int}
    (result : expression.reduce = .ok value) :
    ∀ node ∈ expression.nodes, ∃ nodeValue, node.reduce = .ok nodeValue := by
  induction expression generalizing value with
  | literal literalValue =>
      intro node member
      rw [nodes, List.mem_singleton] at member
      exact ⟨literalValue, by rw [member, reduce]⟩
  | unknown kind =>
      cases result
  | binary left operator right leftHypothesis rightHypothesis =>
      obtain ⟨leftValue, rightValue, leftResult, rightResult, _⟩ :=
        (reduce_binary_eq_ok_iff left operator right value).mp result
      intro node member
      rcases mem_nodes_binary_iff.mp member with
        leftMember | rightMember | rfl
      · exact leftHypothesis leftResult node leftMember
      · exact rightHypothesis rightResult node rightMember
      · exact ⟨value, result⟩

theorem firstFailure_of_reduce
    {expression : Expr} {error : EvaluationError}
    (failure : expression.reduce = .error error) :
    expression.FirstFailure error := by
  induction expression with
  | literal value =>
      cases failure
  | unknown kind =>
      cases failure
      exact ⟨[], .unknown kind, [], rfl, by simp, .unknown kind⟩
  | binary left operator right leftHypothesis rightHypothesis =>
      rw [reduce_binary_eq_error_iff] at failure
      rcases failure with
        leftFailure | ⟨leftValue, leftResult, rightFailure |
          ⟨rightValue, rightResult, ownFailure⟩⟩
      · obtain ⟨before, node, after, split, values, fails⟩ :=
          leftHypothesis leftFailure
        refine ⟨before, node,
          after ++ right.nodes ++ [.binary left operator right],
          ?_, values, fails⟩
        simp only [nodes, split, List.append_assoc, List.cons_append]
      · obtain ⟨before, node, after, split, values, fails⟩ :=
          rightHypothesis rightFailure
        refine ⟨left.nodes ++ before, node,
          after ++ [.binary left operator right], ?_, ?_, fails⟩
        · simp only [nodes, split, List.append_assoc, List.cons_append]
        · intro earlier member
          rcases List.mem_append.mp member with leftMember | beforeMember
          · exact exists_value_of_mem_nodes leftResult earlier leftMember
          · exact values earlier beforeMember
      · obtain ⟨rfl, rfl, rfl⟩ := applyOperator_eq_error ownFailure
        refine ⟨left.nodes ++ right.nodes, .binary left .div right, [],
          rfl, ?_, .zeroDivisor leftResult rightResult⟩
        intro earlier member
        rcases List.mem_append.mp member with leftMember | rightMember
        · exact exists_value_of_mem_nodes leftResult earlier leftMember
        · exact exists_value_of_mem_nodes rightResult earlier rightMember

/-- Evaluation along the left spine is the structural recursion, trace included,
whatever the literals and wherever the unknown nodes.  Unless a number is too
long to be traced, it has the value of the expression or fails with the error of
the first node that fails; a lone literal stays as it is, and the exact result
of an operator on the values of its operands is wrapped once. -/
theorem evaluate_eq_structural
    (expression : Expr) (tracer : Tracer)
    (nesting : expression.rightNesting ≤ 700) :
    expression.evaluate tracer = expression.reduceTraced tracer ∧
      ((tracer.enabled = true → expression.Writable) →
        (expression.evaluate tracer).1 = expression.reduce ∧
          (∀ error,
            (expression.evaluate tracer).1 = .error error →
              expression.FirstFailure error) ∧
          (∀ value,
            expression = .literal value →
              (expression.evaluate tracer).1 = .ok value) ∧
          (∀ left operator right value,
            expression = .binary left operator right →
              (expression.evaluate tracer).1 = .ok value →
                ∃ leftValue rightValue exact,
                  left.reduce = .ok leftValue ∧
                    right.reduce = .ok rightValue ∧
                    operator.result? leftValue rightValue = some exact ∧
                    value = Word.wrap exact)) := by
  have withinLimit : expression.rightNesting ≤ nestingLimit :=
    Nat.le_trans nesting (by decide)
  refine ⟨evaluate_eq_reduceTraced tracer withinLimit, ?_⟩
  intro writable
  have result : (expression.evaluate tracer).1 = expression.reduce :=
    evaluate_fst writable withinLimit
  refine ⟨result, ?_, ?_, ?_⟩
  · intro error failure
    exact firstFailure_of_reduce (result ▸ failure)
  · rintro value rfl
    exact result
  · rintro left operator right value rfl hasValue
    obtain ⟨leftValue, rightValue, leftResult, rightResult, applied⟩ :=
      (reduce_binary_eq_ok_iff left operator right value).mp
        (result ▸ hasValue)
    obtain ⟨exact, hasResult, wrapped⟩ := applyOperator_eq_ok applied
    exact ⟨leftValue, rightValue, exact, leftResult, rightResult,
      hasResult, wrapped⟩

/-- A zero divisor on the left is noticed before an unknown node on the
right. -/
theorem evaluate_zeroDivisor_before_unknown :
    (binary (binary (literal 5) .div (literal 0)) .add
          (unknown "Root")).rightNesting ≤ 700 ∧
      ((binary (binary (literal 5) .div (literal 0)) .add
          (unknown "Root")).evaluate {}).1 = .error .divisionByZero := by
  have nesting :
      (binary (binary (literal 5) .div (literal 0)) .add
        (unknown "Root")).rightNesting ≤ 700 := by
    decide
  have agreement := evaluate_eq_structural _ {} nesting
  refine ⟨nesting, ?_⟩
  rw [(agreement.2 (by intro enabled; cases enabled)).1]
  rfl

end Expr

end LineCalculator
