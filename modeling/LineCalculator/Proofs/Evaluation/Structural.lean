import LineCalculator.Evaluation
import LineCalculator.Proofs.Word

/-!
# Evaluation by structural recursion

The structural evaluation of an expression evaluates the left operand, then the
right one, then applies the operator and wraps.

* `reduceTraced` traces what it does; `reduce` gives the result alone;
  `reduceTracedWithin` gives up where right operands are nested too deeply.
* `evaluateWithin_eq_reduceTracedWithin`: unwinding the left spine and applying
  its steps from the inside out has the same outcome, trace included.
* `reduceTracedWithin_cases`: the outcome is that of the recursion without a
  bound, unless evaluation gets that deep before anything else fails.
-/

namespace LineCalculator

open Evaluation

namespace Expr

/-- All nodes of an expression in the order in which they are completed: those
of the left operand, those of the right operand, the operator itself. -/
def nodes : Expr → List Expr
  | .literal value =>
      [.literal value]
  | .unknown kind =>
      [.unknown kind]
  | .binary left operator right =>
      left.nodes ++ right.nodes ++ [.binary left operator right]

theorem mem_nodes_binary_iff
    {node left right : Expr} {operator : Operator} :
    node ∈ (binary left operator right).nodes ↔
      node ∈ left.nodes ∨ node ∈ right.nodes ∨
        node = .binary left operator right := by
  rw [nodes, List.mem_append, List.mem_append, List.mem_singleton, or_assoc]

theorem self_mem_nodes
    (expression : Expr) :
    expression ∈ expression.nodes := by
  cases expression with
  | literal value =>
      exact List.mem_singleton_self _
  | unknown kind =>
      exact List.mem_singleton_self _
  | binary left operator right =>
      exact mem_nodes_binary_iff.mpr (Or.inr (Or.inr rfl))

theorem left_mem_nodes
    (left : Expr) (operator : Operator) (right : Expr) :
    left ∈ (binary left operator right).nodes :=
  mem_nodes_binary_iff.mpr (Or.inl left.self_mem_nodes)

theorem right_mem_nodes
    (left : Expr) (operator : Operator) (right : Expr) :
    right ∈ (binary left operator right).nodes :=
  mem_nodes_binary_iff.mpr (Or.inr (Or.inl right.self_mem_nodes))

/-- The nodes of a part are among those of the whole. -/
theorem nodes_subset_of_mem
    {node expression : Expr}
    (member : node ∈ expression.nodes) :
    node.nodes ⊆ expression.nodes := by
  induction expression with
  | literal value =>
      rw [nodes, List.mem_singleton] at member
      rw [member]
      exact fun _ => id
  | unknown kind =>
      rw [nodes, List.mem_singleton] at member
      rw [member]
      exact fun _ => id
  | binary left operator right leftHypothesis rightHypothesis =>
      rcases mem_nodes_binary_iff.mp member with
        leftMember | rightMember | rfl
      · intro inner innerMember
        exact mem_nodes_binary_iff.mpr
          (Or.inl (leftHypothesis leftMember innerMember))
      · intro inner innerMember
        exact mem_nodes_binary_iff.mpr
          (Or.inr (Or.inl (rightHypothesis rightMember innerMember)))
      · exact fun _ => id

/-- The greatest number of right operands on a path from the root. -/
def rightNesting : Expr → Nat
  | .literal _ =>
      0
  | .unknown _ =>
      0
  | .binary left _ right =>
      max left.rightNesting (right.rightNesting + 1)

def applyOperator (operator : Operator) (left right : Int) :
    Except EvaluationError Int :=
  match operator.result? left right with
  | none =>
      .error .divisionByZero
  | some exact =>
      .ok (Word.wrap exact)

def reduce : Expr → Except EvaluationError Int
  | .literal value =>
      .ok value
  | .unknown kind =>
      .error (.unsupported kind)
  | .binary left operator right =>
      match left.reduce with
      | .error error =>
          .error error
      | .ok leftValue =>
          match right.reduce with
          | .error error =>
              .error error
          | .ok rightValue =>
              applyOperator operator leftValue rightValue

/-- Structural evaluation with a trace: a line for each completed operator, and
the right operand one block deeper. -/
def reduceTraced : Expr → Tracer → Outcome
  | .literal value, tracer =>
      (.ok value, tracer)
  | .unknown kind, tracer =>
      (.error (.unsupported kind), tracer)
  | .binary left operator right, tracer =>
      match left.reduceTraced tracer with
      | (.error error, after) =>
          (.error error, after)
      | (.ok leftValue, after) =>
          match right.reduceTraced after.indent with
          | (.error error, inner) =>
              (.error error, inner.dedent)
          | (.ok rightValue, inner) =>
              combine operator leftValue rightValue inner.dedent

/-- Structural evaluation with a trace and with at most the given number of
nested evaluations, one for each right operand. -/
def reduceTracedWithin : Nat → Expr → Tracer → Outcome
  | 0, _, tracer =>
      (.error .nestedTooDeeply, tracer)
  | _ + 1, .literal value, tracer =>
      (.ok value, tracer)
  | _ + 1, .unknown kind, tracer =>
      (.error (.unsupported kind), tracer)
  | budget + 1, .binary left operator right, tracer =>
      match left.reduceTracedWithin (budget + 1) tracer with
      | (.error error, after) =>
          (.error error, after)
      | (.ok leftValue, after) =>
          match right.reduceTracedWithin budget after.indent with
          | (.error error, inner) =>
              (.error error, inner.dedent)
          | (.ok rightValue, inner) =>
              combine operator leftValue rightValue inner.dedent

/-- Without a bound nothing is nested too deeply. -/
theorem reduceTraced_fst_ne_nestedTooDeeply
    (expression : Expr) (tracer : Tracer) :
    (expression.reduceTraced tracer).1 ≠ .error .nestedTooDeeply := by
  induction expression generalizing tracer with
  | literal value =>
      exact nofun
  | unknown kind =>
      exact nofun
  | binary left operator right leftHypothesis rightHypothesis =>
      have leftOther := leftHypothesis tracer
      rw [reduceTraced]
      generalize left.reduceTraced tracer = leftOutcome at leftOther ⊢
      rcases leftOutcome with ⟨error | leftValue, after⟩
      · exact leftOther
      · have rightOther := rightHypothesis after.indent
        simp only
        generalize right.reduceTraced after.indent = rightOutcome
          at rightOther ⊢
        rcases rightOutcome with ⟨error | rightValue, inner⟩
        · exact rightOther
        · simp only [combine]
          split
          · exact nofun
          · split <;> exact nofun

/-! ## How deep an evaluation gets -/

/-- An evaluation from left to right that starts with the tracer gets into so
many right operands, one inside the other, and nothing has failed before. -/
inductive Enters : Tracer → Nat → Expr → Prop
  | here {tracer : Tracer} {expression : Expr} :
      Enters tracer 0 expression
  | left {tracer : Tracer} {depth : Nat} {left right : Expr}
      {operator : Operator} :
      Enters tracer depth left →
      Enters tracer depth (.binary left operator right)
  | right {tracer after : Tracer} {depth : Nat} {left right : Expr}
      {operator : Operator} {value : Int} :
      left.reduceTraced tracer = (.ok value, after) →
      Enters after.indent depth right →
      Enters tracer (depth + 1) (.binary left operator right)

theorem Enters.le_rightNesting
    {tracer : Tracer} {depth : Nat} {expression : Expr}
    (enters : Enters tracer depth expression) :
    depth ≤ expression.rightNesting := by
  induction enters with
  | here =>
      exact Nat.zero_le _
  | left _ inductionHypothesis =>
      exact Nat.le_trans inductionHypothesis (Nat.le_max_left _ _)
  | right _ _ inductionHypothesis =>
      exact Nat.le_trans (Nat.succ_le_succ inductionHypothesis)
        (Nat.le_max_right _ _)

/-- To get deep, an evaluation gets less deep first. -/
theorem Enters.of_le
    {tracer : Tracer} {depth lesser : Nat} {expression : Expr}
    (enters : Enters tracer depth expression)
    (le : lesser ≤ depth) :
    Enters tracer lesser expression := by
  induction enters generalizing lesser with
  | here =>
      rw [Nat.le_zero.mp le]
      exact .here
  | left _ inductionHypothesis =>
      exact .left (inductionHypothesis le)
  | right leftResult _ inductionHypothesis =>
      cases lesser with
      | zero =>
          exact .here
      | succ lesser =>
          exact .right leftResult
            (inductionHypothesis (Nat.le_of_succ_le_succ le))

/-- With a bound the evaluation gives up if it gets that deep, and else the bound
makes no difference. -/
theorem reduceTracedWithin_cases
    (expression : Expr) (budget : Nat) (tracer : Tracer) :
    (Enters tracer budget expression ∧
        (expression.reduceTracedWithin budget tracer).1 =
          .error .nestedTooDeeply) ∨
      (¬ Enters tracer budget expression ∧
        expression.reduceTracedWithin budget tracer =
          expression.reduceTraced tracer) := by
  induction expression generalizing budget tracer with
  | literal value =>
      cases budget with
      | zero =>
          exact Or.inl ⟨.here, rfl⟩
      | succ budget =>
          exact Or.inr ⟨nofun, rfl⟩
  | unknown kind =>
      cases budget with
      | zero =>
          exact Or.inl ⟨.here, rfl⟩
      | succ budget =>
          exact Or.inr ⟨nofun, rfl⟩
  | binary left operator right leftHypothesis rightHypothesis =>
      cases budget with
      | zero =>
          exact Or.inl ⟨.here, rfl⟩
      | succ budget =>
          rw [reduceTracedWithin, reduceTraced]
          rcases leftHypothesis (budget + 1) tracer with
            ⟨leftEnters, tooDeep⟩ | ⟨leftStays, leftEq⟩
          · refine Or.inl ⟨.left leftEnters, ?_⟩
            generalize left.reduceTracedWithin (budget + 1) tracer = outcome
              at tooDeep ⊢
            obtain ⟨result, after⟩ := outcome
            cases tooDeep
            rfl
          · rw [leftEq]
            rcases leftResult : left.reduceTraced tracer with
              ⟨error | leftValue, after⟩
            · refine Or.inr ⟨?_, rfl⟩
              rintro (_ | enters | ⟨otherResult, _⟩)
              · exact leftStays enters
              · rw [leftResult] at otherResult
                cases otherResult
            · rcases rightHypothesis budget after.indent with
                ⟨rightEnters, tooDeep⟩ | ⟨rightStays, rightEq⟩
              · refine Or.inl ⟨.right leftResult rightEnters, ?_⟩
                simp only
                generalize right.reduceTracedWithin budget after.indent =
                  outcome at tooDeep ⊢
                obtain ⟨result, inner⟩ := outcome
                cases tooDeep
                rfl
              · refine Or.inr ⟨?_, by simp only [rightEq]⟩
                rintro (_ | enters | ⟨otherResult, enters⟩)
                · exact leftStays enters
                · rw [leftResult] at otherResult
                  cases otherResult
                  exact rightStays enters

/-- A bound above the nesting of the expression makes no difference. -/
theorem reduceTracedWithin_eq_reduceTraced
    {expression : Expr} {budget : Nat} (tracer : Tracer)
    (enough : expression.rightNesting < budget) :
    expression.reduceTracedWithin budget tracer =
      expression.reduceTraced tracer := by
  rcases expression.reduceTracedWithin_cases budget tracer with
    ⟨enters, _⟩ | ⟨_, same⟩
  · exact absurd enters.le_rightNesting (Nat.not_le.mpr enough)
  · exact same

end Expr

/-! ## From the spine to the tree -/

namespace Evaluation

def Leaf.outcome : Leaf → Tracer → Outcome
  | .literal value, tracer =>
      (.ok value, tracer)
  | .unknown kind, tracer =>
      (.error (.unsupported kind), tracer)

/-- Go on with the pending steps of a spine if there is a value to go on
from. -/
def resume
    (operand : Expr → Tracer → Outcome) (pending : List Step) :
    Outcome → Outcome
  | (.error error, tracer) =>
      (.error error, tracer)
  | (.ok value, tracer) =>
      applySteps operand pending value tracer

private theorem evaluateWithin_succ
    (budget : Nat) (expression : Expr) (tracer : Tracer) :
    evaluateWithin (budget + 1) expression tracer =
      resume (evaluateWithin budget) (unwind expression []).2
        ((unwind expression []).1.outcome tracer) := by
  rw [evaluateWithin]
  cases unwind expression [] with
  | mk leaf steps =>
      cases leaf <;> rfl

/-- One pending step is the operator that it came from, provided that its right
operand is evaluated structurally. -/
private theorem resume_cons
    {operand : Expr → Tracer → Outcome} {budget : Nat}
    (left : Expr) (operator : Operator) {right : Expr}
    (pending : List Step) (tracer : Tracer)
    (rightAgrees :
      ∀ inner, operand right inner = right.reduceTracedWithin budget inner) :
    resume operand (⟨operator, right⟩ :: pending)
        (left.reduceTracedWithin (budget + 1) tracer) =
      resume operand pending
        ((Expr.binary left operator right).reduceTracedWithin (budget + 1)
          tracer) := by
  rw [Expr.reduceTracedWithin]
  rcases left.reduceTracedWithin (budget + 1) tracer with
    ⟨error | leftValue, after⟩
  · rfl
  · simp only [resume, applySteps, rightAgrees]
    rcases right.reduceTracedWithin budget after.indent with
      ⟨error | rightValue, inner⟩
    · rfl
    · rcases combine operator leftValue rightValue inner.dedent with
        ⟨error | value, final⟩
      · rfl
      · rfl

/-- Unwinding an expression in front of pending steps and going on from its leaf
is going on with the pending steps from the structural outcome.  The pending
steps grow along the left operands, and each is taken off by `resume_cons`. -/
private theorem resume_unwind
    {operand : Expr → Tracer → Outcome} {budget : Nat}
    (agrees :
      ∀ right inner,
        operand right inner = right.reduceTracedWithin budget inner)
    (expression : Expr) (pending : List Step) (tracer : Tracer) :
    resume operand (unwind expression pending).2
        ((unwind expression pending).1.outcome tracer) =
      resume operand pending
        (expression.reduceTracedWithin (budget + 1) tracer) := by
  induction expression generalizing pending with
  | literal value =>
      rfl
  | unknown kind =>
      rfl
  | binary left operator right leftHypothesis _ =>
      rw [unwind, leftHypothesis]
      exact resume_cons left operator pending tracer (agrees right)

theorem evaluateWithin_eq_reduceTracedWithin
    (budget : Nat) (expression : Expr) (tracer : Tracer) :
    evaluateWithin budget expression tracer =
      expression.reduceTracedWithin budget tracer := by
  induction budget generalizing expression tracer with
  | zero =>
      rw [evaluateWithin, Expr.reduceTracedWithin]
  | succ budget inductionHypothesis =>
      rw [evaluateWithin_succ,
        resume_unwind inductionHypothesis expression [] tracer]
      rcases expression.reduceTracedWithin (budget + 1) tracer with
        ⟨error | value, after⟩ <;>
        rfl

end Evaluation

/-- Either the evaluation gets deeper than is allowed, or the bound makes no
difference. -/
theorem Expr.evaluate_cases
    (expression : Expr) (tracer : Tracer) :
    (expression.Enters tracer (nestingLimit + 1) ∧
        (expression.evaluate tracer).1 = .error .nestedTooDeeply) ∨
      (¬ expression.Enters tracer (nestingLimit + 1) ∧
        expression.evaluate tracer = expression.reduceTraced tracer) := by
  rw [evaluate, evaluateWithin_eq_reduceTracedWithin]
  exact expression.reduceTracedWithin_cases _ tracer

theorem Expr.evaluate_eq_reduceTraced
    {expression : Expr} (tracer : Tracer)
    (nesting : expression.rightNesting ≤ nestingLimit) :
    expression.evaluate tracer = expression.reduceTraced tracer := by
  rw [evaluate, evaluateWithin_eq_reduceTracedWithin]
  exact reduceTracedWithin_eq_reduceTraced tracer (Nat.lt_succ_of_le nesting)

end LineCalculator
