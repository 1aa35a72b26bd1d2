import LineCalculator.Proofs.Evaluation.Balance

/-!
# Results of an evaluation

`reduceWithin` evaluates by structural recursion, with right operands nested up
to a bound.  A trace does not change what an evaluation results in, except that
a number of too many digits cannot be traced.  Without such a number, and at any
nesting, the result is that of the recursion without a bound, or the expression
is nested too deeply.
-/

namespace LineCalculator

open Evaluation

namespace Evaluation

theorem combine_fst
    (operator : Operator) {left right : Int} {tracer : Tracer}
    (traceable : isTraceable tracer left right = true) :
    (combine operator left right tracer).1 =
      Expr.applyOperator operator left right := by
  rw [combine, Expr.applyOperator]
  cases operator.result? left right with
  | none =>
      rfl
  | some exact =>
      simp only [traceable, if_true]

theorem isTraceable_of_writable
    {tracer : Tracer} {left right : Int}
    (leftWritable :
      tracer.enabled = true → Decimal.isOversized left = false)
    (rightWritable :
      tracer.enabled = true → Decimal.isOversized right = false) :
    isTraceable tracer left right = true := by
  cases enabled : tracer.enabled with
  | false =>
      simp [isTraceable, enabled]
  | true =>
      simp [isTraceable, leftWritable enabled, rightWritable enabled]

end Evaluation

namespace Expr

/-! ## Values -/

/-- Every literal of the expression has few enough digits to be written. -/
def Writable (expression : Expr) : Prop :=
  ∀ value, .literal value ∈ expression.nodes →
    Decimal.isOversized value = false

theorem Writable.of_mem
    {node expression : Expr}
    (writable : expression.Writable)
    (member : node ∈ expression.nodes) :
    node.Writable :=
  fun value valueMember =>
    writable value (nodes_subset_of_mem member valueMember)

theorem applyOperator_eq_ok
    {operator : Operator} {left right value : Int}
    (result : applyOperator operator left right = .ok value) :
    ∃ exact,
      operator.result? left right = some exact ∧
        value = Word.wrap exact := by
  rw [applyOperator] at result
  cases hasResult : operator.result? left right with
  | none =>
      rw [hasResult] at result
      cases result
  | some exact =>
      rw [hasResult] at result
      cases result
      exact ⟨exact, rfl, rfl⟩

/-- An operator has a value when its operands have values and it applies to
them. -/
theorem reduce_binary_eq_ok_iff
    (left : Expr) (operator : Operator) (right : Expr) (value : Int) :
    (binary left operator right).reduce = .ok value ↔
      ∃ leftValue rightValue,
        left.reduce = .ok leftValue ∧
          right.reduce = .ok rightValue ∧
          applyOperator operator leftValue rightValue = .ok value := by
  rw [reduce]
  cases left.reduce with
  | error error =>
      simp
  | ok leftValue =>
      cases right.reduce with
      | error error =>
          simp
      | ok rightValue =>
          simp

/-- Only a literal can have a value that is not a word. -/
theorem literal_or_inRange_of_reduce
    {expression : Expr} {value : Int}
    (result : expression.reduce = .ok value) :
    expression = .literal value ∨ Word.InRange value := by
  cases expression with
  | literal literalValue =>
      cases result
      exact Or.inl rfl
  | unknown kind =>
      cases result
  | binary left operator right =>
      obtain ⟨_, _, _, _, applied⟩ :=
        (reduce_binary_eq_ok_iff left operator right value).mp result
      obtain ⟨exact, _, rfl⟩ := applyOperator_eq_ok applied
      exact Or.inr (Word.inRange_wrap exact)

theorem isOversized_of_reduce
    {expression : Expr} {value : Int}
    (writable : expression.Writable)
    (result : expression.reduce = .ok value) :
    Decimal.isOversized value = false := by
  rcases literal_or_inRange_of_reduce result with rfl | inRange
  · exact writable value (self_mem_nodes _)
  · exact Word.isOversized_of_inRange inRange

/-! ## Bounds -/

/-- The value of an expression with at most the given number of nested
evaluations, one for each right operand. -/
def reduceWithin : Nat → Expr → Except EvaluationError Int
  | 0, _ =>
      .error .nestedTooDeeply
  | _ + 1, .literal value =>
      .ok value
  | _ + 1, .unknown kind =>
      .error (.unsupported kind)
  | budget + 1, .binary left operator right =>
      (left.reduceWithin (budget + 1)).bind fun leftValue =>
        (right.reduceWithin budget).bind fun rightValue =>
          applyOperator operator leftValue rightValue

theorem reduceWithin_zero
    (expression : Expr) :
    expression.reduceWithin 0 = .error .nestedTooDeeply := by
  rw [reduceWithin]

theorem reduce_binary
    (left : Expr) (operator : Operator) (right : Expr) :
    (binary left operator right).reduce =
      left.reduce.bind fun leftValue =>
        right.reduce.bind fun rightValue =>
          applyOperator operator leftValue rightValue := by
  rw [reduce]
  cases left.reduce with
  | error error =>
      rfl
  | ok leftValue =>
      cases right.reduce <;> rfl

/-- A bound that is not exceeded does not change the result. -/
theorem reduceWithin_cases
    (expression : Expr) (budget : Nat) :
    expression.reduceWithin budget = .error .nestedTooDeeply ∨
      expression.reduceWithin budget = expression.reduce := by
  induction expression generalizing budget with
  | literal value =>
      cases budget with
      | zero =>
          exact Or.inl (reduceWithin_zero _)
      | succ budget =>
          exact Or.inr rfl
  | unknown kind =>
      cases budget with
      | zero =>
          exact Or.inl (reduceWithin_zero _)
      | succ budget =>
          exact Or.inr rfl
  | binary left operator right leftHypothesis rightHypothesis =>
      cases budget with
      | zero =>
          exact Or.inl (reduceWithin_zero _)
      | succ budget =>
          rw [reduceWithin, reduce_binary]
          rcases leftHypothesis (budget + 1) with tooDeep | leftEq
          · rw [tooDeep]
            exact Or.inl rfl
          · rw [leftEq]
            cases left.reduce with
            | error error =>
                exact Or.inr rfl
            | ok leftValue =>
                rcases rightHypothesis budget with tooDeep | rightEq
                · rw [tooDeep]
                  exact Or.inl rfl
                · rw [rightEq]
                  exact Or.inr rfl

private theorem isOversized_of_reduceWithin
    {expression : Expr} {budget : Nat} {value : Int}
    (writable : expression.Writable)
    (result : expression.reduceWithin budget = .ok value) :
    Decimal.isOversized value = false := by
  rcases expression.reduceWithin_cases budget with tooDeep | same
  · rw [tooDeep] at result
    cases result
  · rw [same] at result
    exact isOversized_of_reduce writable result

/-- Structural evaluation with a trace has the result of the one without. -/
theorem reduceTracedWithin_fst
    (budget : Nat) (expression : Expr) (tracer : Tracer)
    (writable : tracer.enabled = true → expression.Writable) :
    (expression.reduceTracedWithin budget tracer).1 =
      expression.reduceWithin budget := by
  induction expression generalizing budget tracer with
  | literal value =>
      cases budget <;> rfl
  | unknown kind =>
      cases budget <;> rfl
  | binary left operator right leftHypothesis rightHypothesis =>
      cases budget with
      | zero =>
          exact (reduceWithin_zero _).symm
      | succ budget =>
          have leftWritable :=
            fun enabled =>
              (writable enabled).of_mem (left_mem_nodes left operator right)
          have rightWritable :=
            fun enabled =>
              (writable enabled).of_mem (right_mem_nodes left operator right)
          have leftResult := leftHypothesis (budget + 1) tracer leftWritable
          have leftEnabled :=
            (left.reduceTracedWithin_extends (budget + 1) tracer).enabled_eq
          rw [reduceTracedWithin, reduceWithin, ← leftResult]
          generalize left.reduceTracedWithin (budget + 1) tracer = leftOutcome
            at leftResult leftEnabled ⊢
          rcases leftOutcome with ⟨error | leftValue, after⟩
          · rfl
          · have afterEnabled : after.indent.enabled = tracer.enabled :=
              after.indent_enabled.trans leftEnabled
            have rightResult :=
              rightHypothesis budget after.indent fun enabled =>
                rightWritable (afterEnabled ▸ enabled)
            have rightEnabled :=
              (right.reduceTracedWithin_extends budget after.indent).enabled_eq
            simp only [Except.bind, ← rightResult]
            generalize right.reduceTracedWithin budget after.indent =
              rightOutcome at rightResult rightEnabled ⊢
            rcases rightOutcome with ⟨error | rightValue, inner⟩
            · rfl
            · have innerEnabled : inner.dedent.enabled = tracer.enabled :=
                inner.dedent_enabled.trans (rightEnabled.trans afterEnabled)
              apply combine_fst
              apply isTraceable_of_writable
              · intro enabled
                exact isOversized_of_reduceWithin
                  (leftWritable (innerEnabled ▸ enabled)) leftResult.symm
              · intro enabled
                exact isOversized_of_reduceWithin
                  (rightWritable (innerEnabled ▸ enabled)) rightResult.symm

theorem reduceTraced_fst
    (expression : Expr) (tracer : Tracer)
    (writable : tracer.enabled = true → expression.Writable) :
    (expression.reduceTraced tracer).1 = expression.reduce := by
  have bounded :=
    expression.reduceTracedWithin_fst (expression.rightNesting + 1) tracer
      writable
  rw [reduceTracedWithin_eq_reduceTraced tracer (Nat.lt_succ_self _)]
    at bounded
  rcases expression.reduceWithin_cases (expression.rightNesting + 1) with
    tooDeep | same
  · exact absurd (bounded.trans tooDeep)
      (expression.reduceTraced_fst_ne_nestedTooDeeply tracer)
  · exact bounded.trans same

theorem evaluate_eq_reduceWithin
    {expression : Expr} {tracer : Tracer}
    (writable : tracer.enabled = true → expression.Writable) :
    (expression.evaluate tracer).1 =
      expression.reduceWithin (nestingLimit + 1) := by
  rw [evaluate, evaluateWithin_eq_reduceTracedWithin]
  exact reduceTracedWithin_fst _ expression tracer writable

end Expr

end LineCalculator
