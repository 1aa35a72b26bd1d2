import LineCalculator.Proofs.Evaluation.Order

/-!
# Wrapping once

Addition, subtraction and multiplication respect congruence modulo the number of
words.  So as long as nothing is divided, it makes no difference that the result
of every operator is wrapped, and that literals are not: the value of an
expression is its exact value, wrapped once.
-/

namespace LineCalculator

/-- Other operators than division always have a result, and congruent operands
have congruent results. -/
private theorem Operator.result?_modEq
    {operator : Operator} {modulus left right otherLeft otherRight : Int}
    (notDivision : operator ≠ .div)
    (leftCongruent : left ≡ otherLeft [ZMOD modulus])
    (rightCongruent : right ≡ otherRight [ZMOD modulus]) :
    ∃ exact otherExact,
      operator.result? left right = some exact ∧
        operator.result? otherLeft otherRight = some otherExact ∧
        exact ≡ otherExact [ZMOD modulus] := by
  cases operator with
  | add =>
      exact ⟨_, _, rfl, rfl, leftCongruent.add rightCongruent⟩
  | sub =>
      exact ⟨_, _, rfl, rfl, leftCongruent.sub rightCongruent⟩
  | mul =>
      exact ⟨_, _, rfl, rfl, leftCongruent.mul rightCongruent⟩
  | div =>
      exact absurd rfl notDivision

namespace Expr

/-- Literals of any size joined by addition, subtraction and multiplication. -/
inductive Divisionless : Expr → Prop
  | literal (value : Int) :
      Divisionless (.literal value)
  | binary {left right : Expr} {operator : Operator} :
      Divisionless left →
      operator ≠ .div →
      Divisionless right →
      Divisionless (.binary left operator right)

def exactValue? : Expr → Option Int
  | .literal value =>
      some value
  | .unknown _ =>
      none
  | .binary left operator right =>
      left.exactValue?.bind fun leftValue =>
        right.exactValue?.bind fun rightValue =>
          operator.result? leftValue rightValue

namespace Divisionless

/-- Wrapped or not, the results on the way are congruent. -/
theorem reduce_modEq
    {expression : Expr}
    (divisionless : expression.Divisionless) :
    ∃ value exact,
      expression.reduce = .ok value ∧
        expression.exactValue? = some exact ∧
        value ≡ exact [ZMOD Word.modulus] := by
  induction divisionless with
  | literal value =>
      exact ⟨value, value, rfl, rfl, .refl value⟩
  | @binary left right operator _ notDivision _ leftHypothesis
      rightHypothesis =>
      obtain ⟨leftValue, leftExact, leftReduces, leftIs, leftCongruent⟩ :=
        leftHypothesis
      obtain ⟨rightValue, rightExact, rightReduces, rightIs,
        rightCongruent⟩ := rightHypothesis
      obtain ⟨result, exact, hasResult, hasExact, congruent⟩ :=
        Operator.result?_modEq notDivision leftCongruent rightCongruent
      refine ⟨Word.wrap result, exact, ?_, ?_,
        (Word.wrap_modEq result).trans congruent⟩
      · rw [reduce_binary_eq_ok_iff]
        refine ⟨leftValue, rightValue, leftReduces, rightReduces, ?_⟩
        rw [applyOperator, hasResult]
      · rw [exactValue?, leftIs, rightIs]
        exact hasExact

/-- The value of an expression with an operator is a word, so it is the exact
value wrapped. -/
theorem reduce_eq_wrap
    {expression : Expr}
    (divisionless : expression.Divisionless)
    (composite : ∀ value, expression ≠ .literal value) :
    ∃ exact,
      expression.exactValue? = some exact ∧
        expression.reduce = .ok (Word.wrap exact) := by
  obtain ⟨value, exact, reduces, isExact, congruent⟩ :=
    divisionless.reduce_modEq
  refine ⟨exact, isExact, ?_⟩
  rcases literal_or_inRange_of_reduce reduces with isLiteral | inRange
  · exact absurd isLiteral (composite value)
  · rw [reduces, ← Word.wrap_eq_wrap_iff.mpr congruent,
      Word.wrap_of_inRange inRange]

end Divisionless

/-- An expression with operators, but without division, evaluates to its exact
value, wrapped once.  So two such expressions evaluate to the same word exactly
if their exact values are congruent modulo `2 ^ 32`. -/
theorem evaluate_eq_wrap_exact
    (expression : Expr) (tracer : Tracer)
    (divisionless : expression.Divisionless)
    (composite : ∀ value, expression ≠ .literal value)
    (nesting : expression.rightNesting ≤ 700)
    (writable : tracer.enabled = true → expression.Writable) :
    ∃ exact,
      expression.exactValue? = some exact ∧
        (expression.evaluate tracer).1 = .ok (Word.wrap exact) ∧
        ∀ (other : Expr) (otherTracer : Tracer) (otherExact : Int),
          other.Divisionless →
          (∀ value, other ≠ .literal value) →
          other.rightNesting ≤ 700 →
          (otherTracer.enabled = true → other.Writable) →
          other.exactValue? = some otherExact →
            ((expression.evaluate tracer).1 =
                (other.evaluate otherTracer).1 ↔
              exact % 4294967296 = otherExact % 4294967296) := by
  have withinLimit : 700 ≤ Evaluation.nestingLimit := by decide
  obtain ⟨exact, isExact, reduces⟩ := divisionless.reduce_eq_wrap composite
  have result : (expression.evaluate tracer).1 = .ok (Word.wrap exact) := by
    rw [evaluate_fst writable (Nat.le_trans nesting withinLimit), reduces]
  refine ⟨exact, isExact, result, ?_⟩
  intro other otherTracer otherExact otherDivisionless otherComposite
    otherNesting otherWritable otherIsExact
  obtain ⟨found, isFound, otherReduces⟩ :=
    otherDivisionless.reduce_eq_wrap otherComposite
  rw [otherIsExact] at isFound
  cases isFound
  rw [result, evaluate_fst otherWritable
    (Nat.le_trans otherNesting withinLimit), otherReduces, Except.ok.injEq]
  exact Word.wrap_eq_wrap_iff

/-- The square of a literal that is no word, and a difference of another shape
with a congruent exact value. -/
theorem evaluate_eq_wrap_exact_square :
    ((binary (binary (literal 4294967295) .mul (literal 4294967295)) .sub
        (literal 2)).evaluate {}).1 = .ok (-1) ∧
      ((binary (literal 0) .sub
        (binary (literal (-4294967295)) .add (literal 4294967296))).evaluate
          {}).1 = .ok (-1) := by
  have notDivision : Operator.mul ≠ .div ∧ Operator.sub ≠ .div ∧
      Operator.add ≠ .div := by
    decide
  obtain ⟨mulNe, subNe, addNe⟩ := notDivision
  have silent :
      ∀ expression : Expr,
        (Tracer.enabled {} = true) → expression.Writable := by
    intro expression enabled
    cases enabled
  have square :=
    evaluate_eq_wrap_exact
      (binary (binary (literal 4294967295) .mul (literal 4294967295)) .sub
        (literal 2))
      {}
      (.binary (.binary (.literal _) mulNe (.literal _)) subNe (.literal _))
      (fun _ => Expr.noConfusion) (by decide) (silent _)
  obtain ⟨exact, isExact, result, sameIff⟩ := square
  cases isExact
  have same :=
    sameIff
      (binary (literal 0) .sub
        (binary (literal (-4294967295)) .add (literal 4294967296)))
      {} _
      (.binary (.literal _) subNe (.binary (.literal _) addNe (.literal _)))
      (fun _ => Expr.noConfusion) (by decide) (silent _) rfl
  have resultIs :
      ((binary (binary (literal 4294967295) .mul (literal 4294967295)) .sub
        (literal 2)).evaluate {}).1 = .ok (-1) :=
    result
  refine ⟨resultIs, ?_⟩
  rw [← same.mpr (by decide)]
  exact resultIs

end Expr

end LineCalculator
