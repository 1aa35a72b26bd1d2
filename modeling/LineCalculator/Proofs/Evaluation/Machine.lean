import LineCalculator.Proofs.Evaluation.Order

/-!
# Evaluation on machine words

Over strings of 32 bits every expression without unknown nodes has a value:
operators act on bits, and a division truncates.  Evaluation computes the signed
reading of that value, unless a divisor has the value zero.
-/

namespace LineCalculator

open Evaluation

namespace Operator

/-- The operator on strings of 32 bits; division truncates the quotient of the
signed readings. -/
def onBits : Operator → BitVec 32 → BitVec 32 → BitVec 32
  | .add, left, right => left + right
  | .sub, left, right => left - right
  | .mul, left, right => left * right
  | .div, left, right => left.sdiv right

/-- For the one quotient that does not fit, both sides wrap around. -/
theorem wrap_result?_toInt
    {operator : Operator} {left right : BitVec 32} {exact : Int}
    (hasResult : operator.result? left.toInt right.toInt = some exact) :
    Word.wrap exact = (operator.onBits left right).toInt := by
  rw [Word.wrap_eq_bmod]
  cases operator with
  | add =>
      cases hasResult
      exact (BitVec.toInt_add left right).symm
  | sub =>
      cases hasResult
      exact BitVec.toInt_sub.symm
  | mul =>
      cases hasResult
      exact (BitVec.toInt_mul left right).symm
  | div =>
      have divisorNeZero : right.toInt ≠ 0 := by
        intro isZero
        rw [result?, isZero, Word.quotient?_zero] at hasResult
        cases hasResult
      rw [result?, Word.quotient?_of_ne_zero divisorNeZero] at hasResult
      cases hasResult
      exact (BitVec.toInt_sdiv left right).symm

end Operator

namespace Expr

def bits : Expr → BitVec 32
  | .literal value =>
      BitVec.ofInt 32 value
  | .unknown _ =>
      0
  | .binary left operator right =>
      operator.onBits left.bits right.bits

/-- An expression without unknown nodes in which every literal is a word. -/
structure OnWords (expression : Expr) : Prop where
  known : ∀ kind, .unknown kind ∉ expression.nodes
  literal :
    ∀ value, .literal value ∈ expression.nodes →
      -2147483648 ≤ value ∧ value ≤ 2147483647

/-- Some division of the expression has a right operand that evaluates to
zero. -/
def DividesByZero (expression : Expr) (tracer : Tracer) : Prop :=
  ∃ left right,
    .binary left .div right ∈ expression.nodes ∧
      (right.evaluate tracer).1 = .ok 0

/-! ## Parts of an expression -/

private theorem rightNesting_le_of_mem
    {node expression : Expr}
    (member : node ∈ expression.nodes) :
    node.rightNesting ≤ expression.rightNesting := by
  induction expression with
  | literal value =>
      rw [nodes, List.mem_singleton] at member
      rw [member]
  | unknown kind =>
      rw [nodes, List.mem_singleton] at member
      rw [member]
  | binary left operator right leftHypothesis rightHypothesis =>
      rcases mem_nodes_binary_iff.mp member with
        leftMember | rightMember | rfl
      · have leftBound := leftHypothesis leftMember
        rw [rightNesting]
        omega
      · have rightBound := rightHypothesis rightMember
        rw [rightNesting]
        omega
      · exact Nat.le_refl _

namespace OnWords

theorem of_mem
    {node expression : Expr}
    (onWords : expression.OnWords)
    (member : node ∈ expression.nodes) :
    node.OnWords where
  known kind unknownMember :=
    onWords.known kind (nodes_subset_of_mem member unknownMember)
  literal value literalMember :=
    onWords.literal value (nodes_subset_of_mem member literalMember)

theorem inRange
    {expression : Expr} {value : Int}
    (onWords : expression.OnWords)
    (member : .literal value ∈ expression.nodes) :
    Word.InRange value := by
  have bounds := onWords.literal value member
  simp only [Word.InRange, Word.least, Word.greatest]
  omega

theorem inRange_of_reduce
    {expression : Expr} {value : Int}
    (onWords : expression.OnWords)
    (result : expression.reduce = .ok value) :
    Word.InRange value := by
  rcases literal_or_inRange_of_reduce result with rfl | inRange
  · exact onWords.inRange (self_mem_nodes _)
  · exact inRange

theorem writable
    {expression : Expr}
    (onWords : expression.OnWords) :
    expression.Writable :=
  fun _ member => Word.isOversized_of_inRange (onWords.inRange member)

/-- An expression on words that fails does so because of a division by zero. -/
theorem error_eq_divisionByZero
    {expression : Expr} {error : EvaluationError}
    (onWords : expression.OnWords)
    (failure : expression.reduce = .error error) :
    error = .divisionByZero ∧
      ∃ left right,
        .binary left .div right ∈ expression.nodes ∧
          right.reduce = .ok 0 := by
  obtain ⟨before, node, after, split, _, fails⟩ :=
    firstFailure_of_reduce failure
  have member : node ∈ expression.nodes := by
    rw [split]
    exact List.mem_append_right before List.mem_cons_self
  cases fails with
  | unknown kind =>
      exact absurd member (onWords.known kind)
  | zeroDivisor leftResult rightResult =>
      exact ⟨rfl, _, _, member, rightResult⟩

/-- The values of the operands are signed readings, and so is the wrapped result
of the operator. -/
theorem reduce_eq_toInt_bits
    {expression : Expr} {value : Int}
    (onWords : expression.OnWords)
    (result : expression.reduce = .ok value) :
    value = expression.bits.toInt := by
  induction expression generalizing value with
  | literal literalValue =>
      cases result
      have inRange := onWords.inRange (self_mem_nodes _)
      rw [bits, ← Word.wrap_eq_toInt, Word.wrap_of_inRange inRange]
  | unknown kind =>
      cases result
  | binary left operator right leftHypothesis rightHypothesis =>
      obtain ⟨leftValue, rightValue, leftResult, rightResult, applied⟩ :=
        (reduce_binary_eq_ok_iff left operator right value).mp result
      have leftBits : leftValue = left.bits.toInt :=
        leftHypothesis
          (onWords.of_mem (left_mem_nodes left operator right)) leftResult
      have rightBits : rightValue = right.bits.toInt :=
        rightHypothesis
          (onWords.of_mem (right_mem_nodes left operator right)) rightResult
      obtain ⟨exact, hasResult, wrapped⟩ := applyOperator_eq_ok applied
      rw [leftBits, rightBits] at hasResult
      rw [wrapped, bits]
      exact Operator.wrap_result?_toInt hasResult

end OnWords

private theorem reduce_ne_ok_of_zeroDivisor
    {expression left right : Expr} {value : Int}
    (member : .binary left .div right ∈ expression.nodes)
    (rightResult : right.reduce = .ok 0) :
    expression.reduce ≠ .ok value := by
  intro result
  obtain ⟨quotient, nodeResult⟩ :=
    exists_value_of_mem_nodes result _ member
  obtain ⟨dividend, divisor, _, divisorResult, applied⟩ :=
    (reduce_binary_eq_ok_iff left .div right quotient).mp nodeResult
  rw [rightResult] at divisorResult
  cases divisorResult
  rw [applyOperator, Operator.result?, Word.quotient?_zero] at applied
  cases applied

/-- On words, evaluation fails exactly when some divisor has the value zero, and
then with a division by zero.  Otherwise it computes the signed reading of the
value over strings of 32 bits, which is a word. -/
theorem evaluate_eq_toInt_bits
    (expression : Expr) (tracer : Tracer)
    (onWords : expression.OnWords)
    (nesting : expression.rightNesting ≤ 700) :
    ((expression.evaluate tracer).1 = .error .divisionByZero ↔
        expression.DividesByZero tracer) ∧
      (¬ expression.DividesByZero tracer →
        (expression.evaluate tracer).1 = .ok expression.bits.toInt ∧
          -2147483648 ≤ expression.bits.toInt ∧
          expression.bits.toInt ≤ 2147483647) := by
  have resultOf :
      ∀ node ∈ expression.nodes,
        (node.evaluate tracer).1 = node.reduce := by
    intro node member
    apply evaluate_fst fun _ => (onWords.of_mem member).writable
    exact Nat.le_trans (rightNesting_le_of_mem member)
      (Nat.le_trans nesting (by decide))
  have result := resultOf expression expression.self_mem_nodes
  have divisorResult :
      ∀ left right, .binary left .div right ∈ expression.nodes →
        (right.evaluate tracer).1 = right.reduce := by
    intro left right member
    exact resultOf right
      (nodes_subset_of_mem member (right_mem_nodes left .div right))
  have failsOnlyByZero :
      ∀ error, expression.reduce = .error error →
        error = .divisionByZero ∧ expression.DividesByZero tracer := by
    intro error failure
    obtain ⟨isZeroDivision, left, right, member, isZero⟩ :=
      onWords.error_eq_divisionByZero failure
    exact ⟨isZeroDivision, left, right, member,
      (divisorResult left right member).trans isZero⟩
  constructor
  · rw [result]
    constructor
    · intro failure
      exact (failsOnlyByZero _ failure).2
    · rintro ⟨left, right, member, isZero⟩
      rw [divisorResult left right member] at isZero
      cases outcome : expression.reduce with
      | ok value =>
          exact absurd outcome (reduce_ne_ok_of_zeroDivisor member isZero)
      | error error =>
          rw [(failsOnlyByZero error outcome).1]
  · intro noZeroDivisor
    constructor
    · rw [result]
      cases outcome : expression.reduce with
      | ok value =>
          rw [onWords.reduce_eq_toInt_bits outcome]
      | error error =>
          exact absurd (failsOnlyByZero error outcome).2 noZeroDivisor
    · have lower := BitVec.le_toInt expression.bits
      have upper := BitVec.toInt_lt (x := expression.bits)
      constructor <;> omega

/-- The least word divided by minus one is the least word again. -/
theorem evaluate_least_div_minusOne :
    (binary (literal (-2147483648)) .div (literal (-1))).OnWords ∧
      (binary (literal (-2147483648)) .div (literal (-1))).rightNesting ≤
        700 ∧
      ((binary (literal (-2147483648)) .div (literal (-1))).evaluate {}).1 =
        .ok (-2147483648) := by
  have onWords :
      (binary (literal (-2147483648)) .div (literal (-1))).OnWords := by
    constructor
    · intro kind member
      simp [nodes] at member
    · intro value member
      simp only [nodes, List.cons_append, List.nil_append, List.mem_cons,
        literal.injEq, reduceCtorEq, List.not_mem_nil, or_false] at member
      omega
  have nesting :
      (binary (literal (-2147483648)) .div (literal (-1))).rightNesting ≤
        700 := by
    decide
  have agreement := evaluate_eq_toInt_bits _ {} onWords nesting
  refine ⟨onWords, nesting, ?_⟩
  have nonzero :
      ¬ (binary (literal (-2147483648)) .div (literal (-1))).DividesByZero
        {} := by
    intro zeroDivisor
    have failure := agreement.1.mpr zeroDivisor
    revert failure
    decide
  exact (agreement.2 nonzero).1

end Expr

end LineCalculator
