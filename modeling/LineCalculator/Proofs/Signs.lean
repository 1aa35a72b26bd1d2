import LineCalculator.Proofs.Grammar.Completeness
import LineCalculator.Proofs.Reading

/-!
# Signs one by one

An operand is negated once, or not at all, for all the minus signs in front of
it.  It could as well be negated once for each of them: every operand has a word
for its value, and on words negation undoes itself, also for the least word,
which it does not change.
-/

namespace LineCalculator

open Syntax

/-- Expressions in which every minus sign negates on its own, the one next to
the operand first. -/
def Syntax.Meaning.eachSign : Meaning Expr where
  number := Meaning.expr.number
  signed signs operand :=
    signs.foldr
      (fun sign signed =>
        match sign with
        | .plus => signed
        | .minus => signed.negate)
      operand
  binary := .binary

/-! ## Negations -/

/-- Negation undoes itself on words. -/
private theorem Word.wrap_neg_wrap_neg
    {value : Int}
    (inRange : InRange value) :
    wrap (0 - wrap (0 - value)) = value := by
  simp only [InRange, least, greatest] at inRange
  simp only [wrap, least, modulus]
  omega

namespace Expr

def negateResult (result : Except EvaluationError Int) :
    Except EvaluationError Int :=
  result.map fun value => Word.wrap (0 - value)

theorem reduce_negate
    (operand : Expr) :
    operand.negate.reduce = negateResult operand.reduce := by
  rw [negate, reduce_binary]
  cases operand.reduce <;> rfl

private theorem OnWords.negateResult_negateResult
    {expression : Expr}
    (onWords : expression.OnWords) :
    negateResult (negateResult expression.reduce) = expression.reduce := by
  cases result : expression.reduce with
  | error error =>
      rfl
  | ok value =>
      have inRange := onWords.inRange_of_reduce result
      exact congrArg Except.ok (Word.wrap_neg_wrap_neg inRange)

/-- Of signs that negate all at once, only the number matters. -/
theorem reduce_signed
    (signs : List Sign) (operand : Expr) :
    (Meaning.expr.signed signs operand).reduce =
      if signs.count .minus % 2 = 1 then
        negateResult operand.reduce
      else
        operand.reduce := by
  rw [← reduce_negate]
  simp only [Meaning.expr, negate]
  split <;> rfl

/-- Signs that negate one by one cancel in pairs. -/
theorem OnWords.reduce_eachSign
    {operand : Expr}
    (onWords : operand.OnWords) (signs : List Sign) :
    (Meaning.eachSign.signed signs operand).reduce =
      (Meaning.expr.signed signs operand).reduce := by
  induction signs with
  | nil =>
      rfl
  | cons sign signs inductionHypothesis =>
      rw [reduce_signed] at inductionHypothesis ⊢
      cases sign with
      | plus =>
          exact inductionHypothesis
      | minus =>
          show (Meaning.eachSign.signed signs operand).negate.reduce = _
          rw [reduce_negate, inductionHypothesis, List.count_cons_self]
          by_cases odd : signs.count .minus % 2 = 1
          · have even : ¬ (signs.count .minus + 1) % 2 = 1 := by omega
            rw [if_pos odd, if_neg even]
            exact onWords.negateResult_negateResult
          · have nowOdd : (signs.count .minus + 1) % 2 = 1 := by omega
            rw [if_neg odd, if_pos nowOdd]

theorem Unsigned.eachSign
    {operand : Expr}
    (isUnsigned : operand.Unsigned) (signs : List Sign) :
    (Meaning.eachSign.signed signs operand).Unsigned := by
  induction signs with
  | nil =>
      exact isUnsigned
  | cons sign signs inductionHypothesis =>
      cases sign with
      | plus =>
          exact inductionHypothesis
      | minus =>
          exact inductionHypothesis.negate

end Expr

/-! ## Trees -/

namespace Tree

private theorem unsigned_of_eachSign
    {tree : Tree} {unfolded : Expr}
    (standsFor : tree.interpret? .eachSign = some unfolded) :
    unfolded.Unsigned := by
  refine property_of_interpret? ?_ ?_ ?_ standsFor
  · intro run start value stands
    have stands : Meaning.expr.number run start = some value := stands
    exact unsigned_of_number stands
  · exact fun signs _ isUnsigned => isUnsigned.eachSign signs
  · exact fun _ operator _ left right => left.binary operator right

/-- A tree that stands for an expression stands for one with signs one by one,
too, and both reduce to the same. -/
theorem exists_eachSign
    {tree : Tree} {expression : Expr}
    (standsFor : tree.interpret? .expr = some expression) :
    ∃ unfolded,
      tree.interpret? .eachSign = some unfolded ∧
        unfolded.reduce = expression.reduce := by
  induction tree generalizing expression with
  | number run start =>
      exact ⟨expression, standsFor, rfl⟩
  | binary left operator right leftHypothesis rightHypothesis =>
      obtain ⟨leftValue, rightValue, leftIs, rightIs, rfl⟩ :=
        interpret?_binary_eq_some_iff.mp standsFor
      obtain ⟨leftUnfolded, leftStands, leftSame⟩ := leftHypothesis leftIs
      obtain ⟨rightUnfolded, rightStands, rightSame⟩ :=
        rightHypothesis rightIs
      refine ⟨.binary leftUnfolded operator rightUnfolded,
        interpret?_binary_eq_some_iff.mpr
          ⟨_, _, leftStands, rightStands, rfl⟩, ?_⟩
      rw [Expr.reduce_binary, leftSame, rightSame]
      exact (Expr.reduce_binary leftValue operator rightValue).symm
  | unary signs operand inductionHypothesis =>
      rw [interpret?, Option.map_eq_some_iff] at standsFor
      obtain ⟨value, operandIs, rfl⟩ := standsFor
      obtain ⟨unfolded, operandStands, same⟩ := inductionHypothesis operandIs
      refine ⟨Meaning.eachSign.signed signs unfolded, ?_, ?_⟩
      · rw [interpret?, operandStands]
        rfl
      · have onWords := (unsigned_of_eachSign operandStands).onWords
        rw [onWords.reduce_eachSign signs, Expr.reduce_signed, same,
          Expr.reduce_signed]

end Tree

/-- A line has one tree at most. -/
theorem Syntax.Derives.tree_unique
    {blank : Char → Bool} (separates : SeparatesTokens blank)
    {line : List Char} {tree other : Tree}
    (derives : Derives blank .tree line tree)
    (otherDerives : Derives blank .tree line other) :
    tree = other := by
  obtain ⟨operand, pending, shifted, closes⟩ :=
    Grammar.shiftAll_of_derives separates derives
  obtain ⟨otherOperand, otherPending, otherShifted, otherCloses⟩ :=
    Grammar.shiftAll_of_derives separates otherDerives
  rw [shifted] at otherShifted
  cases otherShifted
  rw [← closes, otherCloses]

/-! ## Lines -/

/-- An evaluation on words that is not nested too deeply reduces the expression
to a value or divides by zero. -/
theorem Expr.OnWords.evaluate_cases
    {expression : Expr} {tracer : Tracer}
    (onWords : expression.OnWords)
    (shallow : (expression.evaluate tracer).1 ≠ .error .nestedTooDeeply) :
    (expression.evaluate tracer).1 = expression.reduce ∧
      ((∃ value, expression.reduce = .ok value) ∨
        expression.reduce = .error .divisionByZero) := by
  have result := evaluate_eq_reduceWithin fun enabled : tracer.enabled = true =>
    onWords.writable
  have wordResult := evaluate_wordResult tracer onWords
  rw [result] at shallow wordResult ⊢
  rcases expression.reduceWithin_cases (Evaluation.nestingLimit + 1) with
    tooDeep | same
  · exact absurd tooDeep shallow
  · refine ⟨same, ?_⟩
    rw [← same]
    generalize expression.reduceWithin _ = outcome at shallow wordResult
    cases wordResult with
    | value _ =>
        exact Or.inl ⟨_, rfl⟩
    | divisionByZero =>
        exact Or.inr rfl
    | nestedTooDeeply =>
        exact absurd rfl shallow

namespace Session

/-- A line that is read has exactly one expression in which every minus sign
negates on its own.  If neither that nor what the line is read as is nested too
deeply, both evaluate to the same value or both divide by zero. -/
theorem evaluate_eachSign
    (session : Session) (line : List Char) (expression : Expr)
    (read : (session.parse line).1 = .ok expression) :
    ∃ unfolded,
      (∀ other,
        Derives session.engine.blank .eachSign line other ↔
          other = unfolded) ∧
      ∀ tracer otherTracer : Tracer,
        (expression.evaluate tracer).1 ≠ .error .nestedTooDeeply →
        (unfolded.evaluate otherTracer).1 ≠ .error .nestedTooDeeply →
          (∃ value,
            (expression.evaluate tracer).1 = .ok value ∧
              (unfolded.evaluate otherTracer).1 = .ok value) ∨
          ((expression.evaluate tracer).1 = .error .divisionByZero ∧
            (unfolded.evaluate otherTracer).1 = .error .divisionByZero) := by
  have derives := (parse_eq_ok_iff.mp read).1
  obtain ⟨tree, treeDerives, standsFor⟩ :=
    (derives_iff_exists_tree fun _ => rfl).mp derives
  obtain ⟨unfolded, unfoldedIs, same⟩ := Tree.exists_eachSign standsFor
  refine ⟨unfolded, ?_, ?_⟩
  · intro other
    rw [derives_iff_exists_tree fun _ => rfl]
    constructor
    · rintro ⟨found, foundDerives, otherIs⟩
      rw [foundDerives.tree_unique session.engine.blank_separatesTokens
        treeDerives, unfoldedIs] at otherIs
      exact (Option.some.inj otherIs).symm
    · rintro rfl
      exact ⟨tree, treeDerives, unfoldedIs⟩
  · intro tracer otherTracer shallow otherShallow
    obtain ⟨result, outcome⟩ :=
      (unsigned_of_parse read).onWords.evaluate_cases shallow
    obtain ⟨otherResult, _⟩ :=
      (Tree.unsigned_of_eachSign unfoldedIs).onWords.evaluate_cases
        otherShallow
    rw [result, otherResult, same]
    rcases outcome with ⟨value, isValue⟩ | isZeroDivision
    · exact Or.inl ⟨value, isValue, isValue⟩
    · exact Or.inr ⟨isZeroDivision, isZeroDivision⟩

/-- Two minus signs in front of a parenthesis: read as none, and one by one as
two negations. -/
theorem evaluate_eachSign_twoSigns :
    (parse {} ['-', '+', '-', '(', '7', '/', '-', '2', ')']).1 =
        .ok (.binary (.literal 7) .div (Expr.literal 2).negate) ∧
      Derives isBlank .eachSign ['-', '+', '-', '(', '7', '/', '-', '2', ')']
        (Expr.binary (.literal 7) .div
          (Expr.literal 2).negate).negate.negate ∧
      ((Expr.binary (.literal 7) .div
          (Expr.literal 2).negate).negate.negate.evaluate {}).1 =
        .ok (-3) := by
  have read :
      (parse {} ['-', '+', '-', '(', '7', '/', '-', '2', ')']).1 =
        .ok (.binary (.literal 7) .div (Expr.literal 2).negate) :=
    rfl
  have plainDerives :
      Derives isPlainBlank .tree
        ['-', '+', '-', '(', '7', '/', '-', '2', ')']
        (.unary [.minus, .plus, .minus]
          (.binary (.number ['7'] 4) .div
            (.unary [.minus] (.number ['2'] 7)))) :=
    Grammar.tree_eq_ok_iff.mp rfl
  have treeDerives := plainDerives.mono fun _ => isBlank_of_isPlainBlank
  have derives :
      Derives isBlank .eachSign
        ['-', '+', '-', '(', '7', '/', '-', '2', ')']
        (Expr.binary (.literal 7) .div
          (Expr.literal 2).negate).negate.negate :=
    (derives_iff_exists_tree fun _ => rfl).mpr ⟨_, treeDerives, rfl⟩
  obtain ⟨unfolded, derivesIff, same⟩ := evaluate_eachSign {} _ _ read
  obtain rfl := (derivesIff _).mp derives
  refine ⟨read, derives, ?_⟩
  rcases same {} {} (by decide) (by decide) with
    ⟨value, isValue, unfoldedValue⟩ | ⟨isZeroDivision, _⟩
  · cases isValue
    exact unfoldedValue
  · cases isZeroDivision

end Session

end LineCalculator
