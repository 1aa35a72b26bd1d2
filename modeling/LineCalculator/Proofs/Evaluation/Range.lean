import LineCalculator.Proofs.Evaluation.Machine

/-!
# Evaluation on words at any nesting

However the operands of an expression on words are nested, it evaluates to a
word, fails with a division by zero, or is nested too deeply.
-/

namespace LineCalculator

inductive Evaluation.WordResult : Except EvaluationError Int → Prop
  | value {value : Int} :
      Word.InRange value →
      WordResult (.ok value)
  | divisionByZero :
      WordResult (.error .divisionByZero)
  | nestedTooDeeply :
      WordResult (.error .nestedTooDeeply)

theorem Expr.evaluate_wordResult
    {expression : Expr} (tracer : Tracer)
    (onWords : expression.OnWords) :
    Evaluation.WordResult (expression.evaluate tracer).1 := by
  rw [evaluate_eq_reduceWithin fun _ => onWords.writable]
  rcases expression.reduceWithin_cases (Evaluation.nestingLimit + 1) with
    tooDeep | same
  · rw [tooDeep]
    exact .nestedTooDeeply
  · rw [same]
    cases result : expression.reduce with
    | ok value =>
        exact .value (onWords.inRange_of_reduce result)
    | error error =>
        rw [(onWords.error_eq_divisionByZero result).1]
        exact .divisionByZero

end LineCalculator
