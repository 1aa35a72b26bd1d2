import LineCalculator.Expr
import LineCalculator.Tracer
import LineCalculator.Word

/-!
# Evaluation

An expression is unwound along its left operands into a leaf and the steps
that are applied to it from the inside out.  Only right operands are evaluated
by a nested evaluation, so a chain of any length costs no depth, and the depth
of right operands is bounded by `nestingLimit`.

Every operator result is wrapped to a word; a literal on its own is not.  Each
completed step writes one line to the tracer, and each right operand is traced
one block deeper.  A step with an operand of too many digits cannot be traced,
and fails where it would be.
-/

namespace LineCalculator

inductive EvaluationError where
  | divisionByZero
  | nestedTooDeeply
  | oversizedNumber
  | unsupported (kind : String)
  deriving DecidableEq, Repr

def EvaluationError.message : EvaluationError → String
  | .divisionByZero =>
      "Division by zero"
  | .nestedTooDeeply =>
      "expression nested too deeply"
  | .oversizedNumber =>
      Decimal.unwritableMessage
  | .unsupported kind =>
      "Unsupported expression type: " ++ kind

namespace Evaluation

abbrev Outcome := Except EvaluationError Int × Tracer

/-- One operator on the left spine together with its right operand. -/
structure Step where
  operator : Operator
  right : Expr
  deriving DecidableEq, Repr

/-- The expression at the end of a left spine. -/
inductive Leaf where
  | literal (value : Int)
  | unknown (kind : String)
  deriving DecidableEq, Repr

/-- Follow the left operands, collecting the innermost step first. -/
def unwind : Expr → List Step → Leaf × List Step
  | .literal value, steps =>
      (.literal value, steps)
  | .unknown kind, steps =>
      (.unknown kind, steps)
  | .binary left operator right, steps =>
      unwind left (⟨operator, right⟩ :: steps)

def reduction (left : Int) (operator : Operator) (right result : Int) :
    String :=
  "[" ++ Decimal.ofInt left ++ " " ++ String.singleton operator.symbol ++ " "
    ++ Decimal.ofInt right ++ " => " ++ Decimal.ofInt result ++ "]"

def isTraceable (tracer : Tracer) (left right : Int) : Bool :=
  !tracer.enabled
    || !(Decimal.isOversized left || Decimal.isOversized right)

def combine
    (operator : Operator) (left right : Int) (tracer : Tracer) :
    Outcome :=
  match operator.result? left right with
  | none =>
      (.error .divisionByZero, tracer)
  | some exact =>
      if isTraceable tracer left right then
        let result := Word.wrap exact
        (.ok result, tracer.line (reduction left operator right result))
      else
        (.error .oversizedNumber, tracer)

/-- Apply the steps of a spine to a value.  Right operands are evaluated one
block deeper, and the block is closed again also when that fails. -/
def applySteps (operand : Expr → Tracer → Outcome) :
    List Step → Int → Tracer → Outcome
  | [], value, tracer =>
      (.ok value, tracer)
  | step :: later, left, tracer =>
      match operand step.right tracer.indent with
      | (.error error, inner) =>
          (.error error, inner.dedent)
      | (.ok right, inner) =>
          match combine step.operator left right inner.dedent with
          | (.error error, after) =>
              (.error error, after)
          | (.ok value, after) =>
              applySteps operand later value after

/-- Evaluate with at most the given number of nested evaluations. -/
def evaluateWithin : Nat → Expr → Tracer → Outcome
  | 0, _, tracer =>
      (.error .nestedTooDeeply, tracer)
  | budget + 1, expression, tracer =>
      match unwind expression [] with
      | (.unknown kind, _) =>
          (.error (.unsupported kind), tracer)
      | (.literal value, steps) =>
          applySteps (evaluateWithin budget) steps value tracer

/-- The greatest nesting of right operands that is evaluated. -/
def nestingLimit : Nat := 1000

end Evaluation

def Expr.evaluate (expression : Expr) (tracer : Tracer) : Evaluation.Outcome :=
  Evaluation.evaluateWithin (Evaluation.nestingLimit + 1) expression tracer

end LineCalculator
