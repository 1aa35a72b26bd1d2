import LineCalculator.Evaluation
import LineCalculator.ParseError

/-!
# Replies to lines

The reply to a line is a value or a failure.  A failure is rendered with the
name of its kind in front of its message.
-/

namespace LineCalculator

inductive FailureKind where
  | general
  | parse
  | evaluation
  | divisionByZero
  deriving DecidableEq, Repr

def FailureKind.name : FailureKind → String
  | .general => "CalculatorError"
  | .parse => "ParseError"
  | .evaluation => "EvaluationError"
  | .divisionByZero => "DivisionByZeroError"

def FailureKind.ofName? (name : String) : Option FailureKind :=
  [general, parse, evaluation, divisionByZero].find? (·.name == name)

theorem FailureKind.ofName?_eq_some_iff
    {name : String} {kind : FailureKind} :
    ofName? name = some kind ↔ name = kind.name := by
  constructor
  · intro found
    have named := List.find?_some found
    exact (eq_of_beq named).symm
  · rintro rfl
    cases kind <;> decide

def FailureKind.defaultMessage : FailureKind → String
  | .divisionByZero => EvaluationError.divisionByZero.message
  | _ => ""

structure Failure where
  kind : FailureKind
  message : String
  position? : Option Nat := none
  deriving DecidableEq, Repr

def Failure.ofParseError (error : ParseError) : Failure :=
  { kind := .parse, message := error.message, position? := error.position? }

structure Reply where
  value : Option Int := none
  failure : Option Failure := none
  deriving DecidableEq, Repr

namespace Reply

def ofValue (value : Int) : Reply :=
  { value := some value }

def ofFailure (failure : Failure) : Reply :=
  { failure := some failure }

def isOk (reply : Reply) : Bool :=
  reply.failure.isNone

def render (reply : Reply) : String :=
  match reply.failure, reply.value with
  | some failure, _ =>
      failure.kind.name ++ ": " ++ failure.message
  | none, some value =>
      Decimal.ofInt value
  | none, none =>
      "None"

/-- The text of a reply, unless it would show a value of too many digits. -/
def render? (reply : Reply) : Option String :=
  if reply.isOk && reply.value.any Decimal.isOversized then
    none
  else
    some reply.render

/-- A reply with a text has the text of `render`; the others show a value of too
many digits. -/
theorem render?_eq_some_iff
    {reply : Reply} {text : String} :
    reply.render? = some text ↔
      reply.render = text ∧
        (reply.isOk = true →
          ∀ value, reply.value = some value →
            Decimal.isOversized value = false) := by
  rw [render?]
  cases reply.isOk <;> cases reply.value <;> simp [and_comm]

end Reply

end LineCalculator
