import LineCalculator.Descent.Rule
import LineCalculator.Grammar.Automaton
import LineCalculator.Reply
import LineCalculator.Text.Lines

/-!
# Calculating lines

A session reads lines with one of two engines and evaluates what was read; its
tracer is shared by all its lines.  A malformed line and a failed evaluation
have replies like any other.  A literal with too many digits aborts the work
instead.  So would a node of unknown kind, and a number that cannot be traced,
but no line is read as an expression that has one.
-/

namespace LineCalculator

inductive Engine where
  | descent
  | grammar
  deriving DecidableEq, Repr

/-- The engine with the given name; `descent` serves for unknown names. -/
def Engine.ofName (name : String) : Engine :=
  if name = "grammar" then .grammar else .descent

inductive Abort where
  | oversizedLiteral (engine : Engine) (digitCount : Nat)
  | oversizedNumber
  | unsupported (kind : String)
  deriving DecidableEq, Repr

def Abort.message : Abort → String
  | .oversizedLiteral .descent digitCount =>
      Decimal.unreadableMessage digitCount
  | .oversizedLiteral .grammar digitCount =>
      "Error trying to process rule \"number\":\n\n"
        ++ Decimal.unreadableMessage digitCount
  | .oversizedNumber =>
      EvaluationError.oversizedNumber.message
  | .unsupported kind =>
      (EvaluationError.unsupported kind).message

structure Session where
  engine : Engine := .descent
  tracer : Tracer := {}
  deriving DecidableEq, Repr

namespace Session

/-- Read a line.  Only the descent engine traces what it reads. -/
def parse (session : Session) (line : List Char) :
    Except ParseFault Expr × Session :=
  match session.engine with
  | .grammar =>
      (Grammar.parse line, session)
  | .descent =>
      let (result, tracer) := Descent.parse line session.tracer
      (result, { session with tracer := tracer })

def evaluate (session : Session) (expression : Expr) :
    Except EvaluationError Int × Session :=
  let (result, tracer) := expression.evaluate session.tracer
  (result, { session with tracer := tracer })

def settle : Except EvaluationError Int → Except Abort Reply
  | .ok value =>
      .ok (.ofValue value)
  | .error .divisionByZero =>
      .ok (.ofFailure
        { kind := .divisionByZero,
          message := FailureKind.divisionByZero.defaultMessage })
  | .error .nestedTooDeeply =>
      .ok (.ofFailure
        { kind := .evaluation,
          message := EvaluationError.nestedTooDeeply.message })
  | .error .oversizedNumber =>
      .error .oversizedNumber
  | .error (.unsupported kind) =>
      .error (.unsupported kind)

def calculate (session : Session) (line : List Char) :
    Except Abort Reply × Session :=
  match session.parse line with
  | (.error (.malformed error), after) =>
      (.ok (.ofFailure (.ofParseError error)), after)
  | (.error (.oversizedLiteral digitCount), after) =>
      (.error (.oversizedLiteral session.engine digitCount), after)
  | (.ok expression, after) =>
      let (result, final) := after.evaluate expression
      (settle result, final)

/-- Respond to a line of a stream: line ends at its end do not belong to it, and
there is no reply to a blank line. -/
def respond (session : Session) (line : List Char) :
    Except Abort (Option Reply) × Session :=
  let content := Lines.trimEnd line
  if content.all isBlank then
    (.ok none, session)
  else
    let (result, after) := session.calculate content
    (result.map some, after)

def responseText : Option Reply → String
  | none =>
      ""
  | some reply =>
      reply.render

def respondText (session : Session) (line : List Char) :
    Except Abort String × Session :=
  let (result, after) := session.respond line
  (result.map responseText, after)

def drain (session : Session) : String × Session :=
  let (trace, tracer) := session.tracer.drain
  (trace, { session with tracer := tracer })

end Session

end LineCalculator
