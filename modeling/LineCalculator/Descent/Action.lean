import LineCalculator.Descent.Rule

/-!
# Using a reader step by step

The cursor operations and the rules can be used on a reader one after another,
in any order and also after failures.
-/

namespace LineCalculator.Descent

inductive Action where
  | peek (text : String)
  | accept (text : String)
  | acceptOperator (strength : Precedence)
  | skipBlanks
  | number
  | unary
  | term
  | expression
  | wholeLine
  deriving DecidableEq, Repr

/-- What an operation that did not fail answers. -/
inductive Answer where
  | done
  | truth (value : Bool)
  | operator (found : Option Operator)
  | phrase (expression : Expr)
  deriving DecidableEq, Repr

/-- Look for a text with a test for single symbols.  A text that is not one
character long never comes next, though blanks are skipped for it, too. -/
def withSymbol
    (test : Char → Cursor → Bool × Cursor) (text : String) : Rule Answer :=
  fun reader =>
    let (found, next) :=
      match text.toList with
      | [symbol] => test symbol reader.cursor
      | _ => (false, reader.cursor.skipBlanks)
    (.ok (.truth found), reader.moveTo next)

def answering (rule : Rule Expr) : Rule Answer :=
  fun reader =>
    let (result, after) := rule reader
    (result.map .phrase, after)

def Action.perform : Action → Rule Answer
  | .peek text =>
      withSymbol Cursor.peek text
  | .accept text =>
      withSymbol Cursor.accept text
  | .acceptOperator strength =>
      fun reader =>
        let (found, next) := reader.cursor.choose strength.operator?
        (.ok (.operator found), reader.moveTo next)
  | .skipBlanks =>
      fun reader => (.ok .done, reader.moveTo reader.cursor.skipBlanks)
  | .number =>
      answering Descent.number
  | .unary =>
      answering (Descent.unary group)
  | .term =>
      answering (Descent.term group)
  | .expression =>
      answering Descent.expression
  | .wholeLine =>
      answering Descent.wholeLine

end LineCalculator.Descent
