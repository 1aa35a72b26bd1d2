import LineCalculator.Expr
import LineCalculator.ParseError

/-!
# Syntax trees

A syntax tree keeps what an expression forgets: the digits of each number as
they were written and where, and the signs of each operand in order.
Parentheses leave no trace.
-/

namespace LineCalculator

inductive Sign where
  | plus
  | minus
  deriving DecidableEq, Repr

def Sign.name : Sign → String
  | .plus => "plus"
  | .minus => "minus"

def Operator.name : Operator → String
  | .add => "add"
  | .sub => "sub"
  | .mul => "mul"
  | .div => "div"

inductive Tree where
  | number (run : List Char) (start : Nat)
  | binary (left : Tree) (operator : Operator) (right : Tree)
  | unary (signs : List Sign) (operand : Tree)
  deriving DecidableEq, Repr

namespace Tree

/-- The tree as text: each node is a parenthesis with its name and children,
and a number shows its digits and where they start. -/
def text : Tree → String
  | .number run start =>
      "(number NUMBER:" ++ String.ofList run ++ "@" ++ Decimal.ofNat start
        ++ ")"
  | .binary left operator right =>
      "(" ++ operator.name ++ left.text ++ right.text ++ ")"
  | .unary signs operand =>
      "(unary" ++ String.join (signs.map fun sign => "(" ++ sign.name ++ ")")
        ++ operand.text ++ ")"

/-- The literal that a run of digits denotes, unless it has too many digits or
its value does not fit into a word. -/
def literal (run : List Char) (start : Nat) : Except ParseFault Expr :=
  if Decimal.digitLimit < run.length then
    .error (.oversizedLiteral run.length)
  else if Word.greatest < Decimal.value run then
    .error (.malformed (.outOfRange start))
  else
    .ok (.literal (Decimal.value run))

/-- The expression of a tree.  Numbers are checked from left to right, and an
odd number of minus signs negates their operand. -/
def toExpr : Tree → Except ParseFault Expr
  | .number run start =>
      literal run start
  | .binary left operator right =>
      match left.toExpr with
      | .error fault =>
          .error fault
      | .ok leftExpression =>
          match right.toExpr with
          | .error fault =>
              .error fault
          | .ok rightExpression =>
              .ok (.binary leftExpression operator rightExpression)
  | .unary signs operand =>
      match operand.toExpr with
      | .error fault =>
          .error fault
      | .ok expression =>
          .ok (if signs.count .minus % 2 = 1 then expression.negate
            else expression)

end Tree

end LineCalculator
