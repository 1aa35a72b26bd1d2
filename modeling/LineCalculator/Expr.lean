import LineCalculator.Text.Decimal
import LineCalculator.Word

/-!
# Expressions

An expression is a literal or an operator applied to two expressions.  Unary
minus has no node of its own: it is a subtraction from the literal zero.

A third kind of node carries only the name of a construct that the calculator
does not know; no line is ever read as one, and evaluation refuses it.
-/

namespace LineCalculator

inductive Operator where
  | add
  | sub
  | mul
  | div
  deriving DecidableEq, Hashable, Repr

namespace Operator

def symbol : Operator → Char
  | .add => '+'
  | .sub => '-'
  | .mul => '*'
  | .div => '/'

/-- The operator that a text names, if it is exactly one operator symbol. -/
def ofText? (text : String) : Option Operator :=
  [add, sub, mul, div].find? fun operator =>
    text == String.singleton operator.symbol

theorem ofText?_eq_some_iff
    {text : String} {operator : Operator} :
    ofText? text = some operator ↔
      text = String.singleton operator.symbol := by
  constructor
  · intro found
    have named := List.find?_some found
    exact eq_of_beq named
  · rintro rfl
    cases operator <;> decide

/-- The exact result of an operator; only a division by zero has none. -/
def result? (operator : Operator) (left right : Int) : Option Int :=
  match operator with
  | .add => some (left + right)
  | .sub => some (left - right)
  | .mul => some (left * right)
  | .div => Word.quotient? left right

end Operator

/-- The two strengths with which binary operators bind. -/
inductive Precedence where
  | additive
  | multiplicative
  deriving DecidableEq, Repr

def Precedence.operator? : Precedence → Char → Option Operator
  | .additive, '+' => some .add
  | .additive, '-' => some .sub
  | .multiplicative, '*' => some .mul
  | .multiplicative, '/' => some .div
  | _, _ => none

inductive Expr where
  | literal (value : Int)
  | binary (left : Expr) (operator : Operator) (right : Expr)
  | unknown (kind : String)
  deriving DecidableEq, Hashable, Repr

inductive DisplayError where
  | nestedTooDeeply
  | oversizedNumber
  deriving DecidableEq, Repr

namespace Expr

/-- Unary minus, encoded as a subtraction from zero. -/
def negate (operand : Expr) : Expr :=
  .binary (.literal 0) .sub operand

/-- The number of operators on the longest path from the root to a leaf. -/
def height : Expr → Nat
  | .literal _ =>
      0
  | .binary left _ right =>
      max left.height right.height + 1
  | .unknown _ =>
      0

/-- The fully parenthesised form of an expression. -/
def characters : Expr → List Char
  | .literal value =>
      Decimal.signed value
  | .binary left operator right =>
      '(' :: left.characters ++ ' ' :: operator.symbol :: ' ' ::
        right.characters ++ [')']
  | .unknown kind =>
      '<' :: kind.toList ++ ['>']

/-- The first thing, from left to right, that keeps an expression from being
displayed with at most the given height. -/
def displayObstacle? : Nat → Expr → Option DisplayError
  | _, .literal value =>
      if Decimal.isOversized value then some .oversizedNumber else none
  | _, .unknown _ =>
      none
  | 0, .binary _ _ _ =>
      some .nestedTooDeeply
  | allowed + 1, .binary left _ right =>
      displayObstacle? allowed left <|> displayObstacle? allowed right

def displayLimit : Nat := 500

/-- The fully parenthesised text of an expression that is not too high and has
no number of too many digits. -/
def display (expression : Expr) : Except DisplayError String :=
  match displayObstacle? displayLimit expression with
  | some error =>
      .error error
  | none =>
      .ok (String.ofList expression.characters)

end Expr

end LineCalculator
