import LineCalculator.Grammar.Token
import LineCalculator.Grammar.Tree
import LineCalculator.Text.Blank

/-!
# Reading a line by shifting tokens

The tokens of a line are shifted one by one into a state that alternates
between awaiting an operand and having completed one.  What is still
unfinished is kept as pending parts: one record for the current level of
parentheses and one for each enclosing level, so nesting has no limit.

The syntax of the whole line is settled before any number is looked at.
-/

namespace LineCalculator.Grammar

/-- The unfinished parts of one level of parentheses: a sum and a product that
wait for their right operand, and signs that wait for theirs (last one
first). -/
structure Pending where
  sum : Option (Tree × Operator) := none
  product : Option (Tree × Operator) := none
  signs : List Sign := []
  deriving DecidableEq, Repr

def supply : Option (Tree × Operator) → Tree → Tree
  | none, right =>
      right
  | some (left, operator), right =>
      .binary left operator right

namespace Pending

def applySigns (pending : Pending) (operand : Tree) : Tree :=
  match pending.signs with
  | [] =>
      operand
  | signs =>
      .unary signs.reverse operand

def closeProduct (pending : Pending) (operand : Tree) : Tree :=
  supply pending.product operand

def closeSum (pending : Pending) (operand : Tree) : Tree :=
  supply pending.sum (pending.closeProduct operand)

end Pending

inductive State where
  | awaiting (pending : Pending) (enclosing : List Pending)
  | complete (operand : Tree) (pending : Pending) (enclosing : List Pending)
  deriving DecidableEq, Repr

/-- Why a line has no syntax tree, and whether the offending character is one
that belongs to no phrase at all. -/
structure Rejection where
  error : ParseError
  stray : Bool := false
  deriving DecidableEq, Repr

def reject (cause : Nat → ParseError) (token : Token) :
    Except Rejection State :=
  .error ⟨cause token.start, token.isStray⟩

def shiftAwaiting
    (pending : Pending) (enclosing : List Pending) (token : Token) :
    Except Rejection State :=
  match token.kind with
  | .number run =>
      .ok (.complete (pending.applySigns (.number run token.start)) pending
        enclosing)
  | .operator .add =>
      .ok (.awaiting { pending with signs := .plus :: pending.signs }
        enclosing)
  | .operator .sub =>
      .ok (.awaiting { pending with signs := .minus :: pending.signs }
        enclosing)
  | .opening =>
      .ok (.awaiting {} (pending :: enclosing))
  | _ =>
      reject .expectedNumber token

def shiftComplete
    (operand : Tree) (pending : Pending) (enclosing : List Pending)
    (token : Token) :
    Except Rejection State :=
  match token.kind, enclosing with
  | .operator .add, _ =>
      .ok (.awaiting { sum := some (pending.closeSum operand, .add) }
        enclosing)
  | .operator .sub, _ =>
      .ok (.awaiting { sum := some (pending.closeSum operand, .sub) }
        enclosing)
  | .operator .mul, _ =>
      .ok (.awaiting
        { sum := pending.sum,
          product := some (pending.closeProduct operand, .mul) }
        enclosing)
  | .operator .div, _ =>
      .ok (.awaiting
        { sum := pending.sum,
          product := some (pending.closeProduct operand, .div) }
        enclosing)
  | .closing, outer :: further =>
      .ok (.complete (outer.applySigns (pending.closeSum operand)) outer
        further)
  | .closing, [] =>
      reject .unexpectedText token
  | _, _ =>
      reject .missingClosing token

def shift : State → Token → Except Rejection State
  | .awaiting pending enclosing, token =>
      shiftAwaiting pending enclosing token
  | .complete operand pending enclosing, token =>
      shiftComplete operand pending enclosing token

def shiftAll : List Token → State → Except Rejection State
  | [], state =>
      .ok state
  | token :: later, state =>
      match shift state token with
      | .error rejection =>
          .error rejection
      | .ok next =>
          shiftAll later next

def finish (size : Nat) : State → Except Rejection Tree
  | .awaiting _ _ =>
      .error { error := .expectedNumber size }
  | .complete operand pending [] =>
      .ok (pending.closeSum operand)
  | .complete _ _ (_ :: _) =>
      .error { error := .missingClosing size }

def tree (line : List Char) : Except Rejection Tree :=
  match shiftAll (Token.scan isPlainBlank line) (.awaiting {} []) with
  | .error rejection =>
      .error rejection
  | .ok state =>
      finish line.length state

def parse (line : List Char) : Except ParseFault Expr :=
  match tree line with
  | .error rejection =>
      .error (.malformed rejection.error)
  | .ok tree =>
      tree.toExpr

end LineCalculator.Grammar
