import LineCalculator.Text.Decimal

/-!
# Why a line is not read

A malformed line is reported with its cause and, where the cause has one, the
position of the offending character, counted in characters from zero.  A
literal of more digits than `Decimal.digitLimit` is not a malformed line: it
stops the work altogether.
-/

namespace LineCalculator

inductive ParseError where
  | expectedNumber (position : Nat)
  | missingClosing (position : Nat)
  | unexpectedText (position : Nat)
  | outOfRange (position : Nat)
  | nestedTooDeeply
  deriving DecidableEq, Repr

namespace ParseError

/-- Where the line goes wrong; excessive nesting has no single place. -/
def position? : ParseError → Option Nat
  | .expectedNumber position => some position
  | .missingClosing position => some position
  | .unexpectedText position => some position
  | .outOfRange position => some position
  | .nestedTooDeeply => none

def message : ParseError → String
  | .expectedNumber position =>
      "expected number at " ++ Decimal.ofNat position
  | .missingClosing position =>
      "missing closing parenthesis at " ++ Decimal.ofNat position
  | .unexpectedText position =>
      "failed at char " ++ Decimal.ofNat position
  | .outOfRange position =>
      "number out of range at " ++ Decimal.ofNat position
  | .nestedTooDeeply =>
      "expression nested too deeply"

end ParseError

inductive ParseFault where
  | malformed (error : ParseError)
  | oversizedLiteral (digitCount : Nat)
  deriving DecidableEq, Repr

end LineCalculator
