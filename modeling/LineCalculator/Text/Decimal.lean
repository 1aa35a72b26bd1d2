/-!
# Decimal notation

Numbers are written without leading zeros, a negative one with a leading minus
sign, and read from a run of ASCII digits.  `digitLimit` bounds the digits of
what the calculator reads and writes; the functions that read and write hold
for numbers of any length, and their callers check the limit.
-/

namespace LineCalculator.Decimal

/-- The decimal digits of a natural number, most significant first. -/
def digits (number : Nat) : List Char :=
  Nat.toDigits 10 number

def signed : Int → List Char
  | .ofNat number =>
      digits number
  | .negSucc number =>
      '-' :: digits (number + 1)

def ofNat (number : Nat) : String :=
  String.ofList (digits number)

def ofInt (number : Int) : String :=
  String.ofList (signed number)

/-- The number that a run of ASCII digits denotes; leading zeros are allowed. -/
def value (run : List Char) : Nat :=
  Nat.ofDigitChars 10 run 0

/-- The greatest number of digits, leading zeros included, of a number that is
read or written. -/
def digitLimit : Nat := 4300

def isOversized (number : Int) : Bool :=
  digitLimit < (digits number.natAbs).length

/-- The wording for a number of too many digits, with what is known of it. -/
def limitMessage (detail : String) : String :=
  "Exceeds the limit (" ++ ofNat digitLimit
    ++ " digits) for integer string conversion" ++ detail
    ++ "; use sys.set_int_max_str_digits() to increase the limit"

def unreadableMessage (digitCount : Nat) : String :=
  limitMessage (": value has " ++ ofNat digitCount ++ " digits")

def unwritableMessage : String :=
  limitMessage ""

theorem value_digits
    (number : Nat) :
    value (digits number) = number := by
  exact Nat.ofDigitChars_ten_toDigits

theorem isDigit_of_mem_digits
    {number : Nat} {digit : Char}
    (member : digit ∈ digits number) :
    digit.isDigit := by
  exact Nat.isDigit_of_mem_toDigits (by decide) (by decide) member

end LineCalculator.Decimal
