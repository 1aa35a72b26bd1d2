/-!
# Signed 32-bit words

Arithmetic is carried out exactly on the integers and brought back into the
range of a signed 32-bit word afterwards.

* `Word.wrap` picks the representative of an integer modulo `2 ^ 32` that lies
  between `Word.least` and `Word.greatest`.
* `Word.quotient?` divides with the quotient rounded toward zero, and has no
  answer for a zero divisor.
-/

namespace LineCalculator.Word

def modulus : Int := 4294967296

def least : Int := -2147483648

def greatest : Int := 2147483647

def InRange (value : Int) : Prop :=
  least ≤ value ∧ value ≤ greatest

instance (value : Int) : Decidable (InRange value) :=
  inferInstanceAs (Decidable (_ ∧ _))

/-- Two's complement wrap-around of an exact result: the offset from the least
word is reduced modulo the number of words. -/
def wrap (value : Int) : Int :=
  (value - least) % modulus + least

/-- The exact quotient rounded toward zero: the magnitudes are divided, and the
quotient is negated when the signs differ.  There is none for a zero divisor. -/
def quotient? (dividend divisor : Int) : Option Int :=
  if divisor = 0 then
    none
  else
    let magnitude : Int := (dividend.natAbs / divisor.natAbs : Nat)
    some (if dividend < 0 ↔ divisor < 0 then magnitude else -magnitude)

end LineCalculator.Word
