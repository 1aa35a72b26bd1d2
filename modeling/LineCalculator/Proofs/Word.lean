import LineCalculator.Expr
import Mathlib.Data.Int.ModEq

/-!
# Words and machine words

A word stands for a string of 32 bits read as a signed number.

* `wrap` is the signed reading of the 32 low bits of an integer, so it depends
  only on the residue modulo the number of words.
* `quotient?` is truncated division.
-/

namespace LineCalculator

namespace Word

/-- Wrapping picks the balanced residue. -/
theorem wrap_eq_bmod
    (value : Int) :
    wrap value = value.bmod 4294967296 := by
  rw [Int.bmod_def]
  simp only [wrap, least, modulus]
  split <;> omega

/-- Wrapping reads the low bits of an integer back as a signed number. -/
theorem wrap_eq_toInt
    (value : Int) :
    wrap value = (BitVec.ofInt 32 value).toInt := by
  rw [wrap_eq_bmod, BitVec.toInt_ofInt]

theorem inRange_wrap
    (value : Int) :
    InRange (wrap value) := by
  have lower : 0 ≤ (value - least) % modulus :=
    Int.emod_nonneg _ (by decide)
  have upper : (value - least) % modulus < modulus :=
    Int.emod_lt_of_pos _ (by decide)
  simp only [InRange, wrap, least, greatest, modulus] at lower upper ⊢
  omega

theorem wrap_of_inRange
    {value : Int}
    (inRange : InRange value) :
    wrap value = value := by
  simp only [InRange, least, greatest] at inRange
  simp only [wrap, least, modulus]
  omega

theorem wrap_modEq
    (value : Int) :
    wrap value ≡ value [ZMOD modulus] := by
  have residue : (value - least) % modulus ≡ value - least [ZMOD modulus] :=
    Int.mod_modEq _ _
  have restored := residue.add_right least
  rwa [Int.sub_add_cancel] at restored

theorem wrap_eq_wrap_iff
    {value other : Int} :
    wrap value = wrap other ↔ value ≡ other [ZMOD modulus] := by
  constructor
  · intro same
    calc
      value ≡ wrap value [ZMOD modulus] := (wrap_modEq value).symm
      _ = wrap other := same
      _ ≡ other [ZMOD modulus] := wrap_modEq other
  · intro congruent
    have offsets : (value - least) % modulus = (other - least) % modulus :=
      congruent.sub_right least
    rw [wrap, wrap, offsets]

/-- A word has few enough digits to be written. -/
theorem isOversized_of_inRange
    {value : Int}
    (inRange : InRange value) :
    Decimal.isOversized value = false := by
  simp only [InRange, least, greatest] at inRange
  have short : (Decimal.digits value.natAbs).length ≤ 10 :=
    (Nat.length_toDigits_le_iff (by decide) (by decide)).mpr (by omega)
  exact decide_eq_false
    (Nat.not_lt.mpr (Nat.le_trans short (by decide)))

@[simp]
theorem quotient?_zero
    (dividend : Int) :
    quotient? dividend 0 = none := by
  rfl

/-- The quotient of the magnitudes with the sign put back is the truncated
quotient.  A zero dividend counts as positive, which does no harm: its
quotient is zero with either sign. -/
theorem quotient?_of_ne_zero
    {dividend divisor : Int}
    (divisorNeZero : divisor ≠ 0) :
    quotient? dividend divisor = some (dividend.tdiv divisor) := by
  simp only [quotient?, if_neg divisorNeZero]
  cases dividend with
  | ofNat numerator =>
      have numeratorNonneg : ¬ Int.ofNat numerator < 0 :=
        Int.not_lt.mpr (Int.natCast_nonneg numerator)
      cases divisor with
      | ofNat denominator =>
          have denominatorNonneg : ¬ Int.ofNat denominator < 0 :=
            Int.not_lt.mpr (Int.natCast_nonneg denominator)
          rw [if_pos (iff_of_false numeratorNonneg denominatorNonneg)]
          rfl
      | negSucc denominator =>
          have denominatorNeg := Int.negSucc_lt_zero denominator
          rw [if_neg fun same =>
            numeratorNonneg (same.mpr denominatorNeg)]
          rfl
  | negSucc numerator =>
      have numeratorNeg := Int.negSucc_lt_zero numerator
      cases divisor with
      | ofNat denominator =>
          have denominatorNonneg : ¬ Int.ofNat denominator < 0 :=
            Int.not_lt.mpr (Int.natCast_nonneg denominator)
          rw [if_neg fun same =>
            denominatorNonneg (same.mp numeratorNeg)]
          rfl
      | negSucc denominator =>
          have denominatorNeg := Int.negSucc_lt_zero denominator
          rw [if_pos (iff_of_true numeratorNeg denominatorNeg)]
          rfl

theorem quotient?_eq_none_iff
    (dividend divisor : Int) :
    quotient? dividend divisor = none ↔ divisor = 0 := by
  constructor
  · intro noQuotient
    by_contra divisorNeZero
    rw [quotient?_of_ne_zero divisorNeZero] at noQuotient
    cases noQuotient
  · rintro rfl
    exact quotient?_zero dividend

end Word

/-- Only a division by zero has no result. -/
theorem Operator.result?_eq_none_iff
    (operator : Operator) (left right : Int) :
    operator.result? left right = none ↔ operator = .div ∧ right = 0 := by
  cases operator <;>
    simp [Operator.result?, Word.quotient?_eq_none_iff]

end LineCalculator
