import LineCalculator.Proofs.Word

/-!
# Wrapping and truncated division

Both are defined on all integers, and each is the only operation with its
property.

* `wrap` finds the word that is congruent to an integer modulo `2 ^ 32`.  So it
  leaves words alone, and it makes no difference whether the operands of a sum,
  a difference or a product are wrapped before.
* `quotient?` divides with a remainder that is smaller than the divisor and has
  the sign of the dividend.  So a sign can be moved out of either operand, and
  only one quotient of words is not a word.
-/

namespace LineCalculator

namespace Word

/-! ## Wrapping -/

theorem inRange_iff
    {value : Int} :
    InRange value ↔ -2 ^ 31 ≤ value ∧ value ≤ 2 ^ 31 - 1 := by
  rfl

private theorem modulus_eq :
    modulus = 2 ^ 32 := by
  rfl

/-- Of all words, wrapping finds the one that is congruent. -/
theorem wrap_eq_iff
    {value word : Int} :
    wrap value = word ↔ InRange word ∧ word ≡ value [ZMOD modulus] := by
  constructor
  · rintro rfl
    exact ⟨inRange_wrap value, wrap_modEq value⟩
  · rintro ⟨inRange, congruent⟩
    calc
      wrap value = wrap word := wrap_eq_wrap_iff.mpr congruent.symm
      _ = word := wrap_of_inRange inRange

theorem wrap_wrap
    (value : Int) :
    wrap (wrap value) = wrap value :=
  wrap_of_inRange (inRange_wrap value)

theorem wrap_eq_self_iff
    {value : Int} :
    wrap value = value ↔ InRange value := by
  constructor
  · intro same
    rw [← same]
    exact inRange_wrap value
  · exact wrap_of_inRange

theorem wrap_add
    (left right : Int) :
    wrap (wrap left + wrap right) = wrap (left + right) :=
  wrap_eq_wrap_iff.mpr ((wrap_modEq left).add (wrap_modEq right))

theorem wrap_sub
    (left right : Int) :
    wrap (wrap left - wrap right) = wrap (left - right) :=
  wrap_eq_wrap_iff.mpr ((wrap_modEq left).sub (wrap_modEq right))

theorem wrap_mul
    (left right : Int) :
    wrap (wrap left * wrap right) = wrap (left * right) :=
  wrap_eq_wrap_iff.mpr ((wrap_modEq left).mul (wrap_modEq right))

/-! ## Division with a remainder -/

/-- A division with a remainder that is smaller than the divisor, and that is
zero or has the sign of the dividend. -/
structure TruncatedDivision
    (dividend divisor quotient remainder : Int) : Prop where
  dividend_eq : dividend = quotient * divisor + remainder
  natAbs_lt : remainder.natAbs < divisor.natAbs
  sign : remainder = 0 ∨ remainder.sign = dividend.sign

namespace TruncatedDivision

variable {dividend divisor quotient remainder : Int}

private theorem divisor_ne_zero
    (division : TruncatedDivision dividend divisor quotient remainder) :
    divisor ≠ 0 := by
  rintro rfl
  exact Nat.not_lt_zero _ division.natAbs_lt

private theorem remainder_nonneg
    (division : TruncatedDivision dividend divisor quotient remainder)
    (dividendNonneg : 0 ≤ dividend) :
    0 ≤ remainder := by
  rcases division.sign with isZero | sameSign
  · rw [isZero]
  · rw [← Int.sign_nonneg_iff, sameSign, Int.sign_nonneg_iff]
    exact dividendNonneg

private theorem remainder_nonpos
    (division : TruncatedDivision dividend divisor quotient remainder)
    (dividendNonpos : dividend ≤ 0) :
    remainder ≤ 0 := by
  rcases division.sign with isZero | sameSign
  · rw [isZero]
  · rw [← Int.sign_nonpos_iff, sameSign, Int.sign_nonpos_iff]
    exact dividendNonpos

/-- The remainder is on the same side of zero as the dividend, which leaves only
one multiple of the divisor to subtract. -/
theorem tdiv_eq
    (division : TruncatedDivision dividend divisor quotient remainder) :
    dividend.tdiv divisor = quotient := by
  have restored : remainder + divisor * quotient = dividend := by
    rw [division.dividend_eq, Int.mul_comm, Int.add_comm]
  have divisorNeZero := division.divisor_ne_zero
  have magnitude := division.natAbs_lt
  rcases Int.le_total 0 dividend with dividendNonneg | dividendNonpos
  · have remainderNonneg := division.remainder_nonneg dividendNonneg
    have upper : remainder < divisor.natAbs := by omega
    exact ((Int.tdiv_tmod_unique dividendNonneg divisorNeZero).mpr
      ⟨restored, remainderNonneg, upper⟩).1
  · have remainderNonpos := division.remainder_nonpos dividendNonpos
    have lower : -(divisor.natAbs : Int) < remainder := by omega
    exact ((Int.tdiv_tmod_unique' dividendNonpos divisorNeZero).mpr
      ⟨restored, lower, remainderNonpos⟩).1

end TruncatedDivision

private theorem truncatedDivision_tdiv
    (dividend : Int) {divisor : Int}
    (divisorNeZero : divisor ≠ 0) :
    TruncatedDivision dividend divisor
      (dividend.tdiv divisor) (dividend.tmod divisor) where
  dividend_eq :=
    (Int.tdiv_mul_add_tmod dividend divisor).symm
  natAbs_lt := by
    rw [Int.natAbs_tmod]
    exact Nat.mod_lt _ (Int.natAbs_pos.mpr divisorNeZero)
  sign := by
    by_cases divides : divisor ∣ dividend
    · exact Or.inl (Int.tmod_eq_zero_of_dvd divides)
    · exact Or.inr ((Int.sign_tmod dividend divisor).trans (if_neg divides))

/-- No quotient but the computed one goes with such a remainder.  By zero nothing
can be divided, since no remainder is small enough. -/
theorem quotient?_eq_some_iff
    {dividend divisor quotient : Int} :
    quotient? dividend divisor = some quotient ↔
      ∃ remainder,
        TruncatedDivision dividend divisor quotient remainder := by
  constructor
  · intro hasQuotient
    have divisorNeZero : divisor ≠ 0 := by
      intro isZero
      rw [(quotient?_eq_none_iff dividend divisor).mpr isZero] at hasQuotient
      cases hasQuotient
    rw [quotient?_of_ne_zero divisorNeZero] at hasQuotient
    cases hasQuotient
    exact ⟨_, truncatedDivision_tdiv dividend divisorNeZero⟩
  · rintro ⟨remainder, division⟩
    rw [quotient?_of_ne_zero division.divisor_ne_zero, division.tdiv_eq]

theorem quotient?_neg_left
    (dividend divisor : Int) :
    quotient? (-dividend) divisor = (quotient? dividend divisor).map (- ·) := by
  by_cases isZero : divisor = 0
  · rw [isZero, quotient?_zero, quotient?_zero, Option.map_none]
  · rw [quotient?_of_ne_zero isZero, quotient?_of_ne_zero isZero,
      Int.neg_tdiv, Option.map_some]

theorem quotient?_neg_right
    (dividend divisor : Int) :
    quotient? dividend (-divisor) = (quotient? dividend divisor).map (- ·) := by
  by_cases isZero : divisor = 0
  · rw [isZero, Int.neg_zero, quotient?_zero, Option.map_none]
  · rw [quotient?_of_ne_zero isZero,
      quotient?_of_ne_zero (Int.neg_ne_zero.mpr isZero),
      Int.tdiv_neg, Option.map_some]

/-- A divisor other than `1` and `-1` at least halves the magnitude, and only
the least word has a negative that is not a word. -/
theorem inRange_tdiv_iff
    {dividend divisor : Int}
    (inRange : InRange dividend)
    (divisorNeZero : divisor ≠ 0) :
    InRange (dividend.tdiv divisor) ↔
      ¬ (dividend = least ∧ divisor = -1) := by
  simp only [InRange, least, greatest] at inRange ⊢
  by_cases isUnit : divisor.natAbs = 1
  · rcases Int.natAbs_eq_iff.mp isUnit with rfl | rfl
    · rw [Int.natCast_one, Int.tdiv_one]
      omega
    · rw [Int.natCast_one, Int.tdiv_neg, Int.tdiv_one]
      omega
  · have halved :
        (dividend.tdiv divisor).natAbs ≤ dividend.natAbs / 2 := by
      rw [Int.natAbs_tdiv]
      exact Nat.div_le_div_left (by omega) (by decide)
    omega

/-! ## Both operations on all integers -/

/-- Wrapping finds the only word that is congruent modulo `2 ^ 32`.  It is
idempotent, changes an integer exactly if it is not a word, and respects sums,
differences and products.

By a divisor other than zero there is one quotient with a smaller remainder that
is zero or has the sign of the dividend, and it changes its sign with either
operand.  The quotient of a word is a word, and wrapping does not change it,
unless the least word is divided by minus one. -/
theorem arithmetic_laws :
    (∀ value word : Int,
      wrap value = word ↔
        (-2 ^ 31 ≤ word ∧ word ≤ 2 ^ 31 - 1) ∧
          word ≡ value [ZMOD 2 ^ 32]) ∧
    (∀ value : Int,
      wrap (wrap value) = wrap value ∧
        (wrap value = value ↔ -2 ^ 31 ≤ value ∧ value ≤ 2 ^ 31 - 1)) ∧
    (∀ left right : Int,
      wrap (wrap left + wrap right) = wrap (left + right) ∧
        wrap (wrap left - wrap right) = wrap (left - right) ∧
        wrap (wrap left * wrap right) = wrap (left * right)) ∧
    (∀ dividend divisor : Int, divisor ≠ 0 →
      ∃ quotient,
        quotient? dividend divisor = some quotient ∧
          (∀ candidate,
            (∃ remainder,
              TruncatedDivision dividend divisor candidate remainder) ↔
                candidate = quotient) ∧
          quotient? (-dividend) divisor = some (-quotient) ∧
          quotient? dividend (-divisor) = some (-quotient) ∧
          (-2 ^ 31 ≤ dividend → dividend ≤ 2 ^ 31 - 1 →
            ((-2 ^ 31 ≤ quotient ∧ quotient ≤ 2 ^ 31 - 1) ↔
              ¬ (dividend = -2 ^ 31 ∧ divisor = -1)) ∧
            (wrap quotient = quotient ↔
              ¬ (dividend = -2 ^ 31 ∧ divisor = -1)))) := by
  refine ⟨?_, ?_, ?_, ?_⟩
  · intro value word
    rw [wrap_eq_iff, inRange_iff, modulus_eq]
  · intro value
    exact ⟨wrap_wrap value, wrap_eq_self_iff.trans inRange_iff⟩
  · intro left right
    exact ⟨wrap_add left right, wrap_sub left right, wrap_mul left right⟩
  · intro dividend divisor divisorNeZero
    have hasQuotient :
        quotient? dividend divisor = some (dividend.tdiv divisor) :=
      quotient?_of_ne_zero divisorNeZero
    refine ⟨dividend.tdiv divisor, hasQuotient, ?_, ?_, ?_, ?_⟩
    · intro candidate
      rw [← quotient?_eq_some_iff, hasQuotient, Option.some.injEq, eq_comm]
    · rw [quotient?_neg_left, hasQuotient, Option.map_some]
    · rw [quotient?_neg_right, hasQuotient, Option.map_some]
    · intro lower upper
      have fits :=
        inRange_tdiv_iff (inRange_iff.mpr ⟨lower, upper⟩) divisorNeZero
      exact ⟨inRange_iff.symm.trans fits, wrap_eq_self_iff.trans fits⟩

/-- The quotient of nine and four under all signs, and the one quotient of words
that is wrapped. -/
theorem arithmetic_laws_leastByMinusOne :
    wrap 4294967295 = -1 ∧
      quotient? (-9) 4 = some (-2) ∧
      quotient? 9 4 = some 2 ∧
      quotient? (-9) (-4) = some 2 ∧
      quotient? (-2147483648) (-1) = some 2147483648 ∧
      wrap 2147483648 ≠ 2147483648 := by
  obtain ⟨wrapping, _, _, division⟩ := arithmetic_laws
  obtain ⟨small, hasSmall, smallUnique, negLeft, negRight, _⟩ :=
    division (-9) 4 (by decide)
  have smallEq : -2 = small :=
    (smallUnique (-2)).mp ⟨-1, by decide, by decide, by decide⟩
  obtain ⟨large, hasLarge, largeUnique, _, _, bounds⟩ :=
    division (-2147483648) (-1) (by decide)
  have largeEq : 2147483648 = large :=
    (largeUnique 2147483648).mp ⟨0, by decide, by decide, by decide⟩
  subst smallEq largeEq
  have wrapped := (bounds (by decide) (by decide)).2
  refine ⟨(wrapping 4294967295 (-1)).mpr (by decide), hasSmall, negLeft,
    negRight, hasLarge, ?_⟩
  intro same
  exact wrapped.mp same (by decide)

end Word

end LineCalculator
