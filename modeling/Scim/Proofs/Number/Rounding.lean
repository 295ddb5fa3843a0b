import Scim.Number

/-!
# Rounding integers to doubles

The double nearest to an integer has 53 significant bits, so integers below 2⁵³ are kept and larger ones lose their
last bits.  How many they lose grows with the integer.  What stays is the order: of two integers the smaller one is
not rounded above the larger one.  Where both are rounded to the same spacing, the quotients are ordered; where the
spacing changes in between, a power of two lies between the two, and it is a multiple of either spacing.

## Main results

* `round_mono`: rounding keeps the order of natural numbers.
* `unitsOfInt_mono`: so it does with the sign.
* `unitsOfInt_eq`: integers up to 2⁵³ keep their value.
-/

namespace Scim.Binary64

/-! ## Quotients -/

theorem roundDiv_mul (k : Nat) {den : Nat} (hden : 0 < den) : roundDiv (k * den) den = k := by
  have hne : (den == 0) = false := by
    rw [beq_eq_false_iff_ne]
    omega
  simp [roundDiv, Nat.mul_div_cancel k hden, Nat.mul_mod_left, hne]

/-- A quotient is rounded down or up by one. -/
theorem roundDiv_bounds (num den : Nat) : num / den ≤ roundDiv num den ∧ roundDiv num den ≤ num / den + 1 := by
  unfold roundDiv
  dsimp only
  split <;> omega

/-- With the same denominator, rounding keeps the order of quotients. -/
theorem roundDiv_mono {num other den : Nat} (h : num ≤ other) : roundDiv num den ≤ roundDiv other den := by
  have hdown : num / den ≤ other / den := Nat.div_le_div_right h
  rcases Nat.lt_or_eq_of_le hdown with hless | hsame
  · have hnum := (roundDiv_bounds num den).2
    have hother := (roundDiv_bounds other den).1
    omega
  · -- with equal quotients, what is left over decides
    have hrest : num % den ≤ other % den := by
      have hnum := Nat.div_add_mod num den
      have hother := Nat.div_add_mod other den
      rw [hsame] at hnum
      omega
    unfold roundDiv
    dsimp only
    rw [hsame]
    simp only [Bool.or_eq_true, Bool.and_eq_true, decide_eq_true_eq, beq_iff_eq]
    split
    · next hup =>
      split
      · omega
      · next hdown => omega
    · split <;> omega

/-! ## Natural numbers -/

/-- How far apart the doubles around a natural number are. -/
def spacing (n : Nat) : Nat := 1 <<< (n.log2 - 52)

theorem round_eq (n : Nat) : round n = roundDiv n (spacing n) * spacing n := rfl

theorem spacing_pos (n : Nat) : 0 < spacing n := by
  rw [spacing, Nat.one_shiftLeft]
  exact Nat.two_pow_pos _

theorem shiftLeft_add (j k : Nat) : 1 <<< (j + k) = 1 <<< j * 1 <<< k := by
  simp only [Nat.one_shiftLeft, Nat.pow_add]

theorem shiftLeft_mono {j k : Nat} (h : j ≤ k) : 1 <<< j ≤ 1 <<< k := by
  simp only [Nat.one_shiftLeft]
  exact Nat.pow_le_pow_right (by decide) h

/-- A multiple of the spacing that is not below a number is not below the number rounded. -/
theorem round_le_of_le_mul {n k : Nat} (h : n ≤ k * spacing n) : round n ≤ k * spacing n := by
  have hquotient := @roundDiv_mono n (k * spacing n) (spacing n) h
  rw [roundDiv_mul k (spacing_pos n)] at hquotient
  exact Nat.mul_le_mul_right _ hquotient

/-- One that is not above the number is not above the number rounded. -/
theorem le_round_of_mul_le {n k : Nat} (h : k * spacing n ≤ n) : k * spacing n ≤ round n := by
  have hquotient := @roundDiv_mono (k * spacing n) n (spacing n) h
  rw [roundDiv_mul k (spacing_pos n)] at hquotient
  exact Nat.mul_le_mul_right _ hquotient

/-- Powers of two from the leading bit on are multiples of the spacing. -/
theorem shiftLeft_eq_mul_spacing {n j : Nat} (h : n.log2 - 52 ≤ j) :
    1 <<< j = 1 <<< (j - (n.log2 - 52)) * spacing n := by
  rw [spacing, ← shiftLeft_add]
  congr 1
  omega

/-- Rounding keeps the order of natural numbers. -/
theorem round_mono {n m : Nat} (h : n ≤ m) : round n ≤ round m := by
  have hlog : n.log2 ≤ m.log2 := by
    rcases Nat.eq_zero_or_pos n with rfl | hpos
    · exact Nat.zero_le _
    · exact (Nat.le_log2 (by omega)).2 (Nat.le_trans (Nat.log2_self_le (by omega)) h)
  rcases Nat.lt_or_eq_of_le hlog with hless | hsame
  · have hm : m ≠ 0 := by
      rintro rfl
      exact Nat.not_lt_zero _ hless
    -- the leading power of two of the larger number separates the two
    have hbelow : n ≤ 1 <<< m.log2 := by
      have hlt : n < 1 <<< (n.log2 + 1) := by
        rw [Nat.one_shiftLeft]
        exact Nat.lt_log2_self
      exact Nat.le_trans (Nat.le_of_lt hlt) (shiftLeft_mono hless)
    have habove : 1 <<< m.log2 ≤ m := by
      rw [Nat.one_shiftLeft]
      exact Nat.log2_self_le hm
    calc round n ≤ 1 <<< m.log2 := by
          rw [@shiftLeft_eq_mul_spacing n _ (by omega)] at hbelow ⊢
          exact round_le_of_le_mul hbelow
      _ ≤ round m := by
          rw [@shiftLeft_eq_mul_spacing m _ (by omega)] at habove ⊢
          exact le_round_of_mul_le habove
  · have hspacing : spacing n = spacing m := by rw [spacing, spacing, hsame]
    rw [round_eq, round_eq, hspacing]
    exact Nat.mul_le_mul_right _ (roundDiv_mono h)

/-! ## Integers -/

/-- Rounding keeps the order of integers. -/
theorem unitsOfInt_mono {m n : Int} (h : m ≤ n) : unitsOfInt m ≤ unitsOfInt n := by
  have hunit : (0 : Int) ≤ unitsPerOne := Int.natCast_nonneg _
  unfold unitsOfInt
  refine Int.mul_le_mul_of_nonneg_right ?_ hunit
  split
  · split
    · have hround : round n.natAbs ≤ round m.natAbs := round_mono (by omega)
      omega
    · omega
  · have hround : round m.natAbs ≤ round n.natAbs := round_mono (by omega)
    rw [if_neg (by omega)]
    exact Int.ofNat_le.2 hround

/-- An integer that is rounded below another one is below it. -/
theorem lt_of_unitsOfInt_lt {m n : Int} (h : unitsOfInt m < unitsOfInt n) : m < n := by
  refine Int.not_le.1 fun hge => ?_
  exact absurd (unitsOfInt_mono hge) (Int.not_le.2 h)

/-- Integers of at most 53 bits keep their value. -/
theorem unitsOfInt_eq {n : Int} (h : n.natAbs ≤ 0x20000000000000) : unitsOfInt n = n * unitsPerOne := by
  have hround : round n.natAbs = n.natAbs := by
    rcases Nat.lt_or_eq_of_le h with hless | hlimit
    · exact round_eq_self hless
    · rw [hlimit]
      decide +kernel
  rw [unitsOfInt, hround]
  congr 1
  split <;> omega

end Scim.Binary64
