import Scim.Number

/-!
# Exact values of numbers

A number has an exact value: an integer is itself, and a double is a whole multiple of 2⁻¹⁰⁷⁴.  An attribute of an
integer type turns doubles into integers only where this keeps the exact value, which it does for the whole ones
among the doubles, minus zero included, as long as they fit into a signed 64-bit word.  An attribute of a decimal type
rounds integers to doubles, so it need not keep the value.  Either form is kept once it is there.

No two doubles have the same exact value, but for the two zeros: the values of each exponent lie below those of the
next one.

## Main results

* `toInt?_eq_some_iff`: the doubles that are integers.
* `Binary64.eq_of_units`, `Number.eq_of_same`: numbers other than zero are equal only to themselves.
* `asInteger_preferInt`: what becomes of a number under an integer type.
* `preferInt_preferInt`, `preferFloat_preferFloat`: a number takes a form once and for all.
-/

namespace Scim

/-- A double is an integer if its value is that of the integer. -/
theorem Binary64.toInt?_eq_some_iff {x : Binary64} {n : Int} : x.toInt? = some n ↔ x.units = n * unitsPerOne := by
  have hone : (unitsPerOne : Int) ≠ 0 := by decide
  rw [toInt?]
  constructor
  · intro h
    split at h
    · next hwhole =>
      cases h
      exact (Int.ediv_mul_cancel (Int.dvd_of_emod_eq_zero hwhole)).symm
    · cases h
  · intro h
    rw [h, Int.mul_emod_left, if_pos rfl, Int.mul_ediv_cancel n hone]

/-! ## Doubles of the same value -/

namespace Binary64

variable {x y : Binary64}

theorem magnitude_lt (x : Binary64) : x.magnitude < 0x10000000000000 <<< x.exponent := by
  have hfraction := x.fraction_lt
  rw [magnitude, significand, scale, Nat.shiftLeft_eq, Nat.shiftLeft_eq]
  cases x.exponent with
  | zero => simpa using hfraction
  | succ e =>
    rw [if_neg (Nat.succ_ne_zero e), Nat.add_sub_cancel, Nat.pow_succ', ← Nat.mul_assoc]
    exact Nat.mul_lt_mul_of_pos_right (by omega) (Nat.two_pow_pos e)

theorem le_magnitude {e : Nat} (h : x.exponent = e + 1) : 0x10000000000000 <<< e ≤ x.magnitude := by
  rw [magnitude, significand, scale, h, if_neg (Nat.succ_ne_zero e), Nat.add_sub_cancel, Nat.shiftLeft_eq,
    Nat.shiftLeft_eq]
  exact Nat.mul_le_mul_right _ (Nat.le_add_right _ _)

/-- The values of one exponent end where those of the next one begin. -/
theorem magnitude_lt_of_exponent (h : x.exponent < y.exponent) : x.magnitude < y.magnitude := by
  obtain ⟨e, he⟩ := Nat.exists_eq_succ_of_ne_zero (Nat.ne_zero_of_lt h)
  calc x.magnitude < 0x10000000000000 <<< x.exponent := x.magnitude_lt
    _ ≤ 0x10000000000000 <<< e := by
      rw [Nat.shiftLeft_eq, Nat.shiftLeft_eq]
      exact Nat.mul_le_mul_left _ (Nat.pow_le_pow_right (by decide) (by omega))
    _ ≤ y.magnitude := le_magnitude he

/-- Doubles of the same absolute value differ in nothing but their sign. -/
theorem fields_of_magnitude (h : x.magnitude = y.magnitude) : x.exponent = y.exponent ∧ x.fraction = y.fraction := by
  have hexponent : x.exponent = y.exponent := by
    rcases Nat.lt_trichotomy x.exponent y.exponent with hless | hsame | hmore
    · exact absurd h (Nat.ne_of_lt (magnitude_lt_of_exponent hless))
    · exact hsame
    · exact absurd h (Nat.ne_of_gt (magnitude_lt_of_exponent hmore))
  refine ⟨hexponent, ?_⟩
  rw [magnitude, magnitude, Nat.shiftLeft_eq, Nat.shiftLeft_eq, scale, scale, hexponent] at h
  have hsignificand := Nat.eq_of_mul_eq_mul_right (Nat.two_pow_pos _) h
  rw [significand, significand, hexponent] at hsignificand
  split at hsignificand <;> omega

theorem natAbs_units (x : Binary64) : x.units.natAbs = x.magnitude := by
  unfold units
  split <;> simp

/-- Doubles of the same value are the same one, if they are not zero. -/
theorem eq_of_units (h : x.units = y.units) (hzero : x.units ≠ 0) : x = y := by
  have hmagnitude : x.magnitude = y.magnitude := by rw [← natAbs_units, ← natAbs_units, h]
  have hpositive : x.magnitude ≠ 0 := by rwa [← natAbs_units, Int.natAbs_ne_zero]
  have hsign : x.negative = y.negative := by
    unfold units at h
    cases hx : x.negative <;> cases hy : y.negative <;> simp [hx, hy] at h ⊢ <;> omega
  obtain ⟨hexponent, hfraction⟩ := fields_of_magnitude hmagnitude
  cases x
  cases y
  simp_all

end Binary64

namespace Number

/-- Equal numbers are the same one, if they are not zero. -/
theorem eq_of_same {m n : Number} (h : m.same n = true) (hzero : m.isZero = false) : m = n := by
  cases m with
  | int i =>
    cases n with
    | int j => rw [beq_iff_eq.1 h]
    | float y => cases h
  | float x =>
    cases n with
    | int j => cases h
    | float y => rw [Binary64.eq_of_units (beq_iff_eq.1 h) (beq_eq_false_iff_ne.1 hzero)]

/-! ## Taking one form -/

/-- The exact value of a number, counted in units of `2⁻¹⁰⁷⁴`. -/
def exact : Number → Int
  | .int n => n * Binary64.unitsPerOne
  | .float x => x.units

/-- The integer fits into a signed 64-bit word. -/
def InWord (n : Int) : Prop := -0x8000000000000000 ≤ n ∧ n < 0x8000000000000000

/-- What an integer type makes of a number: its exact value stays; an integer is kept; a double of a whole value that
fits into a word becomes the integer of the same value; and every other double is kept. -/
structure AsInteger (before after : Number) : Prop where
  exact : after.exact = before.exact
  int : ∀ n, before = .int n → after = .int n
  whole : ∀ x n, before = .float x → x.units = n * Binary64.unitsPerOne → InWord n → after = .int n
  other : ∀ x, before = .float x → (∀ n, InWord n → x.units ≠ n * Binary64.unitsPerOne) → after = .float x

theorem preferInt_whole {x : Binary64} {n : Int} (hwhole : x.units = n * Binary64.unitsPerOne) (hword : InWord n) :
    preferInt (.float x) = .int n := by
  rw [preferInt, Binary64.toInt?_eq_some_iff.2 hwhole]
  exact if_pos hword

theorem preferInt_other {x : Binary64} (h : ∀ n, InWord n → x.units ≠ n * Binary64.unitsPerOne) :
    preferInt (.float x) = .float x := by
  rw [preferInt]
  split
  · next n hwhole =>
    refine if_neg fun hword => ?_
    exact h n hword (Binary64.toInt?_eq_some_iff.1 hwhole)
  · rfl

/-- Either a double is turned into the integer that it is, or nothing is done. -/
theorem preferInt_cases (n : Number) :
    (∃ x m, n = .float x ∧ x.units = m * Binary64.unitsPerOne ∧ n.preferInt = .int m) ∨ n.preferInt = n := by
  cases n with
  | int n => exact .inr rfl
  | float x =>
    by_cases hwhole : ∃ m, InWord m ∧ x.units = m * Binary64.unitsPerOne
    · obtain ⟨m, hword, hunits⟩ := hwhole
      exact .inl ⟨x, m, rfl, hunits, preferInt_whole hunits hword⟩
    · exact .inr (preferInt_other fun m hword hunits => hwhole ⟨m, hword, hunits⟩)

theorem exact_preferInt (n : Number) : n.preferInt.exact = n.exact := by
  rcases preferInt_cases n with ⟨x, m, rfl, hunits, hturned⟩ | hkept
  · rw [hturned]
    exact hunits.symm
  · rw [hkept]

/-- Under an integer type a number is converted as it should be. -/
theorem asInteger_preferInt (n : Number) : n.AsInteger n.preferInt where
  exact := exact_preferInt n
  int := by
    rintro m rfl
    rfl
  whole := by
    rintro x m rfl hwhole hword
    exact preferInt_whole hwhole hword
  other := by
    rintro x rfl hother
    exact preferInt_other hother

/-- A number that was turned into an integer, or could not be, stays as it is. -/
theorem preferInt_preferInt (n : Number) : n.preferInt.preferInt = n.preferInt := by
  rcases preferInt_cases n with ⟨x, m, -, -, hturned⟩ | hkept
  · rw [hturned, preferInt]
  · rw [hkept, hkept]

/-- So does one that was turned into a double. -/
theorem preferFloat_preferFloat (n : Number) : n.preferFloat.preferFloat = n.preferFloat := by
  cases n with
  | float x => rfl
  | int n =>
    cases hfloat : Binary64.ofInt? n with
    | none =>
      have hkept : preferFloat (.int n) = .int n := by simp [preferFloat, hfloat]
      rw [hkept, hkept]
    | some x =>
      have hturned : preferFloat (.int n) = .float x := by simp [preferFloat, hfloat]
      rw [hturned, preferFloat]

/-- Of an integer of more than 53 bits a decimal type does not keep the value. -/
example : (Number.int 0x20000000000001).preferFloat.exact ≠ (Number.int 0x20000000000001).exact := by decide +kernel

end Number

end Scim
