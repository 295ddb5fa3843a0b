/-!
# Finite double-precision numbers

A finite IEEE-754 binary64 number is a sign, an exponent field and a fraction field.  Every such number
is a whole multiple of `2⁻¹⁰⁷⁴`, so it is described without loss by an integer, `Binary64.units`, and
comparing, testing for zero and testing for a whole value are questions about integers.  Nothing here
rounds but `Binary64.ofInt?`, the nearest double of an integer, with a half going to the even neighbour.

## Main results

* `round_eq_self`: integers below `2⁵³` are not rounded.
* `ofBits?_toBits`: reading back the bit pattern of a number gives that number.
-/

namespace Scim

/-- A finite double: sign, biased exponent and fraction. -/
structure Binary64 where
  negative : Bool
  exponent : Nat
  fraction : Nat
  exponent_lt : exponent < 2047 := by omega
  fraction_lt : fraction < 0x10000000000000 := by omega
deriving DecidableEq, Repr

namespace Binary64

/-- The whole multiple of the spacing at this exponent; the leading bit is implicit unless the exponent
field is zero. -/
def significand (x : Binary64) : Nat :=
  if x.exponent = 0 then x.fraction else 0x10000000000000 + x.fraction

/-- The spacing at this exponent, as a power of two above the smallest one. -/
def scale (x : Binary64) : Nat := x.exponent - 1

/-- The absolute value, counted in units of `2⁻¹⁰⁷⁴`. -/
def magnitude (x : Binary64) : Nat := x.significand <<< x.scale

/-- How many units make one. -/
def unitsPerOne : Nat := 1 <<< 1074

/-- The exact value, counted in units of `2⁻¹⁰⁷⁴`.  The two zeros have the same value. -/
def units (x : Binary64) : Int := if x.negative then -x.magnitude else x.magnitude

/-! ## Bit patterns -/

/-- The number with a given bit pattern; the patterns of infinities and of no number have none. -/
def ofBits? (bits : Nat) : Option Binary64 :=
  if h : bits >>> 52 % 2048 < 2047 then
    some ⟨bits >>> 63 % 2 = 1, bits >>> 52 % 2048, bits % 0x10000000000000, h, Nat.mod_lt _ (by decide)⟩
  else none

/-- The bit pattern: sign, exponent field, fraction field. -/
def toBits (x : Binary64) : Nat :=
  (if x.negative then 0x8000000000000000 else 0) + x.exponent <<< 52 + x.fraction

theorem ofBits?_toBits (x : Binary64) : ofBits? x.toBits = some x := by
  obtain ⟨s, e, f, he, hf⟩ := x
  have h1 : toBits ⟨s, e, f, he, hf⟩ >>> 52 % 2048 = e := by
    cases s <;> simp [toBits] <;> omega
  have h2 : toBits ⟨s, e, f, he, hf⟩ % 0x10000000000000 = f := by
    cases s <;> simp [toBits] <;> omega
  have h3 : toBits ⟨s, e, f, he, hf⟩ >>> 63 % 2 = if s then 1 else 0 := by
    cases s <;> simp [toBits] <;> omega
  simp only [ofBits?, h1, h2, h3, he, dif_pos]
  cases s <;> simp

/-! ## Integers -/

/-- A quotient rounded to the nearest integer, a half to the even one. -/
def roundDiv (num den : Nat) : Nat :=
  let down := num / den
  let rest := 2 * (num % den)
  if den < rest || (den == rest && down % 2 == 1) then down + 1 else down

/-- A natural number rounded to 53 significant bits. -/
def round (n : Nat) : Nat :=
  let spacing := 1 <<< (n.log2 - 52)
  roundDiv n spacing * spacing

theorem round_eq_self {n : Nat} (h : n < 0x20000000000000) : round n = n := by
  have hl : n.log2 - 52 = 0 := by
    by_cases h0 : n = 0
    · subst h0; decide
    · have : n.log2 < 53 := (Nat.log2_lt h0).2 (by omega)
      omega
  simp [round, roundDiv, hl, Nat.mod_one]

/-- The double with the value of a natural number that needs no rounding. -/
private def ofRounded? (negative : Bool) (n : Nat) : Option Binary64 :=
  if n = 0 then some { negative, exponent := 0, fraction := 0 }
  else if h : n.log2 + 1023 < 2047 then
    some ⟨negative, n.log2 + 1023, (n <<< 52) >>> n.log2 % 0x10000000000000, h, Nat.mod_lt _ (by decide)⟩
  else none

/-- The double nearest to an integer, if the integer is in reach. -/
def ofInt? (n : Int) : Option Binary64 := ofRounded? (n < 0) (round n.natAbs)

/-- The value of the double nearest to an integer, in units. -/
def unitsOfInt (n : Int) : Int := (if n < 0 then -(round n.natAbs : Int) else round n.natAbs) * unitsPerOne

/-- The double nearest to an integer is zero if the integer counts as zero. -/
theorem units_of_ofInt? {n : Int} (hzero : unitsOfInt n = 0) {x : Binary64} (h : ofInt? n = some x) :
    x.units = 0 := by
  have hround : round n.natAbs = 0 := by
    have hone : (unitsPerOne : Int) ≠ 0 := by decide
    rcases Int.mul_eq_zero.1 hzero with hvalue | hunit
    · split at hvalue <;> omega
    · exact absurd hunit hone
  rw [ofInt?, hround, ofRounded?, if_pos rfl] at h
  cases h
  cases h : decide (n < 0) <;> simp [units, magnitude, significand]

/-- The integer that a double is equal to, if there is one. -/
def toInt? (x : Binary64) : Option Int :=
  if x.units % unitsPerOne = 0 then some (x.units / unitsPerOne) else none

end Binary64

end Scim
