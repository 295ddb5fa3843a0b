import Scim.Number.Shortest

/-!
# Numbers of a document

A document tells integers from doubles by the way they are written: `4` and `4.0` are different numbers
and not equal, though they have the same value as doubles.  Sorting and truth look at the value as a
double; an attribute of an integer type turns a double into an integer where that loses nothing, and one
of a decimal type turns an integer into the nearest double.

## Main results

* `same_comm`, `same_refl`: equality of numbers is symmetric and reflexive.
* `isZero_preferFloat`, `isZero_preferInt`: what counts as zero does so in the other form.
-/

namespace Scim

/-- An integer or a finite double. -/
inductive Number where
  | int (n : Int)
  | float (x : Binary64)
deriving DecidableEq, Repr

namespace Number

/-- Equality of numbers: integers with integers and doubles with doubles, zero with minus zero. -/
def same : Number → Number → Bool
  | .int m, .int n => m == n
  | .float x, .float y => x.units == y.units
  | _, _ => false

/-- The value as a double, counted in units of `2⁻¹⁰⁷⁴`. -/
def units : Number → Int
  | .int n => Binary64.unitsOfInt n
  | .float x => x.units

/-- Whether the value as a double is zero. -/
def isZero (n : Number) : Bool := n.units == 0

/-- The integer of the same value, if the number is a double with a whole value that fits into a signed
64-bit word; every other number is kept. -/
def preferInt : Number → Number
  | .int n => .int n
  | .float x =>
    match x.toInt? with
    | some n => if -0x8000000000000000 ≤ n ∧ n < 0x8000000000000000 then .int n else .float x
    | none => .float x

/-- The double nearest to the number; an integer out of reach of all doubles is kept. -/
def preferFloat : Number → Number
  | .int n => ((Binary64.ofInt? n).map .float).getD (.int n)
  | .float x => .float x

/-- The number in writing. -/
def text : Number → String
  | .int n => toString n
  | .float x => x.text

theorem same_refl (n : Number) : n.same n = true := by
  cases n <;> simp [same]

/-- Turning a number into a double keeps zero. -/
theorem isZero_preferFloat {n : Number} (h : n.isZero = true) : n.preferFloat.isZero = true := by
  cases n with
  | float x => exact h
  | int n =>
    have hunits : Binary64.unitsOfInt n = 0 := by simpa [isZero, units] using h
    rw [preferFloat]
    cases hx : Binary64.ofInt? n with
    | none => exact h
    | some x =>
      show (x.units == 0) = true
      rw [Binary64.units_of_ofInt? hunits hx]
      rfl

/-- So does turning it into an integer. -/
theorem isZero_preferInt {n : Number} (h : n.isZero = true) : n.preferInt.isZero = true := by
  cases n with
  | int n => exact h
  | float x =>
    have hunits : x.units = 0 := by simpa [isZero, units] using h
    have hwhole : x.toInt? = some 0 := by
      rw [Binary64.toInt?, hunits]
      rfl
    rw [preferInt, hwhole]
    rfl

theorem same_comm (m n : Number) : m.same n = n.same m := by
  cases m <;> cases n <;> simp [same, BEq.comm]

theorem same_trans {a b c : Number} (hleft : a.same b = true) (hright : b.same c = true) : a.same c = true := by
  cases a <;> cases b <;> cases c <;> simp_all [same]

end Number

end Scim
