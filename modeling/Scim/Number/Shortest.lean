import Scim.Number.Binary64

/-!
# Shortest decimal text

A double is written with the fewest decimal digits that read back as the same double, and among those
with the digits nearest to its value.  The reals that read back as `x` form an interval around `x` that
reaches half way to the neighbouring doubles, ends included when the significand of `x` is even.  For one
digit, two digits, and so on, the two points of the decimal grid next to `x` are tested; if a grid has any
point inside the interval, it has one of these two.

All quantities are whole numbers of `2⁻¹⁰⁷⁶`, a quarter of the smallest spacing, so the half-way points
are whole as well.
-/

namespace Scim

/-- A positive decimal number `digits · 10^exponent`. -/
structure Decimal where
  digits : Nat
  exponent : Int
deriving DecidableEq, Repr

namespace Decimal

/-- A power of ten. -/
def tenTo (e : Nat) : Nat := Nat.pow 10 e

/-- Whether `d · 10^e` lies below `v` quarter units (at most at it, if ends are included). -/
private def atMost (inclusive : Bool) (d : Nat) (e : Int) (v : Nat) : Bool :=
  let left := (d * tenTo e.toNat) <<< 1076
  let right := v * tenTo (-e).toNat
  if inclusive then left ≤ right else left < right

/-- The interval of reals that read back as one double, in quarter units. -/
structure Interval where
  low : Nat
  value : Nat
  high : Nat
  inclusive : Bool

/-- The interval of a nonzero double.  Below a power of two the doubles are spaced half as wide. -/
def Interval.of (x : Binary64) : Interval :=
  let spacing := 1 <<< x.scale
  let value := 4 * x.significand * spacing
  { low := value - (if x.fraction = 0 ∧ 1 < x.exponent then spacing else 2 * spacing)
    value
    high := value + 2 * spacing
    inclusive := x.significand % 2 == 0 }

/-- Whether `d · 10^e` lies in an interval. -/
def Interval.contains (i : Interval) (d : Nat) (e : Int) : Bool :=
  atMost i.inclusive d e i.high && !atMost (!i.inclusive) d e i.low

/-- The largest `e` from `e` downwards with `10^e` not above the value. -/
private def leading (v : Nat) : Nat → Int → Int
  | 0, e => e
  | fuel + 1, e => if atMost true 1 e v then e else leading v fuel (e - 1)

/-- How often `10^e` goes into `v` quarter units. -/
private def gridBelow (v : Nat) (e : Int) : Nat :=
  v * tenTo (-e).toNat / (tenTo e.toNat <<< 1076)

/-- Of the two points of the grid of step `10^e` next to the value, the one to be written: the nearer one
if both lie in the interval, the even one if neither is nearer. -/
def Interval.choose? (i : Interval) (e : Int) : Option Decimal :=
  let down := gridBelow i.value e
  let up := down + 1
  match i.contains down e, i.contains up e with
  | false, false => none
  | true, false => some ⟨down, e⟩
  | false, true => some ⟨up, e⟩
  | true, true =>
    let middle := 2 * down + 1
    let twice := 2 * i.value
    if atMost false middle e twice then some ⟨up, e⟩
    else if atMost true middle e twice then some ⟨if down % 2 = 0 then down else up, e⟩
    else some ⟨down, e⟩

/-- The first grid, coarsest first, that has a point in the interval. -/
private def search (i : Interval) : Nat → Int → Decimal
  | 0, e => ⟨gridBelow i.value e, e⟩
  | fuel + 1, e => (i.choose? e).getD (search i fuel (e - 1))

/-- The shortest decimal that reads back as a nonzero double.  Seventeen digits always suffice. -/
def shortest (x : Binary64) : Decimal :=
  let i := Interval.of x
  search i 17 (leading i.value 640 309)

/-! ## Text -/

/-- The digits without trailing zeros, and how many were dropped. -/
private def trim : List Char → List Char × Nat
  | [] => ([], 0)
  | c :: cs =>
    match trim cs with
    | ([], n) => if c = '0' then ([], n + 1) else ([c], n)
    | (ds, n) => (c :: ds, n)

/-- A positive decimal in writing.  Positional notation reaches from five places after the point to sixteen
before it and has a digit on both sides of the point; beyond, one digit stands before the point and an
exponent after. -/
def text (d : Decimal) : List Char :=
  let (ds, zeros) := trim (toString d.digits).toList
  let point : Int := ds.length + d.exponent + zeros
  if 0 < point ∧ point ≤ 16 then
    let whole := point.toNat
    if ds.length ≤ whole then ds ++ List.replicate (whole - ds.length) '0' ++ ['.', '0']
    else ds.take whole ++ ['.'] ++ ds.drop whole
  else if -5 < point ∧ point ≤ 0 then ['0', '.'] ++ List.replicate (-point).toNat '0' ++ ds
  else
    (match ds with
      | [] => []
      | [c] => [c]
      | c :: rest => c :: '.' :: rest) ++ 'e' :: (toString (point - 1)).toList

end Decimal

/-- A double in writing: shortest digits, a sign if it is negative, and the sign of a zero kept. -/
def Binary64.text (x : Binary64) : String :=
  String.ofList <|
    (if x.negative then ['-'] else [])
      ++ (if x.magnitude = 0 then ['0', '.', '0'] else (Decimal.shortest x).text)

end Scim
