/-!
# Punycode

The encoding of Unicode text in the letters, digits and hyphens of a domain label.  The ASCII
characters of the text stand in front of the last hyphen; after it, numbers of variable length in base 36
say which other characters are to be inserted and where.  The digit that ends a number depends on a bias
that adapts to the sizes of the numbers before it.

Decoding reads the digits one by one, so it ends with the text.
-/

namespace Scim.Url.Punycode

/-- The value of a digit in base 36: letters, in any case, before numerals. -/
def digit? (c : Char) : Option Nat :=
  if c.isLower then some (c.toNat - 97)
  else if c.isUpper then some (c.toNat - 65)
  else if c.isDigit then some (c.toNat - 48 + 26)
  else none

/-- Below which value the digit at position `k` ends a number. -/
def threshold (k bias : Nat) : Nat :=
  if k ≤ bias then 1 else if bias + 26 ≤ k then 26 else k - bias

/-- Divides a number by 35 until it is at most 455, and counts 36 for each division. -/
def settle (delta k : Nat) : Nat × Nat :=
  if 455 < delta then settle (delta / 35) (k + 36) else (delta, k)
termination_by delta
decreasing_by exact Nat.div_lt_self (by omega) (by omega)

/-- The bias after a number, given how long the text has become. -/
def adapt (delta length : Nat) (first : Bool) : Nat :=
  let delta := if first then delta / 700 else delta / 2
  let (delta, k) := settle (delta + delta / length) 0
  k + 36 * delta / (delta + 38)

/-- The character with a code point, if there is one. -/
def char? (n : Nat) : Option Char := if n.isValidChar then some (Char.ofNat n) else none

/-- A text being decoded. -/
structure Decoding where
  /-- The characters so far. -/
  text : List Char
  /-- The next code point to insert. -/
  point : Nat := 128
  /-- Where it is to be inserted. -/
  position : Nat := 0
  bias : Nat := 72
  /-- The position before the number that is being read. -/
  start : Nat := 0
  /-- The value of the next digit of that number. -/
  weight : Nat := 1
  /-- The index of the next digit of that number, counted in steps of 36. -/
  index : Nat := 36

/-- Reads one digit.  The digit that ends a number inserts a character. -/
def Decoding.step (d : Decoding) (digit : Nat) : Option Decoding :=
  let position := d.position + digit * d.weight
  let t := threshold d.index d.bias
  if 0x100000000 ≤ position then none
  else if digit < t then do
    let length := d.text.length + 1
    let point := d.point + position / length
    let c ← char? point
    let place := position % length
    some {
      text := d.text.take place ++ c :: d.text.drop place
      point
      position := place + 1
      bias := adapt (position - d.start) length (d.start == 0)
      start := place + 1 }
  else some { d with position, weight := d.weight * (36 - t), index := d.index + 36 }

/-- Reads digits to the end of the text, which must also be the end of a number. -/
def Decoding.run (d : Decoding) : List Char → Option (List Char)
  | [] => if d.index = 36 then some d.text else none
  | c :: cs => do
    let digit ← digit? c
    let next ← d.step digit
    next.run cs

/-- What stands before and after the last hyphen; a hyphen at the very start separates nothing. -/
def splitBasic (cs : List Char) : List Char × List Char :=
  let digits := (cs.reverse.takeWhile (· != '-')).reverse
  let basic := cs.take (cs.length - digits.length - 1)
  if basic.isEmpty then ([], cs) else (basic, digits)

/-- The text that a label encodes. -/
def decode? (cs : List Char) : Option (List Char) :=
  let (basic, digits) := splitBasic cs
  { text := basic : Decoding }.run digits

end Scim.Url.Punycode
