/-!
# Base64

The standard alphabet with padding: every four characters stand for three bytes, and the last group may
stand for one or two, padded with `=`.  A padded group encodes its bytes in one way only, since the bits
that are left over have to be zero.
-/

namespace Scim.Base64

/-- The value of a character of the alphabet. -/
def sextet? (c : Char) : Option Nat :=
  if c.isUpper then some (c.toNat - 65)
  else if c.isLower then some (c.toNat - 97 + 26)
  else if c.isDigit then some (c.toNat - 48 + 52)
  else if c = '+' then some 62
  else if c = '/' then some 63
  else none

/-- The bytes that a text encodes. -/
def decode? : List Char → Option (List Nat)
  | [] => some []
  | [a, b, '=', '='] => do
    let a ← sextet? a
    let b ← sextet? b
    if b % 16 = 0 then some [a * 4 + b / 16] else none
  | [a, b, c, '='] => do
    let a ← sextet? a
    let b ← sextet? b
    let c ← sextet? c
    if c % 4 = 0 then some [a * 4 + b / 16, b % 16 * 16 + c / 4] else none
  | a :: b :: c :: d :: rest => do
    let a ← sextet? a
    let b ← sextet? b
    let c ← sextet? c
    let d ← sextet? d
    let bytes ← decode? rest
    some ([a * 4 + b / 16, b % 16 * 16 + c / 4, c % 4 * 64 + d] ++ bytes)
  | _ => none

/-- Whether a text is an encoding. -/
def encodes (text : String) : Bool := (decode? text.toList).isSome

end Scim.Base64
