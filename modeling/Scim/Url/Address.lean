import Scim.Text.Split

/-!
# Numeric hosts

The two forms of internet address in a URL.  An IPv4 address has up to four parts, decimal, octal with a
leading `0` or hexadecimal with a leading `0x`; the last part fills all bytes that the others leave.  An
IPv6 address in brackets has eight pieces of four hexadecimal digits, one run of zero pieces may be left
out, and the last two pieces may be written as an IPv4 address with four decimal parts.
-/

namespace Scim.Url

open Text

/-! ## IPv4 -/

/-- The value of a digit in base 16. -/
def hexDigit? (c : Char) : Option Nat :=
  if c.isDigit then some (c.toNat - 48)
  else if 'a' ≤ c ∧ c ≤ 'f' then some (c.toNat - 87)
  else if 'A' ≤ c ∧ c ≤ 'F' then some (c.toNat - 55)
  else none

/-- The number that digits denote in a base up to 16. -/
def ofDigits? (base : Nat) (cs : List Char) : Option Nat :=
  cs.foldlM (fun n c => do
    let digit ← hexDigit? c
    if digit < base then some (n * base + digit) else none) 0

/-- The number that a part of an address denotes.  A mere sign of the base denotes zero. -/
def partValue? : List Char → Option Nat
  | [] => none
  | '0' :: 'x' :: digits => ofDigits? 16 digits
  | '0' :: 'X' :: digits => ofDigits? 16 digits
  | ['0'] => some 0
  | '0' :: digits => ofDigits? 8 digits
  | digits => ofDigits? 10 digits

/-- The parts between full stops, without an empty one at the end. -/
def addressParts (cs : List Char) : List (List Char) :=
  let parts := splitAll '.' cs
  if parts.getLast? = some [] then parts.dropLast else parts

/-- Whether a domain has to be read as an IPv4 address: its last part is a number. -/
def endsInNumber (cs : List Char) : Bool :=
  match (addressParts cs).getLast? with
  | none => false
  | some last => (!last.isEmpty && last.all Char.isDigit) || (partValue? last).isSome

/-- Whether a text is an IPv4 address. -/
def isIpv4 (cs : List Char) : Bool :=
  let parts := addressParts cs
  match parts.mapM partValue? with
  | none => false
  | some numbers =>
    match numbers.getLast? with
    | none => false
    | some last =>
      numbers.length ≤ 4 && numbers.dropLast.all (· ≤ 255) && last < 1 <<< (8 * (5 - numbers.length))

/-! ## IPv6 -/

/-- Whether a text is one decimal part of the address at the end of an IPv6 address. -/
def isDecimalByte (cs : List Char) : Bool :=
  match cs with
  | ['0'] => true
  | '0' :: _ => false
  | _ => !cs.isEmpty && cs.length ≤ 3 && cs.all Char.isDigit && (ofDigits? 10 cs).any (· ≤ 255)

/-- Whether a text is four decimal bytes. -/
def isDottedQuad (cs : List Char) : Bool :=
  let parts := splitAll '.' cs
  parts.length = 4 && parts.all isDecimalByte

/-- Whether a text is one to four hexadecimal digits. -/
def isPiece (cs : List Char) : Bool :=
  1 ≤ cs.length && cs.length ≤ 4 && cs.all fun c => (hexDigit? c).isSome

/-- The number of pieces of which some colon-separated text consists, the last two perhaps written as
decimal bytes; none if it is malformed. -/
def countPieces? : List (List Char) → Option Nat
  | [] => some 0
  | [last] => if isPiece last then some 1 else if isDottedQuad last then some 2 else none
  | piece :: pieces => if isPiece piece then (countPieces? pieces).map (· + 1) else none

/-- The text before and after the first run of two colons. -/
def splitDoubleColon : List Char → Option (List Char × List Char)
  | [] => none
  | ':' :: ':' :: rest => some ([], rest)
  | c :: rest => (splitDoubleColon rest).map fun (left, right) => (c :: left, right)

/-- The pieces of a text, of which the empty text has none. -/
def pieces (cs : List Char) : List (List Char) := if cs.isEmpty then [] else splitAll ':' cs

/-- Whether a text is an IPv6 address. -/
def isIpv6 (cs : List Char) : Bool :=
  match splitDoubleColon cs with
  | none => countPieces? (pieces cs) == some 8
  | some (left, right) =>
    (pieces left).all isPiece &&
      match countPieces? (pieces right) with
      | some n => (pieces left).length + n ≤ 7
      | none => false

end Scim.Url
