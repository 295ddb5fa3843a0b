import Scim.Url.Address
import Scim.Url.Domain

/-!
# URLs with a host

A reference to something outside the service is an absolute URL that names a host.  Text is read as a
browser reads it: blanks and control characters around it are dropped, and so are tabs and line breaks
anywhere.  A scheme and a colon come first.  For the schemes of the web (`http`, `https`, `ws`, `wss`,
`ftp`) an authority follows, however many slashes of whichever kind stand before it; for any other scheme it
follows two slashes.  The authority may start with user information up to its last `@`, and ends with the
host and perhaps a port.

The host of a web scheme is an address or an international domain, with percent-encoding undone; the host of
another scheme is an address in brackets or any text without delimiters.  In a `file` URL the host
`localhost` counts as none, and so does any host before a path that starts with a drive letter.
-/

namespace Scim.Url

open Text

/-! ## Parts -/

/-- The text without blanks and control characters around it, and without tabs and line breaks. -/
def tidy (cs : List Char) : List Char :=
  let outer : Char → Bool := fun c => c.toNat ≤ 0x20
  let inner := ((cs.dropWhile outer).reverse.dropWhile outer).reverse
  inner.filter fun c => c != '\t' && c != '\n' && c != '\r'

/-- The characters of a scheme after its first. -/
def isSchemeChar (c : Char) : Bool := c.isAlphanum || c == '+' || c == '-' || c == '.'

/-- The scheme in lower case and what follows its colon. -/
def splitScheme (cs : List Char) : Option (List Char × List Char) :=
  match splitFirst ':' cs with
  | some (c :: scheme, rest) =>
    if c.isAlpha && scheme.all isSchemeChar then some ((c :: scheme).map Char.toLower, rest) else none
  | _ => none

/-- How an authority is written under a scheme. -/
inductive SchemeKind where
  | file
  /-- The other schemes of the web. -/
  | web
  | other
deriving DecidableEq

/-- The kind of a scheme in lower case. -/
def SchemeKind.of (scheme : List Char) : SchemeKind :=
  if scheme == "file".toList then .file
  else if ["http", "https", "ws", "wss", "ftp"].any fun s => scheme == s.toList then .web
  else .other

/-- The characters that end an authority. -/
def endsAuthority (kind : SchemeKind) (c : Char) : Bool :=
  c == '/' || c == '?' || c == '#' || (c == '\\' && kind != .other)

/-- What stands behind the user information of an authority. -/
def afterUserInfo (authority : List Char) : List Char :=
  match splitLast '@' authority with
  | some (_, rest) => rest
  | none => authority

/-- Cuts an authority at the colon of its port; colons between brackets belong to the host. -/
def splitPort (inBrackets : Bool) : List Char → List Char × Option (List Char)
  | [] => ([], none)
  | c :: cs =>
    if c == ':' && !inBrackets then ([], some cs)
    else
      let (host, port) := splitPort (if c == '[' then true else if c == ']' then false else inBrackets) cs
      (c :: host, port)

/-- Whether a text is a port, which may be empty.  Behind it even a backslash may follow. -/
def isPort (cs : List Char) : Bool :=
  let digits := cs.takeWhile (· != '\\')
  digits.all Char.isDigit && (ofDigits? 10 digits).any (· ≤ 65535)

/-! ## Hosts -/

/-- The bytes of a text with percent-encoding undone. -/
def percentDecode : List Char → List UInt8
  | [] => []
  | '%' :: a :: b :: rest =>
    match hexDigit? a, hexDigit? b with
    | some high, some low => UInt8.ofNat (high * 16 + low) :: percentDecode rest
    | _, _ => '%'.toNat.toUInt8 :: percentDecode (a :: b :: rest)
  | c :: rest => (String.singleton c).toUTF8.toList ++ percentDecode rest

/-- An address in brackets, if the text starts with one. -/
def isBracketed (cs : List Char) : Bool := cs.getLast? == some ']' && isIpv6 (cs.drop 1).dropLast

/-- The form in which a host of the web is read; none if the text is no host. -/
def webHost? (cs : List Char) : Option (List Char) :=
  if cs.head? == some '[' then if isBracketed cs then some cs else none
  else do
    let text ← String.fromUTF8? (percentDecode cs).toByteArray
    let domain ← domain? text.toList
    if domain.isEmpty || (endsInNumber domain && !isIpv4 domain) then none else some domain

/-- Whether a character cannot stand in a host that is read as it is. -/
def isForbiddenInHost (c : Char) : Bool :=
  c.toNat == 0 || c.toNat == 9 || c.toNat == 10 || c.toNat == 13 || c.toNat == 0x20
    || ['#', '/', ':', '<', '>', '?', '@', '[', '\\', ']', '^', '|'].contains c

/-- Whether a text is a host of a scheme outside the web. -/
def isOtherHost (cs : List Char) : Bool :=
  if cs.head? == some '[' then isBracketed cs else !cs.isEmpty && !cs.any isForbiddenInHost

/-- Whether a text is the letter of a drive. -/
def isDriveLetter : List Char → Bool
  | [c, sign] => c.isAlpha && (sign == ':' || sign == '|')
  | _ => false

/-! ## URLs -/

/-- Whether an authority names a host, and its port is one. -/
def authorityNamesHost (kind : SchemeKind) (authority : List Char) : Bool :=
  let (host, port) := splitPort false (afterUserInfo authority)
  port.all isPort && if kind = .other then isOtherHost host else (webHost? host).isSome

/-- The first segment of the path behind the host of a `file` URL, empty if there is no path. -/
def firstSegment : List Char → List Char
  | '/' :: path => path.takeWhile fun c => !endsAuthority .file c
  | '\\' :: path => path.takeWhile fun c => !endsAuthority .file c
  | _ => []

/-- Whether what follows `file:` names a host. -/
def fileNamesHost (rest : List Char) : Bool :=
  match rest with
  | a :: b :: rest =>
    if (a == '/' || a == '\\') && (b == '/' || b == '\\') then
      let host := rest.takeWhile fun c => !endsAuthority .file c
      !isDriveLetter host && !isDriveLetter (firstSegment (rest.drop host.length)) &&
        match webHost? host with
        | some name => name != "localhost".toList
        | none => false
    else false
  | _ => false

/-- The authority of a scheme other than `file`, up to where a path, a query or a fragment starts. -/
def authority (kind : SchemeKind) (rest : List Char) : List Char :=
  rest.takeWhile fun c => !endsAuthority kind c

/-- Whether a text is a URL that names a host. -/
def namesHost (text : String) : Bool :=
  match splitScheme (tidy text.toList) with
  | none => false
  | some (scheme, rest) =>
    match SchemeKind.of scheme, rest with
    | .file, rest => fileNamesHost rest
    | .web, rest => authorityNamesHost .web (authority .web (rest.dropWhile fun c => c == '/' || c == '\\'))
    | .other, '/' :: '/' :: rest => authorityNamesHost .other (authority .other rest)
    | .other, _ => false

end Scim.Url
