import Scim.Text.CaseTable

/-!
# Comparing text without regard to case

Names, schema identifiers and the keys of a record keep the casing they were written with and compare
by their lower-case forms.  Three foldings are in use, and they differ:

* `lower` is the full lower-casing of a text.  It is the folding of names, identifiers and keys.  One
  letter depends on its surroundings: a capital sigma becomes `ς` at the end of a word and `σ`
  elsewhere, so the lower-case form of a text is not that of its letters one by one.
* `foldEach` lowers letter by letter.  It is the folding of the segments of a location, for which a
  capital sigma is always `σ`.
* `lowerAscii` touches the letters `A` to `Z` only.  It is the folding of extension names and of the
  sort order asked for in a query.
-/

namespace Scim.Text

/-- The image of a character under a table: its own entry, else that of its run, else itself. -/
def mapCase (runs : List CaseRun) (special : List (Nat × List Nat)) (c : Char) : List Char :=
  match special.lookup c.toNat with
  | some image => image.map Char.ofNat
  | none =>
    match runs.findSome? (·.map? c.toNat) with
    | some image => [Char.ofNat image]
    | none => [c]

/-- The lower-case form of one letter, out of any context. -/
def lowerChar (c : Char) : List Char :=
  if c.toNat < 0x80 then [c.toLower] else mapCase lowerRuns lowerSpecial c

/-- The upper-case form of one letter. -/
def upperChar (c : Char) : List Char :=
  if c.toNat < 0x80 then [c.toUpper] else mapCase upperRuns upperSpecial c

/-! ## The final sigma -/

/-- Letters that have a case. -/
def isCased (c : Char) : Bool :=
  if c.toNat < 0x80 then c.isAlpha else casedRanges.has c

/-- Characters that a word reads over when it looks for its last letter.  The ASCII ones are the
apostrophe, the full stop, the colon, the circumflex and the grave accent. -/
def isCaseIgnorable (c : Char) : Bool :=
  if c.toNat < 0x80 then [0x27, 0x2e, 0x3a, 0x5e, 0x60].contains c.toNat else ignorableRanges.has c

/-- Whether the first character that is not read over is a letter with a case. -/
def startsCased (cs : List Char) : Bool :=
  match cs.dropWhile isCaseIgnorable with
  | [] => false
  | c :: _ => isCased c

/-- Lower-cases a text whose part already read stands, last character first, in `before`. -/
def lowerAfter (before : List Char) : List Char → List Char
  | [] => []
  | c :: rest =>
    (if c = 'Σ' then [if startsCased before && !startsCased rest then 'ς' else 'σ'] else lowerChar c)
      ++ lowerAfter (c :: before) rest

/-! ## The foldings -/

/-- The full lower-case form of a text. -/
def lower (s : String) : String := String.ofList (lowerAfter [] s.toList)

/-- The full upper-case form of a text. -/
def upper (s : String) : String := String.ofList (s.toList.flatMap upperChar)

/-- The lower-case forms of the letters of a text, one by one. -/
def foldEach (s : String) : List Char := s.toList.flatMap lowerChar

/-- The text with its ASCII capitals lowered. -/
def lowerAscii (s : String) : String := String.ofList (s.toList.map Char.toLower)

end Scim.Text
