import Scim.Text.Casing
import Scim.Text.Split
import Scim.Url.DirectionTable
import Scim.Url.DomainTable
import Scim.Url.Punycode

/-!
# International domain names

A domain is a sequence of labels separated by full stops.  Its characters are first brought into one form:
letters are lowered, wide, raised or circled variants become what they are variants of, the full stops of
East Asian writing become full stops, and invisible characters are dropped.  Then each label is tested.  A
label that starts with `xn--` encodes another, which has to be in that form already.

A label does not start with a combining mark, and invisible joiners stand only where a script asks for
them.  If some label holds a letter written from right to left, every label has to keep the rules that make
its order on the screen unambiguous.
-/

namespace Scim.Url

open Text

/-! ## One form for each character -/

/-- The ASCII characters that no domain holds. -/
def isForbiddenInDomain (c : Char) : Bool :=
  c.toNat ≤ 0x20 || c.toNat == 0x7f
    || ['%', '#', '/', ':', '<', '>', '?', '@', '[', '\\', ']', '^', '|'].contains c

/-- The full stops that separate labels. -/
def isLabelSeparator (c : Char) : Bool := [0x2e, 0x3002, 0xff0e, 0xff61].contains c.toNat

/-- The ASCII character that a character is a variant of. -/
def asciiVariant? (n : Nat) : Option Char :=
  (asciiRuns.find? fun (first, last, _) => first ≤ n && n ≤ last).map fun (first, _, image) =>
    Char.ofNat (image + (n - first))

/-- What a character of a domain is read as; none if a domain cannot hold it. -/
def domainForm? (c : Char) : Option (List Char) :=
  if isLabelSeparator c then some ['.']
  else if c.toNat < 0x80 then if isForbiddenInDomain c then none else some [c.toLower]
  else if ignoredRanges.has c then some []
  else if !admittedRanges.has c then none
  else
    let image := match asciiVariant? c.toNat, asciiTexts.lookup c.toNat with
      | some v, _ => [v]
      | none, some text => text.map Char.ofNat
      | none, none => lowerChar c
    if image.any fun d => d.toNat < 0x80 && isForbiddenInDomain d then none else some image

/-- Whether a character stands for itself. -/
def isSettled (c : Char) : Bool := domainForm? c == some [c] && !variantRanges.has c

/-! ## Joiners -/

/-- Characters that the joining of letters passes over. -/
def isTransparent (c : Char) : Bool := nonspacingRanges.has c

/-- Whether the next letter, read over transparent characters, is in one of two classes. -/
def meetsLetter (cs : List Char) (one other : Ranges) : Bool :=
  match cs.dropWhile isTransparent with
  | [] => false
  | c :: _ => one.has c || other.has c

/-- Whether joiners stand only after a sign that suppresses a vowel or, for the one that keeps letters
apart, between letters that would join.  The characters read so far stand, last first, in `before`. -/
def joinersInPlace (before : List Char) : List Char → Bool
  | [] => true
  | c :: rest =>
    (match c.toNat with
      | 0x200d => afterVirama
      | 0x200c => afterVirama ||
          (meetsLetter before leftJoiningRanges dualJoiningRanges &&
            meetsLetter rest rightJoiningRanges dualJoiningRanges)
      | _ => true) && joinersInPlace (c :: before) rest
where
  /-- Whether a sign that suppresses a vowel was read last. -/
  afterVirama : Bool := (before.head?).any viramaRanges.has

/-! ## Order of writing -/

/-- Letters written from right to left. -/
def isRightToLeft (c : Char) : Bool := rightToLeftRanges.has c || arabicRanges.has c

/-- Characters that may stand in a label of either direction. -/
def isNeutral (c : Char) : Bool :=
  europeanSeparatorRanges.has c || europeanTerminatorRanges.has c || commonSeparatorRanges.has c
    || nonspacingRanges.has c || neutralBoundaryRanges.has c || otherNeutralRanges.has c

/-- Letters and signs written from left to right. -/
def isLeftToRight (c : Char) : Bool :=
  !(isRightToLeft c || arabicNumberRanges.has c || europeanNumberRanges.has c || isNeutral c
    || whiteRanges.has c)

/-- Whether a label keeps the rules for labels in a domain with letters from right to left. -/
def isLabelOrder (label : List Char) : Bool :=
  match label, (label.reverse.dropWhile nonspacingRanges.has).head? with
  | [], _ => true
  | _ :: _, none => false
  | first :: _, some last =>
    if isRightToLeft first then
      (isRightToLeft last || europeanNumberRanges.has last || arabicNumberRanges.has last)
        && label.all (fun c => isRightToLeft c || arabicNumberRanges.has c || europeanNumberRanges.has c
          || isNeutral c)
        && !(label.any europeanNumberRanges.has && label.any arabicNumberRanges.has)
    else
      isLeftToRight first && (isLeftToRight last || europeanNumberRanges.has last)
        && label.all fun c => isLeftToRight c || europeanNumberRanges.has c || isNeutral c

/-! ## Domains -/

/-- The label that a label stands for: that which it encodes, or itself.  An encoded label has a character
above ASCII, holds only characters that stand for themselves, and does not encode a third label. -/
def plainLabel? (label : List Char) : Option (List Char) :=
  match label with
  | 'x' :: 'n' :: '-' :: '-' :: code => do
    let plain ← Punycode.decode? code
    if plain.all isSettled && plain.any (fun c => 0x80 ≤ c.toNat) &&
        !(['x', 'n', '-', '-'].isPrefixOf plain) then
      some plain
    else none
  | _ => some label

/-- Whether a label may stand in a domain. -/
def isLabel (label : List Char) : Bool :=
  !(label.head?).any markRanges.has && joinersInPlace [] label

/-- The form in which a domain is read; none if the text is no domain. -/
def domain? (text : List Char) : Option (List Char) := do
  let form ← text.mapM domainForm?
  let labels ← (splitAll '.' form.flatten).mapM plainLabel?
  if labels.all isLabel && (!labels.any (·.any isRightToLeftOrNumber) || labels.all isLabelOrder) then
    some form.flatten
  else none
where
  /-- Characters by which the order of writing is in question. -/
  isRightToLeftOrNumber (c : Char) : Bool := isRightToLeft c || arabicNumberRanges.has c

end Scim.Url
