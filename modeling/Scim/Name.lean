import Scim.Fault
import Scim.Text.Casing
import Scim.Text.Split
import Scim.Text.WordTable

/-!
# Attribute names and schema identifiers

The two kinds of identifier from which every path is built.  An attribute name is an ASCII letter
followed by word characters, dollar signs and hyphens, or it is exactly `$ref`.  A schema identifier is
a sequence of parts joined by colons, each part one or more word characters, full stops and hyphens.
Word characters are those of Unicode, so `é` may stand inside a name, though not at its start.

A name is a text together with the proof that it follows its grammar, so a name that exists is well
formed.  Names keep their casing and compare by their lower-case forms.

## Main results

* `AttrName.parse_text`, `SchemaUri.parse_text`: the text of a name parses to that name.
* `AttrName.parse_eq_ok`, `SchemaUri.parse_eq_ok`: nothing else does.
* `not_mem_of_isAttrName`: which characters names are free of, so that paths can be cut at them.
-/

namespace Scim

open Text

/-! ## Grammar -/

/-- Letters, marks, decimal digits and connecting punctuation. -/
def isWordChar (c : Char) : Bool :=
  if c.toNat < 0x80 then c.isAlphanum || c == '_' else wordRanges.has c

/-- The characters of a name after its first. -/
def isNameChar (c : Char) : Bool := isWordChar c || c == '$' || c == '-'

/-- The characters of one part of a schema identifier. -/
def isUriChar (c : Char) : Bool := isWordChar c || c == '.' || c == '-'

/-- The grammar of attribute names. -/
def isAttrName : List Char → Bool
  | [] => false
  | c :: cs => (c.isAlpha && cs.all isNameChar) || (c :: cs) == ['$', 'r', 'e', 'f']

/-- A character with which no name begins or goes on does not occur in names. -/
theorem not_mem_of_isAttrName {cs : List Char} {c : Char} (h : isAttrName cs = true) (hfirst : c.isAlpha = false)
    (hlater : isNameChar c = false) : c ∉ cs := by
  intro hmem
  cases cs with
  | nil => cases hmem
  | cons first rest =>
    rw [isAttrName, Bool.or_eq_true, Bool.and_eq_true, List.all_eq_true, beq_iff_eq] at h
    rcases h with ⟨halpha, hrest⟩ | hname
    · rcases List.mem_cons.1 hmem with rfl | hmem
      · rw [hfirst] at halpha
        cases halpha
      · rw [hrest c hmem] at hlater
        cases hlater
    · have hall : ['$', 'r', 'e', 'f'].all isNameChar = true := by decide
      rw [hname] at hmem
      rw [List.all_eq_true.1 hall c hmem] at hlater
      cases hlater

/-- The grammar of schema identifiers. -/
def isSchemaUri (cs : List Char) : Bool :=
  (splitAll ':' cs).all fun part => !part.isEmpty && part.all isUriChar

/-! ## Attribute names -/

/-- The name of an attribute or sub-attribute. -/
structure AttrName where
  text : String
  wellFormed : isAttrName text.toList = true

namespace AttrName

/-- The form by which names are compared. -/
def folded (name : AttrName) : String := lower name.text

/-- Names are equal up to case. -/
instance : BEq AttrName := ⟨fun a b => a.folded == b.folded⟩

/-- Whether a text, in any casing, spells this name. -/
def spells (name : AttrName) (text : String) : Bool := name.folded == lower text

/-- The name that a text spells. -/
def parse (text : String) : Except Fault AttrName :=
  if h : isAttrName text.toList = true then .ok ⟨text, h⟩ else .error (.invalidName text)

theorem parse_text (name : AttrName) : parse name.text = .ok name := by
  simp [parse, name.wellFormed]

theorem parse_eq_ok {text : String} {name : AttrName} : parse text = .ok name ↔ text = name.text := by
  refine ⟨fun h => ?_, fun h => h ▸ parse_text name⟩
  unfold parse at h
  split at h
  · exact congrArg AttrName.text (Except.ok.inj h)
  · exact nomatch h

theorem beq_iff {a b : AttrName} : (a == b) = true ↔ a.folded = b.folded := by
  simp [BEq.beq]

end AttrName

/-! ## Schema identifiers -/

/-- The identifier of a schema or of a schema extension. -/
structure SchemaUri where
  text : String
  wellFormed : isSchemaUri text.toList = true

namespace SchemaUri

/-- The form by which identifiers are compared. -/
def folded (uri : SchemaUri) : String := lower uri.text

/-- Identifiers are equal up to case. -/
instance : BEq SchemaUri := ⟨fun a b => a.folded == b.folded⟩

/-- Whether a text, in any casing, spells this identifier. -/
def spells (uri : SchemaUri) (text : String) : Bool := uri.folded == lower text

/-- The identifier that a text spells. -/
def parse (text : String) : Except Fault SchemaUri :=
  if h : isSchemaUri text.toList = true then .ok ⟨text, h⟩ else .error (.invalidUri text)

theorem parse_text (uri : SchemaUri) : parse uri.text = .ok uri := by
  simp [parse, uri.wellFormed]

theorem parse_eq_ok {text : String} {uri : SchemaUri} : parse text = .ok uri ↔ text = uri.text := by
  refine ⟨fun h => ?_, fun h => h ▸ parse_text uri⟩
  unfold parse at h
  split at h
  · exact congrArg SchemaUri.text (Except.ok.inj h)
  · exact nomatch h

theorem beq_iff {a b : SchemaUri} : (a == b) = true ↔ a.folded = b.folded := by
  simp [BEq.beq]

end SchemaUri

end Scim
