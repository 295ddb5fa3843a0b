import Scim.Proofs.Path.Casing
import Scim.Proofs.Record.Recased
import Scim.Proofs.Schema.Lookup

/-!
# Equal paths lead to the same slot

Names, catalogs, records and collections of attributes each compare identifiers by their lower-case forms, and so
does the equality of paths.  Together that means that a path may be exchanged for an equal one everywhere: the two
read the same value, take it out and leave the same record, write it into the same entry and find the same
attribute.  Only the spelling of a key that is written is that of the path.

Texts that differ in the case of ASCII letters are read as such equal paths.

## Main results

* `Path.equal_one_slot`: the whole statement.
-/

namespace Scim.Path

/-- Paths that were read with one catalog and are equal address the same value of every record, leave the same
record when it is taken out, leave records that differ in the casing of the keys of the paths when it is written,
and find the same attribute; and texts that differ in the case of ASCII letters and have no component `$ref` are
read as equal paths or are both refused. -/
theorem equal_one_slot (catalog : Catalog) :
    (∀ (s t : String) (p q : Path), parse catalog s = .ok p → parse catalog t = .ok q → (p == q) = true →
      (∀ record : Record,
        record.get (Place.ofPath p) = record.get (Place.ofPath q) ∧
        record.pop (Place.ofPath p) = record.pop (Place.ofPath q) ∧
        ∀ value, Alike (Record.Recased (p.keys.zip q.keys)) (record.set (Place.ofPath p) value)
          (record.set (Place.ofPath q) value)) ∧
      ∀ attrs : SchemaAttributes, attrs.find? p = attrs.find? q) ∧
    ∀ s t : String, Text.lowerAscii s = Text.lowerAscii t → "$ref" ∉ components s → "$ref" ∉ components t →
      Alike (fun p q => (p == q) = true) (parse catalog s) (parse catalog t) := by
  refine ⟨fun s t p q hp hq h => ?_, fun s t h hs ht => parse_alike catalog h hs ht⟩
  have hextension := isExtension_congr hp hq h
  refine ⟨fun record => ⟨?_, ?_, fun value => ?_⟩, fun attrs => attrs.find?_congr h⟩
  · exact record.get_ofPath_congr h hextension
  · exact record.pop_ofPath_congr h hextension
  · exact record.set_ofPath_alike h hextension value

/-- A catalog of one extension. -/
def staffCatalog : Catalog := { schemas := [⟨⟨"urn:staff", by decide +kernel⟩, true⟩] }

/-- The number of an employee under the name of the extension, in two casings. -/
theorem equal_one_slot_of_staff :
    ∃ p q : Path, parse staffCatalog "urn:staff:number" = .ok p ∧ parse staffCatalog "URN:Staff:Number" = .ok q ∧
      (p == q) = true ∧ (∀ record : Record, record.get (Place.ofPath p) = record.get (Place.ofPath q)) ∧
      Alike (fun p q => (p == q) = true) (parse staffCatalog "urn:staff:number")
        (parse staffCatalog "URN:Staff:Number") := by
  have hsplit : split "urn:staff:number" =
      .ok (some ⟨"urn:staff", by decide +kernel⟩, ⟨⟨"number", by decide +kernel⟩, none⟩) := by rfl
  have hsplit' : split "URN:Staff:Number" =
      .ok (some ⟨"URN:Staff", by decide +kernel⟩, ⟨⟨"Number", by decide +kernel⟩, none⟩) := by rfl
  have hflag : staffCatalog.isExtension? ⟨"urn:staff", by decide +kernel⟩ = some true := by rfl
  have hflag' : staffCatalog.isExtension? ⟨"URN:Staff", by decide +kernel⟩ = some true := by rfl
  have hp : parse staffCatalog "urn:staff:number" =
      .ok (.bound ⟨⟨"urn:staff", by decide +kernel⟩, true, ⟨⟨"number", by decide +kernel⟩, none⟩⟩) := by
    simp only [parse, hsplit, BoundPath.bind, hflag, bind, Except.bind]
  have hq : parse staffCatalog "URN:Staff:Number" =
      .ok (.bound ⟨⟨"URN:Staff", by decide +kernel⟩, true, ⟨⟨"Number", by decide +kernel⟩, none⟩⟩) := by
    simp only [parse, hsplit', BoundPath.bind, hflag', bind, Except.bind]
  obtain ⟨hslot, htexts⟩ := equal_one_slot staffCatalog
  have hread := htexts "urn:staff:number" "URN:Staff:Number" (by decide +kernel) (by decide +kernel)
    (by decide +kernel)
  refine ⟨_, _, hp, hq, ?_, fun record => ((hslot _ _ _ _ hp hq ?_).1 record).1, hread⟩ <;> decide +kernel

end Scim.Path
