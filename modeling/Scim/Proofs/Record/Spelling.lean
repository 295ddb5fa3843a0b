import Scim.Proofs.Path
import Scim.Proofs.Record.Entries
import Scim.Record.Address

/-!
# Reading in any casing

What is read from a record by the path of an attribute depends on how the names in the path are cased as
little as the keys of the record do.  Nor does what is left when the value is taken out, since no key is written
then.

## Main results

* `Record.getAttr_congr`: equal paths within a schema read the same value.
* `Record.get_ofBound_congr`: so do bound paths that agree on whether the schema is an extension.
* `Record.pop_ofPath_congr`: equal paths of one catalog take out the same value and leave the same record.
-/

namespace Scim.Record

open Text

theorem value_congr (record : Record) {key other : String} (h : lower key = lower other) :
    record.value key = record.value other := by
  rw [Record.value, Entries.get?_congr record h, Record.value]

theorem subOf_congr {sub other : AttrName} (h : sub.folded = other.folded) : subOf sub = subOf other := by
  funext item
  cases item with
  | record entries => exact value_congr entries h
  | _ => rfl

/-- The value of an attribute is the same under every casing of its path. -/
theorem getAttr_congr (record : Record) {rep other : LocalPath} (h : (rep == other) = true) :
    record.getAttr rep = record.getAttr other := by
  obtain ⟨attr, name, rfl, rfl, hattr⟩ | ⟨attr, name, sub, subName, rfl, rfl, hattr, hsub⟩ :=
    LocalPath.cases_of_beq h
  · rw [getAttr, getAttr, Entries.get?_congr record hattr]
  · rw [getAttr, getAttr, Entries.get?_congr record hattr]
    cases record.get? name.text with
    | none => rfl
    | some parent =>
      cases parent with
      | record entries => exact value_congr entries hsub
      | list items => simp only [subOf_congr hsub]
      | _ => rfl

/-- Bound paths that are equal and agree on where the data of their schema is found read the same value. -/
theorem get_ofBound_congr (record : Record) {bound other : BoundPath} (h : (bound == other) = true)
    (hextension : bound.extension = other.extension) :
    record.get (Place.ofBound bound) = record.get (Place.ofBound other) := by
  obtain ⟨hschema, hrep⟩ := BoundPath.beq_iff.1 h
  rw [Place.ofBound, Place.ofBound, hextension]
  split
  · simp only [get, resolve]
    rw [Entries.get?_congr record (SchemaUri.beq_iff.1 hschema)]
    split
    · exact getAttr_congr _ hrep
    · rfl
  · exact getAttr_congr record hrep

theorem get_ofPath_congr (record : Record) {p q : Path} (h : (p == q) = true)
    (hextension : p.isExtension = q.isExtension) :
    record.get (Place.ofPath p) = record.get (Place.ofPath q) := by
  obtain ⟨a, b, rfl, rfl, hrep⟩ | ⟨a, b, rfl, rfl, -, -⟩ := Path.cases_of_beq h
  · exact getAttr_congr record hrep
  · exact get_ofBound_congr record h hextension

/-! ## Removing -/

theorem dropSubOf_congr {sub other : AttrName} (h : sub.folded = other.folded) :
    dropSubOf sub = dropSubOf other := by
  funext item
  cases item with
  | record entries => exact congrArg Value.record (Entries.erase_congr entries h)
  | _ => rfl

/-- Removing an attribute leaves the same under every casing of its path. -/
theorem dropAttr_congr (record : Record) {rep other : LocalPath} (h : (rep == other) = true) :
    record.dropAttr rep = record.dropAttr other := by
  obtain ⟨attr, name, rfl, rfl, hattr⟩ | ⟨attr, name, sub, subName, rfl, rfl, hattr, hsub⟩ :=
    LocalPath.cases_of_beq h
  · exact Entries.erase_congr record hattr
  · simp only [dropAttr]
    rw [Entries.get?_congr record hattr]
    cases record.get? name.text with
    | none => rfl
    | some parent =>
      cases parent with
      | record entries => simp only [Entries.erase_congr entries hsub, Entries.replace_congr record hattr]
      | list items => simp only [dropSubOf_congr hsub, Entries.replace_congr record hattr]
      | _ => rfl

theorem drop_ofPath_congr (record : Record) {p q : Path} (h : (p == q) = true)
    (hextension : p.isExtension = q.isExtension) :
    record.drop (Place.ofPath p) = record.drop (Place.ofPath q) := by
  obtain ⟨a, b, rfl, rfl, hrep⟩ | ⟨a, b, rfl, rfl, hschema, hrep⟩ := Path.cases_of_beq h
  · exact dropAttr_congr record hrep
  · have hkey : lower a.schema.text = lower b.schema.text := hschema
    have hflag : a.extension = b.extension := hextension
    rw [Place.ofPath, Place.ofPath, Place.ofBound, Place.ofBound, hflag]
    split
    · simp only [drop, resolve]
      rw [Entries.get?_congr record hkey]
      split
      · rw [dropAttr_congr _ hrep, Entries.replace_congr record hkey]
      · rfl
    · exact dropAttr_congr record hrep

/-- Equal paths of one catalog take out the same value and leave the same record. -/
theorem pop_ofPath_congr (record : Record) {p q : Path} (h : (p == q) = true)
    (hextension : p.isExtension = q.isExtension) :
    record.pop (Place.ofPath p) = record.pop (Place.ofPath q) := by
  rw [pop, pop, get_ofPath_congr record h hextension, drop_ofPath_congr record h hextension]

end Scim.Record
