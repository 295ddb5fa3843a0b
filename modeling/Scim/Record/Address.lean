import Scim.Path
import Scim.Value

/-!
# Reading and writing records by path

A place in a record is the entry under a text, the entry of a schema, an attribute with or without a
sub-attribute, or an attribute of a schema extension, which sits in the record under the identifier of the
extension.  A key is a place, or a path in writing that stands for a place in view of what the record
holds.

A sub-attribute of a list addresses one value per element.  Reading gives the list of these values,
removing takes each of them out, and writing a list below a list distributes it element by element.

A write fails for one reason only: the value above the addressed one is there and cannot hold it.

## Main results

* `Record.resolve?_of_stored`: a text that is a key of the record is that key.
* `Record.setAttr_error`: a write to an attribute is refused only for the value of its parent.
-/

namespace Scim

/-! ## Places and keys -/

/-- A place in a record. -/
inductive Place where
  /-- The entry under a text. -/
  | entry (text : String)
  /-- The entry of a schema extension. -/
  | schema (uri : SchemaUri)
  /-- An attribute of the record itself. -/
  | attr (rep : LocalPath)
  /-- An attribute of a schema extension. -/
  | extension (uri : SchemaUri) (rep : LocalPath)

namespace Place

/-- The place of an attribute bound to a schema. -/
def ofBound (bound : BoundPath) : Place :=
  if bound.extension then .extension bound.schema bound.rep else .attr bound.rep

/-- The place that a path leads to. -/
def ofPath : Path → Place
  | .unbound rep => .attr rep
  | .bound bound => ofBound bound

/-- The place of a name, below the entry of a schema if one is given. -/
def ofParts : Option SchemaUri × LocalPath → Place
  | (none, rep) => .attr rep
  | (some uri, rep) => .extension uri rep

/-- The place that a text names in view of a catalog: the identifier of a registered schema names its
entry, in the casing of its registration; any other text has to be a path. -/
def parse (catalog : Catalog) (text : String) : Except Fault Place :=
  match catalog.find? text with
  | some found => .ok (.schema found.uri)
  | none => (Path.parse catalog text).map ofPath

end Place

/-- What values are read and written by: a place, or a path in writing that is read in view of the
record. -/
inductive Key where
  | place (place : Place)
  | path (text : String)

instance : Coe Place Key := ⟨.place⟩

namespace Record

/-- What a text addresses that is not itself a key of the record.  A qualified path addresses an extension
only if the record holds a record for it. -/
def resolve? (record : Record) (text : String) : Option (Option SchemaUri × LocalPath) :=
  match record.get? text with
  | some _ => none
  | none =>
    match Path.split? text with
    | none => none
    | some (none, rep) => some (none, rep)
    | some (some uri, rep) =>
      match record.get? uri.text with
      | some (.record _) => some (some uri, rep)
      | _ => none

theorem resolve?_of_stored {record : Record} {text : String} {value : Value}
    (h : record.get? text = some value) : record.resolve? text = none := by
  simp [resolve?, h]

/-- The place that a key addresses.  A path in writing that names nothing the record could hold otherwise
is a key of the record. -/
def resolve (record : Record) : Key → Place
  | .place place => place
  | .path text =>
    match record.resolve? text with
    | some parts => .ofParts parts
    | none => .entry text

theorem resolve_of_resolve? {record : Record} {text : String} {parts : Option SchemaUri × LocalPath}
    (h : record.resolve? text = some parts) : record.resolve (.path text) = .ofParts parts := by
  simp [resolve, h]

theorem resolve_of_stored {record : Record} {text : String} {value : Value}
    (h : record.get? text = some value) : record.resolve (.path text) = .entry text := by
  simp [resolve, resolve?_of_stored h]

/-! ## Reading -/

/-- The sub-attribute of one element of a list. -/
def subOf (sub : AttrName) : Value → Value
  | .record entries => Record.value entries sub.text
  | _ => .missing

/-- The value of an attribute. -/
def getAttr (record : Record) (rep : LocalPath) : Value :=
  match record.get? rep.attr.text, rep.sub with
  | none, _ => .missing
  | some value, none => value
  | some (.record entries), some sub => Record.value entries sub.text
  | some (.list items), some sub => .list (items.map (subOf sub))
  | some _, some _ => .missing

theorem getAttr_name (record : Record) (name : AttrName) :
    record.getAttr ⟨name, none⟩ = record.value name.text := by
  unfold getAttr Record.value
  cases record.get? name.text <;> rfl

/-- The value at an address, missing if there is none. -/
def get (record : Record) (key : Key) : Value :=
  match record.resolve key with
  | .entry text => record.value text
  | .schema uri => record.value uri.text
  | .attr rep => record.getAttr rep
  | .extension uri rep =>
    match record.get? uri.text with
    | some (.record inner) => getAttr inner rep
    | _ => .missing

theorem get_extension {record inner : Record} {uri : SchemaUri} (rep : LocalPath)
    (h : record.get? uri.text = some (.record inner)) :
    record.get (.place (.extension uri rep)) = inner.getAttr rep := by
  simp [get, resolve, h]

/-- Where the identifier of an extension leads to no record, its attributes are missing. -/
theorem get_extension_missing {record : Record} {uri : SchemaUri} (rep : LocalPath)
    (h : ∀ inner : Record, record.get? uri.text ≠ some (.record inner)) :
    record.get (.place (.extension uri rep)) = .missing := by
  unfold get resolve
  dsimp only
  split
  · next inner hget => exact absurd hget (h inner)
  · rfl

/-! ## Writing -/

/-- One element after a value was written to its sub-attribute.  An element without value becomes a record
of the sub-attribute; one that cannot hold it stays. -/
def setSubOf (sub : AttrName) (value : Value) : Value → Value
  | .record entries => .record (Entries.insert entries sub.text value)
  | .missing => .record [(sub.text, value)]
  | .null => .record [(sub.text, value)]
  | item => item

/-- Writes values to the sub-attribute of the elements of a list, one value to each element, and appends an
element for each value that is left over.  A missing value changes nothing, so missing values at the end
append nothing. -/
def distribute (sub : AttrName) : List Value → List Value → List Value
  | items, [] => items
  | [], values =>
    (values.reverse.dropWhile Value.isMissing).reverse.map fun value =>
      if value.isMissing then .record [] else .record [(sub.text, value)]
  | item :: items, value :: values =>
    (if value.isMissing then item else setSubOf sub value item) :: distribute sub items values

/-- Writes the value of an attribute.  A sub-attribute whose parent is absent is written into a new
parent. -/
def setAttr (record : Record) (rep : LocalPath) (value : Value) : Except Fault Record :=
  match rep.sub with
  | none => .ok (record.insert rep.attr.text value)
  | some sub =>
    match record.get? rep.attr.text, value with
    | none, _ => .ok (record.insert rep.attr.text (.record [(sub.text, value)]))
    | some (.record entries), _ =>
      .ok (record.replace rep.attr.text (.record (Entries.insert entries sub.text value)))
    | some (.list items), .list values =>
      .ok (record.replace rep.attr.text (.list (distribute sub items values)))
    | some _, _ => .error (.cannotHold rep.attr.text sub.text)

theorem setAttr_error {record : Record} {rep : LocalPath} {value : Value} {fault : Fault}
    (h : record.setAttr rep value = .error fault) :
    ∃ sub parent, rep.sub = some sub ∧ record.get? rep.attr.text = some parent ∧
      fault = .cannotHold rep.attr.text sub.text := by
  unfold setAttr at h
  cases hsub : rep.sub with
  | none => simp [hsub] at h
  | some sub =>
    cases hparent : record.get? rep.attr.text with
    | none => simp [hsub, hparent] at h
    | some parent =>
      simp only [hsub, hparent] at h
      split at h <;> cases h
      exact ⟨sub, parent, rfl, rfl, rfl⟩

/-- Writes the value of an attribute; a list written to a sub-attribute whose parent is absent makes the
parent a list with one record per element. -/
def expandAttr (record : Record) (rep : LocalPath) (value : Value) : Except Fault Record :=
  match rep.sub, record.get? rep.attr.text, value with
  | some sub, none, .list values =>
    .ok (record.insert rep.attr.text (.list (distribute sub [] values)))
  | _, _, _ => record.setAttr rep value

/-- Writes inside the record of an extension, which is created if it is absent. -/
def setWithin (record : Record) (uri : SchemaUri) (rep : LocalPath)
    (write : Record → Except Fault Record) : Except Fault Record :=
  match record.get? uri.text with
  | none => (write []).map fun inner => record.insert uri.text (.record inner)
  | some (.record inner) => (write inner).map fun inner => record.replace uri.text (.record inner)
  | some _ => .error (.cannotHold uri.text rep.attr.text)

/-- Writes the entry of a schema, in its place if there is one. -/
def setSchema (record : Record) (uri : SchemaUri) (value : Value) : Record :=
  match record.get? uri.text with
  | some _ => record.replace uri.text value
  | none => record.insert uri.text value

/-- Writes a value at an address, where `write` writes the values of attributes. -/
def setBy (write : Record → LocalPath → Value → Except Fault Record) (record : Record) (key : Key)
    (value : Value) : Except Fault Record :=
  match record.resolve key with
  | .entry text => .ok (record.insert text value)
  | .schema uri => .ok (record.setSchema uri value)
  | .attr rep => write record rep value
  | .extension uri rep => record.setWithin uri rep fun inner => write inner rep value

/-- Writes a value at an address. -/
def set (record : Record) (key : Key) (value : Value) : Except Fault Record :=
  record.setBy setAttr key value

/-- Writes a value at an address, expanding a list over a new list of records. -/
def expand (record : Record) (key : Key) (value : Value) : Except Fault Record :=
  record.setBy expandAttr key value

/-! ## Removing -/

/-- One element without its sub-attribute. -/
def dropSubOf (sub : AttrName) : Value → Value
  | .record entries => .record (Entries.erase entries sub.text)
  | item => item

/-- Removes the value of an attribute. -/
def dropAttr (record : Record) (rep : LocalPath) : Record :=
  match rep.sub with
  | none => record.erase rep.attr.text
  | some sub =>
    match record.get? rep.attr.text with
    | some (.record entries) => record.replace rep.attr.text (.record (Entries.erase entries sub.text))
    | some (.list items) => record.replace rep.attr.text (.list (items.map (dropSubOf sub)))
    | _ => record

/-- Removes the value at an address.  The record of an extension stays, even if nothing is left in it. -/
def drop (record : Record) (key : Key) : Record :=
  match record.resolve key with
  | .entry text => record.erase text
  | .schema uri => record.erase uri.text
  | .attr rep => record.dropAttr rep
  | .extension uri rep =>
    match record.get? uri.text with
    | some (.record inner) => record.replace uri.text (.record (dropAttr inner rep))
    | _ => record

/-- Takes the value at an address out of a record. -/
def pop (record : Record) (key : Key) : Value × Record := (record.get key, record.drop key)

/-! ## Paths of a catalog

Where a path in writing is read in view of a catalog and not of the record, it may be refused; an extension
that it leads to need not be there yet. -/

/-- The value where a text leads in view of a catalog. -/
def getPath (record : Record) (catalog : Catalog) (text : String) : Except Fault Value :=
  (Place.parse catalog text).map fun place => record.get place

/-- Writes a value where a text leads in view of a catalog. -/
def setPath (record : Record) (catalog : Catalog) (text : String) (value : Value) : Except Fault Record :=
  (Place.parse catalog text).bind fun place => record.set place value

/-- Takes the value out where a text leads in view of a catalog. -/
def popPath (record : Record) (catalog : Catalog) (text : String) : Except Fault (Value × Record) :=
  (Place.parse catalog text).map fun place => record.pop place

end Record

end Scim
