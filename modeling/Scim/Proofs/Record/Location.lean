import Scim.Proofs.Value.Marked
import Scim.Record.Address

/-!
# Addresses and locations

A path says twice where its value is.  It is turned into a place, which is how a record is read, with a descent of its
own into the data of an extension and into the items of a list.  And it has a location, which is where issues about
the value are recorded: a list of keys and nothing else.

Both mean the same.  A location is followed step by step, a key through the entries of a record and an index through
the items of a list, and the value that it leads to is the one that is read by the path.  Only a sub-attribute of a
list has no location of its own, since it has one value in each item; there the index of the item comes between the
two names.

What makes the two agree is that both look for the names of the path in the same entries, those of the record itself
or those under the identifier of the extension.

## Main results

* `Record.get_eq_getAttr`: a path is read from the entries in which its schema keeps its data.
* `Record.leadsTo_location`: a location leads into the same entries.
* `Record.read_along_location`: the whole statement.
-/

namespace Scim

/-- What a location leads to in a value: a key through the entries of a record, an index through the items of a list,
and nothing through anything else. -/
def Value.leadsTo (value : Value) (location : Location) : Value := (value.at? location).getD .missing

namespace Record

variable {record : Record} {path : Path}

/-! ## The entries of a schema -/

/-- The entries among which the names of a path are looked up, none if the record has no data of the extension. -/
def entriesOf (record : Record) : Path → Record
  | .unbound _ => record
  | .bound path =>
    if path.extension then
      match record.get? path.schema.text with
      | some (.record inner) => inner
      | _ => []
    else record

/-- A path is read from the entries in which its schema keeps its data. -/
theorem get_eq_getAttr (record : Record) (path : Path) :
    record.get (Place.ofPath path) = (record.entriesOf path).getAttr path.rep := by
  obtain rep | ⟨schema, extension, rep⟩ := path
  · rfl
  · cases extension with
    | false => rfl
    | true =>
      have hplace : Place.ofPath (.bound ⟨schema, true, rep⟩) = .extension schema rep := rfl
      rw [hplace, get, resolve, entriesOf]
      dsimp only [if_true, Path.rep]
      cases record.get? schema.text with
      | none => rfl
      | some stored => cases stored <;> rfl

theorem entriesOf_topLevel (record : Record) (path : Path) :
    record.entriesOf path.topLevel = record.entriesOf path := by
  cases path <;> rfl

/-- The part of a location that leads to the entries of the schema. -/
def startOf : Path → Location
  | .unbound _ => []
  | .bound path => if path.extension then [.ofUri path.schema] else []

theorem location_eq (path : Path) : path.location = startOf path ++ path.rep.location := by
  obtain rep | ⟨schema, extension, rep⟩ := path
  · rfl
  · cases extension <;> rfl

/-! ## Following a location -/

theorem leadsTo_key (entries : Record) (key : String) (rest : Location) :
    (Value.record entries).leadsTo (.key key :: rest) = (entries.value key).leadsTo rest := by
  unfold Value.leadsTo value
  rw [Value.at?_key]
  cases entries.get? key with
  | some part => rfl
  | none => cases rest <;> rfl

/-- Once the start of the way is behind, the location goes on among the entries of the schema. -/
theorem leadsTo_start (record : Record) (path : Path) (name : AttrName) (rest : Location) :
    (Value.record record).leadsTo (startOf path ++ .ofName name :: rest) =
      (Value.record (record.entriesOf path)).leadsTo (.ofName name :: rest) := by
  obtain rep | ⟨schema, extension, rep⟩ := path
  · rfl
  · cases extension with
    | false => rfl
    | true =>
      -- what stands under the identifier is a record, or the key after it leads nowhere
      have hkey := leadsTo_key record schema.text (.ofName name :: rest)
      refine hkey.trans ?_
      rw [entriesOf, value]
      cases record.get? schema.text with
      | none => rfl
      | some stored => cases stored <;> rfl

/-- Among these entries the names of the path are followed, through one index at most. -/
theorem leadsTo_names (record : Record) (path : Path) (steps : Location) :
    (Value.record record).leadsTo (startOf path ++ .ofName path.rep.attr :: steps) =
      ((record.entriesOf path).value path.rep.attr.text).leadsTo steps := by
  rw [leadsTo_start, Segment.ofName, leadsTo_key]

theorem get_topLevel (record : Record) (path : Path) :
    record.get (Place.ofPath path.topLevel) = (record.entriesOf path).value path.rep.attr.text := by
  have hrep : path.topLevel.rep = ⟨path.rep.attr, none⟩ := by cases path <;> rfl
  rw [get_eq_getAttr, entriesOf_topLevel, hrep, getAttr_name]

/-! ## Sub-attributes -/

/-- A sub-attribute is read from the value of its parent: from each item of a list, and else by its key. -/
theorem getAttr_sub (entries : Record) (attr sub : AttrName) :
    entries.getAttr ⟨attr, some sub⟩ =
      match entries.value attr.text with
      | .list items => .list (items.map (subOf sub))
      | parent => parent.leadsTo [.ofName sub] := by
  unfold getAttr value
  cases entries.get? attr.text with
  | none => rfl
  | some parent =>
    cases parent with
    | record inner => exact (leadsTo_key inner sub.text []).symm
    | _ => rfl

theorem subOf_eq_leadsTo (sub : AttrName) (item : Value) : subOf sub item = item.leadsTo [.ofName sub] := by
  cases item with
  | record entries => exact (leadsTo_key entries sub.text []).symm
  | _ => rfl

/-- As long as no list is in between, a location leads to the value that is read by the path. -/
theorem leadsTo_location
    (hparent : path.rep.sub.isSome = true → (record.get (Place.ofPath path.topLevel)).list? = none) :
    (Value.record record).leadsTo path.location = record.get (Place.ofPath path) := by
  rw [get_topLevel] at hparent
  rw [location_eq, LocalPath.location, leadsTo_names, get_eq_getAttr]
  generalize record.entriesOf path = entries at hparent ⊢
  generalize path.rep = rep at hparent ⊢
  obtain ⟨attr, sub⟩ := rep
  cases sub with
  | none =>
    rw [getAttr_name]
    rfl
  | some sub =>
    rw [getAttr_sub]
    have hlist := hparent rfl
    dsimp only at hlist ⊢
    split
    · next items hitems =>
      rw [hitems] at hlist
      cases hlist
    · rfl

/-! ## Both together -/

/-- The location of a path leads to the value that is read by the path, whatever the record holds, unless a
sub-attribute is asked of a list.  Then the path is read as a list of as many values, and the location that goes
through the index of an item leads to the value of that item. -/
theorem read_along_location (path : Path) (record : Record) :
    ((path.rep.sub.isSome = true → (record.get (Place.ofPath path.topLevel)).list? = none) →
      (Value.record record).leadsTo path.location = record.get (Place.ofPath path)) ∧
    ∀ sub items, path.rep.sub = some sub → record.get (Place.ofPath path.topLevel) = .list items →
      path.location = path.topLevel.location ++ [.ofName sub] ∧
      ∃ values, record.get (Place.ofPath path) = .list values ∧ values.length = items.length ∧
        ∀ i < items.length, values[i]? =
          some ((Value.record record).leadsTo (path.topLevel.location ++ [.index i, .ofName sub])) := by
  refine ⟨leadsTo_location, fun sub items hsub hitems => ?_⟩
  have hlocation : path.topLevel.location = startOf path ++ [.ofName path.rep.attr] := by
    rw [location_eq]
    cases path <;> rfl
  have hrep : path.rep = ⟨path.rep.attr, some sub⟩ := by rw [← hsub]
  rw [get_topLevel] at hitems
  refine ⟨?_, items.map (subOf sub), ?_, List.length_map _, fun i hi => ?_⟩
  · rw [location_eq, hlocation, hrep, LocalPath.location, List.append_assoc]
    rfl
  · rw [get_eq_getAttr, hrep, getAttr_sub, hitems]
  · rw [hlocation, List.append_assoc, List.singleton_append, leadsTo_names, hitems, List.getElem?_map,
      List.getElem?_eq_getElem hi, Option.map_some, subOf_eq_leadsTo]
    simp only [Value.leadsTo, Value.at?_index, List.getElem?_eq_getElem hi, Option.bind_some]

/-- Somebody with a unit and two managers, of whom one is given as a text. -/
def employed : Record :=
  [("URN:Mill", .record [("Unit", .record [("TITLE", .text "Saws")]),
    ("managers", .list [.record [("Code", .text "7")], .text "8"])])]

/-- The title of the unit. -/
def unitTitle : Path :=
  .bound ⟨⟨"urn:mill", by decide⟩, true, ⟨⟨"unit", by decide⟩, some ⟨"title", by decide⟩⟩⟩

/-- The codes of the managers. -/
def managerCodes : Path :=
  .bound ⟨⟨"urn:mill", by decide⟩, true, ⟨⟨"managers", by decide⟩, some ⟨"code", by decide⟩⟩⟩

theorem read_along_location_employed :
    (employed.get (Place.ofPath unitTitle.topLevel)).list? = none ∧
      (Value.record employed).leadsTo unitTitle.location = employed.get (Place.ofPath unitTitle) ∧
      ∃ items values, employed.get (Place.ofPath managerCodes.topLevel) = .list items ∧
        employed.get (Place.ofPath managerCodes) = .list values ∧ values.length = 2 ∧
        ∀ i < 2, values[i]? = some ((Value.record employed).leadsTo
          (managerCodes.topLevel.location ++ [.index i, .key "code"])) := by
  have hunit : (employed.get (Place.ofPath unitTitle.topLevel)).list? = none := by rfl
  have hmanagers : employed.get (Place.ofPath managerCodes.topLevel) =
      .list [.record [("Code", .text "7")], .text "8"] := by rfl
  obtain ⟨-, values, hvalues, hlength, hitems⟩ := (read_along_location managerCodes employed).2 _ _ rfl hmanagers
  exact ⟨hunit, (read_along_location unitTitle employed).1 fun _ => hunit, _, values, hmanagers, hvalues, hlength,
    hitems⟩

end Record

end Scim
