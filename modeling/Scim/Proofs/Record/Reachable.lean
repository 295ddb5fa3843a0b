import Mathlib.Data.List.Basic
import Scim.Proofs.Record.StoreAddress
import Scim.Proofs.Value.Everywhere

/-!
# Records reached by editing

A record starts as that of an object and is then edited: values are written, expanded and removed by key or
by a path in writing that is read in view of a catalog, and a stored value is edited in its place.  An edit
that is refused leaves its record, and editing goes on.

The same edits can be made on a record with tables of positions.  Whatever is done, every table at every
depth leads from a folded key to the current position of its entry and nowhere else, and the plain record is
the one that the edits make without tables.

## Main results

* `Store.run_lookup`: after any edits the tables are exact at every depth and keys find what they should, with
  tables and without.
-/

namespace Scim

open Text

/-! ## Edits -/

/-- One use of a record that may change it. -/
inductive Edit (α : Type) where
  /-- Writes a value at an address. -/
  | set (key : Key) (value : α)
  /-- Writes a value at an address, expanding a list over a new list of records. -/
  | expand (key : Key) (value : α)
  /-- Removes the value at an address. -/
  | pop (key : Key)
  /-- Writes a value where a text leads in view of a catalog. -/
  | setPath (catalog : Catalog) (text : String) (value : α)
  /-- Removes the value where a text leads in view of a catalog. -/
  | popPath (catalog : Catalog) (text : String)
  /-- Edits a stored value in its place, whatever it becomes. -/
  | edit (key : String) (value : α)

/-- The edit with its value mapped. -/
def Edit.map {α β : Type} (f : α → β) : Edit α → Edit β
  | .set key value => .set key (f value)
  | .expand key value => .expand key (f value)
  | .pop key => .pop key
  | .setPath catalog text value => .setPath catalog text (f value)
  | .popPath catalog text => .popPath catalog text
  | .edit key value => .edit key (f value)

namespace Record

/-- The record that a write leaves: the old one if the write was refused. -/
def afterWrite (record : Record) : Except Fault Record → Record
  | .ok next => next
  | .error _ => record

/-- The record after an edit. -/
def apply (record : Record) : Edit Value → Record
  | .set key value => record.afterWrite (record.set key value)
  | .expand key value => record.afterWrite (record.expand key value)
  | .pop key => (record.pop key).2
  | .setPath catalog text value =>
    record.afterWrite ((Place.parse catalog text).bind fun place => record.set place value)
  | .popPath catalog text =>
    match Place.parse catalog text with
    | .ok place => (record.pop place).2
    | .error _ => record
  | .edit key value => record.replace key value

/-- The record after edits. -/
def run (record : Record) (edits : List (Edit Value)) : Record := edits.foldl apply record

end Record

/-- A cell whose tables are exact at every level, the only kind that there is outside. -/
abbrev SoundCell := { cell : Cell // cell.Sound }

/-- The plain value of a cell. -/
def SoundCell.plain (cell : SoundCell) : Value := cell.1.plain

namespace Store

/-- The store after an edit. -/
def apply (store : Store) : Edit SoundCell → Store
  | .set key cell => (store.set key cell.1).1
  | .expand key cell => (store.expand key cell.1).1
  | .pop key => store.drop key
  | .setPath catalog text cell =>
    match Place.parse catalog text with
    | .ok place => (store.set place cell.1).1
    | .error _ => store
  | .popPath catalog text =>
    match Place.parse catalog text with
    | .ok place => store.drop place
    | .error _ => store
  | .edit key cell => store.replace key cell.1

/-- The store after edits. -/
def run (store : Store) (edits : List (Edit SoundCell)) : Store := edits.foldl apply store

end Store

/-! ## Documents -/

mutual

/-- The cell of a document. -/
def Cell.ofJson : Json → Cell
  | .null => .null
  | .bool b => .bool b
  | .number n => .number n
  | .text s => .text s
  | .list items => .list (Cell.ofItems items)
  | .object members => .record (Store.ofMembers .empty members)

/-- The cells of the items of a list. -/
def Cell.ofItems : List Json → List Cell
  | [] => []
  | item :: items => Cell.ofJson item :: Cell.ofItems items

/-- Adds the cells of members to those read so far. -/
def Store.ofMembers (store : Store) : List (String × Json) → Store
  | [] => store
  | (key, json) :: members => Store.ofMembers (store.insert key (Cell.ofJson json)) members

end

mutual

theorem Cell.ofJson_agrees : ∀ json : Json,
    (Cell.ofJson json).Sound ∧ (Cell.ofJson json).plain = Value.ofJson json
  | .null => ⟨trivial, rfl⟩
  | .bool _ => ⟨trivial, rfl⟩
  | .number _ => ⟨trivial, rfl⟩
  | .text _ => ⟨trivial, rfl⟩
  | .list items => by
    obtain ⟨hsound, hplain⟩ := Cell.ofItems_agrees items
    rw [Cell.ofJson, Value.ofJson, Cell.plain_list, hplain]
    exact ⟨Cell.sound_list.2 hsound, rfl⟩
  | .object members => by
    obtain ⟨hsound, hplain⟩ := Store.ofMembers_agrees members Store.sound_empty
    rw [Cell.ofJson, Value.ofJson, Store.plain_record, hplain]
    exact ⟨hsound, rfl⟩

theorem Cell.ofItems_agrees : ∀ items : List Json,
    (∀ item ∈ Cell.ofItems items, item.Sound) ∧ (Cell.ofItems items).map Cell.plain = Value.ofItems items
  | [] => ⟨by simp [Cell.ofItems], rfl⟩
  | json :: items => by
    obtain ⟨hhead, hhead'⟩ := Cell.ofJson_agrees json
    obtain ⟨htail, htail'⟩ := Cell.ofItems_agrees items
    rw [Cell.ofItems, Value.ofItems, List.map_cons, hhead', htail']
    exact ⟨List.forall_mem_cons.2 ⟨hhead, htail⟩, rfl⟩

theorem Store.ofMembers_agrees : ∀ (members : List (String × Json)) {store : Store}, store.Sound →
    (Store.ofMembers store members).Sound ∧
      (Store.ofMembers store members).plain = Value.ofMembers store.plain members
  | [], _, h => ⟨h, rfl⟩
  | (key, json) :: members, store, h => by
    obtain ⟨hcell, hplain⟩ := Cell.ofJson_agrees json
    obtain ⟨hrest, hrest'⟩ := Store.ofMembers_agrees members (h.insert key hcell)
    rw [Store.ofMembers, Value.ofMembers, hrest', h.plain_insert, hplain]
    exact ⟨hrest, rfl⟩

end

/-! ## Runs -/

namespace Store

variable {store : Store}

/-- What agrees with a write is sound and denotes the record that the write leaves. -/
theorem Agrees.after {outcome : Outcome} {before : Record} {expected : Except Fault Record}
    (h : Agrees before outcome expected) :
    outcome.1.Sound ∧ outcome.1.plain = before.afterWrite expected := by
  cases h with
  | written sound => exact ⟨sound, rfl⟩
  | refused sound kept => exact ⟨sound, kept⟩

/-- One edit keeps the tables of all levels exact and edits the plain record. -/
theorem apply_agrees (h : store.Sound) (edit : Edit SoundCell) :
    (store.apply edit).Sound ∧ (store.apply edit).plain = store.plain.apply (edit.map SoundCell.plain) := by
  cases edit with
  | set key cell => exact (set_agrees h key cell.2).after
  | expand key cell => exact (expand_agrees h key cell.2).after
  | pop key => exact drop_agrees h key
  | setPath catalog text cell =>
    simp only [apply, Edit.map, Record.apply]
    cases Place.parse catalog text with
    | ok place => exact (set_agrees h place cell.2).after
    | error fault => exact ⟨h, rfl⟩
  | popPath catalog text =>
    simp only [apply, Edit.map, Record.apply]
    cases Place.parse catalog text with
    | ok place => exact drop_agrees h place
    | error fault => exact ⟨h, rfl⟩
  | edit key cell => exact ⟨h.replace key cell.2, h.plain_replace key cell.1⟩

/-- So do any number of edits. -/
theorem run_agrees (edits : List (Edit SoundCell)) (h : store.Sound) :
    (store.run edits).Sound ∧
      (store.run edits).plain = store.plain.run (edits.map (Edit.map SoundCell.plain)) := by
  induction edits generalizing store with
  | nil => exact ⟨h, rfl⟩
  | cons edit edits ih =>
    obtain ⟨hnext, hplain⟩ := apply_agrees h edit
    obtain ⟨hrun, hrunPlain⟩ := ih hnext
    rw [hplain] at hrunPlain
    exact ⟨hrun, hrunPlain⟩

end Store

/-! ## Looking up at every depth -/

mutual

theorem Cell.Everywhere.imp {P Q : Store → Prop} (hPQ : ∀ store, P store → Q store) :
    ∀ cell : Cell, cell.Everywhere P → cell.Everywhere Q
  | .missing, _ => trivial
  | .invalid, _ => trivial
  | .null, _ => trivial
  | .bool _, _ => trivial
  | .number _, _ => trivial
  | .text _, _ => trivial
  | .list items, h => Cell.everyItem_imp hPQ items h
  | .record ⟨entries, _⟩, h => ⟨hPQ _ h.1, Cell.everyEntry_imp hPQ entries h.2⟩

theorem Cell.everyItem_imp {P Q : Store → Prop} (hPQ : ∀ store, P store → Q store) :
    ∀ items : List Cell, Cell.everyItem P items → Cell.everyItem Q items
  | [], _ => trivial
  | item :: items, h => ⟨Cell.Everywhere.imp hPQ item h.1, Cell.everyItem_imp hPQ items h.2⟩

theorem Cell.everyEntry_imp {P Q : Store → Prop} (hPQ : ∀ store, P store → Q store) :
    ∀ entries : List (String × Cell), Cell.everyEntry P entries → Cell.everyEntry Q entries
  | [], _ => trivial
  | (_, cell) :: entries, h => ⟨Cell.Everywhere.imp hPQ cell h.1, Cell.everyEntry_imp hPQ entries h.2⟩

end

mutual

theorem Cell.Everywhere.plain {P : Store → Prop} {Q : Record → Prop}
    (hPQ : ∀ store : Store, P store → Q store.plain) :
    ∀ cell : Cell, cell.Everywhere P → cell.plain.Everywhere Q
  | .missing, _ => trivial
  | .invalid, _ => trivial
  | .null, _ => trivial
  | .bool _, _ => trivial
  | .number _, _ => trivial
  | .text _, _ => trivial
  | .list items, h => Cell.everyItem_plain hPQ items h
  | .record ⟨entries, table⟩, h =>
    ⟨Cell.plainEntries_eq_mapValues entries ▸ hPQ ⟨entries, table⟩ h.1, Cell.everyEntry_plain hPQ entries h.2⟩

theorem Cell.everyItem_plain {P : Store → Prop} {Q : Record → Prop}
    (hPQ : ∀ store : Store, P store → Q store.plain) :
    ∀ items : List Cell, Cell.everyItem P items → Value.everyItem Q (Cell.plainItems items)
  | [], _ => trivial
  | item :: items, h => ⟨Cell.Everywhere.plain hPQ item h.1, Cell.everyItem_plain hPQ items h.2⟩

theorem Cell.everyEntry_plain {P : Store → Prop} {Q : Record → Prop}
    (hPQ : ∀ store : Store, P store → Q store.plain) :
    ∀ entries : List (String × Cell), Cell.everyEntry P entries →
      Value.everyEntry Q (Cell.plainEntries entries)
  | [], _ => trivial
  | (_, cell) :: entries, h => ⟨Cell.Everywhere.plain hPQ cell h.1, Cell.everyEntry_plain hPQ entries h.2⟩

end

/-- Keys differ, and a key finds a value exactly if the value stands under it. -/
structure Record.Lookup (record : Record) : Prop where
  distinct : record.DistinctKeys
  found : ∀ key value,
    record.get? key = some value ↔ ∃ stored, (stored, value) ∈ record ∧ lower stored = lower key

/-- Keys differ, each folded key leads to the current position of its entry and nowhere else, and a key finds
a value exactly if the value stands under it. -/
structure Store.Lookup (store : Store) : Prop where
  distinct : Entries.DistinctKeys store.entries
  positions : ∀ (folded : String) (i : Nat),
    store.table[folded]? = some i ↔ ∃ entry, store.entries[i]? = some entry ∧ lower entry.1 = folded
  found : ∀ key cell,
    store.get? key = some cell ↔ ∃ stored, (stored, cell) ∈ store.entries ∧ lower stored = lower key

theorem Store.Lookup.of_exact {store : Store} (h : store.Exact) : store.Lookup where
  distinct := h.distinctKeys
  positions := h
  found key cell := by
    rw [h.get?_eq]
    exact Entries.get?_eq_some_iff h.distinctKeys

theorem Record.Lookup.of_distinct {record : Record} (h : record.DistinctKeys) : record.Lookup :=
  ⟨h, fun _ _ => Entries.get?_eq_some_iff h⟩

/-- Whatever edits are made on the record of an object, refused or not: at every depth the keys differ, each
folded key leads to the current position of its entry, and looking a key up finds exactly the entry under it.
Without its tables the record is the one that the same edits make without tables. -/
theorem Store.run_lookup (members : List (String × Json)) (edits : List (Edit SoundCell)) :
    (Cell.record ((Store.ofMembers .empty members).run edits)).Everywhere Store.Lookup ∧
      ((Store.ofMembers .empty members).run edits).plain =
        (Record.ofMembers members).run (edits.map (Edit.map SoundCell.plain)) ∧
      (Value.record ((Record.ofMembers members).run (edits.map (Edit.map SoundCell.plain)))).Everywhere
        Record.Lookup := by
  obtain ⟨hstart, hstartPlain⟩ := Store.ofMembers_agrees members Store.sound_empty
  obtain ⟨hsound, hplain⟩ := Store.run_agrees edits hstart
  rw [hstartPlain] at hplain
  refine ⟨Cell.Everywhere.imp (fun _ => Store.Lookup.of_exact) _ hsound, hplain, ?_⟩
  have hkeys := Cell.Everywhere.plain (Q := Record.Lookup)
    (fun _ hexact => Record.Lookup.of_distinct (hexact.distinctKeys.mapValues _)) _ hsound
  rw [Store.plain_record, hplain] at hkeys
  exact hkeys

end Scim
