import Mathlib.Data.List.Basic
import Scim.Proofs.Record.Indexed
import Scim.Record.Address

/-!
# Records that are looked up by position

A *store* is a record every level of which carries a table of positions, down to the elements of its lists.
It is written to like a record, but in the way that a table asks for: an absent parent is put in first and
then changed where it stands, and what is found under a key is found through the table.

A store whose tables are all exact denotes a plain record, and each write and each removal does to the
plain record what the operation on records does.  A write that is refused leaves the plain record as it was.

## Main results

* `Store.Sound.insert`, `Store.Sound.erase`, `Store.Sound.replace`: the tables of all levels stay exact.
* `Store.Sound.plain_insert`, `Store.Sound.plain_erase`, `Store.Sound.plain_replace`: the plain record is
  changed as the operation on records changes it.
-/

namespace Scim

open Text

/-- A value whose records carry tables of positions. -/
inductive Cell where
  | missing
  | invalid
  | null
  | bool (value : Bool)
  | number (value : Number)
  | text (value : String)
  | list (items : List Cell)
  | record (contents : Indexed Cell)

/-- A record with a table of positions at every level. -/
abbrev Store := Indexed Cell

namespace Cell

/-- Whether there is no value at all. -/
def isMissing : Cell → Bool
  | .missing => true
  | _ => false

/-! ## The plain value of a cell -/

mutual

/-- The value without its tables. -/
def plain : Cell → Value
  | .missing => .missing
  | .invalid => .invalid
  | .null => .null
  | .bool b => .bool b
  | .number n => .number n
  | .text s => .text s
  | .list items => .list (plainItems items)
  | .record ⟨entries, _⟩ => .record (plainEntries entries)

/-- The items of a list without their tables. -/
def plainItems : List Cell → List Value
  | [] => []
  | item :: items => item.plain :: plainItems items

/-- Entries without their tables. -/
def plainEntries : List (String × Cell) → List (String × Value)
  | [] => []
  | (key, cell) :: entries => (key, cell.plain) :: plainEntries entries

end

theorem plainItems_eq_map (items : List Cell) : plainItems items = items.map plain := by
  induction items with
  | nil => rfl
  | cons item items ih => rw [plainItems, ih, List.map_cons]

theorem plainEntries_eq_mapValues (entries : Entries Cell) :
    plainEntries entries = entries.mapValues plain := by
  induction entries with
  | nil => rfl
  | cons entry entries ih =>
    show (entry.1, entry.2.plain) :: plainEntries entries = _
    rw [ih]
    rfl

theorem isMissing_plain (cell : Cell) : cell.plain.isMissing = cell.isMissing := by
  cases cell with
  | record contents => cases contents; rfl
  | _ => rfl

/-! ## Stores at every depth -/

mutual

/-- Whether every store at any depth of a cell has a property. -/
def Everywhere (P : Store → Prop) : Cell → Prop
  | .list items => everyItem P items
  | .record ⟨entries, table⟩ => P ⟨entries, table⟩ ∧ everyEntry P entries
  | _ => True

/-- Whether every store at any depth of the items has a property. -/
def everyItem (P : Store → Prop) : List Cell → Prop
  | [] => True
  | item :: items => item.Everywhere P ∧ everyItem P items

/-- Whether every store at any depth of the entries has a property. -/
def everyEntry (P : Store → Prop) : List (String × Cell) → Prop
  | [] => True
  | (_, cell) :: entries => cell.Everywhere P ∧ everyEntry P entries

end

theorem everyItem_iff {P : Store → Prop} {items : List Cell} :
    everyItem P items ↔ ∀ item ∈ items, item.Everywhere P := by
  induction items with
  | nil => simp [everyItem]
  | cons item items ih => rw [everyItem, ih, List.forall_mem_cons]

theorem everyEntry_iff {P : Store → Prop} {entries : Entries Cell} :
    everyEntry P entries ↔ ∀ entry ∈ entries, entry.2.Everywhere P := by
  induction entries with
  | nil => simp [everyEntry]
  | cons entry entries ih =>
    show entry.2.Everywhere P ∧ everyEntry P entries ↔ _
    rw [ih, List.forall_mem_cons]

theorem everywhere_list {P : Store → Prop} {items : List Cell} :
    (Cell.list items).Everywhere P ↔ ∀ item ∈ items, item.Everywhere P := by
  rw [Everywhere, everyItem_iff]

theorem everywhere_record {P : Store → Prop} {contents : Store} :
    (Cell.record contents).Everywhere P ↔
      P contents ∧ ∀ entry ∈ contents.entries, entry.2.Everywhere P := by
  cases contents
  rw [Everywhere, everyEntry_iff]

/-- The tables of all levels are exact. -/
def Sound (cell : Cell) : Prop := cell.Everywhere Indexed.Exact

end Cell

namespace Store

/-- The record without its tables. -/
def plain (store : Store) : Record := Entries.mapValues Cell.plain store.entries

theorem plain_record (store : Store) : (Cell.record store).plain = .record store.plain := by
  cases store
  rw [Cell.plain, Cell.plainEntries_eq_mapValues]
  rfl

/-- The tables of all levels are exact. -/
def Sound (store : Store) : Prop := (Cell.record store).Sound

theorem sound_iff {store : Store} :
    store.Sound ↔ store.Exact ∧ ∀ entry ∈ store.entries, entry.2.Sound :=
  Cell.everywhere_record

theorem sound_empty : Store.Sound .empty :=
  sound_iff.2 ⟨Indexed.exact_empty, fun _ hmem => absurd hmem List.not_mem_nil⟩

namespace Sound

variable {store : Store}

theorem exact (h : store.Sound) : store.Exact := (sound_iff.1 h).1

theorem of_mem (h : store.Sound) {entry : String × Cell} (hmem : entry ∈ store.entries) :
    entry.2.Sound :=
  (sound_iff.1 h).2 entry hmem

theorem of_get? (h : store.Sound) {key : String} {cell : Cell} (hget : store.get? key = some cell) :
    cell.Sound := by
  rw [h.exact.get?_eq] at hget
  obtain ⟨stored, hmem, -⟩ := Entries.mem_of_get? hget
  exact h.of_mem hmem

protected theorem erase (h : store.Sound) (key : String) : Store.Sound (store.erase key) := by
  refine sound_iff.2 ⟨h.exact.erase key, fun entry hmem => ?_⟩
  rw [h.exact.entries_erase] at hmem
  exact h.of_mem (List.mem_filter.1 hmem).1

protected theorem insert (h : store.Sound) (key : String) {cell : Cell} (hcell : cell.Sound) :
    Store.Sound (store.insert key cell) := by
  refine sound_iff.2 ⟨h.exact.insert key cell, fun entry hmem => ?_⟩
  rw [h.exact.entries_insert] at hmem
  rcases List.mem_append.1 hmem with hold | hnew
  · exact h.of_mem (List.mem_filter.1 hold).1
  · rw [List.mem_singleton.1 hnew]
    exact hcell

protected theorem replace (h : store.Sound) (key : String) {cell : Cell} (hcell : cell.Sound) :
    Store.Sound (store.replace key cell) := by
  refine sound_iff.2 ⟨h.exact.replace key cell, fun entry hmem => ?_⟩
  rw [h.exact.entries_replace] at hmem
  obtain ⟨old, hold, rfl⟩ := List.mem_map.1 hmem
  split
  · exact hcell
  · exact h.of_mem hold

theorem plain_get? (h : store.Sound) (key : String) :
    store.plain.get? key = (store.get? key).map Cell.plain := by
  rw [h.exact.get?_eq]
  exact Entries.get?_mapValues _ _ _

theorem plain_erase (h : store.Sound) (key : String) :
    Store.plain (store.erase key) = store.plain.erase key := by
  rw [Store.plain, h.exact.entries_erase]
  exact Entries.mapValues_erase _ _ _

theorem plain_insert (h : store.Sound) (key : String) (cell : Cell) :
    Store.plain (store.insert key cell) = store.plain.insert key cell.plain := by
  rw [Store.plain, h.exact.entries_insert]
  exact Entries.mapValues_insert _ _ _ _

theorem plain_replace (h : store.Sound) (key : String) (cell : Cell) :
    Store.plain (store.replace key cell) = store.plain.replace key cell.plain := by
  rw [Store.plain, h.exact.entries_replace]
  exact Entries.mapValues_replace _ _ _ _

end Sound

end Store

end Scim
