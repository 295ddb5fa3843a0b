import Mathlib.Data.List.Basic
import Scim.Proofs.Record.Entries
import Scim.Value

/-!
# Properties of records at every depth

A value holds records inside records and inside lists.  What is asked of every record of a value, whatever
its depth, is asked by one predicate; above all that its keys differ.

## Main results

* `Value.everywhere_list`, `Value.everywhere_record`: the property is one of the record itself and of its
  parts.
* `Value.wellKeyed_ofJson`: the keys of the value of a document differ at every depth.
* `Value.ofJson_object`: of the members of an object those are read that no later one repeats.
* `Value.FromJson.list`, `Value.FromJson.record`: what is made of values of documents is one.
-/

namespace Scim

namespace Value

mutual

/-- Whether every record at any depth of a value has a property. -/
def Everywhere (P : Record → Prop) : Value → Prop
  | .list items => everyItem P items
  | .record entries => P entries ∧ everyEntry P entries
  | _ => True

/-- Whether every record at any depth of the items has a property. -/
def everyItem (P : Record → Prop) : List Value → Prop
  | [] => True
  | item :: items => item.Everywhere P ∧ everyItem P items

/-- Whether every record at any depth of the entries has a property. -/
def everyEntry (P : Record → Prop) : List (String × Value) → Prop
  | [] => True
  | (_, value) :: entries => value.Everywhere P ∧ everyEntry P entries

end

variable {P : Record → Prop}

theorem everyItem_iff {items : List Value} : everyItem P items ↔ ∀ item ∈ items, item.Everywhere P := by
  induction items with
  | nil => simp [everyItem]
  | cons item items ih => rw [everyItem, ih, List.forall_mem_cons]

theorem everyEntry_iff {entries : Record} :
    everyEntry P entries ↔ ∀ entry ∈ entries, entry.2.Everywhere P := by
  induction entries with
  | nil => simp [everyEntry]
  | cons entry entries ih =>
    show entry.2.Everywhere P ∧ everyEntry P entries ↔ _
    rw [ih, List.forall_mem_cons]

theorem everywhere_list {items : List Value} :
    (Value.list items).Everywhere P ↔ ∀ item ∈ items, item.Everywhere P := by
  rw [Everywhere, everyItem_iff]

theorem everywhere_record {entries : Record} :
    (Value.record entries).Everywhere P ↔ P entries ∧ ∀ entry ∈ entries, entry.2.Everywhere P := by
  rw [Everywhere, everyEntry_iff]

/-- The keys of every record at any depth differ. -/
def WellKeyed (value : Value) : Prop := value.Everywhere Entries.DistinctKeys

theorem WellKeyed.insert {entries : Record} (h : (Value.record entries).WellKeyed) (key : String)
    {value : Value} (hvalue : value.WellKeyed) : (Value.record (entries.insert key value)).WellKeyed := by
  obtain ⟨hkeys, hvalues⟩ := everywhere_record.1 h
  refine everywhere_record.2 ⟨hkeys.insert key value, fun entry hmem => ?_⟩
  rcases List.mem_append.1 hmem with hold | hnew
  · exact hvalues entry (List.mem_filter.1 hold).1
  · rw [List.mem_singleton.1 hnew]
    exact hvalue

mutual

/-- Reading a document gives records whose keys differ at every depth. -/
theorem wellKeyed_ofJson : ∀ json : Json, (ofJson json).WellKeyed
  | .null => trivial
  | .bool _ => trivial
  | .number _ => trivial
  | .text _ => trivial
  | .list items => by
    rw [ofJson]
    exact everywhere_list.2 (wellKeyed_ofItems items)
  | .object members => by
    rw [ofJson]
    exact wellKeyed_ofMembers members (everywhere_record.2 ⟨List.Pairwise.nil, by simp⟩)

theorem wellKeyed_ofItems : ∀ (items : List Json), ∀ item ∈ ofItems items, item.WellKeyed
  | [] => by simp [ofItems]
  | json :: items => by
    rw [ofItems, List.forall_mem_cons]
    exact ⟨wellKeyed_ofJson json, wellKeyed_ofItems items⟩

theorem wellKeyed_ofMembers : ∀ (members : List (String × Json)) {entries : Record},
    (Value.record entries).WellKeyed → (Value.record (ofMembers entries members)).WellKeyed
  | [], _, h => h
  | (key, json) :: members, _, h => by
    rw [ofMembers]
    exact wellKeyed_ofMembers members (h.insert key (wellKeyed_ofJson json))

end

/-! ## Values of documents -/

/-- The members of an object are written to a record one after the other. -/
theorem ofMembers_eq_foldl (entries : Record) (members : Entries Json) :
    ofMembers entries members =
      (members.mapValues ofJson).foldl (fun written entry => written.insert entry.1 entry.2) entries := by
  induction members generalizing entries with
  | nil => rfl
  | cons member members ih =>
    obtain ⟨key, json⟩ := member
    rw [ofMembers, ih]
    rfl

/-- Of the members of an object those are read that no later one repeats. -/
theorem ofJson_object (members : Entries Json) :
    ofJson (.object members) = .record (members.latest.mapValues ofJson) := by
  rw [ofJson, ofMembers_eq_foldl, Entries.foldl_insert, Entries.latest_mapValues]
  rfl

theorem ofJson_list (items : List Json) : ofJson (.list items) = .list (items.map ofJson) := by
  rw [ofJson]
  congr 1
  induction items with
  | nil => rfl
  | cons item items ih => rw [ofItems, ih, List.map_cons]

/-- A value that was read from a document. -/
def FromJson (value : Value) : Prop := ∃ json, ofJson json = value

theorem fromJson_ofMembers (members : List (String × Json)) :
    (Value.record (Record.ofMembers members)).FromJson := by
  refine ⟨.object members, ?_⟩
  rw [ofJson]
  rfl

namespace FromJson

variable {value : Value}

theorem wellKeyed (h : value.FromJson) : value.WellKeyed := by
  obtain ⟨json, rfl⟩ := h
  exact wellKeyed_ofJson json

/-- A document has no way of being invalid. -/
theorem isInvalid (h : value.FromJson) : value.isInvalid = false := by
  obtain ⟨json, rfl⟩ := h
  cases json with
  | list items =>
    rw [ofJson]
    rfl
  | object members =>
    rw [ofJson]
    rfl
  | _ => rfl

/-- The items of a list that was read are values of documents. -/
theorem item {items : List Value} (h : (Value.list items).FromJson) {item : Value} (hitem : item ∈ items) :
    item.FromJson := by
  obtain ⟨json, hjson⟩ := h
  cases json with
  | list jsons =>
    rw [ofJson_list] at hjson
    rw [← Value.list.inj hjson] at hitem
    obtain ⟨json, -, rfl⟩ := List.mem_map.1 hitem
    exact ⟨json, rfl⟩
  | object members =>
    rw [ofJson_object] at hjson
    cases hjson
  | _ => cases hjson

/-- The values of a record that was read are values of documents. -/
theorem entry {entries : Record} (h : (Value.record entries).FromJson) {entry : String × Value}
    (hentry : entry ∈ entries) : entry.2.FromJson := by
  obtain ⟨json, hjson⟩ := h
  cases json with
  | object members =>
    rw [ofJson_object] at hjson
    rw [← Value.record.inj hjson] at hentry
    obtain ⟨member, -, rfl⟩ := List.mem_map.1 hentry
    exact ⟨member.2, rfl⟩
  | list items =>
    rw [ofJson_list] at hjson
    cases hjson
  | _ => cases hjson

/-- A list of such values is one. -/
theorem list {items : List Value} (h : ∀ item ∈ items, item.FromJson) : (Value.list items).FromJson := by
  have hitems : ∃ jsons : List Json, jsons.map ofJson = items := by
    induction items with
    | nil => exact ⟨[], rfl⟩
    | cons item items ih =>
      obtain ⟨json, rfl⟩ := h item List.mem_cons_self
      obtain ⟨jsons, rfl⟩ := ih fun later hlater => h later (List.mem_cons_of_mem _ hlater)
      exact ⟨json :: jsons, rfl⟩
  obtain ⟨jsons, rfl⟩ := hitems
  exact ⟨.list jsons, ofJson_list jsons⟩

/-- A record of such values is one if its keys differ. -/
theorem record {entries : Record} (hkeys : entries.DistinctKeys) (h : ∀ entry ∈ entries, entry.2.FromJson) :
    (Value.record entries).FromJson := by
  have hmembers : ∃ members : Entries Json, members.mapValues ofJson = entries := by
    clear hkeys
    induction entries with
    | nil => exact ⟨[], rfl⟩
    | cons entry entries ih =>
      obtain ⟨key, value⟩ := entry
      obtain ⟨json, rfl⟩ := h _ List.mem_cons_self
      obtain ⟨members, rfl⟩ := ih fun later hlater => h later (List.mem_cons_of_mem _ hlater)
      exact ⟨(key, json) :: members, rfl⟩
  obtain ⟨members, rfl⟩ := hmembers
  refine ⟨.object members, ?_⟩
  rw [ofJson_object, ← Entries.latest_mapValues, Entries.latest_eq_self_iff.2 hkeys]

end FromJson

end Value

end Scim
