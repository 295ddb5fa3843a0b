import Scim.Proofs.Value.Everywhere

/-!
# Records and their documents

An object may have members whose keys differ only in case, a record may not: as members are read one after the
other, each one takes the place of the earlier ones that it repeats, and stands at the end.  What is left of an object
when it has been read and written again are therefore those members that no later one repeats, in their order and
casing, and so for every object within it.

Writing loses the two sentinels, which both become null.  A record that has neither, at any depth, and whose keys
differ, is read again as it was.

## Main results

* `Value.toJson_ofJson`: what is left of a document that was read and written.
* `Json.latest_eq_self_iff`: that is all of it exactly if the keys of its objects differ.
* `Value.ofJson_toJson`: a value without sentinels and with different keys is read as it was written.
* `Value.fromJson_iff`: there are no other values of documents.
* `Record.reading_and_writing`: the whole statement.
-/

namespace Scim

open Text

namespace Json

/-- What holds of a list or an object if it holds of its parts, and of everything else, holds of every document. -/
@[elab_as_elim]
theorem induct {P : Json → Prop} (null : P .null) (bool : ∀ b, P (.bool b)) (number : ∀ n, P (.number n))
    (text : ∀ s, P (.text s)) (list : ∀ items, (∀ item ∈ items, P item) → P (.list items))
    (object : ∀ members : Entries Json, (∀ member ∈ members, P member.2) → P (.object members)) (json : Json) :
    P json :=
  @Json.rec P (fun items => ∀ item ∈ items, P item) (fun members => ∀ member ∈ members, P member.2)
    (fun member => P member.2) null bool number text list object (by simp)
    (fun _ _ hitem hitems => List.forall_mem_cons.2 ⟨hitem, hitems⟩) (by simp)
    (fun _ _ hmember hmembers => List.forall_mem_cons.2 ⟨hmember, hmembers⟩) (fun _ _ hvalue => hvalue) json

/-! ## What is left of a document -/

mutual

/-- The document without the members that a later one of their object repeats in some casing, at every depth. -/
def latest : Json → Json
  | .null => .null
  | .bool b => .bool b
  | .number n => .number n
  | .text s => .text s
  | .list items => .list (latestItems items)
  | .object members => .object (latestMembers members)

/-- What is left of the items of a list. -/
def latestItems : List Json → List Json
  | [] => []
  | item :: items => item.latest :: latestItems items

/-- The members of an object that no later one repeats, with what is left of their values. -/
def latestMembers : List (String × Json) → List (String × Json)
  | [] => []
  | (key, value) :: members =>
    if members.any (Entries.hasKey key) then latestMembers members else (key, value.latest) :: latestMembers members

end

theorem latest_list (items : List Json) : (list items).latest = .list (items.map latest) := by
  rw [latest]
  congr 1
  induction items with
  | nil => rfl
  | cons item items ih => rw [latestItems, ih, List.map_cons]

/-- An object is left with the members that no later one repeats. -/
theorem latest_object (members : Entries Json) :
    (object members).latest = .object (members.latest.mapValues latest) := by
  rw [latest]
  congr 1
  induction members with
  | nil => rfl
  | cons member members ih =>
    obtain ⟨key, value⟩ := member
    rw [latestMembers, Entries.latest, ih]
    split <;> rfl

mutual

/-- Whether the keys of every object at any depth differ, in whatever casing. -/
def WellKeyed : Json → Prop
  | .list items => wellKeyedItems items
  | .object members => Entries.DistinctKeys members ∧ wellKeyedMembers members
  | _ => True

/-- Whether they do in every item of a list. -/
def wellKeyedItems : List Json → Prop
  | [] => True
  | item :: items => item.WellKeyed ∧ wellKeyedItems items

/-- Whether they do in the value of every member. -/
def wellKeyedMembers : List (String × Json) → Prop
  | [] => True
  | (_, value) :: members => value.WellKeyed ∧ wellKeyedMembers members

end

theorem wellKeyed_list {items : List Json} : (list items).WellKeyed ↔ ∀ item ∈ items, item.WellKeyed := by
  rw [WellKeyed]
  induction items with
  | nil => simp [wellKeyedItems]
  | cons item items ih => rw [wellKeyedItems, ih, List.forall_mem_cons]

theorem wellKeyed_object {members : Entries Json} :
    (object members).WellKeyed ↔ members.DistinctKeys ∧ ∀ member ∈ members, member.2.WellKeyed := by
  rw [WellKeyed]
  refine and_congr_right' ?_
  induction members with
  | nil => simp [wellKeyedMembers]
  | cons member members ih =>
    show member.2.WellKeyed ∧ wellKeyedMembers members ↔ _
    rw [ih, List.forall_mem_cons]

/-- Everything is left exactly if the keys of every object differ. -/
theorem latest_eq_self_iff {json : Json} : json.latest = json ↔ json.WellKeyed := by
  induction json using induct with
  | list items ih =>
    have hmap : items.map latest = items ↔ ∀ item ∈ items, item.latest = item := by
      conv_lhs => rhs; rw [← List.map_id items]
      exact List.map_inj_left
    rw [latest_list, wellKeyed_list, list.injEq, hmap]
    exact forall₂_congr ih
  | object members ih =>
    rw [latest_object, wellKeyed_object, object.injEq, ← forall₂_congr ih]
    constructor
    · intro h
      have hlength : members.latest.length = members.length := by
        rw [← congrArg List.length h, Entries.mapValues, List.length_map]
      have hall : members.latest = members := members.latest_sublist.eq_of_length hlength
      rw [hall] at h
      exact ⟨Entries.latest_eq_self_iff.1 hall, Entries.mapValues_eq_self_iff.1 h⟩
    · rintro ⟨hkeys, hvalues⟩
      rw [Entries.latest_eq_self_iff.2 hkeys, Entries.mapValues_eq_self_iff.2 hvalues]
  | _ => simp [latest, WellKeyed]

end Json

namespace Value

/-! ## Writing what was read -/

theorem toJson_record (entries : Record) : toJson (.record entries) = .object (entries.mapValues toJson) := by
  rw [toJson]
  congr 1
  induction entries with
  | nil => rfl
  | cons entry entries ih =>
    show (entry.1, entry.2.toJson) :: toMembers entries = _
    rw [ih]
    rfl

theorem toJson_list (items : List Value) : toJson (.list items) = .list (items.map toJson) := by
  rw [toJson, toItems_eq_map]

/-- What is left of a document that was read and written. -/
theorem toJson_ofJson (json : Json) : (ofJson json).toJson = json.latest := by
  induction json using Json.induct with
  | list items ih =>
    rw [ofJson_list, toJson_list, Json.latest_list, List.map_map]
    exact congrArg Json.list (List.map_congr_left ih)
  | object members ih =>
    rw [ofJson_object, toJson_record, Json.latest_object, Entries.mapValues_mapValues]
    refine congrArg Json.object (Entries.mapValues_congr.2 fun member hmember => ih member ?_)
    exact members.latest_sublist.subset hmember
  | _ => rfl

/-! ## Values that documents can hold -/

/-- What holds of a list or a record if it holds of its parts, and of everything else, holds of every value. -/
@[elab_as_elim]
theorem induct {P : Value → Prop} (missing : P .missing) (invalid : P .invalid) (null : P .null)
    (bool : ∀ b, P (.bool b)) (number : ∀ n, P (.number n)) (text : ∀ s, P (.text s))
    (list : ∀ items, (∀ item ∈ items, P item) → P (.list items))
    (record : ∀ entries : Record, (∀ entry ∈ entries, P entry.2) → P (.record entries)) (value : Value) : P value :=
  @Value.rec P (fun items => ∀ item ∈ items, P item) (fun entries => ∀ entry ∈ entries, P entry.2)
    (fun entry => P entry.2) missing invalid null bool number text list record (by simp)
    (fun _ _ hitem hitems => List.forall_mem_cons.2 ⟨hitem, hitems⟩) (by simp)
    (fun _ _ hentry hentries => List.forall_mem_cons.2 ⟨hentry, hentries⟩) (fun _ _ hvalue => hvalue) value

mutual

/-- Whether a value is neither missing nor invalid, and nothing within it is. -/
def Present : Value → Prop
  | .missing => False
  | .invalid => False
  | .list items => everyPresent items
  | .record entries => everyValuePresent entries
  | _ => True

/-- Whether no item is missing or invalid, and nothing within one. -/
def everyPresent : List Value → Prop
  | [] => True
  | item :: items => item.Present ∧ everyPresent items

/-- Whether no value of the entries is missing or invalid, and nothing within one. -/
def everyValuePresent : List (String × Value) → Prop
  | [] => True
  | (_, value) :: entries => value.Present ∧ everyValuePresent entries

end

theorem present_list {items : List Value} : (list items).Present ↔ ∀ item ∈ items, item.Present := by
  rw [Present]
  induction items with
  | nil => simp [everyPresent]
  | cons item items ih => rw [everyPresent, ih, List.forall_mem_cons]

theorem present_record {entries : Record} : (record entries).Present ↔ ∀ entry ∈ entries, entry.2.Present := by
  rw [Present]
  induction entries with
  | nil => simp [everyValuePresent]
  | cons entry entries ih =>
    show entry.2.Present ∧ everyValuePresent entries ↔ _
    rw [ih, List.forall_mem_cons]

/-- No document is read as a missing or an invalid value. -/
theorem present_ofJson (json : Json) : (ofJson json).Present := by
  induction json using Json.induct with
  | list items ih =>
    rw [ofJson_list, present_list, List.forall_mem_map]
    exact ih
  | object members ih =>
    rw [ofJson_object, present_record, Entries.mapValues, List.forall_mem_map]
    exact fun member hmember => ih member (members.latest_sublist.subset hmember)
  | _ => trivial

/-- A value without sentinels whose keys differ is read as it was written. -/
theorem ofJson_toJson {value : Value} (hkeys : value.WellKeyed) (hpresent : value.Present) :
    ofJson value.toJson = value := by
  induction value using induct with
  | missing => exact hpresent.elim
  | invalid => exact hpresent.elim
  | list items ih =>
    have hitems : ∀ item ∈ items, ofJson item.toJson = item := fun item hitem =>
      ih item hitem (everywhere_list.1 hkeys item hitem) (present_list.1 hpresent item hitem)
    rw [toJson_list, ofJson_list, List.map_map]
    exact congrArg Value.list ((List.map_congr_left hitems).trans (List.map_id items))
  | record entries ih =>
    obtain ⟨hdistinct, hvalues⟩ := everywhere_record.1 hkeys
    have hentries : ∀ entry ∈ entries, ofJson entry.2.toJson = entry.2 := fun entry hentry =>
      ih entry hentry (hvalues entry hentry) (present_record.1 hpresent entry hentry)
    rw [toJson_record, ofJson_object, Entries.latest_mapValues, Entries.latest_eq_self_iff.2 hdistinct,
      Entries.mapValues_mapValues, Entries.mapValues_eq_self_iff.2 hentries]
  | _ => rfl

/-- The values of documents are those without sentinels whose keys differ. -/
theorem fromJson_iff {value : Value} : value.FromJson ↔ value.WellKeyed ∧ value.Present := by
  constructor
  · rintro ⟨json, rfl⟩
    exact ⟨wellKeyed_ofJson json, present_ofJson json⟩
  · rintro ⟨hkeys, hpresent⟩
    exact ⟨value.toJson, ofJson_toJson hkeys hpresent⟩

end Value

namespace Record

/-- An object that was read and written has those members that no later one repeats, each with what is left of its
value; it is the object that was read if no object within it repeats a key.  A record without sentinels whose keys
differ at every depth is read as it was written. -/
theorem reading_and_writing :
    (∀ members : Entries Json,
      (ofMembers members).toJson = .object (members.latest.mapValues Json.latest) ∧
        ((Json.object members).WellKeyed → (ofMembers members).toJson = .object members)) ∧
    ∀ record : Record, (Value.record record).WellKeyed → (Value.record record).Present →
      ∃ members, record.toJson = .object members ∧ ofMembers members = record := by
  constructor
  · intro members
    have hleft : (ofMembers members).toJson = (Json.object members).latest := by
      rw [← Value.toJson_ofJson, Value.ofJson]
      rfl
    rw [hleft]
    exact ⟨Json.latest_object members, Json.latest_eq_self_iff.2⟩
  · intro record hkeys hpresent
    refine ⟨record.mapValues Value.toJson, Value.toJson_record record, ?_⟩
    have hread := Value.ofJson_toJson hkeys hpresent
    rw [Value.toJson_record, Value.ofJson] at hread
    exact Value.record.inj hread

/-- Members that are repeated in another casing, one of them inside a list. -/
def repeatedMembers : Entries Json :=
  [("id", .text "1"), ("emails", .list [.object [("value", .text "a"), ("Value", .text "b")]]), ("ID", .text "2")]

/-- What is left of them. -/
def leftMembers : Entries Json := [("emails", .list [.object [("Value", .text "b")]]), ("ID", .text "2")]

theorem reading_and_writing_repeated :
    (ofMembers repeatedMembers).toJson = .object leftMembers ∧
      (Json.object leftMembers).WellKeyed ∧ (ofMembers leftMembers).toJson = .object leftMembers ∧
      (Value.record (ofMembers leftMembers)).WellKeyed ∧ (Value.record (ofMembers leftMembers)).Present ∧
      ∃ members, (ofMembers leftMembers).toJson = .object members ∧ ofMembers members = ofMembers leftMembers := by
  obtain ⟨hread, hwritten⟩ := reading_and_writing
  have hother : lower "emails" ≠ lower "ID" := by decide +kernel
  have hleft : repeatedMembers.latest.mapValues Json.latest = leftMembers := by
    have hid : lower "id" = lower "ID" := by decide +kernel
    have hvalue : lower "value" = lower "Value" := by decide +kernel
    simp [repeatedMembers, leftMembers, Entries.latest, Entries.mapValues, Entries.hasKey, Json.latest,
      Json.latestItems, Json.latestMembers, hid, hother.symm, hvalue]
  have hkeys : (Json.object leftMembers).WellKeyed := by
    simp [leftMembers, Entries.DistinctKeys, Json.WellKeyed, Json.wellKeyedItems, Json.wellKeyedMembers, hother]
  obtain ⟨hrecord, hpresent⟩ := Value.fromJson_iff.1 (Value.fromJson_ofMembers leftMembers)
  have hagain := hread leftMembers
  exact ⟨hleft ▸ (hread repeatedMembers).1, hkeys, hagain.2 hkeys, hrecord, hpresent,
    hwritten (ofMembers leftMembers) hrecord hpresent⟩

end Record

end Scim
