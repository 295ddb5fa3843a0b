import Scim.Location
import Scim.Proofs.Record.Entries
import Scim.Proofs.Value.Everywhere

/-!
# Values in which parts were marked as invalid

A check answers a value with the same value in which the parts it rejects are marked as invalid.  `Marked`
says that this is all that happened: a part is as it was, or it became invalid at a location where that is
allowed, or it is a list of as many items, or a record with the same keys in the same order and casing, and
the items and the entries changed in the same way in turn.  The locations are seen from the part in question,
so those for an entry are what is left of a location after a key, in whatever casing it spells that key.

A part cannot be looked at any more once something around it is invalid.  `Invalidated` is therefore asked of
a location and of all the locations on the way to it, and it is never lost when more parts are marked.

## Main results

* `Marked.trans`: marking twice is marking.
* `Marked.list_set`, `Marked.record_replace`: marking one item or one entry.
* `Marked.invalidated`: what was invalid stays so, or disappears into something invalid.
-/

namespace Scim.Value

open Text

/-! ## The value at a location -/

/-- The part of a value that one step leads to. -/
def step? : Value → Segment → Option Value
  | .record entries, .key key => Entries.get? entries key
  | .list items, .index index => items[index]?
  | _, _ => none

/-- The part of a value at a location. -/
def at? (value : Value) : Location → Option Value
  | [] => some value
  | step :: rest => (value.step? step).bind fun part => part.at? rest

theorem at?_key (entries : Record) (key : String) (rest : Location) :
    (record entries).at? (.key key :: rest) = (Entries.get? entries key).bind fun part => part.at? rest :=
  rfl

theorem at?_index (items : List Value) (index : Nat) (rest : Location) :
    (list items).at? (.index index :: rest) = items[index]?.bind fun part => part.at? rest := rfl

/-- Whether the value at a location, or one on the way to it, is invalid. -/
def Invalidated (value : Value) (location : Location) : Prop :=
  ∃ start : Location, start <+: location ∧ value.at? start = some .invalid

theorem invalidated_invalid (location : Location) : invalid.Invalidated location :=
  ⟨[], List.nil_prefix, rfl⟩

/-- An invalid part is invalid from further up as well. -/
theorem Invalidated.cons {value part : Value} {step : Segment} {rest : Location}
    (hstep : value.step? step = some part) (h : part.Invalidated rest) :
    value.Invalidated (step :: rest) := by
  obtain ⟨start, hstart, hat⟩ := h
  refine ⟨step :: start, List.cons_prefix_cons.2 ⟨rfl, hstart⟩, ?_⟩
  rw [at?, hstep]
  exact hat

/-! ## Marking -/

/-- The locations after the index of an item. -/
def belowIndex (allowed : Location → Prop) (index : Nat) (location : Location) : Prop :=
  allowed (.index index :: location)

/-- The locations after the key of an entry, in any casing of the key. -/
def belowKey (allowed : Location → Prop) (key : String) (location : Location) : Prop :=
  ∃ spelled, lower spelled = lower key ∧ allowed (.key spelled :: location)

/-- One value is another one in which parts at some of the allowed locations became invalid. -/
inductive Marked : (Location → Prop) → Value → Value → Prop where
  | kept {allowed : Location → Prop} (value : Value) : Marked allowed value value
  | invalid {allowed : Location → Prop} (value : Value) (h : allowed []) : Marked allowed value .invalid
  | list {allowed : Location → Prop} {before after : List Value} (hlength : after.length = before.length)
      (h : ∀ (index : Nat) (a b : Value), before[index]? = some a → after[index]? = some b →
        Marked (belowIndex allowed index) a b) :
      Marked allowed (.list before) (.list after)
  | record {allowed : Location → Prop} {before after : Record}
      (hkeys : Entries.keys after = Entries.keys before)
      (h : ∀ (index : Nat) (key : String) (a b : Value), before[index]? = some (key, a) →
        after[index]? = some (key, b) → Marked (belowKey allowed key) a b) :
      Marked allowed (.record before) (.record after)

variable {allowed more : Location → Prop} {a b c : Value}

/-- More locations allow more. -/
theorem Marked.mono (h : Marked allowed a b) (hmore : ∀ location, allowed location → more location) :
    Marked more a b := by
  induction h generalizing more with
  | kept value => exact .kept value
  | invalid value hroot => exact .invalid value (hmore [] hroot)
  | list hlength _ ih =>
    refine .list hlength fun index a b ha hb => ih index a b ha hb fun location hin => ?_
    exact hmore _ hin
  | record hkeys _ ih =>
    refine .record hkeys fun index key a b ha hb => ih index key a b ha hb fun location hin => ?_
    obtain ⟨spelled, hspelled, hin⟩ := hin
    exact ⟨spelled, hspelled, hmore _ hin⟩

/-- An entry stands at the same position in entries with the same keys. -/
private theorem exists_entry_of_keys_eq {before after : Record}
    (hkeys : Entries.keys after = Entries.keys before) {index : Nat} {key : String} {value : Value}
    (h : before[index]? = some (key, value)) : ∃ other, after[index]? = some (key, other) := by
  have hkey : (Entries.keys after)[index]? = some key := by
    rw [hkeys, Entries.keys, List.getElem?_map, h]
    rfl
  rw [Entries.keys, List.getElem?_map] at hkey
  obtain ⟨⟨stored, other⟩, hentry, rfl⟩ := Option.map_eq_some_iff.1 hkey
  exact ⟨other, hentry⟩

/-- Marking twice is marking. -/
theorem Marked.trans (h : Marked allowed a b) (h' : Marked allowed b c) : Marked allowed a c := by
  induction h generalizing c with
  | kept value => exact h'
  | invalid value hroot =>
    cases h' with
    | kept => exact .invalid value hroot
    | invalid => exact .invalid value hroot
  | list hlength hitems ih =>
    cases h' with
    | kept => exact .list hlength hitems
    | invalid _ hroot => exact .invalid _ hroot
    | list hlength' hitems' =>
      refine .list (hlength'.trans hlength) fun index a c ha hc => ?_
      have hindex : index < _ := (List.getElem?_eq_some_iff.1 hc).1
      rw [hlength'] at hindex
      have hb := List.getElem?_eq_getElem hindex
      exact ih index a _ ha hb (hitems' index _ c hb hc)
  | record hkeys hentries ih =>
    cases h' with
    | kept => exact .record hkeys hentries
    | invalid _ hroot => exact .invalid _ hroot
    | record hkeys' hentries' =>
      refine .record (hkeys'.trans hkeys) fun index key a c ha hc => ?_
      obtain ⟨b, hb⟩ := exists_entry_of_keys_eq hkeys ha
      exact ih index key a b ha hb (hentries' index key b c hb hc)

/-- Where nothing may be marked, nothing changes. -/
theorem Marked.eq_of_none (h : Marked allowed a b) (hnone : ∀ location, ¬ allowed location) : b = a := by
  induction h with
  | kept value => rfl
  | invalid value hroot => exact absurd hroot (hnone [])
  | @list _ before after hlength _ ih =>
    refine congrArg Value.list (List.ext_getElem hlength fun index hafter hbefore => ?_)
    exact ih index _ _ (List.getElem?_eq_getElem hbefore) (List.getElem?_eq_getElem hafter)
      fun location hin => hnone _ hin
  | @record _ before after hkeys _ ih =>
    have hlength : after.length = before.length := by
      have hmapped := congrArg List.length hkeys
      rwa [Entries.keys, Entries.keys, List.length_map, List.length_map] at hmapped
    refine congrArg Value.record (List.ext_getElem hlength fun index hafter hbefore => ?_)
    have hentry : after[index]? = some after[index] := List.getElem?_eq_getElem hafter
    obtain ⟨old, hold⟩ := exists_entry_of_keys_eq hkeys.symm hentry
    have hvalue := ih index _ old _ hold hentry fun location hin => by
      obtain ⟨spelled, -, hallowed⟩ := hin
      exact hnone _ hallowed
    rw [List.getElem?_eq_getElem hbefore] at hold
    rw [Option.some.inj hold, ← hvalue]
    rfl

/-- The keys of records stay different when parts are marked. -/
theorem Marked.wellKeyed (h : Marked allowed a b) (ha : a.WellKeyed) : b.WellKeyed := by
  induction h with
  | kept value => exact ha
  | invalid value hroot => trivial
  | @list _ before after hlength _ ih =>
    apply everywhere_list.2
    intro item hitem
    obtain ⟨index, hindex, rfl⟩ := List.getElem_of_mem hitem
    have hold : index < before.length := hlength ▸ hindex
    exact ih index _ _ (List.getElem?_eq_getElem hold) (List.getElem?_eq_getElem hindex)
      (everywhere_list.1 ha _ (List.getElem_mem hold))
  | @record _ before after hkeys _ ih =>
    obtain ⟨hdistinct, hvalues⟩ := everywhere_record.1 ha
    refine everywhere_record.2 ⟨?_, fun entry hentry => ?_⟩
    · rw [Entries.distinctKeys_iff_keys, hkeys]
      exact Entries.distinctKeys_iff_keys.1 hdistinct
    · obtain ⟨index, hindex⟩ := List.getElem?_of_mem hentry
      obtain ⟨key, value⟩ := entry
      obtain ⟨old, hold⟩ := exists_entry_of_keys_eq hkeys.symm hindex
      exact ih index key old value hold hindex (hvalues (key, old) (List.mem_of_getElem? hold))

/-! ## Marking one part -/

/-- Marking one item of a list. -/
theorem Marked.list_set {items : List Value} {index : Nat} {item changed : Value}
    (hitem : items[index]? = some item) (h : Marked (belowIndex allowed index) item changed) :
    Marked allowed (.list items) (.list (items.set index changed)) := by
  refine .list List.length_set fun other a b ha hb => ?_
  rw [List.getElem?_set] at hb
  split at hb
  · next hsame =>
    subst hsame
    split at hb
    · rw [hitem] at ha
      cases ha
      cases hb
      exact h
    · cases hb
  · rw [ha] at hb
    cases hb
    exact .kept a

/-- Marking one entry of a record. -/
theorem Marked.record_replace {entries : Record} (hd : entries.DistinctKeys) {key : String}
    {value changed : Value} (hvalue : entries.get? key = some value)
    (h : Marked (fun location => allowed (.key key :: location)) value changed) :
    Marked allowed (.record entries) (.record (entries.replace key changed)) := by
  refine .record (Entries.keys_replace entries key changed) fun index stored a b ha hb => ?_
  rw [Entries.replace, List.getElem?_map, ha, Option.map_some] at hb
  split at hb
  · next hkey =>
    have hlower := Entries.hasKey_iff.1 hkey
    have hown : entries.get? key = some a :=
      (Entries.get?_eq_some_iff hd).2 ⟨stored, List.mem_of_getElem? ha, hlower⟩
    rw [hvalue] at hown
    cases hown
    cases hb
    exact h.mono fun location hin => ⟨key, hlower.symm, hin⟩
  · cases hb
    exact .kept a

/-- What is invalid in an item is so in the list into which it was put. -/
theorem Invalidated.list_set {items : List Value} {index : Nat} {item changed : Value}
    (hitem : items[index]? = some item) {rest : Location} (h : changed.Invalidated rest) :
    (list (items.set index changed)).Invalidated (.index index :: rest) := by
  have hindex : index < items.length := (List.getElem?_eq_some_iff.1 hitem).1
  have hset : (items.set index changed)[index]? = some changed := List.getElem?_set_self hindex
  exact .cons hset h

/-- What is invalid in a value is so in the record into which it was put. -/
theorem Invalidated.record_replace {entries : Record} {key : String} {value changed : Value}
    (hvalue : entries.get? key = some value) {rest : Location} (h : changed.Invalidated rest) :
    (record (entries.replace key changed)).Invalidated (.key key :: rest) := by
  have hreplaced : Entries.get? (entries.replace key changed) key = some changed := by
    rw [Entries.get?_replace, if_pos rfl, hvalue]
    rfl
  exact .cons hreplaced h

/-! ## What stays invalid -/

/-- With the same keys, a key finds the entries at the same position. -/
theorem get?_of_keys_eq {before after : Record}
    (hkeys : Entries.keys after = Entries.keys before) {key : String} {value : Value}
    (h : before.get? key = some value) :
    ∃ (index : Nat) (stored : String) (other : Value), before[index]? = some (stored, value) ∧
      after[index]? = some (stored, other) ∧ after.get? key = some other := by
  induction before generalizing after with
  | nil => simp [Entries.get?] at h
  | cons entry before ih =>
    cases after with
    | nil => simp [Entries.keys] at hkeys
    | cons entry' after =>
      have hhead : entry'.1 = entry.1 := (List.cons.inj hkeys).1
      have htail : Entries.keys after = Entries.keys before := (List.cons.inj hkeys).2
      rw [Entries.get?_cons] at h
      split at h
      · next hkey =>
        cases h
        refine ⟨0, entry.1, entry'.2, rfl, ?_, ?_⟩
        · rw [List.getElem?_cons_zero, ← hhead]
        · rw [Entries.get?_cons, hhead, if_pos hkey]
      · next hkey =>
        obtain ⟨index, stored, other, hbefore, hafter, hget⟩ := ih htail h
        refine ⟨index + 1, stored, other, hbefore, hafter, ?_⟩
        rw [Entries.get?_cons, hhead, if_neg hkey]
        exact hget

/-- What was invalid is still invalid after more parts were marked, or lies in something that is. -/
theorem Marked.invalidated_of_at? (h : Marked allowed a b) {location : Location}
    (hat : a.at? location = some .invalid) : b.Invalidated location := by
  induction h generalizing location with
  | kept value => exact ⟨location, List.prefix_refl _, hat⟩
  | invalid value hroot => exact invalidated_invalid location
  | @list _ before after hlength _ ih =>
    rcases location with _ | ⟨_ | index, rest⟩
    · cases hat
    · cases hat
    · rw [at?_index] at hat
      obtain ⟨item, hitem, hrest⟩ := Option.bind_eq_some_iff.1 hat
      have hindex : index < after.length := hlength ▸ (List.getElem?_eq_some_iff.1 hitem).1
      have hafter := List.getElem?_eq_getElem hindex
      exact .cons hafter (ih index item _ hitem hafter hrest)
  | @record _ before after hkeys _ ih =>
    rcases location with _ | ⟨key | _, rest⟩
    · cases hat
    · rw [at?_key] at hat
      obtain ⟨value, hvalue, hrest⟩ := Option.bind_eq_some_iff.1 hat
      obtain ⟨index, stored, other, hbefore, hafter, hget⟩ := get?_of_keys_eq hkeys hvalue
      exact .cons hget (ih index stored value other hbefore hafter hrest)
    · cases hat

theorem Marked.invalidated (h : Marked allowed a b) {location : Location}
    (hinvalid : a.Invalidated location) : b.Invalidated location := by
  obtain ⟨start, hstart, hat⟩ := hinvalid
  obtain ⟨first, hfirst, hat'⟩ := h.invalidated_of_at? hat
  exact ⟨first, hfirst.trans hstart, hat'⟩

end Scim.Value
