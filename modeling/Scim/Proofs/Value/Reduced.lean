import Mathlib.Data.List.Forall2
import Scim.Proofs.Record.Entries
import Scim.Value

/-!
# Reduced values

A value is reduced by leaving out entries of records and by writing numbers in another form, at any depth.  Nothing
else changes: texts and truth values stay, lists keep their items, and a record stays one.  So what is found in the
reduced value under some keys was there before, and what says something did so before.

## Main results

* `Reduced.get?`: what a key finds in a reduced record is what it found, reduced.
* `Reduced.truthy`: a value that says nothing is not reduced to one that does.
* `Reduced.texts`: a reduced list has the same texts.
-/

namespace Scim.Value

open Text

/-- The second value is the first one with entries left out and numbers in other forms.  A number that counts as
zero has to stay one. -/
inductive Reduced : Value → Value → Prop where
  | same (value : Value) : Reduced value value
  | number {n m : Number} (hzero : n.isZero = true → m.isZero = true) : Reduced (.number n) (.number m)
  | list {items others : List Value} (hitems : List.Forall₂ Reduced items others) :
      Reduced (.list items) (.list others)
  | empty (entries : Record) : Reduced (.record entries) (.record [])
  | entry {entries others : Record} {key : String} {value other : Value}
      (hget : entries.get? key = some value) (hvalue : Reduced value other)
      (hrest : Reduced (.record entries) (.record others)) :
      Reduced (.record entries) (.record ((key, other) :: others))

namespace Reduced

variable {value other : Value} {entries others : Record}

/-! ## What values are reduced to -/

theorem of_text {s : String} (h : Reduced value (.text s)) : value = .text s := by
  cases h
  rfl

theorem of_bool {b : Bool} (h : Reduced value (.bool b)) : value = .bool b := by
  cases h
  rfl

theorem of_record (h : Reduced value (.record others)) : ∃ entries : Record, value = .record entries := by
  cases h with
  | same => exact ⟨others, rfl⟩
  | empty entries => exact ⟨entries, rfl⟩
  | entry => exact ⟨_, rfl⟩

theorem of_list {items : List Value} (h : Reduced value (.list items)) :
    ∃ before, value = .list before ∧ List.Forall₂ Reduced before items := by
  cases h with
  | same => exact ⟨items, rfl, List.forall₂_same.2 fun item _ => .same item⟩
  | list hitems => exact ⟨_, rfl, hitems⟩

/-- A record is reduced by taking reduced values from under some of its keys. -/
theorem of_forall (h : ∀ entry ∈ others, ∃ value, entries.get? entry.1 = some value ∧ Reduced value entry.2) :
    Reduced (.record entries) (.record others) := by
  induction others with
  | nil => exact .empty entries
  | cons entry others ih =>
    obtain ⟨value, hget, hvalue⟩ := h entry List.mem_cons_self
    exact .entry hget hvalue (ih fun later hlater => h later (List.mem_cons_of_mem entry hlater))

/-! ## Looking into reduced values -/

/-- What a key finds in a reduced record is what it found before, reduced. -/
theorem get? (h : Reduced (.record entries) (.record others)) {key : String} (hget : others.get? key = some other) :
    ∃ value, entries.get? key = some value ∧ Reduced value other := by
  induction others with
  | nil => cases hget
  | cons entry others ih =>
    cases h with
    | same => exact ⟨other, hget, .same other⟩
    | entry hsource hvalue hrest =>
      rw [Entries.get?_cons] at hget
      split at hget
      · next hkey =>
        cases hget
        exact ⟨_, (Entries.get?_congr entries hkey).symm.trans hsource, hvalue⟩
      · exact ih hrest hget

/-- So it is with the value of an entry, where there is one. -/
theorem value_of_stored (h : Reduced (.record entries) (.record others)) {key : String}
    (hstored : (Record.value others key).isMissing = false) :
    Reduced (Record.value entries key) (Record.value others key) := by
  obtain ⟨source, hsource, hreduced⟩ := h.get? (Record.get?_of_stored hstored)
  have hvalue : Record.value entries key = source := by rw [Record.value, hsource]; rfl
  rw [hvalue]
  exact hreduced

/-- Every key of a reduced record was one before. -/
theorem exists_key (h : Reduced (.record entries) (.record others)) {key : String} (hkey : key ∈ others.keys) :
    ∃ stored ∈ entries.keys, lower stored = lower key := by
  obtain ⟨entry, hmem, rfl⟩ := List.mem_map.1 hkey
  cases hget : others.get? entry.1 with
  | none => exact absurd rfl (Entries.get?_eq_none_iff.1 hget entry hmem)
  | some other =>
    obtain ⟨value, hsource, -⟩ := h.get? hget
    obtain ⟨stored, hstored, hsame⟩ := Entries.mem_of_get? hsource
    exact ⟨stored, List.mem_map.2 ⟨_, hstored, rfl⟩, hsame⟩

/-- What says something did so before. -/
theorem truthy (h : Reduced value other) (hother : other.truthy = true) : value.truthy = true := by
  cases h with
  | same => exact hother
  | @number n m hzero =>
    cases hn : n.isZero with
    | false => simp [Value.truthy, hn]
    | true => simp [Value.truthy, hzero hn] at hother
  | list hitems =>
    cases hitems with
    | nil => exact hother
    | cons _ _ => rfl
  | empty => cases hother
  | @entry entries _ _ _ _ hget =>
    cases entries with
    | nil => cases hget
    | cons _ _ => rfl

theorem text?_eq (h : Reduced value other) : other.text? = value.text? := by
  cases h <;> rfl

/-- Every item of a reduced list was an item before. -/
theorem exists_of_mem {items reduced : List Value} (h : List.Forall₂ Reduced items reduced) :
    ∀ other ∈ reduced, ∃ item ∈ items, Reduced item other := by
  induction h with
  | nil => simp
  | @cons item other items reduced hitem _ ih =>
    refine List.forall_mem_cons.2 ⟨⟨item, List.mem_cons_self, hitem⟩, fun later hlater => ?_⟩
    obtain ⟨source, hsource, hreduced⟩ := ih later hlater
    exact ⟨source, List.mem_cons_of_mem item hsource, hreduced⟩

/-- A reduced list has the same texts. -/
theorem texts {items reduced : List Value} (h : List.Forall₂ Reduced items reduced) :
    reduced.filterMap Value.text? = items.filterMap Value.text? := by
  induction h with
  | nil => rfl
  | cons hitem _ ih => rw [List.filterMap_cons, List.filterMap_cons, hitem.text?_eq, ih]

end Reduced

end Scim.Value
