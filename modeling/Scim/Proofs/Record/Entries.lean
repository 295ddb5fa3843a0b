import Mathlib.Data.List.Basic
import Scim.Record.Entries

/-!
# Looking up different keys

As long as the keys of entries differ, an entry is the only one under its key, so looking the key up finds
that entry and nothing else.  Two views of entries are related to the operations here: the entries that
stand under a key, and the entries with every value mapped.

## Main results

* `get?_eq_some_iff`: with different keys, a key is found exactly if it is stored, and its own value is.
* `replace_insert`, `insert_insert`, `replace_replace`: of two writes under a key the second one stays.
* `mapValues_insert`, `mapValues_erase`, `mapValues_replace`: mapping the values commutes with writing.
* `foldl_insert`: of entries written one after the other those are left that no later one repeats.
* `foldl_insert_eq`: different keys that are not in use are written side by side at the end.
-/

namespace Scim.Entries

open Text

variable {α β : Type}

theorem hasKey_iff {key : String} {entry : String × α} :
    hasKey key entry = true ↔ lower entry.1 = lower key := by
  simp [hasKey]

/-- Whether the keys differ is seen from the keys alone. -/
theorem distinctKeys_iff_keys {entries : Entries α} :
    entries.DistinctKeys ↔ entries.keys.Pairwise fun a b => lower a ≠ lower b := by
  rw [DistinctKeys, keys, List.pairwise_map]

/-! ## What a key finds -/

/-- Keys that differ only in case are those of the same entries. -/
theorem hasKey_congr {key other : String} (h : lower key = lower other) :
    (hasKey key : String × α → Bool) = hasKey other :=
  funext fun entry => by rw [hasKey, hasKey, h]

/-- Keys that differ only in case find the same. -/
theorem get?_congr (entries : Entries α) {key other : String} (h : lower key = lower other) :
    entries.get? key = entries.get? other := by
  rw [get?, hasKey_congr h, get?]

theorem erase_congr (entries : Entries α) {key other : String} (h : lower key = lower other) :
    entries.erase key = entries.erase other := by
  rw [erase, hasKey_congr h, erase]

theorem replace_congr (entries : Entries α) {key other : String} (h : lower key = lower other) (value : α) :
    entries.replace key value = entries.replace other value := by
  rw [replace, hasKey_congr h, replace]

/-- A key is not found exactly if no entry stands under it. -/
theorem get?_eq_none_iff {entries : Entries α} {key : String} :
    entries.get? key = none ↔ ∀ entry ∈ entries, lower entry.1 ≠ lower key := by
  simp [get?, hasKey]

/-- A key is not found among entries that all stand under others. -/
theorem get?_eq_none_of_keys {entries : Entries α} {keys : List String} (h : ∀ entry ∈ entries, lower entry.1 ∈ keys)
    {key : String} (hkey : lower key ∉ keys) : entries.get? key = none := by
  refine get?_eq_none_iff.2 fun entry hentry hsame => hkey ?_
  rw [← hsame]
  exact h entry hentry

/-- What a key finds is the value of an entry under it. -/
theorem mem_of_get? {entries : Entries α} {key : String} {value : α}
    (h : entries.get? key = some value) :
    ∃ stored, (stored, value) ∈ entries ∧ lower stored = lower key := by
  obtain ⟨⟨stored, found⟩, hfind, rfl⟩ := Option.map_eq_some_iff.1 h
  have hkey := hasKey_iff.1 (List.find?_some hfind)
  exact ⟨stored, List.mem_of_find?_eq_some hfind, hkey⟩

/-- With different keys, a key finds exactly the value of the entry that stands under it. -/
theorem get?_eq_some_iff {entries : Entries α} (h : entries.DistinctKeys) {key : String} {value : α} :
    entries.get? key = some value ↔ ∃ stored, (stored, value) ∈ entries ∧ lower stored = lower key := by
  refine ⟨mem_of_get?, ?_⟩
  rintro ⟨stored, hmem, hkey⟩
  induction entries with
  | nil => exact absurd hmem (List.not_mem_nil)
  | cons entry entries ih =>
    rw [DistinctKeys, List.pairwise_cons] at h
    rw [get?_cons]
    rcases List.mem_cons.1 hmem with rfl | htail
    · rw [if_pos hkey]
    · have hother : lower entry.1 ≠ lower key := fun e => h.1 _ htail (e.trans hkey.symm)
      rw [if_neg hother]
      exact ih h.2 htail

/-- With different keys, the key of an entry finds its value. -/
theorem get?_of_mem {entries : Entries α} (h : entries.DistinctKeys) {key : String} {value : α}
    (hmem : (key, value) ∈ entries) : entries.get? key = some value :=
  (get?_eq_some_iff h).2 ⟨key, hmem, rfl⟩

/-- With different keys, the order of the entries does not decide what a key finds. -/
theorem get?_of_perm {entries others : Entries α} (hdistinct : entries.DistinctKeys)
    (h : entries.Perm others) (key : String) : entries.get? key = others.get? key := by
  have hothers : others.DistinctKeys := (h.pairwise_iff fun hab => Ne.symm hab).1 hdistinct
  ext value
  rw [get?_eq_some_iff hdistinct, get?_eq_some_iff hothers]
  simp only [h.mem_iff]

/-- Nothing is removed under a key that is not stored. -/
theorem erase_of_forall_ne {entries : Entries α} {key : String}
    (h : ∀ entry ∈ entries, lower entry.1 ≠ lower key) : entries.erase key = entries := by
  apply List.filter_eq_self.2
  intro entry hmem
  simpa [hasKey] using h entry hmem

/-- Nothing is replaced under a key that is not stored. -/
theorem replace_of_forall_ne {entries : Entries α} {key : String} {value : α}
    (h : ∀ entry ∈ entries, lower entry.1 ≠ lower key) : entries.replace key value = entries := by
  refine (List.map_congr_left fun entry hmem => ?_).trans (List.map_id _)
  simp [hasKey, h entry hmem]

/-- Reading back after a value was replaced. -/
theorem get?_replace (entries : Entries α) (key other : String) (value : α) :
    (entries.replace key value).get? other =
      if lower key = lower other then (entries.get? other).map fun _ => value else entries.get? other := by
  induction entries with
  | nil => simp [replace, get?]
  | cons entry entries ih =>
    have ih' : get? (entries.map fun e => if hasKey key e then (e.1, value) else e) other = _ := ih
    rw [replace, List.map_cons, get?_cons, get?_cons, ih']
    by_cases hkey : lower entry.1 = lower key
    · by_cases hother : lower key = lower other
      · simp [hasKey, hkey, hother]
      · simp [hasKey, hkey, hother]
    · by_cases hother : lower key = lower other
      · have hne : lower entry.1 ≠ lower other := fun e => hkey (e.trans hother.symm)
        simp [hasKey, hother, hne]
      · simp [hasKey, hkey, hother]

/-- Replacing what was just written is writing in the first place. -/
theorem replace_insert (entries : Entries α) (key : String) (old value : α) :
    (entries.insert key old).replace key value = entries.insert key value := by
  have hrest : replace (entries.erase key) key value = entries.erase key := by
    apply replace_of_forall_ne
    intro entry hmem
    simpa [hasKey] using (List.mem_filter.1 hmem).2
  rw [insert, insert, replace, List.map_append]
  show replace (entries.erase key) key value ++ _ = _
  rw [hrest]
  simp [hasKey]

/-- Of two values written one after the other under a key the second one stays. -/
theorem insert_insert (entries : Entries α) (key : String) (old value : α) :
    (entries.insert key old).insert key value = entries.insert key value := by
  simp [insert, erase, hasKey, List.filter_append]

/-- So it does if they are put in the place of a stored one. -/
theorem replace_replace (entries : Entries α) (key : String) (old value : α) :
    (entries.replace key old).replace key value = entries.replace key value := by
  simp only [replace, List.map_map]
  apply List.map_congr_left
  intro entry _
  by_cases h : lower entry.1 = lower key <;> simp [hasKey, h]

/-- With different keys, replacing a value by itself changes nothing. -/
theorem replace_self {entries : Entries α} (h : entries.DistinctKeys) {key : String} {value : α}
    (hget : entries.get? key = some value) : entries.replace key value = entries := by
  refine (List.map_congr_left fun entry hmem => ?_).trans (List.map_id _)
  by_cases hkey : hasKey key entry = true
  · have hown : entries.get? key = some entry.2 :=
      (get?_eq_some_iff h).2 ⟨entry.1, hmem, hasKey_iff.1 hkey⟩
    rw [hget] at hown
    rw [if_pos hkey, Option.some.inj hown]
    rfl
  · rw [if_neg hkey]
    rfl

/-- Replacing a value keeps the keys as they stand. -/
theorem keys_replace (entries : Entries α) (key : String) (value : α) :
    (entries.replace key value).keys = entries.keys := by
  simp only [keys, replace, List.map_map]
  apply List.map_congr_left
  intro entry _
  by_cases h : hasKey key entry <;> simp [h]

/-! ## Writing under a key that is not in use -/

/-- A key that is not in use is written at the end. -/
theorem insert_of_get?_eq_none {entries : Entries α} {key : String} {value : α} (h : entries.get? key = none) :
    entries.insert key value = entries ++ [(key, value)] := by
  rw [insert, erase_of_forall_ne (get?_eq_none_iff.1 h)]

/-! ## Mapped values -/

/-- The entries with every value mapped. -/
def mapValues (f : α → β) (entries : Entries α) : Entries β := entries.map fun entry => (entry.1, f entry.2)

theorem get?_mapValues (f : α → β) (entries : Entries α) (key : String) :
    (entries.mapValues f).get? key = (entries.get? key).map f := by
  induction entries with
  | nil => rfl
  | cons entry entries ih =>
    have ih' : get? (entries.map fun e => (e.1, f e.2)) key = _ := ih
    rw [mapValues, List.map_cons, get?_cons, get?_cons, ih']
    by_cases h : lower entry.1 = lower key <;> simp [h]

theorem DistinctKeys.mapValues {entries : Entries α} (h : entries.DistinctKeys) (f : α → β) :
    (entries.mapValues f).DistinctKeys :=
  List.pairwise_map.2 h

theorem mapValues_erase (f : α → β) (entries : Entries α) (key : String) :
    (entries.erase key).mapValues f = (entries.mapValues f).erase key := by
  simp only [mapValues, erase, List.filter_map]
  rfl

theorem mapValues_insert (f : α → β) (entries : Entries α) (key : String) (value : α) :
    (entries.insert key value).mapValues f = (entries.mapValues f).insert key (f value) := by
  rw [insert, insert, ← mapValues_erase]
  simp [mapValues]

theorem mapValues_replace (f : α → β) (entries : Entries α) (key : String) (value : α) :
    (entries.replace key value).mapValues f = (entries.mapValues f).replace key (f value) := by
  simp only [mapValues, replace, List.map_map]
  apply List.map_congr_left
  intro entry _
  by_cases h : lower entry.1 = lower key <;> simp [hasKey, h]

theorem mapValues_mapValues {γ : Type} (f : α → β) (g : β → γ) (entries : Entries α) :
    (entries.mapValues f).mapValues g = entries.mapValues fun value => g (f value) := by
  rw [mapValues, mapValues, List.map_map]
  rfl

theorem mapValues_congr {f g : α → β} {entries : Entries α} :
    entries.mapValues f = entries.mapValues g ↔ ∀ entry ∈ entries, f entry.2 = g entry.2 := by
  simp [mapValues]

theorem mapValues_eq_self_iff {f : α → α} {entries : Entries α} :
    entries.mapValues f = entries ↔ ∀ entry ∈ entries, f entry.2 = entry.2 := by
  have hid : entries.mapValues id = entries := List.map_id entries
  conv_lhs => rhs; rw [← hid]
  exact mapValues_congr

/-! ## Entries written one after the other -/

/-- The entries that no later one repeats in some casing. -/
def latest : Entries α → Entries α
  | [] => []
  | entry :: entries => if entries.any (hasKey entry.1) then latest entries else entry :: latest entries

theorem any_hasKey_iff {entries : Entries α} {key : String} :
    entries.any (hasKey key) = true ↔ ∃ entry ∈ entries, lower entry.1 = lower key := by
  simp only [List.any_eq_true, hasKey_iff]

theorem latest_sublist (entries : Entries α) : (latest entries).Sublist entries := by
  induction entries with
  | nil => exact List.Sublist.slnil
  | cons entry entries ih =>
    rw [latest]
    split
    · exact ih.cons entry
    · exact ih.cons_cons entry

theorem distinctKeys_latest (entries : Entries α) : (latest entries).DistinctKeys := by
  induction entries with
  | nil => exact List.Pairwise.nil
  | cons entry entries ih =>
    rw [latest]
    split
    · exact ih
    · next hnone =>
      refine List.pairwise_cons.2 ⟨fun later hlater hsame => hnone ?_, ih⟩
      exact any_hasKey_iff.2 ⟨later, (latest_sublist entries).subset hlater, hsame.symm⟩

theorem latest_eq_self_iff {entries : Entries α} : latest entries = entries ↔ entries.DistinctKeys := by
  constructor
  · intro h
    rw [← h]
    exact distinctKeys_latest entries
  · intro h
    induction entries with
    | nil => rfl
    | cons entry entries ih =>
      obtain ⟨hfirst, hrest⟩ := List.pairwise_cons.1 h
      have hnone : ¬ entries.any (hasKey entry.1) = true := by
        rw [any_hasKey_iff]
        rintro ⟨later, hlater, hsame⟩
        exact hfirst later hlater hsame.symm
      rw [latest, if_neg hnone, ih hrest]

/-- Which entries are left does not depend on their values. -/
theorem latest_mapValues (f : α → β) (entries : Entries α) :
    latest (entries.mapValues f) = (latest entries).mapValues f := by
  induction entries with
  | nil => rfl
  | cons entry entries ih =>
    have hany : (mapValues f entries).any (hasKey entry.1) = entries.any (hasKey entry.1) := by
      rw [mapValues, List.any_map]
      rfl
    show (if (mapValues f entries).any (hasKey entry.1) then latest (mapValues f entries)
      else (entry.1, f entry.2) :: latest (mapValues f entries)) = _
    rw [hany, ih, latest]
    split <;> rfl

/-- Of the entries that are written one after the other those are left that no later one repeats, and behind the old
entries that none of them repeats. -/
theorem foldl_insert (entries more : Entries α) :
    more.foldl (fun written entry => written.insert entry.1 entry.2) entries =
      (entries.filter fun entry => !more.any (hasKey entry.1)) ++ latest more := by
  induction more generalizing entries with
  | nil => simp [latest]
  | cons entry more ih =>
    have holder : ∀ old : String × α, hasKey old.1 entry = hasKey entry.1 old := fun old => by
      simp [hasKey, Bool.beq_comm]
    -- an old entry stays if neither the first new one nor a later one repeats it
    rw [List.foldl_cons, ih, insert, erase, List.filter_append, List.filter_filter, List.append_assoc]
    congr 1
    · simp [List.any_cons, holder, Bool.not_or, Bool.and_comm]
    · rw [latest, List.filter_cons]
      cases more.any (hasKey entry.1) <;> rfl

/-- Different keys that are not in use are written side by side at the end. -/
theorem foldl_insert_eq {entries more : Entries α} (hkeys : more.DistinctKeys)
    (hfree : ∀ entry ∈ more, entries.get? entry.1 = none) :
    more.foldl (fun written entry => written.insert entry.1 entry.2) entries = entries ++ more := by
  have hkept : (entries.filter fun entry => !more.any (hasKey entry.1)) = entries := by
    refine List.filter_eq_self.2 fun entry hentry => ?_
    rw [Bool.not_eq_true', Bool.eq_false_iff, Ne, any_hasKey_iff]
    rintro ⟨later, hlater, hsame⟩
    exact get?_eq_none_iff.1 (hfree later hlater) entry hentry hsame.symm
  rw [foldl_insert, hkept, latest_eq_self_iff.2 hkeys]

end Scim.Entries
