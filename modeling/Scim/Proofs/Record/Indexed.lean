import Mathlib.Data.List.Basic
import Scim.Proofs.Record.Entries

/-!
# Entries with a table of positions

Entries can be kept together with a table that leads from the lower-case form of each key to the position of
its entry, so that a key is looked up without a search.  The price is that every removal shifts the
positions behind it, and the table has to follow.

The table is *exact* when it leads from a folded key to a position exactly if the entry at that position
stands under that key.  An exact table leaves no room for two entries under one key, and with it looking up,
removing, writing and replacing by position are what they are on plain entries.

## Main results

* `Exact.erase`, `Exact.insert`, `Exact.replace`: every operation keeps the table exact.
* `Exact.get?_eq`, `Exact.entries_erase`, `Exact.entries_insert`, `Exact.entries_replace`: with an exact
  table the operations do to the entries what those without a table do.
-/

namespace Scim

open Text

/-- Entries, and a table from folded keys to positions. -/
structure Indexed (α : Type) where
  entries : List (String × α)
  table : Std.HashMap String Nat

namespace Indexed

variable {α : Type}

/-! ## Operations -/

/-- No entries. -/
def empty : Indexed α := ⟨[], ∅⟩

/-- The position of the entry under a key. -/
def position? (store : Indexed α) (key : String) : Option Nat := store.table[lower key]?

/-- The value under a key. -/
def get? (store : Indexed α) (key : String) : Option α :=
  (store.position? key).bind fun i => store.entries[i]?.map (·.2)

/-- Where an entry stands after the one at a given position was taken out. -/
def shift (removed i : Nat) : Nat := if removed < i then i - 1 else i

/-- Takes the entry under a key out. -/
def erase (store : Indexed α) (key : String) : Indexed α :=
  match store.position? key with
  | none => store
  | some removed =>
    { entries := store.entries.eraseIdx removed
      table := (store.table.erase (lower key)).map fun _ i => shift removed i }

/-- Writes a value under a key, at the end and in the casing given. -/
def insert (store : Indexed α) (key : String) (value : α) : Indexed α :=
  let rest := store.erase key
  { entries := rest.entries ++ [(key, value)]
    table := rest.table.insert (lower key) rest.entries.length }

/-- Puts a value in the place of the one under a key. -/
def replace (store : Indexed α) (key : String) (value : α) : Indexed α :=
  match store.position? key with
  | none => store
  | some i => { store with entries := store.entries.modify i fun entry => (entry.1, value) }

/-! ## Replacing by position -/

/-- Replacing leaves the table as it is. -/
theorem table_replace (store : Indexed α) (key : String) (value : α) :
    (store.replace key value).table = store.table := by
  unfold replace
  split <;> rfl

theorem position?_replace (store : Indexed α) (key other : String) (value : α) :
    (store.replace key value).position? other = store.position? other := by
  rw [position?, table_replace, position?]

/-- What was put in the place of a stored value is found there. -/
theorem get?_replace_self {store : Indexed α} {key : String} {old : α} (h : store.get? key = some old)
    (value : α) : (store.replace key value).get? key = some value := by
  obtain ⟨i, hpos, hentry⟩ := Option.bind_eq_some_iff.1 h
  obtain ⟨entry, hfound, -⟩ := Option.map_eq_some_iff.1 hentry
  rw [get?, position?_replace, hpos]
  simp [replace, hpos, hfound]

/-- Of two values put in one place the second one stays. -/
theorem replace_replace (store : Indexed α) (key : String) (old value : α) :
    (store.replace key old).replace key value = store.replace key value := by
  rw [replace, position?_replace]
  cases hpos : store.position? key with
  | none => simp [replace, hpos]
  | some i =>
    simp only [replace, hpos, List.modify_modify_eq]
    rfl

/-! ## Shifting positions -/

/-- An entry other than the one taken out is found at its shifted position. -/
theorem getElem?_eraseIdx_shift {entries : List α} {removed i : Nat} (hne : i ≠ removed) :
    (entries.eraseIdx removed)[shift removed i]? = entries[i]? := by
  rw [List.getElem?_eraseIdx, shift]
  by_cases hlt : removed < i
  · have hback : i - 1 + 1 = i := by omega
    rw [if_pos hlt, if_neg (by omega), hback]
  · rw [if_neg hlt, if_pos (by omega)]

/-- Entries other than the one taken out do not meet. -/
theorem shift_injective {removed i j : Nat} (hi : i ≠ removed) (hj : j ≠ removed)
    (h : shift removed i = shift removed j) : i = j := by
  unfold shift at h
  split at h <;> split at h <;> omega

/-- Every position is a shifted one, so no gap is left. -/
theorem exists_shift_eq (removed i : Nat) : ∃ j, j ≠ removed ∧ shift removed j = i := by
  by_cases hlt : i < removed
  · have hstays : shift removed i = i := if_neg (by omega)
    exact ⟨i, by omega, hstays⟩
  · have hmoves : shift removed (i + 1) = i + 1 - 1 := if_pos (by omega)
    exact ⟨i + 1, by omega, by omega⟩

/-- A filter that refuses one entry only takes that entry out. -/
theorem filter_eq_eraseIdx {keep : α → Bool} {entries : List α} {removed : Nat}
    (h : ∀ i entry, entries[i]? = some entry → (keep entry = false ↔ i = removed)) :
    entries.filter keep = entries.eraseIdx removed := by
  induction entries generalizing removed with
  | nil => rfl
  | cons first entries ih =>
    have hfirst := h 0 first rfl
    have hrest : ∀ i entry, entries[i]? = some entry → (keep entry = false ↔ i + 1 = removed) :=
      fun i entry hi => h (i + 1) entry hi
    cases removed with
    | zero =>
      have hkept : entries.filter keep = entries := by
        refine List.filter_eq_self.2 fun entry hmem => ?_
        obtain ⟨i, hi⟩ := List.getElem?_of_mem hmem
        simpa using hrest i entry hi
      rw [List.filter_cons, hfirst.2 rfl, hkept]
      rfl
    | succ removed =>
      have hkeep : keep first = true := by simpa using hfirst
      rw [List.filter_cons, if_pos hkeep, ih fun i entry hi => by simpa using hrest i entry hi]
      rfl

/-! ## Exact tables -/

/-- The table leads from each folded key to the position of its entry, and nowhere else. -/
def Exact (store : Indexed α) : Prop :=
  ∀ (folded : String) (i : Nat),
    store.table[folded]? = some i ↔ ∃ entry, store.entries[i]? = some entry ∧ lower entry.1 = folded

theorem exact_empty : (empty : Indexed α).Exact := by
  intro folded i
  simp [empty]

namespace Exact

variable {store : Indexed α}

theorem position?_eq_some_iff (h : store.Exact) {key : String} {i : Nat} :
    store.position? key = some i ↔
      ∃ entry, store.entries[i]? = some entry ∧ lower entry.1 = lower key :=
  h (lower key) i

/-- Two entries under one key are the same entry. -/
theorem position_unique (h : store.Exact) {i j : Nat} {a b : String × α}
    (ha : store.entries[i]? = some a) (hb : store.entries[j]? = some b) (hkey : lower a.1 = lower b.1) :
    i = j := by
  have hi : store.table[lower a.1]? = some i := (h _ _).2 ⟨a, ha, rfl⟩
  have hj : store.table[lower a.1]? = some j := (h _ _).2 ⟨b, hb, hkey.symm⟩
  exact Option.some.inj (hi.symm.trans hj)

/-- Of all entries only the one at the position of a key stands under it. -/
theorem hasKey_iff (h : store.Exact) {key : String} {i j : Nat} {entry : String × α}
    (hpos : store.position? key = some i) (hj : store.entries[j]? = some entry) :
    Entries.hasKey key entry = true ↔ j = i := by
  obtain ⟨own, hown, hkey⟩ := h.position?_eq_some_iff.1 hpos
  rw [Entries.hasKey_iff]
  constructor
  · exact fun hsame => h.position_unique hj hown (hsame.trans hkey.symm)
  · rintro rfl
    rw [hown] at hj
    cases hj
    exact hkey

theorem distinctKeys (h : store.Exact) : Entries.DistinctKeys store.entries := by
  apply List.pairwise_iff_getElem.2
  intro i j hi hj hij hkey
  have hsame := h.position_unique (List.getElem?_eq_getElem hi) (List.getElem?_eq_getElem hj) hkey
  omega

/-- A key that leads nowhere is stored nowhere. -/
theorem ne_of_position?_eq_none (h : store.Exact) {key : String} (hnone : store.position? key = none)
    {entry : String × α} (hmem : entry ∈ store.entries) : lower entry.1 ≠ lower key := by
  intro hkey
  obtain ⟨i, hi⟩ := List.getElem?_of_mem hmem
  have hfound := h.position?_eq_some_iff.2 ⟨entry, hi, hkey⟩
  rw [hnone] at hfound
  cases hfound

/-- Looking up by position finds what a search finds. -/
theorem get?_eq (h : store.Exact) (key : String) : store.get? key = Entries.get? store.entries key := by
  cases hpos : store.position? key with
  | none =>
    have hnone : Entries.get? store.entries key = none :=
      Entries.get?_eq_none_iff.2 fun _ hmem => h.ne_of_position?_eq_none hpos hmem
    rw [get?, hpos, hnone]
    rfl
  | some i =>
    obtain ⟨⟨stored, value⟩, hi, hkey⟩ := h.position?_eq_some_iff.1 hpos
    have hfound : Entries.get? store.entries key = some value :=
      (Entries.get?_eq_some_iff h.distinctKeys).2 ⟨stored, List.mem_of_getElem? hi, hkey⟩
    rw [get?, hpos, hfound]
    simp [hi]

/-- A key has no position exactly if it finds nothing. -/
theorem position?_eq_none_iff (h : store.Exact) {key : String} :
    store.position? key = none ↔ store.get? key = none := by
  refine ⟨fun hnone => by rw [get?, hnone]; rfl, fun hnone => ?_⟩
  cases hpos : store.position? key with
  | none => rfl
  | some i =>
    obtain ⟨entry, hentry, -⟩ := h.position?_eq_some_iff.1 hpos
    rw [get?, hpos] at hnone
    simp [hentry] at hnone

/-! ### Removing -/

/-- Taking out by position takes out exactly the entry under the key. -/
theorem entries_erase (h : store.Exact) (key : String) :
    (store.erase key).entries = Entries.erase store.entries key := by
  cases hpos : store.position? key with
  | none =>
    rw [Indexed.erase, hpos, Entries.erase_of_forall_ne fun _ => h.ne_of_position?_eq_none hpos]
  | some removed =>
    rw [Indexed.erase, hpos]
    refine (filter_eq_eraseIdx fun i other hi => ?_).symm
    rw [← h.hasKey_iff hpos hi, Bool.not_eq_false']

protected theorem erase (h : store.Exact) (key : String) : (store.erase key).Exact := by
  cases hpos : store.position? key with
  | none =>
    rw [Indexed.erase, hpos]
    exact h
  | some removed =>
    obtain ⟨entry, hentry, hkey⟩ := h.position?_eq_some_iff.1 hpos
    rw [Indexed.erase, hpos]
    intro folded i
    obtain ⟨j, hj, rfl⟩ := exists_shift_eq removed i
    show ((store.table.erase (lower key)).map fun _ i => shift removed i)[folded]? = some (shift removed j) ↔
      ∃ other, (store.entries.eraseIdx removed)[shift removed j]? = some other ∧ lower other.1 = folded
    rw [getElem?_eraseIdx_shift hj, ← h folded j, Std.HashMap.getElem?_map, Std.HashMap.getElem?_erase]
    constructor
    · intro hmapped
      obtain ⟨found, hfound, hsame⟩ := Option.map_eq_some_iff.1 hmapped
      split at hfound
      · cases hfound
      · next hne =>
        have hgap : found ≠ removed := by
          rintro rfl
          obtain ⟨other, hother, hfold⟩ := (h folded found).1 hfound
          rw [hentry] at hother
          cases hother
          exact hne (beq_iff_eq.2 (hkey.symm.trans hfold))
        rw [← shift_injective hgap hj hsame]
        exact hfound
    · intro hfound
      have hne : ¬ (lower key == folded) = true := by
        intro e
        have hhit : store.table[folded]? = some removed := (beq_iff_eq.1 e) ▸ hpos
        rw [hfound] at hhit
        exact hj (Option.some.inj hhit)
      rw [if_neg hne, hfound]
      rfl

/-! ### Writing -/

theorem entries_insert (h : store.Exact) (key : String) (value : α) :
    (store.insert key value).entries = Entries.insert store.entries key value := by
  show (store.erase key).entries ++ [(key, value)] = Entries.erase store.entries key ++ [(key, value)]
  rw [h.entries_erase]

protected theorem insert (h : store.Exact) (key : String) (value : α) : (store.insert key value).Exact := by
  have hrest := h.erase key
  -- nothing that is left stands under the key
  have hgone : ∀ entry ∈ (store.erase key).entries, lower entry.1 ≠ lower key := by
    intro entry hmem
    rw [h.entries_erase] at hmem
    simpa [Entries.hasKey] using (List.mem_filter.1 hmem).2
  intro folded i
  show ((store.erase key).table.insert (lower key) (store.erase key).entries.length)[folded]? = some i ↔
    ∃ entry, ((store.erase key).entries ++ [(key, value)])[i]? = some entry ∧ lower entry.1 = folded
  rw [Std.HashMap.getElem?_insert]
  by_cases hnew : lower key = folded
  · subst hnew
    rw [if_pos BEq.rfl]
    constructor
    · intro hi
      cases Option.some.inj hi
      exact ⟨(key, value), by simp, rfl⟩
    · rintro ⟨entry, hentry, hfold⟩
      rw [List.getElem?_append] at hentry
      split at hentry
      · exact absurd hfold (hgone entry (List.mem_of_getElem? hentry))
      · rename_i hge
        have hlen := (List.getElem?_eq_some_iff.1 hentry).1
        simp only [List.length_singleton] at hlen
        congr 1
        omega
  · rw [if_neg (by simpa using hnew), hrest folded i]
    refine exists_congr fun entry => and_congr_left fun hfold => ?_
    rw [List.getElem?_append]
    split
    · rfl
    · rename_i hge
      rw [List.getElem?_eq_none (by omega)]
      constructor
      · intro e
        cases e
      · intro hentry
        rw [List.getElem?_singleton] at hentry
        split at hentry
        · cases Option.some.inj hentry
          exact absurd hfold hnew
        · cases hentry

/-! ### Replacing -/

theorem entries_replace (h : store.Exact) (key : String) (value : α) :
    (store.replace key value).entries = Entries.replace store.entries key value := by
  cases hpos : store.position? key with
  | none =>
    rw [Indexed.replace, hpos, Entries.replace_of_forall_ne fun _ => h.ne_of_position?_eq_none hpos]
  | some i =>
    rw [Indexed.replace, hpos]
    apply List.ext_getElem?
    intro j
    show (store.entries.modify i fun entry => (entry.1, value))[j]? = _
    rw [List.getElem?_modify, Entries.replace, List.getElem?_map]
    cases hj : store.entries[j]? with
    | none => rfl
    | some other =>
      have hiff : Entries.hasKey key other = true ↔ i = j := (h.hasKey_iff hpos hj).trans eq_comm
      by_cases hij : i = j
      · simp [hij, hiff.2 hij]
      · have hmiss : Entries.hasKey key other = false := by
          simpa using fun e => hij (hiff.1 e)
        simp [hij, hmiss]

protected theorem replace (h : store.Exact) (key : String) (value : α) :
    (store.replace key value).Exact := by
  intro folded i
  rw [h.entries_replace]
  rw [table_replace, h folded i]
  -- replacing a value changes no key
  simp only [Entries.replace, List.getElem?_map, Option.map_eq_some_iff]
  constructor
  · rintro ⟨entry, hentry, hfold⟩
    refine ⟨_, ⟨entry, hentry, rfl⟩, ?_⟩
    split <;> exact hfold
  · rintro ⟨_, ⟨entry, hentry, rfl⟩, hfold⟩
    refine ⟨entry, hentry, ?_⟩
    split at hfold <;> exact hfold

end Exact

end Indexed

end Scim
