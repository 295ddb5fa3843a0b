import Scim.Text.Casing

/-!
# Ordered entries with keys up to case

The contents of a record: values under keys, in the order in which they were written.  Two keys that
differ only by case are the same key, and an entry keeps the casing it was last written with.  Writing a
key anew moves its entry to the end; replacing the value of an entry leaves it where it is.

A key is looked up by comparing lower-case forms, so there is nothing beside the list itself that could
disagree with it.

## Main results

* `get?_insert`, `get?_erase`: reading back after a write and after a removal.
* `DistinctKeys.insert`, `DistinctKeys.erase`, `DistinctKeys.replace`: every operation keeps the keys
  different.
-/

namespace Scim

open Text

/-- Values under keys, oldest first. -/
abbrev Entries (α : Type) := List (String × α)

namespace Entries

variable {α : Type}

/-- Whether an entry stands under a key, in any casing. -/
def hasKey (key : String) (entry : String × α) : Bool := lower entry.1 == lower key

/-- The value under a key. -/
def get? (entries : Entries α) (key : String) : Option α := (entries.find? (hasKey key)).map (·.2)

/-- The entries without the one under a key. -/
def erase (entries : Entries α) (key : String) : Entries α :=
  entries.filter fun entry => !hasKey key entry

/-- The entries with a value written under a key, at the end and in the casing given. -/
def insert (entries : Entries α) (key : String) (value : α) : Entries α :=
  entries.erase key ++ [(key, value)]

/-- The entries with the value under a key replaced; the entry keeps its place and casing. -/
def replace (entries : Entries α) (key : String) (value : α) : Entries α :=
  entries.map fun entry => if hasKey key entry then (entry.1, value) else entry

/-- The keys in order. -/
def keys (entries : Entries α) : List String := entries.map (·.1)

/-- No two entries stand under the same key. -/
def DistinctKeys (entries : Entries α) : Prop :=
  entries.Pairwise fun a b => lower a.1 ≠ lower b.1

theorem get?_nil (key : String) : get? ([] : Entries α) key = none := rfl

theorem get?_cons (entry : String × α) (entries : Entries α) (key : String) :
    get? (entry :: entries) key = if lower entry.1 = lower key then some entry.2 else get? entries key := by
  by_cases h : lower entry.1 = lower key <;> simp [get?, hasKey, h]

/-- A removed key is gone and every other key is untouched. -/
theorem get?_erase (entries : Entries α) (key other : String) :
    (entries.erase key).get? other = if lower key = lower other then none else entries.get? other := by
  induction entries with
  | nil => simp [erase, get?]
  | cons entry entries ih =>
    have ih' : get? (entries.filter fun e => !hasKey key e) other = _ := ih
    by_cases hk : lower entry.1 = lower key
    · simp only [erase, List.filter_cons, hasKey, hk, BEq.rfl, Bool.not_true, Bool.false_eq_true, if_false]
      rw [show (entries.filter fun e => !(lower e.1 == lower key)) = Entries.erase entries key from rfl, ih,
        get?_cons, hk]
      by_cases ho : lower key = lower other <;> simp [ho]
    · have hb : (!hasKey key entry) = true := by simp [hasKey, hk]
      simp only [erase, List.filter_cons, hb, if_true, get?_cons, ih']
      by_cases he : lower entry.1 = lower other
      · have : lower key ≠ lower other := fun h => hk (he.trans h.symm)
        simp [he, this]
      · simp [he]

theorem get?_append (left right : Entries α) (key : String) :
    get? (left ++ right) key = (left.get? key).or (right.get? key) := by
  induction left with
  | nil => simp [get?]
  | cons entry left ih =>
    rw [List.cons_append, get?_cons, get?_cons, ih]
    split <;> simp

/-- A written key holds the value and every other key is untouched. -/
theorem get?_insert (entries : Entries α) (key other : String) (value : α) :
    (entries.insert key value).get? other =
      if lower key = lower other then some value else entries.get? other := by
  rw [insert, get?_append, get?_erase, get?_cons]
  by_cases h : lower key = lower other <;> simp [h, get?_nil]

theorem DistinctKeys.erase {entries : Entries α} (h : entries.DistinctKeys) (key : String) :
    (entries.erase key).DistinctKeys :=
  List.Pairwise.filter _ h

theorem DistinctKeys.insert {entries : Entries α} (h : entries.DistinctKeys) (key : String) (value : α) :
    (entries.insert key value).DistinctKeys := by
  refine List.pairwise_append.2 ⟨h.erase key, by simp, fun a ha b hb => ?_⟩
  have hb' : b = (key, value) := by simpa using hb
  have ha' := (List.mem_filter.1 ha).2
  subst hb'
  simpa [hasKey] using ha'

theorem DistinctKeys.replace {entries : Entries α} (h : entries.DistinctKeys) (key : String)
    (value : α) : (entries.replace key value).DistinctKeys := by
  refine List.pairwise_map.2 (List.Pairwise.imp ?_ h)
  intro a b hab
  by_cases ha : hasKey key a <;> by_cases hb : hasKey key b <;> simpa [ha, hb] using hab

end Entries

end Scim
