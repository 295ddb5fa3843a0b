import Scim.Proofs.Value.Marked

/-!
# Values that are revised in their place

Validation goes through a record step by step.  Each step takes the value under one key, and puts back what it leaves
of it.  Such a step settles the record if it changes nothing when it is taken again; and all of them together do, as
long as none undoes what an earlier one has settled.  Steps under different keys never do, and steps under one key are
compared by what they make of the value there.

## Main results

* `foldl_settles`: what steps settle one by one, they settle together.
* `Record.revise_eq_self_iff`: a step changes nothing exactly if it leaves the value under its key.
* `Record.revise_keeps`: a step under another key undoes nothing.
-/

namespace Scim

open Text

/-! ## Steps that settle something -/

section Steps

variable {State Step : Type} {P : State → Prop} {step : State → Step → State} {steps : List Step}

/-- What is settled stays so, if no step undoes it. -/
theorem foldl_keeps {first : Step} (hinv : ∀ later ∈ steps, ∀ state, P state → P (step state later))
    (hkeep : ∀ later ∈ steps, ∀ state, P state → step state first = state →
      step (step state later) first = step state later)
    {state : State} (hstate : P state) (hsettled : step state first = state) :
    step (steps.foldl step state) first = steps.foldl step state := by
  have hboth : P (steps.foldl step state) ∧ step (steps.foldl step state) first = steps.foldl step state :=
    List.foldlRecOn (motive := fun state => P state ∧ step state first = state) steps step ⟨hstate, hsettled⟩
      fun state h later hlater => ⟨hinv later hlater state h.1, hkeep later hlater state h.1 h.2⟩
  exact hboth.2

/-- Steps settle a state together, if each of them does so and none undoes what an earlier one has settled. -/
theorem foldl_settles (hinv : ∀ one ∈ steps, ∀ state, P state → P (step state one))
    (hagain : ∀ one ∈ steps, ∀ state, P state → step (step state one) one = step state one)
    (hkeep : steps.Pairwise fun one later => ∀ state, P state → step state one = state →
      step (step state later) one = step state later)
    {state : State} (hstate : P state) :
    ∀ one ∈ steps, step (steps.foldl step state) one = steps.foldl step state := by
  induction steps generalizing state with
  | nil => simp
  | cons first steps ih =>
    obtain ⟨hfirst, hrest⟩ := List.forall_mem_cons.1 hinv
    obtain ⟨hagainFirst, hagainRest⟩ := List.forall_mem_cons.1 hagain
    obtain ⟨hkeepFirst, hkeepRest⟩ := List.pairwise_cons.1 hkeep
    have hnext := hfirst state hstate
    exact List.forall_mem_cons.2 ⟨foldl_keeps hrest hkeepFirst hnext (hagainFirst state hstate),
      ih hrest hagainRest hkeepRest hnext⟩

/-- Steps that change nothing one by one change nothing together. -/
theorem foldl_of_settled {state : State} (h : ∀ one ∈ steps, step state one = state) :
    steps.foldl step state = state := by
  induction steps with
  | nil => rfl
  | cons first steps ih =>
    obtain ⟨hfirst, hrest⟩ := List.forall_mem_cons.1 h
    rw [List.foldl_cons, hfirst]
    exact ih hrest

end Steps

/-! ## Values with marks anywhere -/

namespace Value

/-- Some parts of a value became invalid. -/
abbrev Dimmed (value after : Value) : Prop := value.Marked (fun _ => True) after

/-- What is read from well-keyed records is well-keyed. -/
theorem WellKeyed.value {record : Record} (h : (Value.record record).WellKeyed) (key : String) :
    (Record.value record key).WellKeyed := by
  rw [Record.value]
  cases hget : record.get? key with
  | none => trivial
  | some value =>
    obtain ⟨stored, hstored, -⟩ := Entries.mem_of_get? hget
    exact (everywhere_record.1 h).2 _ hstored

/-- If parts of a record became invalid, so did parts of the value under a key, if any. -/
theorem Dimmed.value {before after : Record} (h : (Value.record before).Dimmed (.record after)) (key : String) :
    (Record.value before key).Dimmed (Record.value after key) := by
  cases h with
  | kept => exact .kept _
  | record hkeys hentries =>
    rw [Record.value, Record.value]
    cases hbefore : before.get? key with
    | none =>
      cases hafter : after.get? key with
      | none => exact .kept _
      | some value =>
        obtain ⟨_, _, _, _, _, hget⟩ := get?_of_keys_eq hkeys.symm hafter
        rw [hbefore] at hget
        cases hget
    | some value =>
      obtain ⟨index, stored, other, hold, hnew, hget⟩ := get?_of_keys_eq hkeys hbefore
      rw [hget]
      exact (hentries index stored value other hold hnew).mono fun _ _ => trivial

end Value

/-! ## Revised records -/

namespace Record

/-- The record after the value under a key was revised, if there is one. -/
def revise (record : Record) (key : String) (f : Value → Value) : Record :=
  Entries.replace record key (f (record.value key))

variable {record : Record} {key other : String} {f g : Value → Value}

theorem value_revise (hmissing : f .missing = .missing) (record : Record) (key other : String) :
    value (record.revise key f) other = if lower key = lower other then f (record.value other) else record.value other := by
  rw [value, revise, Entries.get?_replace]
  split
  · next hsame =>
    rw [value, value, Entries.get?_congr record hsame]
    cases record.get? other with
    | none => exact hmissing.symm
    | some value => rfl
  · rfl

/-- A record is left as it is exactly if the value under the key is. -/
theorem revise_eq_self_iff (hmissing : f .missing = .missing) (hkeys : record.DistinctKeys) :
    record.revise key f = record ↔ f (record.value key) = record.value key := by
  constructor
  · intro h
    have hvalue := value_revise hmissing record key key
    rwa [h, if_pos rfl, eq_comm] at hvalue
  · intro h
    rw [revise, h, value]
    cases hget : record.get? key with
    | none => exact Entries.replace_of_forall_ne (Entries.get?_eq_none_iff.1 hget)
    | some value => exact Entries.replace_self hkeys hget

theorem distinctKeys_revise (hkeys : record.DistinctKeys) (key : String) (f : Value → Value) :
    (record.revise key f).DistinctKeys := by
  rw [revise, Entries.distinctKeys_iff_keys, Entries.keys_replace]
  exact Entries.distinctKeys_iff_keys.1 hkeys

/-- Revising a value twice is revising it once, if the second time it is left as it is. -/
theorem revise_revise (hmissing : f .missing = .missing) (hkeys : record.DistinctKeys)
    (hagain : f (f (record.value key)) = f (record.value key)) :
    (record.revise key f).revise key f = record.revise key f := by
  refine (revise_eq_self_iff hmissing (distinctKeys_revise hkeys key f)).2 ?_
  rwa [value_revise hmissing, if_pos rfl]

/-- A value that would be left as it is still is after another one was revised, or after the same one was revised in
a way that allows for it. -/
theorem revise_keeps (hf : f .missing = .missing) (hg : g .missing = .missing) (hkeys : record.DistinctKeys)
    (hkeep : lower other = lower key → f (record.value key) = record.value key →
      f (g (record.value key)) = g (record.value key))
    (h : record.revise key f = record) : (record.revise other g).revise key f = record.revise other g := by
  have hvalue := (revise_eq_self_iff hf hkeys).1 h
  refine (revise_eq_self_iff hf (distinctKeys_revise hkeys other g)).2 ?_
  rw [value_revise hg]
  split
  · next hsame => exact hkeep hsame hvalue
  · exact hvalue

/-- If marks are all that is made of a value, they are all that is made of the record. -/
theorem dimmed_revise (hkeys : record.DistinctKeys) (h : (record.value key).Dimmed (f (record.value key))) :
    (Value.record record).Dimmed (.record (record.revise key f)) := by
  rw [revise]
  rw [value] at h ⊢
  cases hget : record.get? key with
  | none =>
    rw [Entries.replace_of_forall_ne (Entries.get?_eq_none_iff.1 hget)]
    exact .kept _
  | some value =>
    rw [hget] at h
    exact .record_replace hkeys hget h

end Record

end Scim
