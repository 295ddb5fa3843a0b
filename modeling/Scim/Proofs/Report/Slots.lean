import Scim.Report
import Scim.Proofs.Location

/-!
# Slots by location

Slots are a list, so a location could stand in it twice and the second list of issues would never be seen.
`DistinctLocations` rules that out, and every operation on slots keeps it.  Under it a list of slots is
determined by what `issuesAt` answers, and the operations are described here by the answers they give:
appending other slots appends their answers, moving slots below a location moves the answers there, and
looking at the slots below a location asks for them with that location in front.  Slots that are appended need not
have different locations: all that stands in them at a location, `recordedAt`, is appended there.

Merging and selecting are both one loop that appends slots, `addAll`, over slots that were moved first.

## Main results

* `issuesAt_update`: a change at a location changes the answer there and no other.
* `recordedAt_eq_issuesAt`: where locations are different, nothing stands at one that is not found there.
* `issuesAt_merge` and `issuesAt_under`: what merged slots, and the slots below a location, answer.
* `anyUnder_iff`: whether there is an issue below a location.
-/

namespace Scim.Slots

variable {α : Type} {slots other : Slots α} {location : Location}

/-- The locations of different slots are different, also up to case. -/
def DistinctLocations (slots : Slots α) : Prop := slots.Pairwise fun a b => (a.1 == b.1) = false

theorem DistinctLocations.nil : DistinctLocations ([] : Slots α) := List.Pairwise.nil

theorem DistinctLocations.filter (h : DistinctLocations slots) (keep : Location × List α → Bool) :
    DistinctLocations (slots.filter keep) := List.Pairwise.filter keep h

/-- Leaving out slots and changing those that stay keeps the locations different, if none of them moves. -/
theorem DistinctLocations.filterMap {β : Type} (h : DistinctLocations slots)
    {change : Location × List α → Option (Location × List β)}
    (hstays : ∀ slot changed, change slot = some changed → changed.1 = slot.1) :
    DistinctLocations (slots.filterMap change) := by
  refine List.pairwise_filterMap.2 (List.Pairwise.imp ?_ h)
  intro a b hab a' ha' b' hb'
  rw [hstays a a' ha', hstays b b' hb']
  exact hab

/-! ## Used locations -/

theorem has_iff : slots.has location = true ↔ ∃ slot ∈ slots, (slot.1 == location) = true := by
  simp [has]

theorem has_eq_false_iff : slots.has location = false ↔ ∀ slot ∈ slots, (slot.1 == location) = false := by
  rw [has, List.any_eq_false]
  simp

theorem has_cons (slot : Location × List α) (slots : Slots α) (location : Location) :
    has (slot :: slots) location = (slot.1 == location || slots.has location) := by
  rw [has, List.any_cons, has]

theorem has_congr {a b : Location} (h : (a == b) = true) (slots : Slots α) : slots.has a = slots.has b := by
  unfold has
  refine congrArg slots.any (funext fun slot => ?_)
  rw [Location.beq_comm, Location.beq_congr_left h, Location.beq_comm]

/-! ## Looking up -/

@[simp] theorem issuesAt_nil (location : Location) : issuesAt ([] : Slots α) location = [] := rfl

theorem issuesAt_cons (slot : Location × List α) (slots : Slots α) (location : Location) :
    issuesAt (slot :: slots) location = if slot.1 == location then slot.2 else slots.issuesAt location := by
  unfold issuesAt
  rw [List.find?_cons]
  cases slot.1 == location <;> rfl

theorem issuesAt_congr {a b : Location} (h : (a == b) = true) (slots : Slots α) :
    slots.issuesAt a = slots.issuesAt b := by
  induction slots with
  | nil => rfl
  | cons slot slots ih =>
    rw [issuesAt_cons, issuesAt_cons, ih, Location.beq_comm, Location.beq_congr_left h, Location.beq_comm]

theorem issuesAt_of_has_eq_false (h : slots.has location = false) : slots.issuesAt location = [] := by
  induction slots with
  | nil => rfl
  | cons slot slots ih =>
    have hall := has_eq_false_iff.1 h
    rw [issuesAt_cons, hall slot List.mem_cons_self]
    exact ih (has_eq_false_iff.2 fun other hother => hall other (List.mem_cons_of_mem _ hother))

/-- What is found at a location stands in a slot of that location. -/
theorem exists_slot_of_mem_issuesAt {issue : α} (h : issue ∈ slots.issuesAt location) :
    ∃ slot ∈ slots, (slot.1 == location) = true ∧ issue ∈ slot.2 := by
  induction slots with
  | nil => simp at h
  | cons slot slots ih =>
    rw [issuesAt_cons] at h
    split at h
    · next hslot => exact ⟨slot, List.mem_cons_self, hslot, h⟩
    · obtain ⟨other, hother, hrest⟩ := ih h
      exact ⟨other, List.mem_cons_of_mem _ hother, hrest⟩

/-- Every slot can be looked up. -/
theorem issuesAt_of_mem (hd : DistinctLocations slots) {slot : Location × List α} (h : slot ∈ slots) :
    slots.issuesAt slot.1 = slot.2 := by
  induction slots with
  | nil => cases h
  | cons first slots ih =>
    obtain ⟨hfirst, hrest⟩ := List.pairwise_cons.1 hd
    rw [issuesAt_cons]
    rcases List.mem_cons.1 h with rfl | hmem
    · simp [Location.beq_iff]
    · rw [if_neg (by simp [hfirst slot hmem])]
      exact ih hrest hmem

theorem issuesAt_append (slots other : Slots α) (location : Location) :
    issuesAt (slots ++ other) location =
      if slots.has location then slots.issuesAt location else other.issuesAt location := by
  induction slots with
  | nil => simp [has]
  | cons slot slots ih =>
    rw [List.cons_append, issuesAt_cons, issuesAt_cons, ih]
    cases hslot : slot.1 == location <;> simp [has_cons, hslot]

/-! ## All that stands at a location -/

/-- All issues of a location, also if it stands in the slots more than once. -/
def recordedAt (slots : Slots α) (asked : Location) : List α :=
  slots.flatMap fun slot => if slot.1 == asked then slot.2 else []

theorem recordedAt_cons (slot : Location × List α) (slots : Slots α) (asked : Location) :
    recordedAt (slot :: slots) asked = (if slot.1 == asked then slot.2 else []) ++ slots.recordedAt asked :=
  List.flatMap_cons

/-- Where no location stands twice, all that stands at one is what is found there. -/
theorem recordedAt_eq_issuesAt (hd : DistinctLocations slots) (asked : Location) :
    slots.recordedAt asked = slots.issuesAt asked := by
  induction slots with
  | nil => rfl
  | cons slot slots ih =>
    obtain ⟨hslot, hrest⟩ := List.pairwise_cons.1 hd
    rw [recordedAt_cons, issuesAt_cons, ih hrest]
    split
    · next hloc =>
      -- a later slot of the same location would be a second one
      have hnone : has slots asked = false := has_eq_false_iff.2 fun other hother => by
        rw [Location.beq_comm, ← Location.beq_congr_left hloc]
        exact hslot other hother
      rw [issuesAt_of_has_eq_false hnone, List.append_nil]
    · rfl

theorem recordedAt_occupied (slots : Slots α) (asked : Location) :
    slots.occupied.recordedAt asked = slots.recordedAt asked := by
  unfold occupied
  induction slots with
  | nil => rfl
  | cons slot slots ih =>
    by_cases hempty : slot.2.isEmpty = true
    · rw [List.filter_cons_of_neg (by simp [hempty]), ih, recordedAt_cons, List.isEmpty_iff.1 hempty]
      simp
    · rw [List.filter_cons_of_pos (by simp [hempty]), recordedAt_cons, recordedAt_cons, ih]

/-- Leaving out slots without issues loses no answer. -/
theorem issuesAt_occupied (hd : DistinctLocations slots) (location : Location) :
    slots.occupied.issuesAt location = slots.issuesAt location := by
  have hocc : DistinctLocations slots.occupied := hd.filter _
  rw [← recordedAt_eq_issuesAt hocc, recordedAt_occupied, recordedAt_eq_issuesAt hd]

/-! ## Changes at one location -/

/-- What a change of the slots of a location answers. -/
private theorem issuesAt_map_change (slots : Slots α) (location : Location) (change : List α → List α)
    (asked : Location) :
    issuesAt (slots.map fun slot => if slot.1 == location then (slot.1, change slot.2) else slot) asked =
      if slots.has asked && location == asked then change (slots.issuesAt asked)
      else slots.issuesAt asked := by
  induction slots with
  | nil => simp [has]
  | cons slot slots ih =>
    rw [List.map_cons, issuesAt_cons, issuesAt_cons, ih]
    by_cases hasked : (slot.1 == asked) = true
    · rw [Location.beq_congr_left hasked location, Location.beq_comm asked location]
      by_cases hloc : (location == asked) = true <;> simp [has_cons, hasked, hloc]
    · have hfst : ((if slot.1 == location then (slot.1, change slot.2) else slot).1 == asked) = false := by
        split <;> simpa using hasked
      rw [hfst]
      simp only [Bool.not_eq_true] at hasked
      simp [has_cons, hasked]

theorem issuesAt_update (slots : Slots α) (location : Location) (change : List α → List α)
    (asked : Location) :
    (slots.update location change).issuesAt asked =
      if location == asked then change (slots.issuesAt asked) else slots.issuesAt asked := by
  unfold update
  split
  · next hhas =>
    rw [issuesAt_map_change]
    by_cases hloc : (location == asked) = true
    · rw [← has_congr hloc, hhas, hloc]
      rfl
    · simp [hloc]
  · next hhas =>
    simp only [Bool.not_eq_true] at hhas
    rw [issuesAt_append, issuesAt_cons, issuesAt_nil]
    by_cases hloc : (location == asked) = true
    · rw [← has_congr hloc, hhas, hloc, ← issuesAt_congr hloc, issuesAt_of_has_eq_false hhas]
      rfl
    · simp only [hloc]
      cases hasked : slots.has asked
      · simp [issuesAt_of_has_eq_false hasked]
      · simp

theorem issuesAt_add (slots : Slots α) (location : Location) (issues : List α) (asked : Location) :
    (slots.add location issues).issuesAt asked =
      slots.issuesAt asked ++ if location == asked then issues else [] := by
  rw [add, issuesAt_update]
  split <;> simp

theorem issuesAt_replace (slots : Slots α) (location : Location) (issues : List α) (asked : Location)
    (hhas : slots.has location = true) :
    (slots.replace location issues).issuesAt asked =
      if location == asked then issues else slots.issuesAt asked := by
  rw [replace, issuesAt_map_change slots location (fun _ => issues)]
  by_cases hloc : (location == asked) = true
  · rw [← has_congr hloc, hhas, hloc]
    rfl
  · simp [hloc]

/-- Every slot after a change stood there before, at the same location, or is a new one. -/
theorem mem_update {slot : Location × List α} {change : List α → List α}
    (h : slot ∈ slots.update location change) :
    slot ∈ slots ∨ slot = (location, change []) ∨
      ∃ old ∈ slots, (old.1 == location) = true ∧ slot = (old.1, change old.2) := by
  unfold update at h
  split at h
  · obtain ⟨old, hold, rfl⟩ := List.mem_map.1 h
    split
    · next hloc => exact .inr (.inr ⟨old, hold, hloc, rfl⟩)
    · exact .inl hold
  · rcases List.mem_append.1 h with hold | hnew
    · exact .inl hold
    · exact .inr (.inl (List.mem_singleton.1 hnew))

/-- A change puts nothing at a location that was not there or is its own. -/
theorem has_update (slots : Slots α) (location : Location) (change : List α → List α)
    (asked : Location) :
    (slots.update location change).has asked = (slots.has asked || location == asked) := by
  unfold update
  split
  · next hhas =>
    have hmap : has (slots.map fun slot => if slot.1 == location then (slot.1, change slot.2) else slot)
        asked = slots.has asked := by
      unfold has
      rw [List.any_map]
      refine congrArg slots.any (funext fun slot => ?_)
      dsimp only [Function.comp]
      split <;> rfl
    rw [hmap]
    by_cases hloc : (location == asked) = true
    · rw [← has_congr hloc, hhas]
      rfl
    · simp [hloc]
  · simp [has]

/-- The locations stay different under a change. -/
theorem DistinctLocations.update (h : DistinctLocations slots) (location : Location)
    (change : List α → List α) : DistinctLocations (slots.update location change) := by
  unfold DistinctLocations Slots.update
  split
  · refine List.pairwise_map.2 (List.Pairwise.imp ?_ h)
    intro a b hab
    split <;> split <;> exact hab
  · next hhas =>
    simp only [Bool.not_eq_true] at hhas
    refine List.pairwise_append.2 ⟨h, List.pairwise_singleton _ _, ?_⟩
    intro slot hslot new hnew
    rw [List.mem_singleton.1 hnew]
    exact has_eq_false_iff.1 hhas slot hslot

theorem DistinctLocations.add (h : DistinctLocations slots) (location : Location) (issues : List α) :
    DistinctLocations (slots.add location issues) := h.update location _

theorem DistinctLocations.replace (h : DistinctLocations slots) (location : Location)
    (issues : List α) : DistinctLocations (slots.replace location issues) := by
  unfold DistinctLocations Slots.replace
  refine List.pairwise_map.2 (List.Pairwise.imp ?_ h)
  intro a b hab
  split <;> split <;> exact hab

/-! ## Appending many slots -/

/-- Appends the issues of other slots, each at its own location. -/
def addAll (slots other : Slots α) : Slots α :=
  other.foldl (fun slots slot => slots.add slot.1 slot.2) slots

theorem DistinctLocations.addAll (h : DistinctLocations slots) (other : Slots α) :
    DistinctLocations (slots.addAll other) := by
  induction other generalizing slots with
  | nil => exact h
  | cons slot other ih => exact ih (h.add slot.1 slot.2)

theorem issuesAt_addAll_recorded (slots other : Slots α) (asked : Location) :
    (slots.addAll other).issuesAt asked = slots.issuesAt asked ++ other.recordedAt asked := by
  induction other generalizing slots with
  | nil => exact (List.append_nil _).symm
  | cons slot other ih =>
    have hstep : (slots.addAll (slot :: other)).issuesAt asked =
        (slots.add slot.1 slot.2).issuesAt asked ++ recordedAt other asked := ih _
    rw [hstep, issuesAt_add, recordedAt_cons, List.append_assoc]

theorem issuesAt_addAll (slots : Slots α) (hd : DistinctLocations other) (asked : Location) :
    (slots.addAll other).issuesAt asked = slots.issuesAt asked ++ other.issuesAt asked := by
  rw [issuesAt_addAll_recorded, recordedAt_eq_issuesAt hd]

/-! ## Moving slots -/

/-- The slots below a location. -/
def moved (slots : Slots α) (start : Location) : Slots α :=
  slots.map fun slot => (start ++ slot.1, slot.2)

theorem DistinctLocations.moved (h : DistinctLocations slots) (start : Location) :
    DistinctLocations (slots.moved start) := by
  refine List.pairwise_map.2 (List.Pairwise.imp ?_ h)
  intro a b hab
  rw [Location.append_beq_append]
  exact hab

theorem has_moved (slots : Slots α) (start location : Location) :
    (slots.moved start).has (start ++ location) = slots.has location := by
  unfold has moved
  rw [List.any_map]
  refine congrArg slots.any (funext fun slot => ?_)
  exact Location.append_beq_append start slot.1 location

theorem issuesAt_moved (slots : Slots α) (start asked : Location) :
    (slots.moved start).issuesAt asked =
      if asked.startsWith start then slots.issuesAt (asked.drop start.length) else [] := by
  induction slots with
  | nil => simp [moved]
  | cons slot slots ih =>
    show issuesAt ((start ++ slot.1, slot.2) :: Slots.moved slots start) asked = _
    rw [issuesAt_cons, issuesAt_cons, ih]
    by_cases hbelow : asked.startsWith start = true
    · have happ : ((start ++ slot.1) == asked) = (slot.1 == asked.drop start.length) := by
        rw [Bool.eq_iff_iff, Location.append_beq_iff]
        simp [hbelow]
      rw [happ, if_pos hbelow, if_pos hbelow]
    · have happ : ((start ++ slot.1) == asked) = false := by
        rw [← Bool.not_eq_true, Location.append_beq_iff]
        simp [hbelow]
      simp [happ, hbelow]

theorem recordedAt_moved (slots : Slots α) (start asked : Location) :
    (slots.moved start).recordedAt asked =
      if asked.startsWith start then slots.recordedAt (asked.drop start.length) else [] := by
  induction slots with
  | nil => simp [moved, recordedAt]
  | cons slot slots ih =>
    have hmoved : ((start ++ slot.1) == asked) =
        (asked.startsWith start && slot.1 == asked.drop start.length) := by
      rw [Bool.eq_iff_iff, Bool.and_eq_true, Location.append_beq_iff]
    show recordedAt ((start ++ slot.1, slot.2) :: Slots.moved slots start) asked = _
    rw [recordedAt_cons, recordedAt_cons, ih, hmoved]
    cases asked.startsWith start <;> simp

/-- The slots below a location, seen from there. -/
def seenFrom (slots : Slots α) (start : Location) (keep : α → Bool) : Slots α :=
  (slots.filter fun slot => slot.1.startsWith start).map fun slot =>
    (slot.1.drop start.length, slot.2.filter keep)

theorem DistinctLocations.seenFrom (h : DistinctLocations slots) (start : Location) (keep : α → Bool) :
    DistinctLocations (slots.seenFrom start keep) := by
  refine List.pairwise_map.2 (List.Pairwise.imp_of_mem ?_ (h.filter _))
  intro a b ha hb hab
  have habove := Location.append_drop_beq (List.mem_filter.1 ha).2
  have hbelow := Location.append_drop_beq (List.mem_filter.1 hb).2
  rw [← Location.append_beq_append start, Location.beq_congr_left habove, Location.beq_comm,
    Location.beq_congr_left hbelow, Location.beq_comm]
  exact hab

theorem issuesAt_seenFrom (slots : Slots α) (start : Location) (keep : α → Bool) (asked : Location) :
    (slots.seenFrom start keep).issuesAt asked = (slots.issuesAt (start ++ asked)).filter keep := by
  induction slots with
  | nil => rfl
  | cons slot slots ih =>
    unfold seenFrom at ih ⊢
    have hloc : (slot.1 == start ++ asked) =
        (slot.1.startsWith start && slot.1.drop start.length == asked) := by
      rw [Bool.eq_iff_iff, Location.beq_comm, Location.append_beq_iff, Bool.and_eq_true,
        Location.beq_comm]
    by_cases hbelow : slot.1.startsWith start = true
    · rw [List.filter_cons_of_pos (by simpa using hbelow), List.map_cons, issuesAt_cons, issuesAt_cons,
        ih, hloc, hbelow, Bool.true_and]
      split <;> rfl
    · rw [List.filter_cons_of_neg (by simpa using hbelow), ih, issuesAt_cons, hloc]
      simp [hbelow]

/-! ## Merging and selecting -/

theorem merge_eq (slots other : Slots α) (start : Location) :
    slots.merge other start = slots.addAll (other.occupied.moved start) := by
  rw [merge, addAll, moved, List.foldl_map]

theorem DistinctLocations.merge (h : DistinctLocations slots) (other : Slots α) (start : Location) :
    DistinctLocations (slots.merge other start) := by
  rw [merge_eq]
  exact h.addAll _

/-- Merging appends all that stands in the other slots, below the location. -/
theorem issuesAt_merge_recorded (slots other : Slots α) (start asked : Location) :
    (slots.merge other start).issuesAt asked =
      slots.issuesAt asked ++
        if asked.startsWith start then other.recordedAt (asked.drop start.length) else [] := by
  rw [merge_eq, issuesAt_addAll_recorded, recordedAt_moved, recordedAt_occupied]

/-- Merging appends what the other slots answer below the location. -/
theorem issuesAt_merge (slots : Slots α) (hd : DistinctLocations other) (start asked : Location) :
    (slots.merge other start).issuesAt asked =
      slots.issuesAt asked ++
        if asked.startsWith start then other.issuesAt (asked.drop start.length) else [] := by
  rw [issuesAt_merge_recorded, recordedAt_eq_issuesAt hd]

theorem under_eq (slots : Slots α) (start : Location) (keep : α → Bool) :
    slots.under start keep = addAll [] (slots.occupied.seenFrom start keep) := by
  rw [under, addAll, seenFrom, List.foldl_map]

theorem DistinctLocations.under (slots : Slots α) (start : Location) (keep : α → Bool) :
    DistinctLocations (slots.under start keep) := by
  rw [under_eq]
  exact DistinctLocations.nil.addAll _

/-- Selecting asks with the location in front and filters the answer. -/
theorem issuesAt_under (hd : DistinctLocations slots) (start : Location) (keep : α → Bool)
    (asked : Location) :
    (slots.under start keep).issuesAt asked = (slots.issuesAt (start ++ asked)).filter keep := by
  have hocc : DistinctLocations slots.occupied := hd.filter _
  rw [under_eq, issuesAt_addAll [] (hocc.seenFrom start keep), issuesAt_seenFrom, issuesAt_occupied hd,
    issuesAt_nil, List.nil_append]

/-- There is an issue below a location exactly if some location there answers with one. -/
theorem anyUnder_iff (hd : DistinctLocations slots) {start : Location} :
    slots.anyUnder start = true ↔
      ∃ asked : Location, asked.startsWith start = true ∧ slots.issuesAt asked ≠ [] := by
  unfold anyUnder occupied
  rw [List.any_eq_true]
  constructor
  · rintro ⟨slot, hslot, hbelow⟩
    obtain ⟨hmem, hne⟩ := List.mem_filter.1 hslot
    refine ⟨slot.1, hbelow, ?_⟩
    rw [issuesAt_of_mem hd hmem]
    simpa using hne
  · rintro ⟨asked, hbelow, hne⟩
    obtain ⟨issue, hissue⟩ := List.exists_mem_of_ne_nil _ hne
    obtain ⟨slot, hmem, hloc, hin⟩ := exists_slot_of_mem_issuesAt hissue
    have hfull : slot.2.isEmpty = false := by
      rw [← Bool.not_eq_true, List.isEmpty_iff]
      exact List.ne_nil_of_mem hin
    refine ⟨slot, List.mem_filter.2 ⟨hmem, by simp [hfull]⟩, ?_⟩
    rw [Location.startsWith_iff, Location.beq_iff.1 hloc, ← Location.startsWith_iff]
    exact hbelow

end Scim.Slots
