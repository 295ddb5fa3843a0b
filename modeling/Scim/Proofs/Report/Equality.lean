import Mathlib.Data.List.Nodup
import Scim.Proofs.Json
import Scim.Proofs.Report.Soundness

/-!
# Reports that give the same answers

Equality of reports goes through the slots of the one and asks the other: as many locations with issues, the
same issues at each of them, as many blocked locations, the same codes for each.  Nothing in it looks at the
order in which locations were first used.

Two sound reports that answer every question alike, which issues stand at a location and which codes block it,
are therefore equal: no location is used twice, so as many locations are in use on both sides.  The one thing
to be asked besides is that an issue equals itself, which it does unless an object in its context repeats a
key.

## Main results

* `Slots.sameIssues_of_issuesAt_eq`: slots that answer alike hold the same issues.
* `Report.Agrees.same`: sound reports that answer alike are equal.
-/

namespace Scim

/-! ## Slots that answer alike -/

namespace Slots

variable {α : Type} {slots other : Slots α} {location : Location}

theorem DistinctLocations.nodup_folded (h : DistinctLocations slots) :
    (slots.map fun slot => Location.folded slot.1).Nodup := by
  refine List.pairwise_map.2 (List.Pairwise.imp ?_ h)
  intro a b hab heq
  rw [Location.beq_iff.2 heq] at hab
  cases hab

theorem mem_folded_iff {folded : List (List Char ⊕ Nat)} :
    folded ∈ slots.map (fun slot => Location.folded slot.1) ↔
      ∃ location : Location, Location.folded location = folded ∧ slots.has location = true := by
  rw [List.mem_map]
  constructor
  · rintro ⟨slot, hslot, rfl⟩
    exact ⟨slot.1, rfl, has_iff.2 ⟨slot, hslot, Location.beq_iff.2 rfl⟩⟩
  · rintro ⟨location, rfl, hhas⟩
    obtain ⟨slot, hslot, hloc⟩ := has_iff.1 hhas
    exact ⟨slot, hslot, Location.beq_iff.1 hloc⟩

/-- Slots of the same locations are equally many. -/
theorem length_eq_of_has_eq {β : Type} {slots : Slots α} {other : Slots β} (hd : DistinctLocations slots)
    (hother : DistinctLocations other) (h : ∀ location, slots.has location = other.has location) :
    slots.length = other.length := by
  have hperm : (slots.map fun slot => Location.folded slot.1).Perm
      (other.map fun slot => Location.folded slot.1) := by
    rw [List.perm_ext_iff_of_nodup hd.nodup_folded hother.nodup_folded]
    intro folded
    rw [mem_folded_iff, mem_folded_iff]
    simp only [h]
  simpa using hperm.length_eq

/-- A location is occupied exactly if it answers with an issue. -/
theorem has_occupied_iff (hd : DistinctLocations slots) :
    slots.occupied.has location = true ↔ slots.issuesAt location ≠ [] := by
  constructor
  · intro hhas
    obtain ⟨slot, hslot, hloc⟩ := has_iff.1 hhas
    obtain ⟨hmem, hfull⟩ := List.mem_filter.1 hslot
    rw [← issuesAt_congr hloc, issuesAt_of_mem hd hmem]
    simpa using hfull
  · intro hne
    cases hhas : slots.occupied.has location with
    | true => rfl
    | false => exact absurd (issuesAt_occupied hd location ▸ issuesAt_of_has_eq_false hhas) hne

theorem mem_issuesAt_iff (hd : DistinctLocations slots) {issue : α} :
    issue ∈ slots.issuesAt location ↔ ∃ slot ∈ slots, (slot.1 == location) = true ∧ issue ∈ slot.2 := by
  refine ⟨exists_slot_of_mem_issuesAt, ?_⟩
  rintro ⟨slot, hslot, hloc, hin⟩
  rw [← issuesAt_congr hloc, issuesAt_of_mem hd hslot]
  exact hin

/-- Slots that answer every location with the same issues hold the same issues. -/
theorem sameIssues_of_issuesAt_eq {same : α → α → Bool} (hd : DistinctLocations slots)
    (hother : DistinctLocations other)
    (h : ∀ location, slots.issuesAt location = other.issuesAt location)
    (hself : ∀ location, ∀ issue ∈ slots.issuesAt location, same issue issue = true) :
    sameIssues same slots other = true := by
  have hlength : slots.occupied.length = other.occupied.length := by
    apply length_eq_of_has_eq (hd.filter _) (hother.filter _)
    intro location
    rw [Bool.eq_iff_iff]
    show slots.occupied.has location = true ↔ other.occupied.has location = true
    rw [has_occupied_iff hd, has_occupied_iff hother, h]
  rw [sameIssues, Bool.and_eq_true, List.all_eq_true]
  refine ⟨by simpa using hlength, fun slot hslot => ?_⟩
  have hmem := (List.mem_filter.1 hslot).1
  have hanswer : other.issuesAt slot.1 = slot.2 := by rw [← h, issuesAt_of_mem hd hmem]
  have hslotSelf := hself slot.1
  rw [issuesAt_of_mem hd hmem] at hslotSelf
  dsimp only
  rw [hanswer, Bool.and_eq_true, List.all_eq_true]
  refine ⟨by simp, ?_⟩
  rintro ⟨issue, twin⟩ hpair
  rw [List.zip_eq_zipWith, List.zipWith_self, List.mem_map] at hpair
  obtain ⟨original, horiginal, hpair⟩ := hpair
  cases hpair
  exact hslotSelf issue horiginal

end Slots

/-! ## Issues that equal themselves -/

/-- No object in the context of a violation repeats a key. -/
def Violation.UniqueKeys (violation : Violation) : Prop := (Json.object violation.context).UniqueKeys

theorem Violation.same_refl {violation : Violation} (h : violation.UniqueKeys) :
    violation.same violation = true := by
  have hcontext : (Json.object violation.context).same (.object violation.context) = true :=
    Json.same_refl _ h
  rw [Violation.same, hcontext]
  simp

/-- No object in the context of a piece of advice repeats a key. -/
def Advice.UniqueKeys (advice : Advice) : Prop := (Json.object advice.context).UniqueKeys

theorem Advice.same_refl {advice : Advice} (h : advice.UniqueKeys) : advice.same advice = true := by
  have hcontext : (Json.object advice.context).same (.object advice.context) = true := Json.same_refl _ h
  rw [Advice.same, hcontext]
  simp

namespace Report

/-- No object in the context of a recorded issue repeats a key. -/
structure UniqueKeys (report : Report) : Prop where
  violations : ∀ location, ∀ violation ∈ report.violations.issuesAt location, violation.UniqueKeys
  advice : ∀ location, ∀ advice ∈ report.advice.issuesAt location, advice.UniqueKeys

/-! ## Reports that answer alike -/

/-- Two reports answer alike: the same issues in the same order at each location, blocked by the same codes. -/
structure Agrees (a b : Report) : Prop where
  violations : ∀ location, a.violations.issuesAt location = b.violations.issuesAt location
  advice : ∀ location, a.advice.issuesAt location = b.advice.issuesAt location
  codes : ∀ location code, code ∈ a.blocks.issuesAt location ↔ code ∈ b.blocks.issuesAt location

variable {a b : Report}

/-- In a sound report a location is blocked exactly if some code blocks it. -/
theorem Sound.has_blocks_iff_exists {report : Report} (h : Sound report) {location : Location} :
    report.blocks.has location = true ↔ ∃ code, code ∈ report.blocks.issuesAt location := by
  constructor
  · intro hhas
    obtain ⟨violation, -, hcode⟩ := h.has_blocks_iff.1 hhas
    exact ⟨violation.code, hcode⟩
  · rintro ⟨code, hcode⟩
    obtain ⟨block, hblock, hloc, -⟩ := Slots.exists_slot_of_mem_issuesAt hcode
    exact Slots.has_iff.2 ⟨block, hblock, hloc⟩

theorem sameCodes_iff {known codes : List Nat} :
    sameCodes known codes = true ↔ ∀ code, code ∈ known ↔ code ∈ codes := by
  simp only [sameCodes, Bool.and_eq_true, List.all_eq_true, List.contains_iff_mem]
  exact ⟨fun h code => ⟨h.1 code, h.2 code⟩, fun h => ⟨fun code => (h code).1, fun code => (h code).2⟩⟩

/-- Sound reports that answer alike are equal. -/
theorem Agrees.same (h : Agrees a b) (ha : Sound a) (hb : Sound b) (hkeys : a.UniqueKeys) :
    a.same b = true := by
  have hblocked : ∀ location, a.blocks.has location = b.blocks.has location := by
    intro location
    rw [Bool.eq_iff_iff, ha.has_blocks_iff_exists, hb.has_blocks_iff_exists]
    simp only [h.codes]
  have hviolations : Slots.sameIssues Violation.same a.violations b.violations = true :=
    Slots.sameIssues_of_issuesAt_eq ha.violations hb.violations h.violations
      fun location violation hin => Violation.same_refl (hkeys.violations location violation hin)
  have hadvice : Slots.sameIssues Advice.same a.advice b.advice = true :=
    Slots.sameIssues_of_issuesAt_eq ha.advice hb.advice h.advice
      fun location advice hin => Advice.same_refl (hkeys.advice location advice hin)
  have hlength : (a.blocks.length == b.blocks.length) = true := by
    simpa using Slots.length_eq_of_has_eq ha.blocks hb.blocks hblocked
  rw [Report.same, hviolations, hadvice, hlength]
  simp only [Bool.true_and, List.all_eq_true, List.any_eq_true, Bool.and_eq_true]
  intro block hblock
  have hhas : b.blocks.has block.1 = true := by
    rw [← hblocked]
    exact Slots.has_iff.2 ⟨block, hblock, Location.beq_iff.2 rfl⟩
  obtain ⟨twin, htwin, hloc⟩ := Slots.has_iff.1 hhas
  refine ⟨twin, htwin, hloc, sameCodes_iff.2 fun code => ?_⟩
  rw [← Slots.issuesAt_of_mem hb.blocks htwin, ← Slots.issuesAt_of_mem ha.blocks hblock,
    Slots.issuesAt_congr hloc, h.codes]

end Report

end Scim
