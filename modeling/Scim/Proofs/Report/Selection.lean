import Scim.Proofs.Report.Merging

/-!
# Answers of a selection and of a pop

Selecting and popping are described here as everything else about reports is: by the issues that stand at a
location afterwards and by the codes that block it.  A selection asks the report with the way to the place in
front.  A pop divides the violations of one location by their codes, and the blocks of that location with
them.

A block is kept by code and not by violation, and some violations of one code may block while others do not.
That does no harm, since a pop takes all violations of a code or none.  It does need every code that blocks to
be the code of a recorded violation, for only the codes of what was taken are lifted: this is `Sound`.

## Main results

* `mem_issuesAt_blocks_select`: which codes block in a selection.
* `issuesAt_popped`, `mem_issuesAt_blocks_popped`: what a pop gives.
* `issuesAt_left`, `mem_issuesAt_blocks_left`: what it leaves.
* `Sound.canProceed_congr`: whether checking can proceed is told by the codes that block each location.
-/

namespace Scim.Report

variable {report other : Report} {blocks : Slots Nat} {location asked : Location} {code : Nat}

/-! ## Codes that block -/

/-- A code that blocks a location is that of a violation recorded there. -/
theorem Sound.exists_of_mem_blocks (h : Sound report) (hcode : code ∈ report.blocks.issuesAt location) :
    ∃ violation ∈ report.violations.issuesAt location, violation.code = code := by
  obtain ⟨block, hblock, hloc, hin⟩ := Slots.exists_slot_of_mem_issuesAt hcode
  rw [← Slots.issuesAt_congr hloc]
  exact (h.supported block hblock).2 code hin

theorem mem_issuesAt_blocks_addViolation {violation : Violation} {proceed : Bool} :
    code ∈ (report.addViolation violation proceed location).blocks.issuesAt asked ↔
      code ∈ report.blocks.issuesAt asked ∨
        (proceed = false ∧ (location == asked) = true ∧ code = violation.code) := by
  unfold addViolation
  cases proceed with
  | true => simp
  | false => simp [mem_issuesAt_addBlock]

/-- In a sound report checking cannot proceed exactly at and below the locations that some code blocks. -/
theorem Sound.canProceed_eq_false_iff (h : Sound report) :
    report.canProceed asked = false ↔
      ∃ start, asked.startsWith start = true ∧ ∃ code, code ∈ report.blocks.issuesAt start := by
  rw [Report.canProceed_eq_false_iff]
  constructor
  · rintro ⟨block, hblock, hbelow⟩
    refine ⟨block.1, hbelow, ?_⟩
    rw [← h.has_blocks_iff_exists]
    exact Slots.has_iff.2 ⟨block, hblock, Location.beq_iff.2 rfl⟩
  · rintro ⟨start, hbelow, hcode⟩
    obtain ⟨block, hblock, hloc⟩ := Slots.has_iff.1 (h.has_blocks_iff_exists.2 hcode)
    exact ⟨block, hblock, by rw [Location.startsWith_congr hloc, hbelow]⟩

/-- Whether checking can proceed is told by the codes that block each location. -/
theorem Sound.canProceed_congr (h : Sound report) (hother : Sound other)
    (hcodes : ∀ location code, code ∈ report.blocks.issuesAt location ↔ code ∈ other.blocks.issuesAt location)
    (asked : Location) : report.canProceed asked = other.canProceed asked := by
  have hblocked : report.canProceed asked = false ↔ other.canProceed asked = false := by
    rw [h.canProceed_eq_false_iff, hother.canProceed_eq_false_iff]
    simp only [hcodes]
  cases hproceed : other.canProceed asked with
  | false => exact hblocked.2 hproceed
  | true =>
    rw [← Bool.not_eq_false, hblocked, hproceed]
    simp

/-! ## Selecting -/

theorem mem_issuesAt_blocks_select (h : Sound report) {violationCodes adviceCodes : Option (List Nat)}
    {start : Location} :
    code ∈ (report.select violationCodes adviceCodes start).blocks.issuesAt asked ↔
      code ∈ report.blocks.issuesAt (start ++ asked) ∧ passes violationCodes code = true := by
  show code ∈ (blocksUnder report.blocks violationCodes start).issuesAt asked ↔ _
  rw [blocksUnder_eq, Slots.issuesAt_occupied (h.blocks.seenFrom _ _), Slots.issuesAt_seenFrom, List.mem_filter]

/-! ## Popping -/

/-- Codes taken away from a location block it no more, and every other code stays. -/
theorem mem_issuesAt_unblock (h : blocks.DistinctLocations) {codes : List Nat} :
    code ∈ (unblock blocks location codes).issuesAt asked ↔
      code ∈ blocks.issuesAt asked ∧ ¬ ((location == asked) = true ∧ code ∈ codes) := by
  rw [Slots.mem_issuesAt_iff (distinctLocations_unblock h location codes), Slots.mem_issuesAt_iff h]
  constructor
  · rintro ⟨block, hblock, hasked, hin⟩
    obtain ⟨old, hold, ⟨-, rfl, -⟩ | ⟨hloc, rfl⟩⟩ := mem_unblock hblock
    · obtain ⟨hcode, hstays⟩ := List.mem_filter.1 hin
      exact ⟨⟨old, hold, hasked, hcode⟩, fun htaken => by simp [htaken.2] at hstays⟩
    · refine ⟨⟨block, hold, hasked, hin⟩, fun htaken => ?_⟩
      rw [Location.beq_congr_left hasked, Location.beq_comm, htaken.1] at hloc
      cases hloc
  · rintro ⟨⟨block, hblock, hasked, hin⟩, hstays⟩
    cases hloc : block.1 == location with
    | false => exact ⟨block, List.mem_filterMap.2 ⟨block, hblock, by simp [hloc]⟩, hasked, hin⟩
    | true =>
      have hcode : code ∉ codes := fun htaken => hstays ⟨by rwa [← Location.beq_congr_left hloc], htaken⟩
      have hkept : code ∈ block.2.filter fun code => !codes.contains code :=
        List.mem_filter.2 ⟨hin, by simpa using hcode⟩
      have hfull : (block.2.filter fun code => !codes.contains code).isEmpty = false := by
        rw [← Bool.not_eq_true, List.isEmpty_iff]
        exact List.ne_nil_of_mem hkept
      have hslot : (block.1, block.2.filter fun code => !codes.contains code) ∈ unblock blocks location codes := by
        refine List.mem_filterMap.2 ⟨block, hblock, ?_⟩
        dsimp only
        rw [hloc, hfull]
        rfl
      exact ⟨_, hslot, hasked, hkept⟩

/-- The codes by which violations block their location are those of violations among them that block it. -/
theorem mem_blockingCodes {violations : List Violation} :
    code ∈ report.blockingCodes location violations ↔
      (∃ violation ∈ violations, violation.code = code) ∧ code ∈ report.blocks.issuesAt location := by
  simp [blockingCodes]

/-- Of a sound report a pop lifts the codes it names and no other. -/
theorem Sound.mem_blockingCodes_taken (h : Sound report) {codes : List Nat} :
    code ∈ report.blockingCodes location
        ((report.violations.issuesAt location).filter fun v => codes.contains v.code) ↔
      code ∈ codes ∧ code ∈ report.blocks.issuesAt location := by
  rw [mem_blockingCodes]
  refine and_congr_left fun hblocked => ⟨?_, fun htaken => ?_⟩
  · rintro ⟨violation, hviolation, rfl⟩
    simpa using (List.mem_filter.1 hviolation).2
  · obtain ⟨violation, hviolation, rfl⟩ := h.exists_of_mem_blocks hblocked
    exact ⟨violation, List.mem_filter.2 ⟨hviolation, by simpa using htaken⟩, rfl⟩

/-! ### What is taken -/

/-- The report of some violations at the root, of which certain codes block. -/
private theorem recorded_answers (blocking : List Nat) (taken : List Violation) (copy : Report) :
    let recorded := taken.foldl (fun copy v => copy.addViolation v (!blocking.contains v.code) []) copy
    (∀ asked, recorded.violations.issuesAt asked =
        copy.violations.issuesAt asked ++ if ([] : Location) == asked then taken else []) ∧
      recorded.advice = copy.advice ∧
      ∀ asked code, code ∈ recorded.blocks.issuesAt asked ↔ code ∈ copy.blocks.issuesAt asked ∨
        (([] : Location) == asked) = true ∧ code ∈ blocking ∧ ∃ violation ∈ taken, violation.code = code := by
  induction taken generalizing copy with
  | nil => simp
  | cons violation taken ih =>
    obtain ⟨hviolations, hadvice, hcodes⟩ := ih (copy.addViolation violation (!blocking.contains violation.code) [])
    refine ⟨fun asked => ?_, hadvice, fun asked code => ?_⟩
    · refine (hviolations asked).trans ?_
      show (copy.violations.add [] [violation]).issuesAt asked ++ _ = _
      rw [Slots.issuesAt_add, List.append_assoc]
      split <;> rfl
    · refine (hcodes asked code).trans ?_
      rw [mem_issuesAt_blocks_addViolation, or_assoc]
      simp only [Bool.not_eq_false', List.contains_iff_mem, List.mem_cons, exists_eq_or_imp]
      grind

/-- A pop gives the violations of the codes it names, seen from their location. -/
theorem issuesAt_popped (report : Report) (codes : List Nat) (location asked : Location) :
    (report.pop codes location).1.violations.issuesAt asked =
      if ([] : Location) == asked then
        (report.violations.issuesAt location).filter fun v => codes.contains v.code
      else [] := by
  unfold pop
  split
  · exact ((recorded_answers _ _ empty).1 asked).trans (List.nil_append _)
  · next hhas =>
    have hnone := Slots.issuesAt_of_has_eq_false (Bool.not_eq_true _ ▸ hhas)
    rw [hnone]
    simp [empty]

theorem advice_popped (report : Report) (codes : List Nat) (location : Location) :
    (report.pop codes location).1.advice = [] := by
  unfold pop
  split
  · exact (recorded_answers _ _ empty).2.1
  · rfl

/-- The popped violations block as they did. -/
theorem mem_issuesAt_blocks_popped (h : Sound report) {codes : List Nat} :
    code ∈ (report.pop codes location).1.blocks.issuesAt asked ↔
      (([] : Location) == asked) = true ∧ code ∈ codes ∧ code ∈ report.blocks.issuesAt location := by
  rw [← h.mem_blockingCodes_taken]
  unfold pop
  split
  · rw [(recorded_answers _ _ empty).2.2 asked code]
    simp only [empty, Slots.issuesAt_nil, List.not_mem_nil, false_or]
    refine and_congr_right fun _ => ⟨fun hboth => hboth.1, fun hblocking => ⟨hblocking, ?_⟩⟩
    exact (mem_blockingCodes.1 hblocking).1
  · next hhas =>
    have hnone := Slots.issuesAt_of_has_eq_false (Bool.not_eq_true _ ▸ hhas)
    rw [hnone]
    simp [empty, mem_blockingCodes]

/-! ### What is left -/

/-- A pop leaves the violations of all other codes, and all of other locations. -/
theorem issuesAt_left (report : Report) (codes : List Nat) (location asked : Location) :
    (report.pop codes location).2.violations.issuesAt asked =
      if location == asked then
        (report.violations.issuesAt asked).filter fun v => !codes.contains v.code
      else report.violations.issuesAt asked := by
  unfold pop
  split
  · next hhas =>
    refine (Slots.issuesAt_replace _ _ _ _ hhas).trans ?_
    split
    · next hloc => rw [Slots.issuesAt_congr hloc]
    · rfl
  · next hhas =>
    split
    · next hloc =>
      rw [← Slots.issuesAt_congr hloc, Slots.issuesAt_of_has_eq_false (by simpa using hhas)]
      rfl
    · rfl

theorem advice_left (report : Report) (codes : List Nat) (location : Location) :
    (report.pop codes location).2.advice = report.advice := by
  unfold pop
  split <;> rfl

/-- Of a location the codes that were popped block no more, and no other location is freed. -/
theorem mem_issuesAt_blocks_left (h : Sound report) {codes : List Nat} :
    code ∈ (report.pop codes location).2.blocks.issuesAt asked ↔
      code ∈ report.blocks.issuesAt asked ∧ ¬ ((location == asked) = true ∧ code ∈ codes) := by
  unfold pop
  split
  · refine (mem_issuesAt_unblock h.blocks).trans (and_congr_right fun hblocked => not_congr ?_)
    refine and_congr_right fun hloc => ?_
    rw [h.mem_blockingCodes_taken, Slots.issuesAt_congr hloc]
    exact and_iff_left hblocked
  · next hhas =>
    refine (and_iff_left_of_imp fun hblocked htaken => ?_).symm
    obtain ⟨violation, hviolation, -⟩ := h.exists_of_mem_blocks hblocked
    rw [← Slots.issuesAt_congr htaken.1, Slots.issuesAt_of_has_eq_false (by simpa using hhas)] at hviolation
    cases hviolation

end Scim.Report
