import Scim.Proofs.Report.Soundness

/-!
# Reports without violations

Whether a report holds any violation at all is asked of its lists alone, not of the locations at which they
stand.  Recording a violation makes it so for good, and a merged report is clean exactly if both reports
were: nothing is lost, wherever the other report is moved.

## Main results

* `Report.clean_merge_iff`: when a merged report is clean.
* `Report.Clean.canProceed`: in a sound report without violations nothing is blocked.
-/

namespace Scim

namespace Slots

variable {α : Type}

/-- No location has an issue. -/
def NoIssues (slots : Slots α) : Prop := ∀ slot ∈ slots, slot.2 = []

theorem anyUnder_nil_eq_false_iff {slots : Slots α} : slots.anyUnder [] = false ↔ slots.NoIssues := by
  simp [anyUnder, occupied, NoIssues]

theorem noIssues_add_iff {slots : Slots α} {location : Location} {issues : List α} :
    (slots.add location issues).NoIssues ↔ slots.NoIssues ∧ issues = [] := by
  constructor
  · intro h
    unfold NoIssues add update at h
    split at h
    · next hhas =>
      have hold : ∀ slot ∈ slots, slot.2 = [] ∧ ((slot.1 == location) = true → issues = []) := by
        intro slot hslot
        have hchanged := h _ (List.mem_map_of_mem hslot)
        split at hchanged
        · have hboth := List.append_eq_nil_iff.1 hchanged
          exact ⟨hboth.1, fun _ => hboth.2⟩
        · next hloc => exact ⟨hchanged, fun hloc' => absurd hloc' hloc⟩
      obtain ⟨slot, hslot, hloc⟩ := has_iff.1 hhas
      exact ⟨fun slot hslot => (hold slot hslot).1, (hold slot hslot).2 hloc⟩
    · have hnew := h _ (List.mem_append_right slots List.mem_cons_self)
      exact ⟨fun slot hslot => h slot (List.mem_append_left _ hslot), hnew⟩
  · rintro ⟨hnone, rfl⟩ slot hslot
    rcases mem_update hslot with hold | rfl | ⟨old, hold, -, rfl⟩
    · exact hnone slot hold
    · rfl
    · rw [hnone old hold]
      rfl

theorem noIssues_addAll_iff {slots other : Slots α} :
    (slots.addAll other).NoIssues ↔ slots.NoIssues ∧ other.NoIssues := by
  induction other generalizing slots with
  | nil => simp [addAll, NoIssues]
  | cons slot other ih =>
    have hstep : (slots.addAll (slot :: other)).NoIssues ↔
        (slots.add slot.1 slot.2).NoIssues ∧ NoIssues other := ih
    rw [hstep, noIssues_add_iff, and_assoc]
    have hcons : NoIssues (slot :: other) ↔ slot.2 = [] ∧ NoIssues other := by
      unfold NoIssues
      rw [List.forall_mem_cons]
    rw [hcons]

/-- Slots without issues are left out of what is merged, and moving slots changes no issues. -/
theorem noIssues_merge_iff {slots other : Slots α} {start : Location} :
    (slots.merge other start).NoIssues ↔ slots.NoIssues ∧ other.NoIssues := by
  have hmoved : (other.occupied.moved start).NoIssues ↔ other.NoIssues := by
    constructor
    · intro h slot hslot
      cases hfull : slot.2.isEmpty with
      | true => exact List.isEmpty_iff.1 hfull
      | false =>
        have hocc : slot ∈ other.occupied := List.mem_filter.2 ⟨hslot, by rw [hfull]; rfl⟩
        exact h (start ++ slot.1, slot.2) (List.mem_map.2 ⟨slot, hocc, rfl⟩)
    · intro h slot hslot
      obtain ⟨old, hold, rfl⟩ := List.mem_map.1 hslot
      exact h old (List.mem_filter.1 hold).1
  rw [merge_eq, noIssues_addAll_iff, hmoved]

end Slots

namespace Report

variable {report other : Report}

/-- A report holds no violation. -/
def Clean (report : Report) : Prop := report.hasViolations [] = false

theorem clean_iff : report.Clean ↔ report.violations.NoIssues := Slots.anyUnder_nil_eq_false_iff

theorem clean_empty : Clean empty := rfl

theorem clean_merge_iff {start : Location} : (report.merge other start).Clean ↔ report.Clean ∧ other.Clean := by
  rw [clean_iff, clean_iff, clean_iff]
  exact Slots.noIssues_merge_iff

/-- A report is empty if it holds no violation and no advice. -/
theorem isEmpty_iff : report.isEmpty = true ↔ report.Clean ∧ report.advice.NoIssues := by
  rw [isEmpty, Bool.and_eq_true, Bool.not_eq_true', Bool.not_eq_true', hasAdvice, Slots.anyUnder_nil_eq_false_iff,
    Clean]

theorem isEmpty_merge_iff {start : Location} :
    (report.merge other start).isEmpty = true ↔ report.isEmpty = true ∧ other.isEmpty = true := by
  have hadvice : (report.merge other start).advice.NoIssues ↔ _ := Slots.noIssues_merge_iff
  rw [isEmpty_iff, isEmpty_iff, isEmpty_iff, clean_merge_iff, hadvice, and_and_and_comm]

theorem not_clean_addViolation (violation : Violation) (proceed : Bool) (location : Location) :
    ¬ (report.addViolation violation proceed location).Clean := by
  rw [clean_iff]
  intro h
  cases (Slots.noIssues_add_iff.1 h).2

theorem clean_addAdvice_iff {advice : Advice} {location : Location} :
    (report.addAdvice advice location).Clean ↔ report.Clean := Iff.rfl

theorem not_clean_ofViolation (violation : Violation) (proceed : Bool) :
    ¬ (ofViolation violation proceed).Clean := not_clean_addViolation violation proceed []

/-- Where a rule is either kept or reported, a clean report says that it is kept. -/
theorem clean_require_iff {fine : Bool} {violation : Violation} {proceed : Bool} :
    (if fine = true then empty else ofViolation violation proceed).Clean ↔ fine = true := by
  cases fine with
  | true => simp [clean_empty]
  | false => simp [not_clean_ofViolation]

/-- In a sound report without violations nothing is blocked. -/
theorem Clean.canProceed (h : report.Clean) (hsound : report.Sound) (location : Location) :
    report.canProceed location = true := by
  rw [canProceed_iff, hsound.blocks_eq_nil h]
  intro block hblock
  cases hblock

end Report

end Scim
