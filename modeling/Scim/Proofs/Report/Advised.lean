import Scim.Proofs.Report.Elementwise

/-!
# Reports that differ in advice

Advice neither blocks nor counts as a violation.  So whatever else is checked goes on in the same way after an advice
was recorded as it would have gone on without it: two reports with the same violations and the same blocks stay so
when the same is merged into both.

## Main results

* `SameViolations.merge`, `SameViolations.mergeEach`: the same violations, merged into the same.
* `AlsoAdvises`: a report that says the same as another one but for an advice at some locations.
-/

namespace Scim.Report

variable {a b c d : Report} {reports others : List Report}

/-- Two reports record the same violations and block the same for the same reasons. -/
structure SameViolations (a b : Report) : Prop where
  violations : a.violations = b.violations
  blocks : a.blocks = b.blocks

/-- A report differs from another one by an advice, which comes first at just the locations of some kind. -/
structure AlsoAdvises (a b : Report) (advice : Advice) (At : Location → Prop) : Prop extends SameViolations a b where
  advised {asked : Location} (h : At asked) : a.advice.issuesAt asked = advice :: b.advice.issuesAt asked
  otherwise {asked : Location} (h : ¬ At asked) : a.advice.issuesAt asked = b.advice.issuesAt asked

theorem SameViolations.refl (a : Report) : SameViolations a a := ⟨rfl, rfl⟩

/-- Advice is no violation. -/
theorem sameViolations_addAdvice (report : Report) (advice : Advice) (location : Location) :
    SameViolations (report.addAdvice advice location) report := ⟨rfl, rfl⟩

theorem SameViolations.canProceed_eq (h : SameViolations a b) (location : Location) :
    a.canProceed location = b.canProceed location := by
  rw [canProceed, h.blocks, canProceed]

theorem SameViolations.merge (hab : SameViolations a b) (hcd : SameViolations c d) (start : Location) :
    SameViolations (a.merge c start) (b.merge d start) := by
  simp only [Report.merge, hab.violations, hab.blocks, hcd.violations, hcd.blocks]
  exact ⟨rfl, rfl⟩

theorem SameViolations.mergeEach (hab : SameViolations a b) (heach : List.Forall₂ SameViolations reports others)
    (index : Nat) : SameViolations (a.mergeEach index reports) (b.mergeEach index others) := by
  induction heach generalizing a b index with
  | nil => exact hab
  | cons hfirst _ ih => exact ih (hab.merge hfirst _) _

end Scim.Report
