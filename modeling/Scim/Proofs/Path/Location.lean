import Scim.Proofs.Path
import Scim.Proofs.Report.Soundness
import Scim.Proofs.Text.Qualified
import Scim.Proofs.Text.Sigma

/-!
# Locations of equal paths

Paths are equal when their names have equal lower-case forms, each name taken as a whole.  The segments of their
locations are compared letter by letter.  The two comparisons agree except for the capital sigma, so equal paths
have equal locations exactly if corresponding keys have the same sigmas, a capital one counted as `σ`.

A violation that was recorded at the location of one of two equal paths is therefore found at the location of the
other one, and blocks checking there, unless a name ends in a capital sigma in one of them and in `ς` in the other.

## Main results

* `Path.location_beq_iff`: when equal paths have equal locations.
* `Path.issues_at_equal_path`: what is recorded at the location of a path, asked for at that of an equal one.
* `Path.location_of_capital_sigma`: equal paths whose locations differ.
-/

namespace Scim.Path

open Text

variable {catalog : Catalog} {s t : String} {p q : Path}

/-- The sigmas of each key of a path. -/
def sigmas (path : Path) : List (List Char) := path.keys.map Text.sigmas

theorem location_beq_iff_foldEach :
    (p.location == q.location) = true ↔ p.keys.map foldEach = q.keys.map foldEach := by
  have hkeys : ∀ path : Path, path.location.folded = (path.keys.map foldEach).map Sum.inl := by
    intro path
    rw [location_eq_keys, Location.folded, List.map_map, List.map_map]
    rfl
  rw [Location.beq_iff, hkeys, hkeys, List.map_inj_right fun _ _ => Sum.inl.inj]

/-- Texts that are equal up to case, one by one, are so letter by letter exactly if they have the same sigmas. -/
theorem map_foldEach_eq_iff {names others : List String} (h : names.map lower = others.map lower) :
    names.map foldEach = others.map foldEach ↔ names.map Text.sigmas = others.map Text.sigmas := by
  induction names generalizing others with
  | nil => simp [List.map_eq_nil_iff.1 h.symm]
  | cons name names ih =>
    cases others with
    | nil => cases h
    | cons other others =>
      obtain ⟨hfirst, hrest⟩ := List.cons.inj h
      simp only [List.map_cons, List.cons.injEq, foldEach_eq_iff hfirst, ih hrest]

/-- Equal paths have equal locations exactly if their keys have the same sigmas. -/
theorem location_beq_iff (h : (p == q) = true) (hextension : p.isExtension = q.isExtension) :
    (p.location == q.location) = true ↔ p.sigmas = q.sigmas := by
  rw [location_beq_iff_foldEach, map_foldEach_eq_iff (lower_keys_congr h hextension), sigmas, sigmas]

/-- Equal paths are equally deep. -/
theorem length_location_congr (h : (p == q) = true) (hextension : p.isExtension = q.isExtension) :
    p.location.length = q.location.length := by
  have hlength := congrArg List.length (lower_keys_congr h hextension)
  rw [List.length_map, List.length_map] at hlength
  rw [location_eq_keys, location_eq_keys, List.length_map, List.length_map, hlength]

/-- Of paths that were read with the same catalog and are equal, the locations are equal exactly if the keys have
the same sigmas.  If so, a violation that is recorded at the one location is found at the other and, unless
checking may proceed, blocks it; and if not, nothing changes there. -/
theorem issues_at_equal_path (hp : parse catalog s = .ok p) (hq : parse catalog t = .ok q)
    (h : (p == q) = true) :
    ((p.location == q.location) = true ↔ p.sigmas = q.sigmas) ∧
      ∀ (report : Report) (violation : Violation) (proceed : Bool),
        (report.addViolation violation proceed p.location).violations.issuesAt q.location =
            report.violations.issuesAt q.location ++ (if p.sigmas = q.sigmas then [violation] else []) ∧
          ((report.addViolation violation proceed p.location).canProceed q.location = true ↔
            report.canProceed q.location = true ∧ (proceed = true ∨ p.sigmas ≠ q.sigmas)) := by
  have hextension := isExtension_congr hp hq h
  have hlocation := location_beq_iff h hextension
  refine ⟨hlocation, fun report violation proceed => ⟨?_, ?_⟩⟩
  · simp only [Report.addViolation, Slots.issuesAt_add, hlocation]
  · cases proceed with
    | true =>
      rw [Report.canProceed_addViolation_proceeding]
      simp
    | false =>
      have hbelow := Location.startsWith_eq_beq (length_location_congr h hextension).symm
      rw [Report.canProceed_addViolation_blocking, hbelow, Bool.and_eq_true, Bool.not_eq_true', ← Bool.not_eq_true,
        hlocation]
      simp

/-- The name `aΣb`, and the same name with a capital first letter and a small sigma. -/
theorem issues_at_equal_path_within_word :
    ∃ p q, parse {} "aΣb" = .ok p ∧ parse {} "Aσb" = .ok q ∧ (p == q) = true ∧
      (p.location == q.location) = true ∧
      ((Report.empty.addViolation .missing false p.location).violations.issuesAt q.location).length = 1 ∧
      (Report.empty.addViolation .missing false p.location).canProceed q.location = false := by
  have hp : parse {} "aΣb" = .ok (.unbound ⟨⟨"aΣb", by decide +kernel⟩, none⟩) := by rfl
  have hq : parse {} "Aσb" = .ok (.unbound ⟨⟨"Aσb", by decide +kernel⟩, none⟩) := by rfl
  have hsame : (Path.unbound ⟨⟨"aΣb", by decide +kernel⟩, none⟩ ==
      Path.unbound ⟨⟨"Aσb", by decide +kernel⟩, none⟩) = true := by decide +kernel
  obtain ⟨hlocation, hissues⟩ := issues_at_equal_path hp hq hsame
  obtain ⟨hfound, hproceed⟩ := hissues Report.empty .missing false
  refine ⟨_, _, hp, hq, hsame, hlocation.2 (by decide), ?_, ?_⟩
  · rw [hfound, if_pos (by decide)]
    rfl
  · rw [← Bool.not_eq_true, hproceed]
    rintro ⟨-, hfalse | hdiffers⟩
    · cases hfalse
    · exact hdiffers (by decide)

/-- Equal paths need not have equal locations: at the end of a word a capital sigma becomes `ς`, but not in the
segment of a location. -/
theorem location_of_capital_sigma :
    ¬ ∀ (catalog : Catalog) (s t : String) (p q : Path), parse catalog s = .ok p → parse catalog t = .ok q →
      (p == q) = true → (p.location == q.location) = true := by
  intro hall
  have hp : parse {} "aΣ" = .ok (.unbound ⟨⟨"aΣ", by decide +kernel⟩, none⟩) := by rfl
  have hq : parse {} "aς" = .ok (.unbound ⟨⟨"aς", by decide +kernel⟩, none⟩) := by rfl
  have hsame := hall {} _ _ _ _ hp hq (by decide +kernel)
  revert hsame
  decide +kernel

end Scim.Path
