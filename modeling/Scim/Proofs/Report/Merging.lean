import Scim.Proofs.Report.Equality

/-!
# Merging reports

A check of a part is written down as if the part stood alone, and its report is then merged at the place of the
part.  What that means is told by the answers of the merged report: below the place the answers of the part
are appended to those that were there, elsewhere nothing changes, and checking can proceed where it could in
both.

From the answers follows how merges combine.  Merging a report that was itself merged is merging twice, at the
longer place the second time; and two merges at places of which neither lies below the other do not meet, so
their order does not matter.  Both hold up to the order in which locations are listed, that is up to equality
of reports, and not as identities: the casing and the place of a slot are those of its first use.

## Main results

* `Slots.issuesAt_merge_merge`, `Slots.issuesAt_merge_comm`: how two merges answer together.
* `Report.Agrees.merge_merge`, `Report.Agrees.merge_comm`: the same for reports and the codes that block.
* `Report.Reachable.merge_laws`: the answers of a merged report, and both laws as equality of reports.
-/

namespace Scim

/-! ## Places that do not meet -/

namespace Location

variable {location start inner : Location}

/-- Below a longer place lies what lies below its first part and from there below the rest. -/
theorem startsWith_append (location start inner : Location) :
    location.startsWith (start ++ inner) =
      (location.startsWith start && Location.startsWith (location.drop start.length) inner) := by
  rw [Bool.eq_iff_iff, Bool.and_eq_true]
  exact startsWith_append_iff

theorem drop_append_length (location start inner : Location) :
    location.drop (start ++ inner).length = (location.drop start.length).drop inner.length := by
  rw [List.drop_drop, List.length_append]

/-- Nothing lies below two places of which neither lies below the other. -/
theorem startsWith_eq_false_of_apart (hstart : start.startsWith inner = false)
    (hinner : inner.startsWith start = false) (h : location.startsWith start = true) :
    location.startsWith inner = false := by
  rw [← Bool.not_eq_true]
  intro hboth
  rw [startsWith_iff] at h hboth
  rcases List.prefix_or_prefix_of_prefix h hboth with hbelow | hbelow
  · rw [← startsWith_iff, hinner] at hbelow
    cases hbelow
  · rw [← startsWith_iff, hstart] at hbelow
    cases hbelow

end Location

/-! ## Answers of merged slots -/

namespace Slots

variable {α : Type} {slots other third : Slots α} {start inner : Location}

/-- Merging what was merged below a place is merging twice, the second time at the longer place. -/
theorem issuesAt_merge_merge (slots : Slots α) (hother : DistinctLocations other)
    (hthird : DistinctLocations third) (start inner location : Location) :
    (slots.merge (other.merge third inner) start).issuesAt location =
      ((slots.merge other start).merge third (start ++ inner)).issuesAt location := by
  rw [issuesAt_merge slots (hother.merge third inner), issuesAt_merge other hthird,
    issuesAt_merge _ hthird, issuesAt_merge slots hother, Location.startsWith_append,
    Location.drop_append_length]
  cases location.startsWith start <;> simp

/-- At places that do not meet, the order of two merges does not matter. -/
theorem issuesAt_merge_comm (slots : Slots α) (hother : DistinctLocations other)
    (hthird : DistinctLocations third) (hstart : start.startsWith inner = false)
    (hinner : inner.startsWith start = false) (location : Location) :
    ((slots.merge other start).merge third inner).issuesAt location =
      ((slots.merge third inner).merge other start).issuesAt location := by
  rw [issuesAt_merge _ hthird, issuesAt_merge _ hother, issuesAt_merge _ hother, issuesAt_merge _ hthird]
  cases hbelow : location.startsWith start with
  | false => simp
  | true => simp [Location.startsWith_eq_false_of_apart hstart hinner hbelow]

/-- What holds of every issue stays so when one is recorded of which it holds. -/
theorem forall_issuesAt_add {P : α → Prop} (h : ∀ asked, ∀ issue ∈ slots.issuesAt asked, P issue) {issue : α}
    (hissue : P issue) (location : Location) :
    ∀ asked, ∀ found ∈ (slots.add location [issue]).issuesAt asked, P found := by
  intro asked found hin
  rw [issuesAt_add] at hin
  rcases List.mem_append.1 hin with hold | hnew
  · exact h asked found hold
  · split at hnew
    · rw [List.mem_singleton.1 hnew]
      exact hissue
    · cases hnew

/-- An issue of merged slots is one of those that were there, or one of the other slots. -/
theorem mem_issuesAt_merge (hother : DistinctLocations other) {location : Location} {issue : α}
    (h : issue ∈ (slots.merge other start).issuesAt location) :
    issue ∈ slots.issuesAt location ∨ issue ∈ other.issuesAt (location.drop start.length) := by
  rw [issuesAt_merge slots hother, List.mem_append] at h
  refine h.imp_right fun hmerged => ?_
  split at hmerged
  · exact hmerged
  · cases hmerged

end Slots

namespace Report

/-! ## Blocking codes of a merged report -/

theorem mem_issuesAt_addBlock {blocks : Slots Nat} {start location : Location} {codes : List Nat}
    {code : Nat} :
    code ∈ (addBlock blocks start codes).issuesAt location ↔
      code ∈ blocks.issuesAt location ∨ ((start == location) = true ∧ code ∈ codes) := by
  rw [addBlock, Slots.issuesAt_update]
  cases start == location <;> simp [mem_addCodes, or_comm]

/-- The loop that appends blocks, one location after the other. -/
private theorem mem_issuesAt_appended (added before : Slots Nat) (start location : Location) (code : Nat) :
    code ∈ Slots.issuesAt
        (added.foldl (fun blocks block => addBlock blocks (start ++ block.1) block.2) before) location ↔
      code ∈ before.issuesAt location ∨
        ∃ block ∈ added.moved start, (block.1 == location) = true ∧ code ∈ block.2 := by
  induction added generalizing before with
  | nil => simp [Slots.moved]
  | cons block added ih =>
    rw [List.foldl_cons, ih, mem_issuesAt_addBlock, or_assoc]
    simp only [Slots.moved, List.map_cons, List.mem_cons, or_and_right, exists_or, exists_eq_left]

/-- Below the place of a merge the codes of both reports block. -/
theorem mem_issuesAt_blocks_merge {report other : Report} (hother : Sound other)
    {start location : Location} {code : Nat} :
    code ∈ (report.merge other start).blocks.issuesAt location ↔
      code ∈ report.blocks.issuesAt location ∨
        (location.startsWith start = true ∧
          code ∈ other.blocks.issuesAt (location.drop start.length)) := by
  rw [merge, mem_issuesAt_appended, ← Slots.mem_issuesAt_iff (hother.blocks.moved start),
    Slots.issuesAt_moved]
  cases location.startsWith start <;> simp

/-! ## Two merges -/

variable {a b c : Report}

/-- Merging what was merged below a place is merging twice, the second time at the longer place. -/
theorem Agrees.merge_merge (hb : Sound b) (hc : Sound c) (start inner : Location) :
    Agrees (a.merge (b.merge c inner) start) ((a.merge b start).merge c (start ++ inner)) where
  violations := Slots.issuesAt_merge_merge _ hb.violations hc.violations start inner
  advice := Slots.issuesAt_merge_merge _ hb.advice hc.advice start inner
  codes location code := by
    rw [mem_issuesAt_blocks_merge (hb.merge hc inner), mem_issuesAt_blocks_merge hc,
      mem_issuesAt_blocks_merge hc, mem_issuesAt_blocks_merge hb, Location.startsWith_append,
      Location.drop_append_length, Bool.and_eq_true]
    tauto

/-- At places that do not meet, the order of two merges does not matter. -/
theorem Agrees.merge_comm (hb : Sound b) (hc : Sound c) {start other : Location}
    (hstart : start.startsWith other = false) (hother : other.startsWith start = false) :
    Agrees ((a.merge b start).merge c other) ((a.merge c other).merge b start) where
  violations := Slots.issuesAt_merge_comm _ hb.violations hc.violations hstart hother
  advice := Slots.issuesAt_merge_comm _ hb.advice hc.advice hstart hother
  codes location code := by
    rw [mem_issuesAt_blocks_merge hc, mem_issuesAt_blocks_merge hb, mem_issuesAt_blocks_merge hb,
      mem_issuesAt_blocks_merge hc, or_right_comm]

/-! ## Contexts that repeat no key -/

theorem UniqueKeys.empty : empty.UniqueKeys where
  violations _ _ hin := by cases hin
  advice _ _ hin := by cases hin

theorem UniqueKeys.addViolation (h : a.UniqueKeys) {violation : Violation}
    (hviolation : violation.UniqueKeys) (proceed : Bool) (location : Location) :
    (a.addViolation violation proceed location).UniqueKeys where
  violations := Slots.forall_issuesAt_add h.violations hviolation location
  advice := h.advice

theorem UniqueKeys.addAdvice (h : a.UniqueKeys) {advice : Advice} (hadvice : advice.UniqueKeys)
    (location : Location) : (a.addAdvice advice location).UniqueKeys where
  violations := h.violations
  advice := Slots.forall_issuesAt_add h.advice hadvice location

theorem UniqueKeys.merge (ha : a.UniqueKeys) (hb : b.UniqueKeys) (hsound : Sound b) (start : Location) :
    (a.merge b start).UniqueKeys where
  violations location violation hin :=
    (Slots.mem_issuesAt_merge hsound.violations hin).elim (ha.violations location violation)
      (hb.violations _ violation)
  advice location advice hin :=
    (Slots.mem_issuesAt_merge hsound.advice hin).elim (ha.advice location advice) (hb.advice _ advice)

/-! ## Answers of a merged report -/

/-- Checking can proceed where it could, unless the location spells one below the place of the merge at which
the other report is blocked. -/
theorem canProceed_merge_iff {start location : Location} :
    (a.merge b start).canProceed location = true ↔
      a.canProceed location = true ∧
        ∀ rest, (location == start ++ rest) = true → b.canProceed rest = true := by
  rw [canProceed_merge, Bool.and_eq_true, Bool.or_eq_true, Bool.not_eq_true']
  refine and_congr_right fun _ => ⟨?_, ?_⟩
  · rintro h rest hloc
    rw [Location.beq_comm, Location.append_beq_iff] at hloc
    rcases h with hapart | hproceed
    · rw [hapart] at hloc
      cases hloc.1
    · rw [canProceed_iff] at hproceed ⊢
      intro block hblock
      rw [← hproceed block hblock, Bool.eq_iff_iff, Location.startsWith_iff, Location.startsWith_iff,
        Location.beq_iff.1 hloc.2]
  · intro h
    cases hbelow : location.startsWith start with
    | false => exact .inl rfl
    | true =>
      have hloc := Location.append_drop_beq hbelow
      rw [Location.beq_comm] at hloc
      exact .inr (h _ hloc)

/-- In reports that can be reached: below the place of a merge the issues of the other report follow those
that were there, elsewhere the issues stay, and checking can proceed where both reports say so.  So merging
what was merged is merging twice, and merges at places that do not meet commute, both up to equality of
reports, as long as no object in the context of an issue repeats a key. -/
theorem Reachable.merge_laws (ha : Reachable a) (hb : Reachable b) (hc : Reachable c)
    (start : Location) :
    (∀ rest : Location,
      (a.merge b start).violations.issuesAt (start ++ rest) =
          a.violations.issuesAt (start ++ rest) ++ b.violations.issuesAt rest ∧
        (a.merge b start).advice.issuesAt (start ++ rest) =
          a.advice.issuesAt (start ++ rest) ++ b.advice.issuesAt rest) ∧
      (∀ location : Location, location.startsWith start = false →
        (a.merge b start).violations.issuesAt location = a.violations.issuesAt location ∧
          (a.merge b start).advice.issuesAt location = a.advice.issuesAt location) ∧
      (∀ location : Location, (a.merge b start).canProceed location = true ↔
        a.canProceed location = true ∧
          ∀ rest, (location == start ++ rest) = true → b.canProceed rest = true) ∧
      (a.UniqueKeys → b.UniqueKeys → c.UniqueKeys →
        (∀ inner : Location,
          (a.merge (b.merge c inner) start).same ((a.merge b start).merge c (start ++ inner)) = true) ∧
          ∀ other : Location, start.startsWith other = false → other.startsWith start = false →
            ((a.merge b start).merge c other).same ((a.merge c other).merge b start) = true) := by
  have hsa := ha.sound
  have hsb := hb.sound
  have hsc := hc.sound
  refine ⟨fun rest => ?_, fun location hapart => ?_, fun _ => canProceed_merge_iff, ?_⟩
  · have hbelow := Location.append_startsWith start rest
    have hrest : List.drop start.length (start ++ rest) = rest := List.drop_left' rfl
    have hviolations := Slots.issuesAt_merge a.violations hsb.violations start (start ++ rest)
    have hadvice := Slots.issuesAt_merge a.advice hsb.advice start (start ++ rest)
    rw [if_pos hbelow, hrest] at hviolations hadvice
    exact ⟨hviolations, hadvice⟩
  · have hviolations := Slots.issuesAt_merge a.violations hsb.violations start location
    have hadvice := Slots.issuesAt_merge a.advice hsb.advice start location
    rw [hapart] at hviolations hadvice
    simp only [Bool.false_eq_true, if_false, List.append_nil] at hviolations hadvice
    exact ⟨hviolations, hadvice⟩
  · intro hka hkb hkc
    constructor
    · intro inner
      exact (Agrees.merge_merge hsb hsc start inner).same (hsa.merge (hsb.merge hsc inner) start)
        ((hsa.merge hsb start).merge hsc (start ++ inner))
        (hka.merge (hkb.merge hkc hsc inner) (hsb.merge hsc inner) start)
    · intro other hstart hother
      exact (Agrees.merge_comm hsb hsc hstart hother).same ((hsa.merge hsb start).merge hsc other)
        ((hsa.merge hsc other).merge hsb start) ((hka.merge hkb hsb start).merge hkc hsc other)

/-- Three reports, of which two are merged at and below one place in different casings. -/
theorem merge_laws_of_emails :
    let a := empty.addViolation .missing true [.key "EMAILS", .index 0]
    let b := (empty.addViolation (.wrongType "string") false [.index 0]).addViolation .missing true []
    let c := empty.addViolation (.mustBeOneOf [.text "work", .object [("a", .null)]]) false [.key "type"]
    let emails : Location := [.key "emails"]
    (a.UniqueKeys ∧ b.UniqueKeys ∧ c.UniqueKeys) ∧
      ((a.merge b emails).violations.issuesAt (emails ++ [.index 0])).map Violation.code = [5, 2] ∧
      ((a.merge b emails).violations.issuesAt [.key "name"]).length = 0 ∧
      ((a.merge b emails).canProceed [.key "Emails", .index 0, .key "type"] = true ↔
        a.canProceed [.key "Emails", .index 0, .key "type"] = true ∧
          ∀ rest, ([.key "Emails", .index 0, .key "type"] == emails ++ rest) = true →
            b.canProceed rest = true) ∧
      (a.merge (b.merge c [.index 0]) emails).same ((a.merge b emails).merge c (emails ++ [.index 0])) =
        true ∧
      ((a.merge b emails).merge c [.key "name"]).same ((a.merge c [.key "name"]).merge b emails) = true := by
  intro a b c emails
  have ha : Reachable a := .addViolation .empty _ _ _
  have hb : Reachable b := .addViolation (.addViolation .empty _ _ _) _ _ _
  have hc : Reachable c := .addViolation .empty _ _ _
  have hmissing : Violation.missing.UniqueKeys := ⟨by decide, trivial⟩
  have htype : (Violation.wrongType "string").UniqueKeys := ⟨by decide, trivial, trivial⟩
  have hchoice : (Violation.mustBeOneOf [.text "work", .object [("a", .null)]]).UniqueKeys :=
    ⟨by decide, ⟨trivial, ⟨by decide, trivial, trivial⟩, trivial⟩, trivial⟩
  have hka : a.UniqueKeys := UniqueKeys.empty.addViolation hmissing _ _
  have hkb : b.UniqueKeys := (UniqueKeys.empty.addViolation htype _ _).addViolation hmissing _ _
  have hkc : c.UniqueKeys := UniqueKeys.empty.addViolation hchoice _ _
  obtain ⟨hbelow, hapart, hproceed, hsame⟩ := Reachable.merge_laws ha hb hc emails
  obtain ⟨hnested, hcommute⟩ := hsame hka hkb hkc
  refine ⟨⟨hka, hkb, hkc⟩, ?_, ?_, hproceed _, hnested [.index 0], hcommute [.key "name"] ?_ ?_⟩
  · rw [(hbelow [.index 0]).1]
    decide
  · rw [(hapart [.key "name"] (by decide)).1]
    decide
  · decide
  · decide

end Report

end Scim
