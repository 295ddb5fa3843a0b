import Scim.Proofs.Report.Selection

/-!
# Issues that were never recorded

A report that can be reached came about by some history of operations.  Written down as data, a history can be
changed: `History.without` leaves out the recording of every violation that ended up at a certain location with
one of certain codes, wherever on the way there it was recorded, and keeps all other operations.

That gives a measure for popping.  What a pop leaves has to be what there would have been if the popped
violations had never been recorded, down to the codes that block, and putting the popped violations back has to
restore the report up to their place in the order.  Popping and selecting part the issues of a report: each is
on one side, in its old order.

## Main results

* `reachable_iff_history`: the reports that can be reached are those that a history leads to.
* `History.agrees_without`: a pop leaves what a history without the popped violations leads to.
* `Agrees.select_merge`: selecting from a merged report is merging into the selection.
* `Reachable.parting_laws`: the laws of popping and selecting together.
-/

namespace Scim

namespace Location

variable {location other start : Location}

/-- Of locations below one place the rests of the ways are compared like the whole ways. -/
theorem drop_beq_drop (h : location.startsWith start = true) (hother : other.startsWith start = true) :
    (location.drop start.length == other.drop start.length) = (location == other) := by
  rw [← append_beq_append start, beq_congr_left (append_drop_beq h), beq_comm,
    beq_congr_left (append_drop_beq hother), beq_comm]

/-- A location lies below a place in whatever casing it is written. -/
theorem startsWith_congr_left (h : (location == other) = true) :
    location.startsWith start = other.startsWith start := by
  rw [Bool.eq_iff_iff, startsWith_iff, startsWith_iff, beq_iff.1 h]

/-- A location below a place is not one that lies elsewhere. -/
theorem beq_eq_false_of_apart (h : location.startsWith start = false) (hother : other.startsWith start = true) :
    (location == other) = false := by
  rw [← Bool.not_eq_true]
  intro hloc
  rw [startsWith_congr_left hloc, hother] at h
  cases h

end Location

/-- Slots may be merged at a place before or after they are looked at from there. -/
theorem Slots.issuesAt_under_merge {α : Type} {slots other : Slots α} (hd : DistinctLocations slots)
    (hother : DistinctLocations other) (start : Location) {keep : α → Bool} (hkeep : ∀ issue, keep issue = true)
    (asked : Location) :
    ((slots.merge other start).under start keep).issuesAt asked =
      ((slots.under start keep).merge other []).issuesAt asked := by
  have hbelow := Location.append_startsWith start asked
  have hrest : List.drop start.length (start ++ asked) = asked := List.drop_left' rfl
  rw [issuesAt_under (hd.merge other start), issuesAt_merge slots hother, issuesAt_merge _ hother,
    issuesAt_under hd, if_pos hbelow, hrest]
  simp [hkeep]

/-! ## Slots with one location filtered -/

namespace Slots

variable {α : Type} {slots after other otherAfter : Slots α} {keep : α → Bool} {location place start : Location}

/-- Slots hold what others hold, but at one location only the issues that pass. -/
def Filtered (keep : α → Bool) (location : Location) (slots after : Slots α) : Prop :=
  ∀ asked, after.issuesAt asked =
    if location == asked then (slots.issuesAt asked).filter keep else slots.issuesAt asked

/-- An issue that does not pass at the location is left out. -/
theorem Filtered.add_left_out (h : slots.Filtered keep location after) (hplace : (place == location) = true)
    {issue : α} (hout : keep issue = false) : (slots.add place [issue]).Filtered keep location after := by
  intro asked
  rw [h, issuesAt_add, Location.beq_congr_left hplace]
  split
  · rw [List.filter_append, List.filter_cons_of_neg (by simp [hout]), List.filter_nil, List.append_nil]
  · rw [List.append_nil]

/-- Any other issue is added. -/
theorem Filtered.add (h : slots.Filtered keep location after) {issue : α}
    (hin : (place == location) = true → keep issue = true) :
    (slots.add place [issue]).Filtered keep location (after.add place [issue]) := by
  intro asked
  rw [issuesAt_add, issuesAt_add, h]
  split
  · next hloc =>
    rw [List.filter_append]
    split
    · next hplace =>
      rw [Location.beq_comm, Location.beq_congr_left hloc, Location.beq_comm] at hin
      rw [List.filter_cons_of_pos (hin hplace), List.filter_nil]
    · rfl
  · rfl

/-- What is merged at a place is filtered if the location lies below the place. -/
theorem Filtered.merge (h : slots.Filtered keep location after) (hd : DistinctLocations other)
    (hdAfter : DistinctLocations otherAfter)
    (hbelow : location.startsWith start = true → other.Filtered keep (location.drop start.length) otherAfter)
    (hapart : location.startsWith start = false → otherAfter = other) :
    (slots.merge other start).Filtered keep location (after.merge otherAfter start) := by
  intro asked
  rw [issuesAt_merge _ hdAfter, issuesAt_merge _ hd, h]
  cases hasked : asked.startsWith start with
  | false => split <;> simp
  | true =>
    cases hplace : location.startsWith start with
    | false => simp [Location.beq_eq_false_of_apart hplace hasked, hapart hplace]
    | true =>
      simp only [if_true]
      rw [hbelow hplace, Location.drop_beq_drop hplace hasked]
      split <;> simp

/-- Filters may be applied in any order. -/
theorem Filtered.under (h : slots.Filtered keep (start ++ location) after) (hd : DistinctLocations slots)
    (hdAfter : DistinctLocations after) (pass : α → Bool) :
    (slots.under start pass).Filtered keep location (after.under start pass) := by
  intro asked
  rw [issuesAt_under hdAfter, issuesAt_under hd, h, Location.append_beq_append]
  split
  · rw [List.filter_filter, List.filter_filter]
    simp only [Bool.and_comm]
  · rfl

end Slots

namespace Report

/-! ## Histories -/

/-- The operations that a report came about by. -/
inductive History where
  | empty
  | addViolation (before : History) (violation : Violation) (proceed : Bool) (location : Location)
  | addAdvice (before : History) (advice : Advice) (location : Location)
  | merge (before other : History) (start : Location)
  | select (before : History) (violationCodes adviceCodes : Option (List Nat)) (start : Location)
  /-- What a pop gave. -/
  | popped (before : History) (codes : List Nat) (location : Location)
  /-- What a pop left. -/
  | left (before : History) (codes : List Nat) (location : Location)

namespace History

/-- The report that a history leads to. -/
def report : History → Report
  | .empty => Report.empty
  | .addViolation before violation proceed location => before.report.addViolation violation proceed location
  | .addAdvice before advice location => before.report.addAdvice advice location
  | .merge before other start => before.report.merge other.report start
  | .select before violationCodes adviceCodes start => before.report.select violationCodes adviceCodes start
  | .popped before codes location => (before.report.pop codes location).1
  | .left before codes location => (before.report.pop codes location).2

/-- The history in which no violation was recorded that is now at a location and has one of some codes.  What is
now at the location was at another one before it was merged, selected or popped. -/
def without (codes : List Nat) : History → Location → History
  | .empty, _ => .empty
  | .addViolation before violation proceed location, asked =>
    if location == asked && codes.contains violation.code then before.without codes asked
    else .addViolation (before.without codes asked) violation proceed location
  | .addAdvice before advice location, asked => .addAdvice (before.without codes asked) advice location
  | .merge before other start, asked =>
    .merge (before.without codes asked)
      (if asked.startsWith start then other.without codes (asked.drop start.length) else other) start
  | .select before violationCodes adviceCodes start, asked =>
    .select (before.without codes (start ++ asked)) violationCodes adviceCodes start
  | .popped before taken location, asked =>
    .popped (if asked.isEmpty then before.without codes location else before) taken location
  | .left before taken location, asked => .left (before.without codes asked) taken location

theorem reachable (history : History) : Reachable history.report := by
  induction history with
  | empty => exact .empty
  | addViolation _ violation proceed location ih => exact ih.addViolation violation proceed location
  | addAdvice _ advice location ih => exact ih.addAdvice advice location
  | merge _ _ start ih ihother => exact ih.merge ihother start
  | select _ violationCodes adviceCodes start ih => exact ih.select violationCodes adviceCodes start
  | popped _ codes location ih => exact ih.popped codes location
  | left _ codes location ih => exact ih.left codes location

theorem sound (history : History) : Sound history.report := history.reachable.sound

end History

/-- The reports that can be reached are those that a history leads to. -/
theorem reachable_iff_history {report : Report} : Reachable report ↔ ∃ history : History, history.report = report := by
  refine ⟨fun h => ?_, fun ⟨history, hreport⟩ => hreport ▸ history.reachable⟩
  induction h with
  | empty => exact ⟨.empty, rfl⟩
  | addViolation _ violation proceed location ih =>
    obtain ⟨before, rfl⟩ := ih
    exact ⟨.addViolation before violation proceed location, rfl⟩
  | addAdvice _ advice location ih =>
    obtain ⟨before, rfl⟩ := ih
    exact ⟨.addAdvice before advice location, rfl⟩
  | merge _ _ start ih ihother =>
    obtain ⟨before, rfl⟩ := ih
    obtain ⟨other, rfl⟩ := ihother
    exact ⟨.merge before other start, rfl⟩
  | select _ violationCodes adviceCodes start ih =>
    obtain ⟨before, rfl⟩ := ih
    exact ⟨.select before violationCodes adviceCodes start, rfl⟩
  | popped _ codes location ih =>
    obtain ⟨before, rfl⟩ := ih
    exact ⟨.popped before codes location, rfl⟩
  | left _ codes location ih =>
    obtain ⟨before, rfl⟩ := ih
    exact ⟨.left before codes location, rfl⟩

namespace History

/-! ## Leaving recordings out -/

/-- Of the violations those are gone that are left out. -/
theorem filtered_without (history : History) (codes : List Nat) (location : Location) :
    history.report.violations.Filtered (fun v => !codes.contains v.code) location
      (history.without codes location).report.violations := by
  induction history generalizing location with
  | empty => intro asked; simp [without, report, Report.empty]
  | addViolation before violation proceed place ih =>
    rw [without]
    split
    · next hout =>
      obtain ⟨hplace, hcode⟩ := Bool.and_eq_true_iff.1 hout
      exact (ih location).add_left_out hplace (by simpa using hcode)
    · next hin => exact (ih location).add fun hplace => by simpa [hplace] using hin
  | addAdvice before advice place ih => exact ih location
  | merge before other start ih ihother =>
    refine (ih location).merge other.sound.violations (History.sound _).violations (fun hbelow => ?_) fun hapart => ?_
    · rw [if_pos hbelow]
      exact ihother _
    · rw [hapart]
      rfl
  | select before violationCodes adviceCodes start ih =>
    exact (ih _).under before.sound.violations (History.sound _).violations _
  | popped before taken place ih =>
    intro asked
    have hpopped : (History.popped before taken place).report.violations.issuesAt asked = _ :=
      issuesAt_popped _ _ _ _
    rw [hpopped]
    refine (issuesAt_popped _ _ _ _).trans ?_
    cases location with
    | nil =>
      simp only [List.isEmpty_nil, if_true]
      rw [ih place place, if_pos (Location.beq_iff.2 rfl)]
      split
      · rw [List.filter_filter, List.filter_filter]
        simp only [Bool.and_comm]
      · rfl
    | cons step rest =>
      -- everything that was popped is at the root
      cases asked with
      | nil => rfl
      | cons first more => simp
  | left before taken place ih =>
    intro asked
    have hleft : (History.left before taken place).report.violations.issuesAt asked = _ :=
      issuesAt_left _ _ _ _
    rw [hleft]
    refine (issuesAt_left _ _ _ _).trans ?_
    rw [ih location asked]
    split <;> split <;> simp [List.filter_filter, Bool.and_comm]

/-- No advice is gone. -/
theorem issuesAt_advice_without (history : History) (codes : List Nat) (location asked : Location) :
    (history.without codes location).report.advice.issuesAt asked = history.report.advice.issuesAt asked := by
  induction history generalizing location asked with
  | empty => rfl
  | addViolation before violation proceed place ih =>
    rw [without]
    split
    · exact ih location asked
    · exact ih location asked
  | addAdvice before advice place ih =>
    refine (Slots.issuesAt_add _ _ _ _).trans (Eq.trans ?_ (Slots.issuesAt_add _ _ _ _).symm)
    rw [ih]
  | merge before other start ih ihother =>
    refine (Slots.issuesAt_merge _ (History.sound _).advice start asked).trans
      (Eq.trans ?_ (Slots.issuesAt_merge _ other.sound.advice start asked).symm)
    rw [ih]
    split
    · split
      · rw [ihother]
      · rfl
    · rfl
  | select before violationCodes adviceCodes start ih =>
    refine (Slots.issuesAt_under (History.sound _).advice start _ asked).trans
      (Eq.trans ?_ (Slots.issuesAt_under before.sound.advice start _ asked).symm)
    rw [ih]
  | popped before taken place ih =>
    have hnone : (History.popped before taken place).report.advice = [] := advice_popped _ _ _
    have hnone' : ((History.popped before taken place).without codes location).report.advice = [] :=
      advice_popped _ _ _
    rw [hnone, hnone']
  | left before taken place ih =>
    have hkept : (History.left before taken place).report.advice = before.report.advice := advice_left _ _ _
    have hkept' : ((History.left before taken place).without codes location).report.advice =
        (before.without codes location).report.advice := advice_left _ _ _
    rw [hkept, hkept', ih]

/-- Of the codes that block, those are gone that are left out, and no other. -/
theorem mem_issuesAt_blocks_without {history : History} {codes : List Nat} {location asked : Location} {code : Nat} :
    code ∈ (history.without codes location).report.blocks.issuesAt asked ↔
      code ∈ history.report.blocks.issuesAt asked ∧ ¬ ((location == asked) = true ∧ code ∈ codes) := by
  induction history generalizing location asked with
  | empty => simp [without, report, Report.empty]
  | addViolation before violation proceed place ih =>
    have hrecorded : code ∈ (History.addViolation before violation proceed place).report.blocks.issuesAt asked ↔ _ :=
      mem_issuesAt_blocks_addViolation
    rw [hrecorded, without]
    split
    · next hout =>
      obtain ⟨hplace, hcode⟩ := Bool.and_eq_true_iff.1 hout
      rw [List.contains_iff_mem] at hcode
      rw [ih, Location.beq_congr_left hplace]
      grind
    · next hin =>
      have hstays : ¬ ((location == asked) = true ∧ violation.code ∈ codes) ∨ (place == asked) = false := by
        by_cases hloc : (location == asked) = true
        · rw [Location.beq_comm, Location.beq_congr_left hloc, Location.beq_comm] at hin
          simp only [Bool.and_eq_true, List.contains_iff_mem, not_and] at hin
          grind
        · exact .inl fun h => hloc h.1
      refine mem_issuesAt_blocks_addViolation.trans ?_
      rw [ih]
      grind
  | addAdvice before advice place ih => exact ih
  | merge before other start ih ihother =>
    have hmerged : code ∈ (History.merge before other start).report.blocks.issuesAt asked ↔ _ :=
      mem_issuesAt_blocks_merge other.sound
    rw [hmerged]
    refine (mem_issuesAt_blocks_merge (History.sound _)).trans ?_
    rw [ih]
    cases hbelow : asked.startsWith start with
    | false => simp
    | true =>
      cases hplace : location.startsWith start with
      | false => simp [Location.beq_eq_false_of_apart hplace hbelow]
      | true =>
        simp only [if_true]
        rw [ihother, Location.drop_beq_drop hplace hbelow]
        tauto
  | select before violationCodes adviceCodes start ih =>
    have hselected : code ∈ (History.select before violationCodes adviceCodes start).report.blocks.issuesAt asked ↔ _ :=
      mem_issuesAt_blocks_select before.sound
    rw [hselected]
    refine (mem_issuesAt_blocks_select (History.sound _)).trans ?_
    rw [ih, Location.append_beq_append]
    tauto
  | popped before taken place ih =>
    have hpopped : code ∈ (History.popped before taken place).report.blocks.issuesAt asked ↔ _ :=
      mem_issuesAt_blocks_popped before.sound
    rw [hpopped]
    refine (mem_issuesAt_blocks_popped (History.sound _)).trans ?_
    cases location with
    | nil =>
      simp only [List.isEmpty_nil, if_true]
      rw [ih]
      have hplace : (place == place) = true := Location.beq_iff.2 rfl
      tauto
    | cons step rest =>
      cases asked with
      | nil => simp
      | cons first more => simp
  | left before taken place ih =>
    have hleft : code ∈ (History.left before taken place).report.blocks.issuesAt asked ↔ _ :=
      mem_issuesAt_blocks_left before.sound
    rw [hleft]
    refine (mem_issuesAt_blocks_left (History.sound _)).trans ?_
    rw [ih]
    tauto

/-- What a pop leaves answers like the report of the history without the popped violations. -/
theorem agrees_without (history : History) (codes : List Nat) (location : Location) :
    Agrees (history.report.pop codes location).2 (history.without codes location).report where
  violations asked := by rw [issuesAt_left, history.filtered_without codes location asked]
  advice asked := by rw [advice_left, issuesAt_advice_without]
  codes asked code := by rw [mem_issuesAt_blocks_left history.sound, mem_issuesAt_blocks_without]

end History

/-! ## Putting back -/

variable {report other : Report}

/-- What was popped blocks again the codes that it took along. -/
theorem mem_issuesAt_blocks_putBack (h : Sound report) {codes : List Nat} {location asked : Location} {code : Nat} :
    code ∈ ((report.pop codes location).2.merge (report.pop codes location).1 location).blocks.issuesAt asked ↔
      code ∈ report.blocks.issuesAt asked := by
  have hhere : asked.startsWith location = true ∧ (([] : Location) == asked.drop location.length) = true ↔
      (location == asked) = true := by
    rw [← Location.append_beq_iff, List.append_nil]
  rw [mem_issuesAt_blocks_merge (.popped report codes location), mem_issuesAt_blocks_left h,
    mem_issuesAt_blocks_popped h, ← and_assoc, hhere]
  constructor
  · rintro (⟨hkept, -⟩ | ⟨hloc, -, htaken⟩)
    · exact hkept
    · rwa [← Slots.issuesAt_congr hloc]
  · intro hcode
    by_cases htaken : (location == asked) = true ∧ code ∈ codes
    · exact .inr ⟨htaken.1, htaken.2, by rwa [Slots.issuesAt_congr htaken.1]⟩
    · exact .inl ⟨hcode, htaken⟩

/-- The violations of a location are the kept and the popped ones, if their order is not looked at. -/
theorem perm_putBack (report : Report) (codes : List Nat) (location : Location) :
    (((report.pop codes location).2.merge (report.pop codes location).1 location).violations.issuesAt
      location).Perm (report.violations.issuesAt location) := by
  have hhere : location.startsWith location = true := by
    simpa using Location.append_startsWith location []
  have hself : (location == location) = true := Location.beq_iff.2 rfl
  refine .trans (.of_eq (Slots.issuesAt_merge _ (Sound.popped report codes location).violations _ _)) ?_
  rw [issuesAt_left, issuesAt_popped, if_pos hself, if_pos hhere, List.drop_length, if_pos (by rfl)]
  refine List.perm_append_comm.trans (List.filter_append_perm _ _)

/-! ## Selecting from a merged report -/

theorem UniqueKeys.select (h : report.UniqueKeys) (hsound : Sound report)
    (violationCodes adviceCodes : Option (List Nat)) (start : Location) :
    (report.select violationCodes adviceCodes start).UniqueKeys where
  violations asked violation hin :=
    h.violations _ violation
      (List.mem_filter.1 (Slots.issuesAt_under hsound.violations start _ asked ▸ hin)).1
  advice asked advice hin :=
    h.advice _ advice (List.mem_filter.1 (Slots.issuesAt_under hsound.advice start _ asked ▸ hin)).1

/-- At the place of a merge a selection without filters holds what it held before, and the other report. -/
theorem Agrees.select_merge (h : Sound report) (hother : Sound other) (start : Location) :
    Agrees ((report.merge other start).select none none start)
      ((report.select none none start).merge other []) where
  violations := Slots.issuesAt_under_merge h.violations hother.violations start fun _ => rfl
  advice := Slots.issuesAt_under_merge h.advice hother.advice start fun _ => rfl
  codes asked code := by
    have hbelow := Location.append_startsWith start asked
    have hrest : List.drop start.length (start ++ asked) = asked := List.drop_left' rfl
    rw [mem_issuesAt_blocks_select (h.merge hother start), mem_issuesAt_blocks_merge hother,
      mem_issuesAt_blocks_merge hother, mem_issuesAt_blocks_select h, hbelow, hrest]
    simp [passes]

/-! ## All laws together -/

/-- In reports that can be reached: a pop takes the violations of some codes away from a location, in order, and
leaves the others there, in order, and all other issues; what it leaves is what there would be if the popped
violations had never been recorded, whatever history led to the report, so checking can proceed where it could
then; and merging back what it gave restores where checking can proceed, and the violations of the location up to
their order.  A selection holds the issues below a place that pass, and one without filters may be taken before
or after a merge at the place. -/
theorem Reachable.parting_laws (h : Reachable report) (hother : Reachable other) (codes : List Nat)
    (location : Location) :
    let taken := (report.pop codes location).1
    let kept := (report.pop codes location).2
    (taken.violations.issuesAt [] =
          (report.violations.issuesAt location).filter (fun v => codes.contains v.code) ∧
        (∀ asked : Location, asked ≠ [] → taken.violations.issuesAt asked = []) ∧
        ∀ asked, taken.advice.issuesAt asked = []) ∧
      (kept.violations.issuesAt location =
          (report.violations.issuesAt location).filter (fun v => !codes.contains v.code) ∧
        (∀ asked, (location == asked) = false →
          kept.violations.issuesAt asked = report.violations.issuesAt asked) ∧
        ∀ asked, kept.advice.issuesAt asked = report.advice.issuesAt asked) ∧
      ((∃ history : History, history.report = report) ∧
        ∀ history : History, history.report = report →
          Agrees kept (history.without codes location).report ∧
            ∀ asked, kept.canProceed asked = (history.without codes location).report.canProceed asked) ∧
      ((∀ asked, (kept.merge taken location).canProceed asked = report.canProceed asked) ∧
        ((kept.merge taken location).violations.issuesAt location).Perm (report.violations.issuesAt location)) ∧
      (∀ (violationCodes adviceCodes : Option (List Nat)) (start asked : Location),
        (report.select violationCodes adviceCodes start).violations.issuesAt asked =
            (report.violations.issuesAt (start ++ asked)).filter (fun v => passes violationCodes v.code) ∧
          (report.select violationCodes adviceCodes start).advice.issuesAt asked =
            (report.advice.issuesAt (start ++ asked)).filter fun a => passes adviceCodes a.code) ∧
      ∀ start : Location,
        Agrees ((report.merge other start).select none none start)
            ((report.select none none start).merge other []) ∧
          (report.UniqueKeys → other.UniqueKeys →
            ((report.merge other start).select none none start).same
              ((report.select none none start).merge other []) = true) := by
  intro taken kept
  have hs := h.sound
  have hso := hother.sound
  have hkept : Sound kept := hs.left codes location
  have htaken : Sound taken := .popped report codes location
  refine ⟨⟨?_, fun asked hasked => ?_, fun asked => ?_⟩, ⟨?_, fun asked hloc => ?_, fun asked => ?_⟩,
    ⟨reachable_iff_history.1 h, ?_⟩, ⟨fun asked => ?_, perm_putBack report codes location⟩,
    fun violationCodes adviceCodes start asked => ⟨?_, ?_⟩, fun start => ⟨.select_merge hs hso start, ?_⟩⟩
  · exact (issuesAt_popped report codes location []).trans (if_pos rfl)
  · refine (issuesAt_popped report codes location asked).trans (if_neg ?_)
    cases asked with
    | nil => exact absurd rfl hasked
    | cons step rest => simp
  · rw [advice_popped]
    rfl
  · exact (issuesAt_left report codes location location).trans (if_pos (Location.beq_iff.2 rfl))
  · exact (issuesAt_left report codes location asked).trans (if_neg (by simp [hloc]))
  · rw [advice_left]
  · rintro history rfl
    have hagrees := history.agrees_without codes location
    exact ⟨hagrees, hkept.canProceed_congr (History.sound _) hagrees.codes⟩
  · exact (hkept.merge htaken location).canProceed_congr hs (fun _ _ => mem_issuesAt_blocks_putBack hs) asked
  · exact Slots.issuesAt_under hs.violations start _ asked
  · exact Slots.issuesAt_under hs.advice start _ asked
  · intro hkeys hkeysOther
    exact (Agrees.select_merge hs hso start).same ((hs.merge hso start).select none none start)
      ((hs.select none none start).merge hso [])
      ((hkeys.merge hkeysOther hso start).select (hs.merge hso start) none none start)

/-- Two violations of one code, of which only the first blocks, and one of another code, merged below an element
of a list and popped by the code that they share. -/
theorem parting_laws_of_emails :
    let found : History := .addViolation (.addViolation (.addViolation .empty .missing false [.key "value"])
      .missing true [.key "VALUE"]) .badContent false [.key "type"]
    let history : History := .merge .empty found [.key "Emails", .index 0]
    let place : Location := [.key "emails", .index 0, .key "Value"]
    let taken := (history.report.pop [Violation.missing.code] place).1
    let kept := (history.report.pop [Violation.missing.code] place).2
    Reachable history.report ∧ Reachable found.report ∧
      (taken.violations.issuesAt []).map Violation.code = [5, 5] ∧
      history.report.canProceed place = false ∧ kept.canProceed place = true ∧
      (∀ asked, kept.canProceed asked =
        (history.without [Violation.missing.code] place).report.canProceed asked) ∧
      (∀ asked, (kept.merge taken place).canProceed asked = history.report.canProceed asked) ∧
      ((history.report.select (some [4]) none [.key "EMAILS"]).violations.issuesAt [.index 0, .key "type"]).map
        Violation.code = [4] ∧
      ((history.report.merge found.report [.key "emails"]).select none none [.key "emails"]).same
        ((history.report.select none none [.key "emails"]).merge found.report []) = true := by
  intro found history place taken kept
  obtain ⟨⟨htaken, -, -⟩, -, ⟨-, hwithout⟩, ⟨hback, -⟩, hselect, hmerged⟩ :=
    Reachable.parting_laws history.reachable found.reachable [Violation.missing.code] place
  have hmissing : Violation.missing.UniqueKeys := ⟨by decide, trivial⟩
  have hcontent : Violation.badContent.UniqueKeys := ⟨by decide, trivial⟩
  have hfound : found.report.UniqueKeys :=
    ((UniqueKeys.empty.addViolation hmissing _ _).addViolation hmissing _ _).addViolation hcontent _ _
  have hhistory : history.report.UniqueKeys := UniqueKeys.empty.merge hfound found.sound _
  refine ⟨history.reachable, found.reachable, ?_, by decide, by decide, (hwithout history rfl).2, hback, ?_,
    (hmerged [.key "emails"]).2 hhistory hfound⟩
  · rw [htaken]
    decide
  · rw [(hselect (some [4]) none [.key "EMAILS"] [.index 0, .key "type"]).1]
    decide

end Report

end Scim
