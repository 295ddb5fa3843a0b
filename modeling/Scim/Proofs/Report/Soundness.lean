import Scim.Report.Selection
import Scim.Proofs.Report.Slots

/-!
# Nothing is blocked without a reason

A report keeps two tables, the violations by location and the codes that block a location, and its operations
write them separately.  Whether checking can proceed is read off the second table alone, and there a location
blocks whatever lies below it as soon as it is listed, even with no code left.  So a single operation that
leaves an empty set behind would stop all checks below a location, with no violation to show for it.

`Sound` is the invariant that ties the tables together: a blocked location has codes, and each of them is the
code of a violation recorded right there.  Recording only adds violations, so what was supported stays
supported; selecting and popping take violations away, and there the codes that go are those of the
violations that go.

## Main results

* `Reachable.sound`: the invariant holds of every report that the operations lead to.
* `canProceed_addViolation_blocking`: which answers a blocking violation changes.
* `Reachable.blocked_only_by_violations`: the two facts together, for every report that can be reached.
-/

namespace Scim.Report

/-! ## Codes -/

theorem mem_addCodes {known codes : List Nat} {code : Nat} :
    code ∈ addCodes known codes ↔ code ∈ codes ∨ code ∈ known := by
  induction codes with
  | nil => simp [addCodes]
  | cons first codes ih =>
    show code ∈ List.insert first (addCodes known codes) ↔ _
    rw [List.mem_insert_iff, ih, List.mem_cons, or_assoc]

theorem addCodes_ne_nil {known codes : List Nat} (h : codes ≠ []) : addCodes known codes ≠ [] := by
  obtain ⟨code, hcode⟩ := List.exists_mem_of_ne_nil _ h
  exact List.ne_nil_of_mem (mem_addCodes.2 (.inl hcode))

/-! ## Supported blocks -/

/-- A block has codes, and each is that of a violation recorded exactly at its location. -/
def Supported (violations : Slots Violation) (block : Location × List Nat) : Prop :=
  block.2 ≠ [] ∧ ∀ code ∈ block.2, ∃ violation ∈ violations.issuesAt block.1, violation.code = code

variable {violations : Slots Violation} {blocks : Slots Nat}

/-- Recording more violations takes no support away. -/
theorem Supported.mono {more : Slots Violation} {block : Location × List Nat}
    (h : Supported violations block)
    (hmore : ∀ violation ∈ violations.issuesAt block.1, violation ∈ more.issuesAt block.1) :
    Supported more block := by
  refine ⟨h.1, fun code hcode => ?_⟩
  obtain ⟨violation, hmem, hof⟩ := h.2 code hcode
  exact ⟨violation, hmore violation hmem, hof⟩

/-- Blocking a location by supported codes keeps every block supported. -/
theorem supported_addBlock {location : Location} {codes : List Nat}
    (hblocks : ∀ block ∈ blocks, Supported violations block)
    (hcodes : Supported violations (location, codes)) :
    ∀ block ∈ addBlock blocks location codes, Supported violations block := by
  intro block hblock
  rcases Slots.mem_update hblock with hold | rfl | ⟨old, hold, hloc, rfl⟩
  · exact hblocks block hold
  · refine ⟨addCodes_ne_nil hcodes.1, fun code hcode => ?_⟩
    rcases mem_addCodes.1 hcode with hnew | hnone
    · exact hcodes.2 code hnew
    · cases hnone
  · refine ⟨addCodes_ne_nil hcodes.1, fun code hcode => ?_⟩
    rcases mem_addCodes.1 hcode with hnew | hknown
    · rw [Slots.issuesAt_congr hloc]
      exact hcodes.2 code hnew
    · exact (hblocks old hold).2 code hknown

/-! ## Blocks that go -/

/-- The selected blocks are those that still have codes, seen from the location. -/
theorem blocksUnder_eq (blocks : Slots Nat) (codes : Option (List Nat)) (start : Location) :
    blocksUnder blocks codes start = (blocks.seenFrom start (passes codes)).occupied := by
  unfold blocksUnder Slots.occupied Slots.seenFrom
  generalize blocks.filter (fun block => block.1.startsWith start) = below
  induction below with
  | nil => rfl
  | cons block below ih =>
    rw [List.filterMap_cons, List.map_cons, List.filter_cons, ← ih]
    cases h : (block.2.filter (passes codes)).isEmpty <;> simp [h]

/-- A block after codes were taken away from a location. -/
theorem mem_unblock {location : Location} {codes : List Nat} {block : Location × List Nat}
    (h : block ∈ unblock blocks location codes) :
    ∃ old ∈ blocks,
      ((old.1 == location) = true ∧ block = (old.1, old.2.filter fun code => !codes.contains code) ∧
        (old.2.filter fun code => !codes.contains code) ≠ []) ∨
      ((old.1 == location) = false ∧ block = old) := by
  obtain ⟨old, hold, hkept⟩ := List.mem_filterMap.1 h
  refine ⟨old, hold, ?_⟩
  dsimp only at hkept
  split at hkept
  · next hloc =>
    split at hkept
    · cases hkept
    · next hcodes =>
      cases hkept
      exact .inl ⟨hloc, rfl, by simpa using hcodes⟩
  · next hloc =>
    cases hkept
    exact .inr ⟨by simpa using hloc, rfl⟩

theorem distinctLocations_unblock (h : blocks.DistinctLocations) (location : Location)
    (codes : List Nat) : (unblock blocks location codes).DistinctLocations := by
  apply h.filterMap
  intro slot changed hchanged
  dsimp only at hchanged
  split at hchanged
  · split at hchanged
    · cases hchanged
    · cases hchanged
      rfl
  · cases hchanged
    rfl

/-! ## The invariant -/

/-- No location is recorded twice, and every block is supported by the violations. -/
structure Sound (report : Report) : Prop where
  violations : report.violations.DistinctLocations
  advice : report.advice.DistinctLocations
  blocks : report.blocks.DistinctLocations
  supported : ∀ block ∈ report.blocks, Supported report.violations block

namespace Sound

variable {report other : Report}

theorem empty : Sound empty where
  violations := .nil
  advice := .nil
  blocks := .nil
  supported := by
    intro block hblock
    cases hblock

theorem addViolation (h : Sound report) (violation : Violation) (proceed : Bool) (location : Location) :
    Sound (report.addViolation violation proceed location) := by
  have hkept : ∀ block ∈ report.blocks,
      Supported (report.violations.add location [violation]) block := fun block hblock =>
    (h.supported block hblock).mono fun old hold => by
      rw [Slots.issuesAt_add]
      exact List.mem_append_left _ hold
  have hnew : Supported (report.violations.add location [violation]) (location, [violation.code]) := by
    refine ⟨List.cons_ne_nil _ _, fun code hcode => ⟨violation, ?_, (List.mem_singleton.1 hcode).symm⟩⟩
    rw [Slots.issuesAt_add]
    simp [Location.beq_iff]
  refine ⟨h.violations.add _ _, h.advice, ?_, ?_⟩
  · cases proceed with
    | true => exact h.blocks
    | false => exact h.blocks.update _ _
  · cases proceed with
    | true => exact hkept
    | false => exact supported_addBlock hkept hnew

theorem addAdvice (h : Sound report) (advice : Advice) (location : Location) :
    Sound (report.addAdvice advice location) :=
  ⟨h.violations, h.advice.add _ _, h.blocks, h.supported⟩

theorem ofViolation (violation : Violation) (proceed : Bool) : Sound (ofViolation violation proceed) :=
  empty.addViolation violation proceed []

/-- What a report blocks stays blocked below the location it is merged at, for the same violations. -/
private theorem supported_moved (h : Sound other) (before : Slots Violation) (start : Location)
    {block : Location × List Nat} (hblock : block ∈ other.blocks) :
    Supported (before.merge other.violations start) (start ++ block.1, block.2) := by
  have hold := h.supported block hblock
  refine ⟨hold.1, fun code hcode => ?_⟩
  obtain ⟨violation, hmem, hof⟩ := hold.2 code hcode
  refine ⟨violation, ?_, hof⟩
  rw [Slots.issuesAt_merge _ h.violations, if_pos (Location.append_startsWith start block.1),
    List.drop_left' rfl]
  exact List.mem_append_right _ hmem

theorem merge (h : Sound report) (hother : Sound other) (start : Location) :
    Sound (report.merge other start) := by
  have hkept : ∀ block ∈ report.blocks,
      Supported (report.violations.merge other.violations start) block := fun block hblock =>
    (h.supported block hblock).mono fun old hold => by
      rw [Slots.issuesAt_merge _ hother.violations]
      exact List.mem_append_left _ hold
  have hmoved : ∀ block ∈ other.blocks,
      Supported (report.violations.merge other.violations start) (start ++ block.1, block.2) :=
    fun block hblock => supported_moved hother report.violations start hblock
  -- both facts about the table of blocks are kept by each step of the loop that appends to it
  suffices hloop : ∀ (added before : Slots Nat), before.DistinctLocations →
      (∀ block ∈ before, Supported (report.violations.merge other.violations start) block) →
      (∀ block ∈ added,
        Supported (report.violations.merge other.violations start) (start ++ block.1, block.2)) →
      let after := added.foldl (fun blocks block => addBlock blocks (start ++ block.1) block.2) before
      after.DistinctLocations ∧
        ∀ block ∈ after, Supported (report.violations.merge other.violations start) block by
    obtain ⟨hdistinct, hsupported⟩ := hloop other.blocks report.blocks h.blocks hkept hmoved
    exact ⟨h.violations.merge _ _, h.advice.merge _ _, hdistinct, hsupported⟩
  intro added
  induction added with
  | nil => exact fun before hd hs _ => ⟨hd, hs⟩
  | cons block added ih =>
    intro before hd hs hadded
    apply ih _ (hd.update _ _) (supported_addBlock hs (hadded block List.mem_cons_self))
    exact fun later hlater => hadded later (List.mem_cons_of_mem _ hlater)

/-- A selected block has the codes that pass, of the violations that pass. -/
theorem select (h : Sound report) (violationCodes adviceCodes : Option (List Nat)) (start : Location) :
    Sound (report.select violationCodes adviceCodes start) := by
  have hblocks : (report.select violationCodes adviceCodes start).blocks =
      (report.blocks.seenFrom start (passes violationCodes)).occupied := blocksUnder_eq _ _ _
  refine ⟨.under _ _ _, .under _ _ _, ?_, ?_⟩
  · rw [hblocks]
    exact (h.blocks.seenFrom _ _).filter _
  · rw [hblocks]
    intro block hblock
    obtain ⟨hseen, hfull⟩ := List.mem_filter.1 hblock
    obtain ⟨old, hold, rfl⟩ := List.mem_map.1 hseen
    obtain ⟨hmem, hbelow⟩ := List.mem_filter.1 hold
    refine ⟨by simpa using hfull, fun code hcode => ?_⟩
    obtain ⟨hin, hpasses⟩ := List.mem_filter.1 hcode
    obtain ⟨violation, hviolation, hof⟩ := (h.supported old hmem).2 code hin
    refine ⟨violation, ?_, hof⟩
    show violation ∈ (report.violations.under start _).issuesAt _
    rw [Slots.issuesAt_under h.violations, Slots.issuesAt_congr (Location.append_drop_beq hbelow)]
    exact List.mem_filter.2 ⟨hviolation, by rw [hof]; exact hpasses⟩

/-- The violations taken away form a sound report. -/
theorem popped (report : Report) (codes : List Nat) (location : Location) :
    Sound (report.pop codes location).1 := by
  unfold Report.pop
  split
  · dsimp only
    generalize (report.violations.issuesAt location).filter (fun v => codes.contains v.code) = popped
    generalize report.blockingCodes location popped = blocking
    suffices hloop : ∀ (taken : List Violation) (copy : Report), Sound copy →
        Sound (taken.foldl (fun copy v => copy.addViolation v (!blocking.contains v.code) []) copy) from
      hloop popped .empty .empty
    intro taken
    induction taken with
    | nil => exact fun copy hcopy => hcopy
    | cons violation taken ih => exact fun copy hcopy => ih _ (hcopy.addViolation _ _ _)
  · exact empty

/-- A code that still blocks a location after a pop is that of a violation that was not popped: a popped one
would have taken its code along. -/
private theorem kept_of_code (h : Sound report) {codes : List Nat} {location : Location}
    {block : Location × List Nat} (hblock : block ∈ report.blocks) (hloc : (block.1 == location) = true)
    {violation : Violation} (hviolation : violation ∈ report.violations.issuesAt location)
    (hin : violation.code ∈ block.2)
    (hstays : violation.code ∉ report.blockingCodes location
      ((report.violations.issuesAt location).filter fun v => codes.contains v.code)) :
    codes.contains violation.code = false := by
  cases hpopped : codes.contains violation.code with
  | false => rfl
  | true =>
    refine absurd (List.mem_filter.2 ⟨List.mem_map.2 ⟨violation, ?_, rfl⟩, ?_⟩) hstays
    · exact List.mem_filter.2 ⟨hviolation, hpopped⟩
    · rw [← Slots.issuesAt_congr hloc, Slots.issuesAt_of_mem h.blocks hblock]
      exact List.contains_iff_mem.2 hin

/-- What a report is left with after violations were taken away: the codes that go with them block no
more, and the codes that stay have their violations. -/
theorem left (h : Sound report) (codes : List Nat) (location : Location) :
    Sound (report.pop codes location).2 := by
  unfold Report.pop
  split
  · next hhas =>
    dsimp only
    refine ⟨h.violations.replace _ _, h.advice, distinctLocations_unblock h.blocks _ _, ?_⟩
    intro block hblock
    obtain ⟨old, hold, hunblocked⟩ := mem_unblock hblock
    have hsupported := h.supported old hold
    rcases hunblocked with ⟨hloc, hblock, hfull⟩ | ⟨hloc, rfl⟩
    · subst hblock
      refine ⟨hfull, fun code hcode => ?_⟩
      obtain ⟨hin, hstays⟩ := List.mem_filter.1 hcode
      obtain ⟨violation, hviolation, rfl⟩ := hsupported.2 code hin
      rw [Slots.issuesAt_congr hloc] at hviolation
      have hkept := kept_of_code h hold hloc hviolation hin (by simpa using hstays)
      refine ⟨violation, ?_, rfl⟩
      rw [Slots.issuesAt_congr hloc, Slots.issuesAt_replace _ _ _ _ hhas,
        if_pos (by simp [Location.beq_iff])]
      exact List.mem_filter.2 ⟨hviolation, by simpa using hkept⟩
    · apply hsupported.mono
      intro violation hviolation
      rw [Slots.issuesAt_replace _ _ _ _ hhas, if_neg (by rw [Location.beq_comm, hloc]; simp)]
      exact hviolation
  · exact h

end Sound

/-! ## Blocked locations of a merged report -/

/-- The loop that appends blocks. -/
private theorem has_appended (added before : Slots Nat) (start location : Location) :
    Slots.has (added.foldl (fun blocks block => addBlock blocks (start ++ block.1) block.2) before)
        location =
      (before.has location || (added.moved start).has location) := by
  induction added generalizing before with
  | nil => simp [Slots.moved, Slots.has]
  | cons block added ih =>
    rw [List.foldl_cons, ih]
    show (Slots.has (addBlock before (start ++ block.1) block.2) location || _) =
      (_ || Slots.has ((start ++ block.1, block.2) :: Slots.moved added start) location)
    rw [addBlock, Slots.has_update, Slots.has_cons, Bool.or_assoc]

theorem has_blocks_merge (report other : Report) (start location : Location) :
    (report.merge other start).blocks.has location =
      (report.blocks.has location || (other.blocks.moved start).has location) :=
  has_appended other.blocks report.blocks start location

/-- A blocked location keeps the casing in which it was first blocked. -/
theorem mem_blocks_merge {report other : Report} {start : Location} {block : Location × List Nat}
    (h : block ∈ (report.merge other start).blocks) :
    (∃ old ∈ report.blocks, block.1 = old.1) ∨ ∃ moved ∈ other.blocks, block.1 = start ++ moved.1 := by
  suffices hloop : ∀ added before : Slots Nat,
      block ∈ added.foldl (fun blocks block => addBlock blocks (start ++ block.1) block.2) before →
      (∃ old ∈ before, block.1 = old.1) ∨ ∃ moved ∈ added, block.1 = start ++ moved.1 from
    hloop other.blocks report.blocks h
  intro added
  induction added with
  | nil => exact fun before hbefore => .inl ⟨block, hbefore, rfl⟩
  | cons first added ih =>
    intro before hblock
    rcases ih _ hblock with ⟨old, hold, hloc⟩ | ⟨moved, hmoved, hloc⟩
    · rcases Slots.mem_update hold with hbefore | rfl | ⟨older, holder, -, rfl⟩
      · exact .inl ⟨old, hbefore, hloc⟩
      · exact .inr ⟨first, List.mem_cons_self, hloc⟩
      · exact .inl ⟨older, holder, hloc⟩
    · exact .inr ⟨moved, List.mem_cons_of_mem _ hmoved, hloc⟩

/-! ## Where checking can proceed -/

/-- Checking can proceed exactly below no used location of the blocks. -/
theorem canProceed_eq_false_iff {report : Report} {location : Location} :
    report.canProceed location = false ↔
      ∃ block ∈ report.blocks, location.startsWith block.1 = true := by
  simp [canProceed]

/-- Whether checking can proceed depends on which locations are blocked, not on the codes. -/
private theorem all_addBlock (blocks : Slots Nat) (start : Location) (codes : List Nat)
    (location : Location) :
    ((addBlock blocks start codes).all fun block => !location.startsWith block.1) =
      ((blocks.all fun block => !location.startsWith block.1) && !location.startsWith start) := by
  unfold addBlock Slots.update
  split
  · next hhas =>
    have hsame : ((blocks.map fun block =>
          if block.1 == start then (block.1, addCodes block.2 codes) else block).all
            fun block => !location.startsWith block.1) =
        blocks.all fun block => !location.startsWith block.1 := by
      rw [List.all_map]
      refine congrArg blocks.all (funext fun block => ?_)
      dsimp only [Function.comp]
      split <;> rfl
    rw [hsame]
    -- the location was blocked before, so what lies below it was
    obtain ⟨old, hold, hloc⟩ := Slots.has_iff.1 hhas
    cases hbelow : location.startsWith start with
    | false => simp
    | true =>
      have hblocked : (blocks.all fun block => !location.startsWith block.1) = false := by
        rw [List.all_eq_false]
        exact ⟨old, hold, by simp [Location.startsWith_congr hloc, hbelow]⟩
      rw [hblocked]
      rfl
  · simp [List.all_append]

/-- A blocking violation ends checking at its location and below, and nowhere else. -/
theorem canProceed_addViolation_blocking (report : Report) (violation : Violation)
    (start location : Location) :
    (report.addViolation violation false start).canProceed location =
      (report.canProceed location && !location.startsWith start) :=
  all_addBlock report.blocks start [violation.code] location

theorem canProceed_addViolation_proceeding (report : Report) (violation : Violation)
    (start location : Location) :
    (report.addViolation violation true start).canProceed location = report.canProceed location := rfl

/-- Below a location at which a report was merged, its own answers count as well. -/
theorem canProceed_merge (report other : Report) (start location : Location) :
    (report.merge other start).canProceed location =
      (report.canProceed location &&
        (!location.startsWith start || other.canProceed (location.drop start.length))) := by
  have hloop : ∀ added before : Slots Nat,
      ((added.foldl (fun blocks block => addBlock blocks (start ++ block.1) block.2) before).all
          fun block => !location.startsWith block.1) =
        ((before.all fun block => !location.startsWith block.1) &&
          added.all fun block => !location.startsWith (start ++ block.1)) := by
    intro added
    induction added with
    | nil => simp
    | cons block added ih =>
      intro before
      rw [List.foldl_cons, ih, all_addBlock, List.all_cons, Bool.and_assoc]
  rw [canProceed, merge, hloop, canProceed, canProceed]
  congr 1
  have happ : ∀ block : Location × List Nat, location.startsWith (start ++ block.1) =
      (location.startsWith start && Location.startsWith (location.drop start.length) block.1) := by
    intro block
    rw [Bool.eq_iff_iff, Bool.and_eq_true]
    exact Location.startsWith_append_iff
  simp only [happ]
  cases location.startsWith start <;> simp

/-- The value as a whole is blocked by either of two reports on it. -/
theorem canProceed_merge_root (report other : Report) :
    (report.merge other []).canProceed [] = (report.canProceed [] && other.canProceed []) := by
  rw [canProceed_merge, Location.startsWith_nil]
  rfl

/-- A report on a part of a value does not block the value. -/
theorem canProceed_merge_part (report other : Report) (part : Segment) :
    (report.merge other [part]).canProceed [] = report.canProceed [] := by
  have hpart : Location.startsWith [] [part] = false := rfl
  rw [canProceed_merge, hpart]
  simp

/-- In a sound report something on the way to a blocked location holds a violation. -/
theorem Sound.exists_violation {report : Report} (h : Sound report) {location : Location}
    (hblocked : report.canProceed location = false) :
    ∃ n ≤ location.length, report.violations.issuesAt (location.take n) ≠ [] := by
  obtain ⟨block, hblock, hbelow⟩ := canProceed_eq_false_iff.1 hblocked
  obtain ⟨hcodes, hsupported⟩ := h.supported block hblock
  obtain ⟨code, hcode⟩ := List.exists_mem_of_ne_nil _ hcodes
  obtain ⟨violation, hviolation, -⟩ := hsupported code hcode
  refine ⟨block.1.length, ?_, ?_⟩
  · have hlength := (Location.startsWith_iff.1 hbelow).length_le
    simpa using hlength
  · rw [Slots.issuesAt_congr (Location.startsWith_iff_take.1 hbelow)]
    exact List.ne_nil_of_mem hviolation

/-- A violation that blocks checking is recorded exactly at a location. -/
def Rejects (report : Report) (location : Location) : Prop :=
  ∃ violation ∈ report.violations.issuesAt location, violation.code ∈ report.blocks.issuesAt location

/-- The blocked locations of a sound report are those of its blocking violations. -/
theorem Sound.has_blocks_iff {report : Report} (h : Sound report) {location : Location} :
    report.blocks.has location = true ↔ report.Rejects location := by
  constructor
  · intro hhas
    obtain ⟨block, hblock, hloc⟩ := Slots.has_iff.1 hhas
    obtain ⟨hcodes, hsupported⟩ := h.supported block hblock
    obtain ⟨code, hcode⟩ := List.exists_mem_of_ne_nil _ hcodes
    obtain ⟨violation, hviolation, rfl⟩ := hsupported code hcode
    rw [← Slots.issuesAt_of_mem h.blocks hblock] at hcode
    refine ⟨violation, ?_, ?_⟩
    · rw [← Slots.issuesAt_congr hloc]
      exact hviolation
    · rw [← Slots.issuesAt_congr hloc]
      exact hcode
  · rintro ⟨violation, -, hcode⟩
    obtain ⟨block, hblock, hloc, -⟩ := Slots.exists_slot_of_mem_issuesAt hcode
    exact Slots.has_iff.2 ⟨block, hblock, hloc⟩

/-- A sound report without violations blocks nothing. -/
theorem Sound.blocks_eq_nil {report : Report} (h : Sound report)
    (hfree : report.hasViolations [] = false) : report.blocks = [] := by
  apply List.eq_nil_iff_forall_not_mem.2
  intro block hblock
  obtain ⟨hcodes, hsupported⟩ := h.supported block hblock
  obtain ⟨code, hcode⟩ := List.exists_mem_of_ne_nil _ hcodes
  obtain ⟨violation, hviolation, -⟩ := hsupported code hcode
  have hany : report.hasViolations [] = true :=
    (Slots.anyUnder_iff h.violations).2
      ⟨block.1, Location.startsWith_nil block.1, List.ne_nil_of_mem hviolation⟩
  rw [hfree] at hany
  cases hany

/-! ## Reports that can be reached -/

/-- The reports that the operations lead to, from the empty one and in any order. -/
inductive Reachable : Report → Prop where
  | empty : Reachable empty
  | addViolation {report : Report} (h : Reachable report) (violation : Violation) (proceed : Bool)
      (location : Location) : Reachable (report.addViolation violation proceed location)
  | addAdvice {report : Report} (h : Reachable report) (advice : Advice) (location : Location) :
      Reachable (report.addAdvice advice location)
  | merge {report other : Report} (h : Reachable report) (hother : Reachable other) (start : Location) :
      Reachable (report.merge other start)
  | select {report : Report} (h : Reachable report) (violationCodes adviceCodes : Option (List Nat))
      (start : Location) : Reachable (report.select violationCodes adviceCodes start)
  | popped {report : Report} (h : Reachable report) (codes : List Nat) (location : Location) :
      Reachable (report.pop codes location).1
  | left {report : Report} (h : Reachable report) (codes : List Nat) (location : Location) :
      Reachable (report.pop codes location).2

/-- The invariant holds of every report that can be reached. -/
theorem Reachable.sound {report : Report} (h : Reachable report) : Sound report := by
  induction h with
  | empty => exact .empty
  | addViolation _ violation proceed location ih => exact ih.addViolation violation proceed location
  | addAdvice _ advice location ih => exact ih.addAdvice advice location
  | merge _ _ start ih ihother => exact ih.merge ihother start
  | select _ violationCodes adviceCodes start ih => exact ih.select violationCodes adviceCodes start
  | popped _ codes location _ => exact .popped _ codes location
  | left _ codes location ih => exact ih.left codes location

/-- In a report that can be reached every block has its violations, so checking ends only below a recorded
violation; a blocking violation ends it below its location, and what does not block changes no answer. -/
theorem Reachable.blocked_only_by_violations {report : Report} (h : Reachable report) :
    report.Sound ∧
      (∀ location, report.canProceed location = false →
        ∃ n ≤ location.length, report.violations.issuesAt (location.take n) ≠ []) ∧
      (∀ violation start location,
        (report.addViolation violation false start).canProceed location =
          (report.canProceed location && !location.startsWith start)) ∧
      (∀ violation start location,
        (report.addViolation violation true start).canProceed location = report.canProceed location) ∧
      (∀ advice start location,
        (report.addAdvice advice start).canProceed location = report.canProceed location) := by
  refine ⟨h.sound, fun location => h.sound.exists_violation, ?_, ?_, ?_⟩
  · exact fun violation start location =>
      canProceed_addViolation_blocking report violation start location
  · exact fun violation start location =>
      canProceed_addViolation_proceeding report violation start location
  · exact fun advice start location => canProceed_addAdvice report advice start location

/-- Two violations below a merged location, of which one is popped: the other one still blocks. -/
theorem blocked_after_pop :
    let found := (empty.addViolation .badSyntax false [.key "value"]).addViolation .missing false
      [.key "value"]
    let report := (((empty.merge found [.key "Emails", .index 0]).pop [Violation.missing.code]
      [.key "emails", .index 0, .key "VALUE"]).2)
    report.Sound ∧ report.canProceed [.key "emails", .index 0, .key "value"] = false ∧
      ∃ n ≤ 3, report.violations.issuesAt
        (List.take n [.key "emails", .index 0, .key "value"]) ≠ [] := by
  intro found report
  have hfound : Reachable found := (Reachable.empty.addViolation _ _ _).addViolation _ _ _
  have hreport : Reachable report := (Reachable.empty.merge hfound _).left _ _
  have hblocked : report.canProceed [.key "emails", .index 0, .key "value"] = false := by decide
  obtain ⟨hsound, hviolation, -⟩ := hreport.blocked_only_by_violations
  exact ⟨hsound, hblocked, hviolation _ hblocked⟩

end Scim.Report
