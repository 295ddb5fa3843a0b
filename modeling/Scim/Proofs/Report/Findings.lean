import Scim.Proofs.Report.Elementwise

/-!
# Reports as lists of findings

A report is put together from what single checks found, each merged below the place that was checked.  What the whole
report says of a location is what the checks found there, in the order in which they ran: a finding concerns a
location below its place, and is looked up with the rest of the way.  Likewise checking can proceed at a location if
no finding blocks it.

So a report tells a list of findings, and what puts reports together puts such lists together: merging appends the
one to the other, below the place of the merge, and merging below the indexes of a list appends the findings of each
element below its index.  Of a single finding nothing is asked, not even that its locations are different.

## Main results

* `Findings.seenAt_eachBelow`: below the index of an element its own findings are seen, and no other.
* `Report.Tells.merge_found`, `Report.Tells.merge`, `Report.Tells.mergeEach`: what merged reports tell.
-/

namespace Scim

/-- What checks found, each with the place below which it belongs, in the order in which they ran. -/
abbrev Findings := List (Location × Report)

namespace Findings

/-- The findings that concern a location, each with the rest of the way there. -/
def seenAt (found : Findings) (asked : Location) : Findings :=
  found.filterMap fun part => if asked.startsWith part.1 then some (asked.drop part.1.length, part.2) else none

/-- The issues of one sort that were found at a location. -/
def issuesAt {α : Type} (sort : Report → Slots α) (found : Findings) (asked : Location) : List α :=
  (found.seenAt asked).flatMap fun part => (sort part.2).recordedAt part.1

/-- Whether nothing that was found blocks a location. -/
def canProceed (found : Findings) (asked : Location) : Bool :=
  (found.seenAt asked).all fun part => part.2.canProceed part.1

/-- The same findings in a part of what they are now about. -/
def moved (start : Location) (found : Findings) : Findings := found.map fun part => (start ++ part.1, part.2)

/-- The findings of the elements of a list, below consecutive indexes, the first of which is given. -/
def eachBelow (index : Nat) : List Findings → Findings
  | [] => []
  | found :: rest => moved [.index index] found ++ eachBelow (index + 1) rest

theorem seenAt_cons (part : Location × Report) (found : Findings) (asked : Location) :
    seenAt (part :: found) asked =
      (if asked.startsWith part.1 then [(asked.drop part.1.length, part.2)] else []) ++ found.seenAt asked := by
  unfold seenAt
  rw [List.filterMap_cons]
  cases asked.startsWith part.1 <;> rfl

theorem seenAt_append (found more : Findings) (asked : Location) :
    seenAt (found ++ more) asked = found.seenAt asked ++ more.seenAt asked := List.filterMap_append

/-- Of findings that were moved below a place those are seen that concern the rest of the way. -/
theorem seenAt_moved (start : Location) (found : Findings) (asked : Location) :
    (found.moved start).seenAt asked =
      if asked.startsWith start then found.seenAt (asked.drop start.length) else [] := by
  induction found with
  | nil => simp [moved, seenAt]
  | cons part found ih =>
    show seenAt ((start ++ part.1, part.2) :: moved start found) asked = _
    rw [seenAt_cons, seenAt_cons, ih, Location.startsWith_append, Location.drop_append_length]
    cases asked.startsWith start <;> simp

theorem moved_nil (found : Findings) : found.moved [] = found := List.map_id _

/-- Below the index of an element its own findings are seen. -/
theorem seenAt_eachBelow_index (index : Nat) (parts : List Findings) (position : Nat) (rest : Location) :
    (eachBelow index parts).seenAt (.index position :: rest) =
      if index ≤ position then seenAt (parts[position - index]?.getD []) rest else [] := by
  induction parts generalizing index with
  | nil => simp [eachBelow, seenAt]
  | cons found parts ih =>
    have hbelow : Location.startsWith (.index position :: rest) [.index index] = (index == position) :=
      Bool.and_true _
    rw [eachBelow, seenAt_append, seenAt_moved, ih, hbelow]
    rcases Nat.lt_trichotomy position index with hbefore | rfl | hafter
    · simp [Nat.ne_of_gt hbefore, Nat.not_le.2 hbefore, Nat.not_le.2 (Nat.lt_succ_of_lt hbefore)]
    · simp [Nat.not_succ_le_self]
    · have hnext : position - index = position - (index + 1) + 1 := by omega
      rw [if_neg (by simpa using Nat.ne_of_lt hafter), if_pos (Nat.succ_le_of_lt hafter),
        if_pos (Nat.le_of_lt hafter), hnext]
      rfl

/-- Elsewhere no finding about an element is seen. -/
theorem seenAt_eachBelow_of_apart {asked : Location} (h : ∀ index, asked.startsWith [.index index] = false)
    (index : Nat) (parts : List Findings) : (eachBelow index parts).seenAt asked = [] := by
  induction parts generalizing index with
  | nil => rfl
  | cons found parts ih =>
    rw [eachBelow, seenAt_append, seenAt_moved, ih, h]
    rfl

/-- What is seen at a location of the findings about elements, as the location begins. -/
theorem seenAt_eachBelow (parts : List Findings) (asked : Location) :
    (eachBelow 0 parts).seenAt asked =
      match asked with
      | .index position :: rest => seenAt (parts[position]?.getD []) rest
      | _ => [] := by
  match asked with
  | .index position :: rest => exact seenAt_eachBelow_index 0 parts position rest
  | [] => exact seenAt_eachBelow_of_apart (fun _ => rfl) 0 parts
  | .key _ :: _ => exact seenAt_eachBelow_of_apart (fun _ => rfl) 0 parts

/-- What is found in elements does not block the list. -/
theorem canProceed_eachBelow (parts : List Findings) : (eachBelow 0 parts).canProceed [] = true := by
  rw [canProceed, seenAt_eachBelow]
  rfl

/-- Two rounds over a list find what one round finds in which each element is checked twice. -/
theorem seenAt_eachBelow_append {β : Type} (first second : β → Findings) (items : List β) (asked : Location) :
    seenAt (eachBelow 0 (items.map first) ++ eachBelow 0 (items.map second)) asked =
      seenAt (eachBelow 0 (items.map fun item => first item ++ second item)) asked := by
  rw [seenAt_append, seenAt_eachBelow, seenAt_eachBelow, seenAt_eachBelow]
  match asked with
  | [] => rfl
  | .key _ :: _ => rfl
  | .index position :: rest =>
    simp only [List.getElem?_map]
    cases items[position]? with
    | none => rfl
    | some item => exact (seenAt_append _ _ _).symm

/-! ### Answers -/

section Answers

variable {α : Type} (sort : Report → Slots α) (found more : Findings) (start asked : Location)

theorem issuesAt_append : issuesAt sort (found ++ more) asked = found.issuesAt sort asked ++ more.issuesAt sort asked := by
  rw [issuesAt, seenAt_append, List.flatMap_append]
  rfl

theorem canProceed_append : canProceed (found ++ more) asked = (found.canProceed asked && more.canProceed asked) := by
  rw [canProceed, seenAt_append, List.all_append]
  rfl

theorem issuesAt_moved :
    (found.moved start).issuesAt sort asked =
      if asked.startsWith start then found.issuesAt sort (asked.drop start.length) else [] := by
  rw [issuesAt, seenAt_moved]
  cases asked.startsWith start <;> rfl

theorem canProceed_moved :
    (found.moved start).canProceed asked =
      (!asked.startsWith start || found.canProceed (asked.drop start.length)) := by
  rw [canProceed, seenAt_moved]
  cases asked.startsWith start <;> rfl

theorem issuesAt_singleton (report : Report) :
    issuesAt sort [(start, report)] asked =
      if asked.startsWith start then (sort report).recordedAt (asked.drop start.length) else [] := by
  rw [issuesAt, seenAt_cons]
  cases asked.startsWith start with
  | true => exact List.append_nil _
  | false => rfl

theorem canProceed_singleton (report : Report) :
    canProceed [(start, report)] asked =
      (!asked.startsWith start || report.canProceed (asked.drop start.length)) := by
  rw [canProceed, seenAt_cons]
  cases asked.startsWith start with
  | true => exact Bool.and_true _
  | false => rfl

end Answers

end Findings

namespace Report

variable {report other : Report} {found more : Findings}

/-- A report says of every location what was found there, and nothing else. -/
structure Tells (report : Report) (found : Findings) : Prop where
  distinctViolations : Slots.DistinctLocations report.violations
  distinctAdvice : Slots.DistinctLocations report.advice
  violations (asked : Location) : report.violations.issuesAt asked = found.issuesAt Report.violations asked
  advice (asked : Location) : report.advice.issuesAt asked = found.issuesAt Report.advice asked
  proceeds (asked : Location) : report.canProceed asked = found.canProceed asked

namespace Tells

/-- It matters only which findings are seen at each location. -/
theorem congr (h : report.Tells found) (hseen : ∀ asked, found.seenAt asked = more.seenAt asked) :
    report.Tells more where
  distinctViolations := h.distinctViolations
  distinctAdvice := h.distinctAdvice
  violations asked := by rw [h.violations, Findings.issuesAt, hseen, Findings.issuesAt]
  advice asked := by rw [h.advice, Findings.issuesAt, hseen, Findings.issuesAt]
  proceeds asked := by rw [h.proceeds, Findings.canProceed, hseen, Findings.canProceed]

theorem empty : Report.empty.Tells [] := ⟨.nil, .nil, fun _ => rfl, fun _ => rfl, fun _ => rfl⟩

/-- A report whose locations are different tells what it says itself. -/
theorem self (hviolations : Slots.DistinctLocations report.violations)
    (hadvice : Slots.DistinctLocations report.advice) : report.Tells [([], report)] where
  distinctViolations := hviolations
  distinctAdvice := hadvice
  violations asked := by
    rw [Findings.issuesAt_singleton, Location.startsWith_nil, Slots.recordedAt_eq_issuesAt hviolations]
    rfl
  advice asked := by
    rw [Findings.issuesAt_singleton, Location.startsWith_nil, Slots.recordedAt_eq_issuesAt hadvice]
    rfl
  proceeds asked := by
    rw [Findings.canProceed_singleton, Location.startsWith_nil]
    rfl

theorem ofViolation (violation : Violation) (proceed : Bool) :
    (Report.ofViolation violation proceed).Tells [([], .ofViolation violation proceed)] :=
  .self (Slots.DistinctLocations.nil.add _ _) .nil

theorem ofAdvice (advice : Advice) : (Report.empty.addAdvice advice []).Tells [([], .addAdvice .empty advice [])] :=
  .self .nil (Slots.DistinctLocations.nil.add _ _)

/-- Any report may be merged as one more finding. -/
theorem merge_found (h : report.Tells found) (other : Report) (start : Location) :
    (report.merge other start).Tells (found ++ [(start, other)]) where
  distinctViolations := h.distinctViolations.merge _ _
  distinctAdvice := h.distinctAdvice.merge _ _
  violations asked := by
    refine (Slots.issuesAt_merge_recorded _ _ start asked).trans ?_
    rw [h.violations, Findings.issuesAt_append, Findings.issuesAt_singleton]
  advice asked := by
    refine (Slots.issuesAt_merge_recorded _ _ start asked).trans ?_
    rw [h.advice, Findings.issuesAt_append, Findings.issuesAt_singleton]
  proceeds asked := by rw [canProceed_merge, h.proceeds, Findings.canProceed_append, Findings.canProceed_singleton]

/-- A report that tells findings of its own passes them on. -/
theorem merge (h : report.Tells found) (hother : other.Tells more) (start : Location) :
    (report.merge other start).Tells (found ++ more.moved start) where
  distinctViolations := h.distinctViolations.merge _ _
  distinctAdvice := h.distinctAdvice.merge _ _
  violations asked := by
    refine (Slots.issuesAt_merge _ hother.distinctViolations start asked).trans ?_
    rw [h.violations, hother.violations, Findings.issuesAt_append, Findings.issuesAt_moved]
  advice asked := by
    refine (Slots.issuesAt_merge _ hother.distinctAdvice start asked).trans ?_
    rw [h.advice, hother.advice, Findings.issuesAt_append, Findings.issuesAt_moved]
  proceeds asked := by
    rw [canProceed_merge, h.proceeds, hother.proceeds, Findings.canProceed_append, Findings.canProceed_moved]

/-- The report of a list tells what was found in each element, at its index. -/
theorem mergeEach {β : Type} {find : β → Report} {parts : β → Findings} (h : report.Tells found) (items : List β)
    (heach : ∀ item ∈ items, (find item).Tells (parts item)) (index : Nat) :
    (report.mergeEach index (items.map find)).Tells (found ++ Findings.eachBelow index (items.map parts)) := by
  induction items generalizing report found index with
  | nil => exact (List.append_nil found).symm ▸ h
  | cons item items ih =>
    obtain ⟨hitem, hrest⟩ := List.forall_mem_cons.1 heach
    have hmerged := ih (h.merge hitem [.index index]) hrest (index + 1)
    rwa [List.append_assoc] at hmerged

end Tells

end Report

end Scim
