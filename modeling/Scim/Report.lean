import Scim.Issue
import Scim.Location

/-!
# Reports

A report collects what checks found, each issue at the location of the value it is about.  Locations stand
in the order in which they were first used and keep the casing of that first use; a location whose issues
were all taken away keeps its place.

A violation may block its location, so that no further check of the value there, or of anything below it,
makes sense.  The report keeps the set of the codes of the blocking violations of each location, and checking
can proceed at a location that neither has such a set nor lies below one that has.

## Main results

* `Report.canProceed_iff`: checking can proceed exactly where no blocked location is the start of the way.
* `Report.canProceed_addAdvice`: advice never blocks.
-/

namespace Scim

/-! ## Slots -/

/-- Lists of issues by location, in the order of the first use of each location. -/
abbrev Slots (α : Type) := List (Location × List α)

namespace Slots

variable {α : Type}

/-- The issues recorded exactly at a location. -/
def issuesAt (slots : Slots α) (location : Location) : List α :=
  ((slots.find? fun slot => slot.1 == location).map (·.2)).getD []

/-- Whether a location was used. -/
def has (slots : Slots α) (location : Location) : Bool := slots.any fun slot => slot.1 == location

/-- Changes what stands at a location, which is put at the end if it was not used before. -/
def update (slots : Slots α) (location : Location) (change : List α → List α) : Slots α :=
  if slots.has location then
    slots.map fun slot => if slot.1 == location then (slot.1, change slot.2) else slot
  else slots ++ [(location, change [])]

/-- Appends issues at a location. -/
def add (slots : Slots α) (location : Location) (issues : List α) : Slots α :=
  slots.update location (· ++ issues)

/-- Puts other issues in the place of those at a location. -/
def replace (slots : Slots α) (location : Location) (issues : List α) : Slots α :=
  slots.map fun slot => if slot.1 == location then (slot.1, issues) else slot

/-- The locations that have issues. -/
def occupied (slots : Slots α) : Slots α := slots.filter fun slot => !slot.2.isEmpty

/-- Whether there is an issue at a location or below it. -/
def anyUnder (slots : Slots α) (start : Location) : Bool :=
  slots.occupied.any fun slot => slot.1.startsWith start

/-- Appends the issues of other slots, each below a location. -/
def merge (slots other : Slots α) (start : Location) : Slots α :=
  other.occupied.foldl (fun slots slot => slots.add (start ++ slot.1) slot.2) slots

/-- The slots below a location, seen from there, with the issues that pass a filter.  A slot is kept even
if none of its issues passes. -/
def under (slots : Slots α) (start : Location) (keep : α → Bool) : Slots α :=
  (slots.occupied.filter fun slot => slot.1.startsWith start).foldl
    (fun copy slot => copy.add (slot.1.drop start.length) (slot.2.filter keep)) []

/-- Whether the same issues stand at the same locations, where `same` compares issues. -/
def sameIssues (same : α → α → Bool) (slots other : Slots α) : Bool :=
  slots.occupied.length == other.occupied.length &&
    slots.occupied.all fun slot =>
      let issues := other.issuesAt slot.1
      issues.length == slot.2.length && (issues.zip slot.2).all fun (a, b) => same a b

end Slots

/-! ## Codes -/

/-- Adds codes to a set of codes. -/
def addCodes (known codes : List Nat) : List Nat := codes.foldr List.insert known

/-- Whether two sets have the same codes. -/
def sameCodes (a b : List Nat) : Bool := a.all b.contains && b.all a.contains

/-! ## Reports -/

/-- What checks found. -/
structure Report where
  violations : Slots Violation := []
  advice : Slots Advice := []
  /-- The blocked locations, each with the codes of the violations that block it. -/
  blocks : Slots Nat := []

namespace Report

/-- The report that nothing was found. -/
def empty : Report := {}

/-- Blocks a location by codes. -/
def addBlock (blocks : Slots Nat) (location : Location) (codes : List Nat) : Slots Nat :=
  blocks.update location (addCodes · codes)

/-- Records a violation; it blocks its location unless checking may proceed. -/
def addViolation (report : Report) (violation : Violation) (proceed : Bool) (location : Location) :
    Report :=
  { report with
    violations := report.violations.add location [violation]
    blocks := if proceed then report.blocks else addBlock report.blocks location [violation.code] }

/-- Records an advice. -/
def addAdvice (report : Report) (advice : Advice) (location : Location) : Report :=
  { report with advice := report.advice.add location [advice] }

/-- The report of one violation at the root. -/
def ofViolation (violation : Violation) (proceed : Bool) : Report :=
  empty.addViolation violation proceed []

/-- Adds another report below a location. -/
def merge (report other : Report) (start : Location) : Report where
  violations := report.violations.merge other.violations start
  advice := report.advice.merge other.advice start
  blocks := other.blocks.foldl (fun blocks block => addBlock blocks (start ++ block.1) block.2)
    report.blocks

/-- Whether checking can proceed at a location: nothing on the way there, and not the location itself, is
blocked. -/
def canProceed (report : Report) (location : Location) : Bool :=
  report.blocks.all fun block => !location.startsWith block.1

/-- Whether checking can proceed at all of several locations. -/
def canProceedAll (report : Report) (locations : List Location) : Bool :=
  locations.all report.canProceed

/-- Whether there is a violation at a location or below it. -/
def hasViolations (report : Report) (start : Location) : Bool := report.violations.anyUnder start

/-- Whether there is advice at a location or below it. -/
def hasAdvice (report : Report) (start : Location) : Bool := report.advice.anyUnder start

/-- Whether nothing was found. -/
def isEmpty (report : Report) : Bool := !report.hasViolations [] && !report.hasAdvice []

/-- Whether two reports record the same issues in the same order at the same locations, and block the same
locations for the same reasons. -/
def same (a b : Report) : Bool :=
  Slots.sameIssues Violation.same a.violations b.violations &&
    Slots.sameIssues Advice.same a.advice b.advice &&
    a.blocks.length == b.blocks.length &&
    a.blocks.all fun block => b.blocks.any fun other => other.1 == block.1 && sameCodes other.2 block.2

theorem canProceed_iff {report : Report} {location : Location} :
    report.canProceed location = true ↔
      ∀ block ∈ report.blocks, location.startsWith block.1 = false := by
  simp [canProceed]

theorem canProceed_addAdvice (report : Report) (advice : Advice) (start location : Location) :
    (report.addAdvice advice start).canProceed location = report.canProceed location := rfl

end Report

end Scim
