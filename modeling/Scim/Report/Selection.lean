import Scim.Report

/-!
# Selecting issues

Two ways to look at a part of a report.  *Selecting* copies the issues below a location, as they are seen
from there, and only those with certain codes.  *Popping* takes the violations with certain codes away from
one location; the report that is left behaves as if they had never been recorded, and the popped ones form
a report of their own, seen from that location.
-/

namespace Scim.Report

/-- Whether a code passes a filter; without a filter every code does. -/
def passes (codes : Option (List Nat)) (code : Nat) : Bool :=
  match codes with
  | none => true
  | some codes => codes.contains code

/-- The blocks below a location, seen from there, by the codes that pass a filter.  A location that none of
its codes blocks any more is left out. -/
def blocksUnder (blocks : Slots Nat) (codes : Option (List Nat)) (start : Location) : Slots Nat :=
  (blocks.filter fun block => block.1.startsWith start).filterMap fun block =>
    let kept := block.2.filter (passes codes)
    if kept.isEmpty then none else some (block.1.drop start.length, kept)

/-- The part of a report below a location, with the violations and the advice of certain codes. -/
def select (report : Report) (violationCodes adviceCodes : Option (List Nat)) (start : Location) :
    Report where
  violations := report.violations.under start fun violation => passes violationCodes violation.code
  advice := report.advice.under start fun advice => passes adviceCodes advice.code
  blocks := blocksUnder report.blocks violationCodes start

/-- The codes of a list of violations that block a location. -/
def blockingCodes (report : Report) (location : Location) (violations : List Violation) : List Nat :=
  (violations.map Violation.code).filter (report.blocks.issuesAt location).contains

/-- Takes codes away from those that block a location, which is free once none is left. -/
def unblock (blocks : Slots Nat) (location : Location) (codes : List Nat) : Slots Nat :=
  blocks.filterMap fun block =>
    if block.1 == location then
      let kept := block.2.filter fun code => !codes.contains code
      if kept.isEmpty then none else some (block.1, kept)
    else some block

/-- Takes the violations with certain codes away from a location.  Gives them as a report seen from there,
and the report that is left. -/
def pop (report : Report) (codes : List Nat) (location : Location) : Report × Report :=
  if report.violations.has location then
    let popped := (report.violations.issuesAt location).filter fun v => codes.contains v.code
    let kept := (report.violations.issuesAt location).filter fun v => !codes.contains v.code
    let blocking := report.blockingCodes location popped
    (popped.foldl (fun copy v => copy.addViolation v (!blocking.contains v.code) []) empty,
      { report with
        violations := report.violations.replace location kept
        blocks := unblock report.blocks location blocking })
  else (empty, report)

end Scim.Report
