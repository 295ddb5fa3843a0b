import Mathlib.Data.List.Basic
import Scim.Presence
import Scim.Proofs.Report.Soundness

/-!
# What a check of presence looks at

A check walks over the attributes and, inside the values that are there, over their sub-attributes, and at
every stop it judges one value by itself and writes the judgement down at one location.  No judgement depends
on another one.  So the walk can be told apart from the judgements: it is a list of the values that are
examined, each with its attribute and its location, and the report is made of the findings on this list.

## Main results

* `check_eq`: a check merges the reports on the examined values one after the other.
* `issuesAt_check`: the issues of a check at a location are the findings on the values examined there.
-/

namespace Scim.Presence

variable {presence : Presence} {message : Message}

/-- A value that is examined, and what it is judged by. -/
structure Examined where
  attr : Attribute
  path : BoundPath
  /-- Whether the attribute has to be there at all. -/
  inScope : Bool
  value : Value
  location : Location

/-! ## The walk -/

/-- What is examined of a sub-attribute of a record. -/
def subIn (inScope : Bool) (sub : Attribute) (path : BoundPath) (location : Location) (entries : Record) :
    Examined :=
  ⟨sub, path, inScope, entries.value sub.name.text, location ++ [.ofName sub.name]⟩

/-- What is examined of a sub-attribute of a value: one value in a single record, or one in each record of a
list in which it was not rejected before. -/
def examinedSub (inScope multiValued : Bool) (value : Value) (location : Location) (sub : Attribute) :
    List Examined :=
  match sub.path, multiValued, value with
  | .bound path, false, .record entries => [subIn inScope sub path location entries]
  | .bound path, true, .list items =>
    items.zipIdx.flatMap fun (item, i) =>
      match item with
      | .record entries =>
        if (Record.value entries sub.name.text).isInvalid then []
        else [subIn inScope sub path (location ++ [.index i]) entries]
      | _ => []
  | _, _, _ => []

/-- What is examined of an attribute: its value and, if that is there, those of its sub-attributes. -/
def examinedAttribute (attrs : SchemaAttributes) (record : Record) (attr : Attribute) : List Examined :=
  match attr.path with
  | .unbound _ => []
  | .bound path =>
    let inScope := !path.extension || (attrs.extension? path.schema).any (·.required)
    let value := record.get (Place.ofBound path)
    ⟨attr, path, inScope, value, path.location⟩ ::
      if value.isAbsent || value.isInvalid then []
      else ((attr.subs?).getD []).flatMap
        (examinedSub inScope attr.traits.multiValued value path.location)

/-- What is examined in a record. -/
def examined (attrs : SchemaAttributes) (record : Record) : List Examined :=
  attrs.all.flatMap (examinedAttribute attrs record)

/-! ## The judgements -/

/-- The report on an examined value. -/
def reportOn (presence : Presence) (message : Message) (seen : Examined) : Report :=
  presence.checkValue message seen.attr seen.path seen.inScope seen.value

/-- Adds the reports on examined values, each at its location. -/
def mergeAll (presence : Presence) (message : Message) (report : Report) (seen : List Examined) : Report :=
  seen.foldl (fun report one => report.merge (presence.reportOn message one) one.location) report

/-- Examining one list after the other is examining both in turn. -/
theorem foldl_mergeAll {α : Type} (walk : α → List Examined) (stops : List α) (report : Report) :
    stops.foldl (fun report stop => presence.mergeAll message report (walk stop)) report =
      presence.mergeAll message report (stops.flatMap walk) := by
  rw [mergeAll, List.foldl_flatMap]
  rfl

theorem checkSub_eq (inScope multiValued : Bool) (value : Value) (location : Location) (report : Report)
    (sub : Attribute) :
    presence.checkSub message inScope multiValued value location report sub =
      presence.mergeAll message report (examinedSub inScope multiValued value location sub) := by
  cases hpath : sub.path with
  | unbound _ =>
    simp only [checkSub, examinedSub, hpath]
    rfl
  | bound path =>
    cases multiValued with
    | false => cases value <;> simp only [checkSub, examinedSub, hpath] <;> rfl
    | true =>
      cases value with
      | list items =>
        simp only [checkSub, examinedSub, hpath, ← foldl_mergeAll]
        congr 1
        funext report numbered
        obtain ⟨item, i⟩ := numbered
        cases item with
        | record entries =>
          dsimp only
          split <;> rfl
        | _ => rfl
      | _ =>
        simp only [checkSub, examinedSub, hpath]
        rfl

theorem checkAttribute_eq (attrs : SchemaAttributes) (record : Record) (report : Report) (attr : Attribute) :
    presence.checkAttribute message attrs record report attr =
      presence.mergeAll message report (examinedAttribute attrs record attr) := by
  unfold checkAttribute examinedAttribute
  cases attr.path with
  | unbound _ => rfl
  | bound path =>
    dsimp only
    split
    · rfl
    · rw [mergeAll, List.foldl_cons]
      refine Eq.trans ?_ (foldl_mergeAll _ _ _)
      congr 1
      funext report sub
      exact checkSub_eq _ _ _ _ report sub

/-- A check merges the reports on all examined values, in the order of the walk. -/
theorem check_eq (attrs : SchemaAttributes) (record : Record) :
    presence.check message attrs record =
      presence.mergeAll message .empty (examined attrs record) := by
  rw [check, examined, ← foldl_mergeAll]
  congr 1
  funext report attr
  exact checkAttribute_eq attrs record report attr

/-! ## What is found -/

/-- Whether a message has to have the attribute. -/
def demands (presence : Presence) (message : Message) (attr : Attribute) (path : BoundPath) (inScope : Bool) :
    Bool :=
  attr.traits.required && inScope && !(message == .request && presence.isProvided attr path)
    && presence.isExpected message attr path

/-- The violation that the attribute is in a message at all. -/
def refusal? (presence : Presence) (message : Message) (attr : Attribute) (path : BoundPath) :
    Option Violation :=
  match message with
  | .request => if presence.isProvided attr path then some .notForRequest else none
  | .response => if presence.mayReturn attr.traits.returned path then none else some .notForResponse

/-- What is found about an examined value. -/
def finding? (presence : Presence) (message : Message) (seen : Examined) : Option Violation :=
  if isPresent seen.value then presence.refusal? message seen.attr seen.path
  else if presence.demands message seen.attr seen.path seen.inScope then some .missing
  else none

/-- The report on a value is that of the finding, and only a missing value stops further checks. -/
theorem reportOn_eq (presence : Presence) (message : Message) (seen : Examined) :
    presence.reportOn message seen =
      match presence.finding? message seen with
      | none => .empty
      | some .missing => .ofViolation .missing false
      | some violation => .ofViolation violation true := by
  unfold reportOn checkValue finding? refusal? demands
  dsimp only
  cases isPresent seen.value with
  | true =>
    cases message with
    | request => cases presence.isProvided seen.attr seen.path <;> rfl
    | response => cases presence.mayReturn seen.attr.traits.returned seen.path <;> rfl
  | false =>
    simp only [Bool.false_eq_true, if_false]
    split <;> rfl

theorem sound_reportOn (presence : Presence) (message : Message) (seen : Examined) :
    (presence.reportOn message seen).Sound := by
  rw [reportOn_eq]
  split
  · exact Report.Sound.empty
  · exact Report.Sound.ofViolation _ _
  · exact Report.Sound.ofViolation _ _

theorem issuesAt_reportOn (presence : Presence) (message : Message) (seen : Examined) (location : Location) :
    (presence.reportOn message seen).violations.issuesAt location =
      if ([] : Location) == location then (presence.finding? message seen).toList else [] := by
  have hadd : ∀ (violation : Violation) (proceed : Bool),
      (Report.ofViolation violation proceed).violations.issuesAt location =
        if ([] : Location) == location then [violation] else [] :=
    fun violation _ => Slots.issuesAt_add [] [] [violation] location
  rw [reportOn_eq]
  split
  · next hnone => simp [hnone, Report.empty, Slots.issuesAt_nil]
  · next hmissing => rw [hmissing, hadd, Option.toList_some]
  · next violation _ hsome => rw [hsome, hadd, Option.toList_some]

theorem issuesAt_mergeAll (report : Report) (seen : List Examined) (location : Location) :
    (presence.mergeAll message report seen).violations.issuesAt location =
      report.violations.issuesAt location ++
        (seen.filter fun one => one.location == location).filterMap (presence.finding? message) := by
  induction seen generalizing report with
  | nil => simp [mergeAll]
  | cons one seen ih =>
    have hstep : (presence.mergeAll message report (one :: seen)).violations.issuesAt location = _ :=
      ih (report.merge (presence.reportOn message one) one.location)
    have hone := Slots.issuesAt_merge report.violations (sound_reportOn presence message one).violations
      one.location location
    have hhere : (one.location == location) =
        (location.startsWith one.location && ([] : Location) == location.drop one.location.length) := by
      rw [Bool.eq_iff_iff, Bool.and_eq_true, ← Location.append_beq_iff, List.append_nil]
    rw [hstep, Report.merge, hone, issuesAt_reportOn, List.append_assoc, List.filter_cons, hhere]
    cases location.startsWith one.location <;> cases ([] : Location) == location.drop one.location.length <;>
      cases hfound : presence.finding? message one <;> simp [hfound]

/-- The issues of a check at a location are the findings on the values examined there, in the order of the
walk. -/
theorem issuesAt_check (attrs : SchemaAttributes) (record : Record) (location : Location) :
    (presence.check message attrs record).violations.issuesAt location =
      ((examined attrs record).filter fun seen => seen.location == location).filterMap
        (presence.finding? message) := by
  rw [check_eq, issuesAt_mergeAll]
  rfl

end Scim.Presence
