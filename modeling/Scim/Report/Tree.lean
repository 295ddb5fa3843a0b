import Scim.Report

/-!
# Reports as documents

A report is shown as a document that has the shape of the data: an object per key or index on the way to an
issue, and under the keys `_errors` and `_warnings` of an object the issues found right there.  Violations
are put in before advice, each kind in the order of the report, and an object's members stand in the order
in which they were first needed.

## Main results

* `Json.lookup_put`: a member that was set is found under its key.
-/

namespace Scim

namespace Json

/-- Sets a member of an object: in its place if the key is in use, else at the end. -/
def put (members : List (String × Json)) (key : String) (value : Json) : List (String × Json) :=
  if members.any fun m => m.1 == key then
    members.map fun m => if m.1 == key then (key, value) else m
  else members ++ [(key, value)]

/-- Sets a member of the object that a way of keys leads to.  Objects that are absent are created, and what
is not an object gives way to one. -/
def graft (members : List (String × Json)) : List String → String → Json → List (String × Json)
  | [], key, value => put members key value
  | step :: steps, key, value =>
    let inner := match members.lookup step with
      | some (.object inner) => inner
      | _ => []
    put members step (.object (graft inner steps key value))

theorem lookup_put (members : List (String × Json)) (key : String) (value : Json) :
    (put members key value).lookup key = some value := by
  induction members with
  | nil => simp [put]
  | cons member members ih =>
    obtain ⟨other, old⟩ := member
    by_cases h : other = key
    · simp [put, h]
    · have hk : (key == other) = false := beq_eq_false_iff_ne.2 (Ne.symm h)
      unfold put at ih ⊢
      simp only [List.any_cons, beq_eq_false_iff_ne.2 h, Bool.false_or]
      split at ih <;> rename_i hin <;> simp [hin, h, List.lookup_cons, hk] at ih ⊢ <;> exact ih

end Json

/-- An issue as an object: its code, and on demand its message and its context. -/
def issueObject (withMessage withContext : Bool) (code : Nat) (message : String)
    (context : List (String × Json)) : Json :=
  .object <|
    [("code", Json.number (.int code))]
      ++ (if withMessage then [("error", .text message)] else [])
      ++ (if withContext then [("context", .object context)] else [])

namespace Report

/-- Puts the issues of each location into an object, under one key. -/
def graftSlots {α : Type} (key : String) (render : α → Json) (slots : Slots α)
    (members : List (String × Json)) : List (String × Json) :=
  slots.occupied.foldl
    (fun members slot => Json.graft members (slot.1.map Segment.text) key (.list (slot.2.map render)))
    members

/-- The report as a document. -/
def tree (report : Report) (withMessage withContext : Bool) : Json :=
  .object <|
    graftSlots "_warnings"
      (fun a => issueObject withMessage withContext a.code a.message a.context) report.advice <|
    graftSlots "_errors"
      (fun v => issueObject withMessage withContext v.code v.message v.context) report.violations []

end Report

end Scim
