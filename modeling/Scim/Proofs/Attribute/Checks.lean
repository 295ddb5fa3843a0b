import Scim.Attribute.Validation
import Scim.Proofs.Report.Soundness
import Scim.Schema.Attributes
import Scim.Schema.SharedAttributes

/-!
# What checks report of a single value

A check looks at one value and reports what is wrong with it.  The built-in checks record everything at the
root of the value, and their reports are reached by recording alone.  A check of a service may report anything
at any depth; what can be asked of it is that it blocks the value as a whole or not at all.

Hooks hang on attributes at every depth, so what is asked of the checks of an attribute is asked at every
depth.

## Main results

* `AttributeSet.everyCheck_attrs`: what is asked of the checks that are declared is asked of those of bound attributes.
* `RootOnly`: the reports that block a value as a whole or not at all.
* `Check.run_rootOnly`: every check gives such a report, if those of the service do.
-/

namespace Scim

/-! ## Checks at every depth -/

mutual

/-- Whether all checks of an attribute and of its sub-attributes have a property. -/
def Attribute.EveryCheck (P : Check → Prop) : Attribute → Prop
  | ⟨_, kind, _, hooks⟩ => (∀ check ∈ hooks.checks, P check) ∧ Kind.EveryCheck P kind

/-- Whether all checks of the sub-attributes of a kind have a property. -/
def Kind.EveryCheck (P : Check → Prop) : Kind → Prop
  | .complex subs => everyCheck P subs
  | _ => True

/-- Whether all checks of some attributes and of their sub-attributes have a property. -/
def everyCheck (P : Check → Prop) : List Attribute → Prop
  | [] => True
  | attr :: attrs => attr.EveryCheck P ∧ everyCheck P attrs

end

mutual

/-- A weaker property is one of all checks as well. -/
theorem Attribute.EveryCheck.imp {P Q : Check → Prop} (h : ∀ check, P check → Q check) :
    ∀ {attr : Attribute}, attr.EveryCheck P → attr.EveryCheck Q
  | ⟨_, _, _, _⟩, hattr => ⟨fun check hcheck => h check (hattr.1 check hcheck), Kind.EveryCheck.imp h hattr.2⟩

theorem Kind.EveryCheck.imp {P Q : Check → Prop} (h : ∀ check, P check → Q check) :
    ∀ {kind : Kind}, kind.EveryCheck P → kind.EveryCheck Q
  | .complex _, hkind => everyCheck_imp h hkind
  | .unknown, _ => trivial
  | .boolean, _ => trivial
  | .integer, _ => trivial
  | .decimal, _ => trivial
  | .string, _ => trivial
  | .binary, _ => trivial
  | .dateTime, _ => trivial
  | .reference _, _ => trivial

theorem everyCheck_imp {P Q : Check → Prop} (h : ∀ check, P check → Q check) :
    ∀ {attrs : List Attribute}, everyCheck P attrs → everyCheck Q attrs
  | [], _ => trivial
  | _ :: _, hattrs => ⟨Attribute.EveryCheck.imp h hattrs.1, everyCheck_imp h hattrs.2⟩

end

section

variable {P : Check → Prop}

theorem everyCheck_iff {attrs : List Attribute} : everyCheck P attrs ↔ ∀ attr ∈ attrs, attr.EveryCheck P := by
  induction attrs with
  | nil => exact iff_of_true trivial (List.forall_mem_nil _)
  | cons attr attrs ih => rw [everyCheck, ih, List.forall_mem_cons]

/-- Binding an attribute changes none of its checks. -/
theorem Attribute.EveryCheck.bindTo {attr : Attribute} (h : attr.EveryCheck P) (path : BoundPath) :
    (attr.bindTo path).EveryCheck P := by
  obtain ⟨_, kind, traits, hooks⟩ := attr
  cases kind with
  | complex subs =>
    refine ⟨h.1, everyCheck_iff.2 fun bound hbound => ?_⟩
    obtain ⟨⟨_, _, _, _⟩, hsub, rfl⟩ := List.mem_map.1 hbound
    have hevery := everyCheck_iff.1 h.2 _ hsub
    exact hevery
  | _ => exact ⟨h.1, trivial⟩

/-- The attributes of a set have the checks that were declared. -/
theorem AttributeSet.everyCheck_attrs {set : AttributeSet} (h : ∀ attr ∈ set.declared, attr.EveryCheck P) :
    ∀ attr ∈ set.attrs, attr.EveryCheck P := by
  intro attr hattr
  obtain ⟨declared, hdeclared, rfl⟩ := List.mem_map.1 hattr
  exact (h declared hdeclared).bindTo _

/-- The attributes that every resource has come without checks. -/
theorem everyCheck_sharedAttributes : ∀ attr ∈ sharedAttributes, attr.EveryCheck P := by
  have hnone : ∀ check ∈ ([] : List Check), P check := List.forall_mem_nil P
  simp only [sharedAttributes, List.forall_mem_cons]
  refine ⟨⟨hnone, trivial⟩, ⟨hnone, trivial⟩, ⟨hnone, trivial⟩, ⟨hnone, ?_⟩, List.forall_mem_nil _⟩
  exact ⟨⟨hnone, trivial⟩, ⟨hnone, trivial⟩, ⟨hnone, trivial⟩, ⟨hnone, trivial⟩, ⟨hnone, trivial⟩, trivial⟩

end

/-! ## Reports that block at the root only -/

/-- A sound report that blocks nothing but the value as a whole. -/
structure RootOnly (report : Report) : Prop where
  sound : report.Sound
  root : ∀ block ∈ report.blocks, block.1 = []

namespace RootOnly

theorem empty : RootOnly .empty := ⟨.empty, fun _ hblock => nomatch hblock⟩

theorem ofViolation (violation : Violation) (proceed : Bool) :
    RootOnly (.ofViolation violation proceed) := by
  refine ⟨.ofViolation violation proceed, fun block hblock => ?_⟩
  cases proceed with
  | true => cases hblock
  | false => rw [List.mem_singleton.1 hblock]

/-- A rule that is kept is not reported, and one that is broken blocks the value. -/
theorem require (fine : Bool) (violation : Violation) :
    RootOnly (if fine then .empty else .ofViolation violation false) := by
  split
  · exact .empty
  · exact .ofViolation violation false

theorem addAdvice {report : Report} (h : RootOnly report) (advice : Advice) (location : Location) :
    RootOnly (report.addAdvice advice location) :=
  ⟨h.sound.addAdvice advice location, h.root⟩

/-- Recording things one after the other that do not block. -/
theorem foldl {β : Type} {step : Report → β → Report}
    (hstep : ∀ report found, RootOnly report → RootOnly (step report found)) (list : List β)
    {report : Report} (h : RootOnly report) : RootOnly (list.foldl step report) := by
  induction list generalizing report with
  | nil => exact h
  | cons found list ih => exact ih (hstep report found h)

end RootOnly

/-! ## Built-in checks -/

variable {catalog : Catalog}

theorem Kind.checkType_rootOnly (kind : Kind) (value : Value) : RootOnly (kind.checkType value) := by
  unfold Kind.checkType
  exact .require _ _

theorem Traits.checkCanonical_rootOnly (traits : Traits) (value : Value) :
    RootOnly (traits.checkCanonical value).1 := by
  unfold Traits.checkCanonical
  split
  · exact .empty
  · split
    · exact .empty
    · split
      · exact .ofViolation _ _
      · exact .addAdvice .empty _ _

theorem Kind.checkText_rootOnly (kind : Kind) (text : String) :
    RootOnly (kind.checkText catalog text) := by
  unfold Kind.checkText
  split
  · exact .require _ _
  · exact .require _ _
  · exact .require _ _
  · exact .require _ _
  · exact .empty

theorem checkSinglePrimary_rootOnly (value : Value) : RootOnly (checkSinglePrimary value) := by
  unfold checkSinglePrimary
  split
  · exact .ofViolation _ _
  · exact .empty

theorem checkDistinctPairs_rootOnly (value : Value) : RootOnly (checkDistinctPairs value) :=
  .foldl (fun _ _ h => h.addAdvice _ _) _ .empty

/-- What is asked of the check of a service: it blocks the value as a whole or not at all. -/
def Check.BlocksRootOnly : Check → Prop
  | .custom _ run => ∀ value, (run value).Reachable ∧ ∀ block ∈ (run value).blocks, block.1 = []
  | _ => True

/-- A check that comes with the shape of an attribute, and not from a service. -/
def Check.BuiltIn (check : Check) : Prop := ∀ identity run, check ≠ .custom identity run

theorem Check.BuiltIn.blocksRootOnly {check : Check} (h : check.BuiltIn) : check.BlocksRootOnly := by
  cases check with
  | custom identity run => exact absurd rfl (h identity run)
  | _ => trivial

theorem Check.run_rootOnly {check : Check} (h : check.BlocksRootOnly) (value : Value) :
    RootOnly (check.run value) := by
  cases check with
  | singlePrimary => exact checkSinglePrimary_rootOnly value
  | distinctPairs => exact checkDistinctPairs_rootOnly value
  | custom identity run => exact ⟨(h value).1.sound, (h value).2⟩

end Scim
