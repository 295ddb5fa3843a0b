import Scim.Attribute.Declaration

/-!
# Drafts of attributes

An attribute is declared in steps.  A draft starts with the name and the kind and with usual characteristics; each
setting replaces what was set before it, but for the checks of a service, which are added one after the other.
Building the draft declares the attribute, so what follows from several settings, such as the form in which canonical
texts are kept, does not depend on the order in which they were made.

## Main results

* `Draft.canonical_setAll`, `Draft.caseExact_setAll`: of several settings of canonical values, or of exactness, the
  last one counts.
* `Draft.exists_settings`: every declaration is made by settings.
-/

namespace Scim

/-- What was set so far of an attribute that is to be declared. -/
structure Draft where
  name : String
  kind : Kind
  traits : Traits := {}
  hooks : Hooks := {}

/-- One setting of a draft. -/
inductive Setting where
  | description (text : String)
  | issuer (issuer : Issuer)
  | required (required : Bool)
  | multiValued (multiValued : Bool)
  /-- The values that are expected, and whether others are a violation. -/
  | canonicalValues (values : List Json) (restricted : Bool)
  | mutability (mutability : Mutability)
  | returned (returned : Returned)
  | caseExact (exact : Bool)
  | uniqueness (uniqueness : Uniqueness)
  | check (check : Check)
  | serialize (conversion : Conversion)
  | deserialize (conversion : Conversion)

namespace Setting

/-- The canonical values that are set. -/
def canonical? : Setting → Option Canonical
  | .canonicalValues values restricted => some ⟨values, restricted⟩
  | _ => none

/-- Whether texts are to be exact, if that is set. -/
def exactness? : Setting → Option Bool
  | .caseExact exact => some exact
  | _ => none

end Setting

namespace Draft

/-- The draft after one more setting. -/
def set (draft : Draft) : Setting → Draft
  | .description description => { draft with traits := { draft.traits with description } }
  | .issuer issuer => { draft with traits := { draft.traits with issuer } }
  | .required required => { draft with traits := { draft.traits with required } }
  | .multiValued multiValued => { draft with traits := { draft.traits with multiValued } }
  | .canonicalValues values restricted =>
    { draft with traits := { draft.traits with canonical := some ⟨values, restricted⟩ } }
  | .mutability mutability => { draft with traits := { draft.traits with mutability } }
  | .returned returned => { draft with traits := { draft.traits with returned } }
  | .caseExact exact => { draft with traits := { draft.traits with caseExact := exact } }
  | .uniqueness uniqueness => { draft with traits := { draft.traits with uniqueness } }
  | .check check => { draft with hooks := { draft.hooks with checks := draft.hooks.checks ++ [check] } }
  | .serialize conversion => { draft with hooks := { draft.hooks with serialize := some conversion } }
  | .deserialize conversion => { draft with hooks := { draft.hooks with deserialize := some conversion } }

/-- The draft after several settings. -/
def setAll (draft : Draft) (settings : List Setting) : Draft := settings.foldl set draft

/-- Declares the attribute. -/
def build (draft : Draft) : Except Fault Attribute :=
  Attribute.declare draft.name draft.kind draft.traits draft.hooks

/-- The kind is what a draft starts with. -/
theorem kind_setAll (draft : Draft) (settings : List Setting) : (draft.setAll settings).kind = draft.kind := by
  induction settings generalizing draft with
  | nil => rfl
  | cons setting settings ih => exact (ih (draft.set setting)).trans (by cases setting <;> rfl)

/-- Of several settings of canonical values the last one counts. -/
theorem canonical_setAll (draft : Draft) (settings : List Setting) :
    (draft.setAll settings).traits.canonical =
      ((settings.filterMap Setting.canonical?).getLast?).or draft.traits.canonical := by
  induction settings generalizing draft with
  | nil => rfl
  | cons setting settings ih =>
    refine (ih (draft.set setting)).trans ?_
    cases setting with
    | canonicalValues values restricted =>
      have hfirst : (Setting.canonicalValues values restricted :: settings).filterMap Setting.canonical? =
          ⟨values, restricted⟩ :: settings.filterMap Setting.canonical? := List.filterMap_cons_some rfl
      rw [hfirst, List.getLast?_cons]
      cases (settings.filterMap Setting.canonical?).getLast? <;> rfl
    | _ => rw [List.filterMap_cons_none rfl]; rfl

/-- Of several settings of exactness the last one counts. -/
theorem caseExact_setAll (draft : Draft) (settings : List Setting) :
    (draft.setAll settings).traits.caseExact =
      ((settings.filterMap Setting.exactness?).getLast?).getD draft.traits.caseExact := by
  induction settings generalizing draft with
  | nil => rfl
  | cons setting settings ih =>
    refine (ih (draft.set setting)).trans ?_
    cases setting with
    | caseExact exact =>
      have hfirst : (Setting.caseExact exact :: settings).filterMap Setting.exactness? =
          exact :: settings.filterMap Setting.exactness? := List.filterMap_cons_some rfl
      rw [hfirst, List.getLast?_cons]
      cases (settings.filterMap Setting.exactness?).getLast? <;> rfl
    | _ => rw [List.filterMap_cons_none rfl]; rfl

/-- Checks are added one after the other. -/
theorem setAll_checks (draft : Draft) (checks : List Check) :
    draft.setAll (checks.map .check) =
      { draft with hooks := { draft.hooks with checks := draft.hooks.checks ++ checks } } := by
  induction checks generalizing draft with
  | nil => simp [setAll]
  | cons check checks ih =>
    refine (ih (draft.set (.check check))).trans ?_
    simp [set]

/-- Every declaration is made by settings. -/
theorem exists_settings (name : String) (kind : Kind) (traits : Traits) (hooks : Hooks) :
    ∃ settings, (setAll { name, kind } settings).build = Attribute.declare name kind traits hooks := by
  obtain ⟨description, issuer, required, multiValued, canonical, mutability, returned, caseExact, uniqueness⟩ := traits
  obtain ⟨checks, serialize, deserialize⟩ := hooks
  refine ⟨[.description description, .issuer issuer, .required required, .multiValued multiValued,
    .mutability mutability, .returned returned, .caseExact caseExact, .uniqueness uniqueness] ++
    (canonical.toList.map fun canonical => .canonicalValues canonical.values canonical.restricted) ++
    serialize.toList.map .serialize ++ deserialize.toList.map .deserialize ++ checks.map .check, ?_⟩
  rw [setAll, List.foldl_append, ← setAll, setAll_checks]
  cases canonical <;> cases serialize <;> cases deserialize <;> rfl

end Draft

end Scim
