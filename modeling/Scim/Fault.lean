/-!
# Faults

A fault is a mistake of the program that declares a schema or addresses a record, never a defect of the
data it checks: those are issues and are collected in a report.  Each constructor is one cause and
carries the texts that tell where it arose; the wording stands in one place, `Fault.message`.

What is done under two names of one thing may be refused under both, for reasons that name it differently, or
come out the same under both.  `Alike` is that relation between outcomes.

## Main results

* `Alike.bind`: outcomes stay alike when what follows keeps them so.
-/

namespace Scim

/-- Why a declaration or an access by path was refused. -/
inductive Fault where
  /-- A text does not follow the grammar of attribute names. -/
  | invalidName (name : String)
  /-- A text does not follow the grammar of schema identifiers. -/
  | invalidUri (uri : String)
  /-- A text does not follow the grammar of attribute paths. -/
  | invalidPath (path : String)
  /-- A schema identifier is well formed and was never registered. -/
  | unknownSchema (uri : String)
  /-- A schema identifier was registered before. -/
  | schemaTaken (uri : String)
  /-- The name of a resource type was registered before. -/
  | resourceTaken (name : String)
  /-- An extension is attached to its schema already. -/
  | extensionTaken (schema uri : String)
  /-- A sub-attribute was asked of an attribute that has none. -/
  | notComplex (attr : String)
  /-- An attribute does not pass the predicate it was to be copied under. -/
  | filteredOut (attr : String)
  /-- A value cannot hold the sub-attribute that was to be written below it. -/
  | cannotHold (target sub : String)
  /-- Two sort values have no common order. -/
  | incomparable (left right : String)
deriving DecidableEq, Repr

/-- The sentence that reports a fault. -/
def Fault.message : Fault → String
  | .invalidName name => "'" ++ name ++ "' is not a valid attribute name"
  | .invalidUri uri => "'" ++ uri ++ "' is not a valid schema URI"
  | .invalidPath path => "'" ++ path ++ "' is not a valid attribute path"
  | .unknownSchema uri => "Unknown schema: " ++ uri
  | .schemaTaken uri => "Schema '" ++ uri ++ "' is already registered"
  | .resourceTaken name => "Resource type '" ++ name ++ "' is already registered"
  | .extensionTaken schema uri => "Extension '" ++ uri ++ "' is already attached to '" ++ schema ++ "'"
  | .notComplex attr => "Attribute '" ++ attr ++ "' is not complex"
  | .filteredOut attr => "Attribute '" ++ attr ++ "' does not match the filter"
  | .cannotHold target sub => "Can not assign sub-attribute '" ++ sub ++ "' to '" ++ target ++ "'"
  | .incomparable left right => "Can not compare " ++ left ++ " with " ++ right ++ " while sorting"

/-! ## Outcomes -/

/-- Outcomes are alike if both are faults, whichever, or both are results and these are related. -/
inductive Alike {α β : Type} (related : α → β → Prop) : Except Fault α → Except Fault β → Prop
  | refused (fault other : Fault) : Alike related (.error fault) (.error other)
  | done {a : α} {b : β} (h : related a b) : Alike related (.ok a) (.ok b)

namespace Alike

variable {α β γ δ : Type} {related : α → β → Prop} {results : γ → δ → Prop}
  {outcome : Except Fault α} {other : Except Fault β}

theorem bind (h : Alike related outcome other) {next : α → Except Fault γ} {otherNext : β → Except Fault δ}
    (hnext : ∀ a b, related a b → Alike results (next a) (otherNext b)) :
    Alike results (outcome.bind next) (other.bind otherNext) := by
  cases h with
  | refused fault other => exact .refused fault other
  | done hrelated => exact hnext _ _ hrelated

theorem map (h : Alike related outcome other) {f : α → γ} {g : β → δ}
    (hresults : ∀ a b, related a b → results (f a) (g b)) :
    Alike results (outcome.map f) (other.map g) := by
  cases h with
  | refused fault other => exact .refused fault other
  | done hrelated => exact .done (hresults _ _ hrelated)

theorem toOption (h : Alike related outcome other) : Option.Rel related outcome.toOption other.toOption := by
  cases h with
  | refused fault other => exact .none
  | done hrelated => exact .some hrelated

end Alike

end Scim
