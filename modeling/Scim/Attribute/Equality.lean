import Scim.Attribute

/-!
# Equality of attributes

Attributes are equal when their paths, kinds and characteristics are, and their hooks are the same ones.
Two references to resources are equal when they name equally many types and each type of the first is among
those of the second.

## Main results

* `Target.same_refl`: a target equals itself.
-/

namespace Scim

/-- Equality of what references may lead to. -/
def Target.same : Target → Target → Bool
  | .outside, .outside => true
  | .uri, .uri => true
  | .resource a, .resource b => a.length == b.length && a.all fun type => b.contains type
  | _, _ => false

theorem Target.same_refl (target : Target) : target.same target = true := by
  cases target <;> simp [same]

/-- Equality of canonical values, value by value in order, and of what other values are. -/
def sameCanonical : Option Canonical → Option Canonical → Bool
  | none, none => true
  | some a, some b => Json.sameItems a.values b.values && a.restricted == b.restricted
  | _, _ => false

/-- Equality of characteristics. -/
def Traits.same (a b : Traits) : Bool :=
  a.description == b.description && a.issuer == b.issuer && a.required == b.required
    && a.multiValued == b.multiValued && sameCanonical a.canonical b.canonical
    && a.mutability == b.mutability && a.returned == b.returned
    && a.caseExact == b.caseExact && a.uniqueness == b.uniqueness

mutual

/-- Equality of attributes. -/
def Attribute.same : Attribute → Attribute → Bool
  | ⟨path, kind, traits, hooks⟩, other =>
    path == other.path && Kind.same kind other.kind && traits.same other.traits
      && hooks.same other.hooks

/-- Equality of kinds. -/
def Kind.same : Kind → Kind → Bool
  | .unknown, .unknown => true
  | .boolean, .boolean => true
  | .integer, .integer => true
  | .decimal, .decimal => true
  | .string, .string => true
  | .binary, .binary => true
  | .dateTime, .dateTime => true
  | .reference a, .reference b => a.same b
  | .complex a, .complex b => sameAttributes a b
  | _, _ => false

/-- Equality of attributes in order. -/
def sameAttributes : List Attribute → List Attribute → Bool
  | [], [] => true
  | a :: as, b :: bs => a.same b && sameAttributes as bs
  | _, _ => false

end

end Scim
