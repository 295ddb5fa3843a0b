import Scim.Attribute

/-!
# Declaring attributes

An attribute is declared by its name, its kind and what deviates from the usual characteristics.  Three
things follow from the rest: binary data and references are always case-exact; the canonical texts of an
attribute that is not case-exact are kept in lower case; and a multi-valued complex attribute brings the
checks with it that its sub-attributes allow.  Without sub-attributes it has those by convention, `value`,
`display`, `type`, `primary` and `$ref`.

## Main results

* `Attribute.declare_error`: the only fault of a declaration is a malformed name.
-/

namespace Scim

open Text

namespace Attribute

/-- An attribute with a well-formed name and usual characteristics but for those given. -/
def simple (name : AttrName) (kind : Kind) (traits : Traits) : Attribute :=
  ⟨.unbound ⟨name, none⟩, kind, traits, {}⟩

/-- The sub-attributes that a multi-valued complex attribute has by convention. -/
def conventionalSubs : Attributes := [
  simple ⟨"value", by decide⟩ .unknown {},
  simple ⟨"display", by decide⟩ .string { mutability := .immutable },
  simple ⟨"type", by decide⟩ .string {},
  simple ⟨"primary", by decide⟩ .boolean {},
  simple ⟨"$ref", by decide⟩ (.reference .uri) { caseExact := true }]

/-- The checks that the sub-attributes of a multi-valued complex attribute allow. -/
def shapeChecks (subs : Attributes) : List Check :=
  (if (subs.spelled? "primary").isSome then [.singlePrimary] else [])
    ++ (if (subs.spelled? "type").isSome && (subs.spelled? "value").isSome then [.distinctPairs] else [])

/-- Whether a kind is case-exact whatever is declared. -/
def isAlwaysExact : Kind → Bool
  | .binary => true
  | .reference _ => true
  | _ => false

/-- A canonical value as it is kept. -/
def keptCanonical (caseExact : Bool) : Json → Json
  | .text s => .text (if caseExact then s else lower s)
  | json => json

/-- The kind that is declared by a kind, given whether the attribute is multi-valued. -/
def declaredKind (multiValued : Bool) : Kind → Kind
  | .complex [] => .complex (if multiValued then conventionalSubs else [])
  | kind => kind

/-- Declares an attribute. -/
def declare (name : String) (kind : Kind) (traits : Traits := {}) (hooks : Hooks := {}) :
    Except Fault Attribute := do
  let name ← AttrName.parse name
  let kind := declaredKind traits.multiValued kind
  let caseExact := traits.caseExact || isAlwaysExact kind
  return {
    path := .unbound ⟨name, none⟩
    kind
    traits := { traits with
      caseExact
      canonical := traits.canonical.map fun canonical =>
        { canonical with values := canonical.values.map (keptCanonical caseExact) } }
    hooks := { hooks with
      checks := match traits.multiValued, kind with
        | true, .complex subs => hooks.checks ++ shapeChecks subs
        | _, _ => hooks.checks } }

theorem declare_error {name : String} {kind : Kind} {traits : Traits} {hooks : Hooks} {fault : Fault}
    (h : declare name kind traits hooks = .error fault) : fault = .invalidName name := by
  unfold declare AttrName.parse at h
  split at h
  · cases h
  · exact (Except.error.inj h).symm

end Attribute

end Scim
