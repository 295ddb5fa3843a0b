import Scim.Attribute
import Scim.Record.Address

/-!
# Leaving attributes out

A predicate on attributes selects a part of a declaration, and of the values declared by it.  A copy of an
attribute under a predicate keeps those of its sub-attributes that pass, and so on at every depth; a value
is projected onto the sub-attributes that pass, one level deep, inside lists of any depth.

Binding an attribute to a schema gives it, and its sub-attributes, the path by which the schema knows them.

## Main results

* `restrictAll_eq`: the attributes left are those that pass, in order, each restricted.
-/

namespace Scim

/-- A predicate on attributes. -/
abbrev Keep := Attribute → Bool

mutual

/-- The attribute with those sub-attributes that pass, at every depth. -/
def Attribute.restrict (keep : Keep) : Attribute → Attribute
  | ⟨path, kind, traits, hooks⟩ => ⟨path, Kind.restrict keep kind, traits, hooks⟩

/-- The kind with those sub-attributes that pass. -/
def Kind.restrict (keep : Keep) : Kind → Kind
  | .complex subs => .complex (restrictAll keep subs)
  | kind => kind

/-- Those attributes that pass, restricted in turn. -/
def restrictAll (keep : Keep) : List Attribute → List Attribute
  | [] => []
  | attr :: attrs =>
    if keep attr then attr.restrict keep :: restrictAll keep attrs else restrictAll keep attrs

end

theorem Attribute.path_restrict (keep : Keep) (attr : Attribute) : (attr.restrict keep).path = attr.path := by
  cases attr
  rw [restrict]

theorem restrictAll_eq (keep : Keep) (attrs : List Attribute) :
    restrictAll keep attrs = (attrs.filter keep).map (Attribute.restrict keep) := by
  induction attrs with
  | nil => rfl
  | cons attr attrs ih =>
    rw [restrictAll, ih, List.filter_cons]
    split <;> simp

namespace Attribute

/-- Copies an attribute, under another path and under a predicate if they are given.  The attribute itself
has to pass. -/
def copy (attr : Attribute) (path : Option Path) (keep : Option Keep) : Except Fault Attribute :=
  match keep with
  | none => .ok { attr with path := path.getD attr.path }
  | some keep =>
    if keep attr then .ok { attr.restrict keep with path := path.getD attr.path }
    else .error (.filteredOut attr.path.text)

/-- Gives an attribute its path within a schema, and its sub-attributes theirs. -/
def bindTo (attr : Attribute) (path : BoundPath) : Attribute :=
  { attr with
    path := .bound path
    kind := match attr.kind with
      | .complex subs => .complex (subs.map fun sub => { sub with path := .bound (path.withSub sub.name) })
      | kind => kind }

/-- The record of those sub-attributes that are declared, pass and have a value. -/
def projectRecord (keep : Keep) (subs : Attributes) (entries : Record) : Record :=
  (subs.filter keep).foldl
    (fun projected sub =>
      let value := entries.value sub.name.text
      if value.isMissing then projected else projected.insert sub.name.text value)
    []

mutual

/-- Projects a value onto sub-attributes. -/
def projectValue (keep : Keep) (subs : Attributes) : Value → Value
  | .list items => .list (projectItems keep subs items)
  | .record entries => .record (projectRecord keep subs entries)
  | value => value

/-- Projects every item of a list. -/
def projectItems (keep : Keep) (subs : Attributes) : List Value → List Value
  | [] => []
  | item :: items => projectValue keep subs item :: projectItems keep subs items

end

/-- Projects a value of the attribute onto the sub-attributes that pass; the value of an attribute without
sub-attributes stays. -/
def project (attr : Attribute) (keep : Keep) (value : Value) : Value :=
  match attr.subs? with
  | none => value
  | some subs => projectValue keep subs value

end Attribute

end Scim
