import Scim.Attribute.Projection
import Scim.Catalog

/-!
# Attributes under schemas

The attributes of a schema are bound to it: each goes by a path that names the schema, and so does each of
its sub-attributes.  Beside its own attributes a schema offers those of the extensions attached to it, every
extension under its own identifier.

An attribute is found by its path.  A path that names a schema is looked up under that schema only; one that
names none is looked up among the schema's own attributes first and then in the extensions, in the order
in which they were attached.

## Main results

* `AttributeSet.path_of_mem`: every attribute of a set is bound to the schema of the set.
* `SchemaAttributes.find?_foreign`: a path of a schema that is not attached finds nothing.
-/

namespace Scim

/-! ## The attributes of one schema -/

/-- The attributes declared under one schema identifier. -/
structure AttributeSet where
  schema : SchemaUri
  /-- Whether the schema is an extension. -/
  extension : Bool
  /-- Whether resources have to have the data of this set, if it is attached. -/
  required : Bool := false
  /-- The attributes as they were declared, not bound to the schema. -/
  declared : Attributes
  /-- The names, in lower case, of those attributes that all resources share. -/
  shared : List String := []

namespace AttributeSet

/-- The path of an attribute of the set. -/
def pathOf (set : AttributeSet) (name : AttrName) : BoundPath :=
  ⟨set.schema, set.extension, ⟨name, none⟩⟩

/-- The attributes of the set, bound to its schema. -/
def attrs (set : AttributeSet) : Attributes :=
  set.declared.map fun attr => attr.bindTo (set.pathOf attr.name)

/-- The attributes that all resources share. -/
def sharedAttrs (set : AttributeSet) : Attributes :=
  set.attrs.filter fun attr => set.shared.contains attr.name.folded

/-- The attributes that only resources of this schema have. -/
def coreAttrs (set : AttributeSet) : Attributes :=
  set.attrs.filter fun attr => !set.shared.contains attr.name.folded

/-- Declares attributes under a registered schema, whose identifier a text spells.  Of several attributes
with the same name the last one counts. -/
def declare (catalog : Catalog) (schema : String) (attrs : List Attribute) (shared : List String) :
    Except Fault AttributeSet :=
  match catalog.find? schema with
  | none => .error (.unknownSchema schema)
  | some entry => .ok {
      schema := entry.uri
      extension := entry.extension
      declared := Attributes.collect attrs
      shared := shared.map Text.lower }

/-- The set with those attributes that pass a predicate, restricted in turn. -/
def restrict (set : AttributeSet) (keep : Keep) : AttributeSet :=
  { set with declared := restrictAll keep set.declared }

theorem path_of_mem {set : AttributeSet} {attr : Attribute} (h : attr ∈ set.attrs) :
    ∃ name, attr.path = .bound (set.pathOf name) := by
  obtain ⟨declared, _, rfl⟩ := List.mem_map.1 h
  exact ⟨declared.name, rfl⟩

end AttributeSet

/-! ## The attributes of a schema and its extensions -/

/-- The own attributes of a schema and those of the extensions attached to it. -/
structure SchemaAttributes where
  own : AttributeSet
  extensions : List AttributeSet := []

namespace SchemaAttributes

/-- All attributes, own ones first. -/
def all (attrs : SchemaAttributes) : Attributes :=
  attrs.own.attrs ++ attrs.extensions.flatMap AttributeSet.attrs

/-- The attributes of an attached extension. -/
def extension? (attrs : SchemaAttributes) (schema : SchemaUri) : Option AttributeSet :=
  attrs.extensions.find? fun set => set.schema == schema

/-- The attributes among which a path is looked up. -/
def candidates (attrs : SchemaAttributes) : Path → Attributes
  | .unbound _ => attrs.all
  | .bound path =>
    match attrs.extension? path.schema with
    | some set => set.attrs
    | none => if path.schema == attrs.own.schema then attrs.own.attrs else []

/-- The attribute or sub-attribute that a path leads to.  An attribute that is not complex has no
sub-attributes to ask for. -/
def find? (attrs : SchemaAttributes) (path : Path) : Except Fault (Option Attribute) :=
  match (attrs.candidates path).find? path.rep.attr, path.rep.sub with
  | none, _ => .ok none
  | some attr, none => .ok (some attr)
  | some attr, some sub =>
    match attr.subs? with
    | some subs => .ok (subs.find? sub)
    | none => .error (.notComplex attr.path.text)

/-- The attribute or sub-attribute that a text leads to. -/
def lookup (attrs : SchemaAttributes) (catalog : Catalog) (text : String) :
    Except Fault (Option Attribute) := do
  attrs.find? (← Path.parse catalog text)

/-- Attaches an extension under a registered identifier, that of the schema itself and of the extensions
attached before excepted. -/
def extend (attrs : SchemaAttributes) (catalog : Catalog) (declared : List Attribute) (schema : String)
    (required : Bool) : Except Fault SchemaAttributes := do
  let set ← AttributeSet.declare catalog schema declared []
  if set.schema == attrs.own.schema || (attrs.extension? set.schema).isSome then
    .error (.extensionTaken attrs.own.schema.text set.schema.text)
  else .ok { attrs with extensions := attrs.extensions ++ [{ set with required }] }

/-- The attributes that pass a predicate, restricted in turn.  Every extension stays attached. -/
def restrict (attrs : SchemaAttributes) (keep : Keep) : SchemaAttributes where
  own := attrs.own.restrict keep
  extensions := attrs.extensions.map fun set => set.restrict keep

theorem find?_foreign {attrs : SchemaAttributes} {path : BoundPath}
    (hown : (path.schema == attrs.own.schema) = false) (hext : attrs.extension? path.schema = none) :
    attrs.find? (.bound path) = .ok none := by
  simp [find?, candidates, hext, hown, Attributes.find?]

end SchemaAttributes

end Scim
