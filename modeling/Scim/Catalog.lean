import Scim.Name

/-!
# The catalog of schemas and resource types

Every schema identifier in use is registered once, together with the flag that says whether it names a
schema extension; the data of an extension sits in a container of its own inside a record, so the flag
decides where an attribute is found.  Resource types are registered with the endpoint that serves them,
which is what references between resources are checked against.

Schemas are found without regard to case and keep the casing of their registration; the names of resource
types are compared exactly.  Nothing is ever taken out of a catalog.

## Main results

* `addSchema_ok`: a schema is added at the end, under a name that no earlier one has.
* `addResource_ok`: likewise a resource type.
-/

namespace Scim

/-- A registered schema. -/
structure SchemaEntry where
  uri : SchemaUri
  /-- Whether the schema extends others, so that its data has a container of its own. -/
  extension : Bool

/-- A registered resource type and the endpoint that serves its resources. -/
structure ResourceType where
  name : String
  endpoint : String
deriving DecidableEq, Repr

/-- All that has been registered so far, oldest first. -/
structure Catalog where
  schemas : List SchemaEntry := []
  resources : List ResourceType := []

namespace Catalog

/-- The entry of an identifier, in any casing. -/
def entry? (catalog : Catalog) (uri : SchemaUri) : Option SchemaEntry :=
  catalog.schemas.find? fun entry => entry.uri == uri

/-- The entry of the identifier that a text spells; a text that spells none has no entry. -/
def find? (catalog : Catalog) (text : String) : Option SchemaEntry :=
  match SchemaUri.parse text with
  | .ok uri => catalog.entry? uri
  | .error _ => none

/-- Whether a registered schema is an extension. -/
def isExtension? (catalog : Catalog) (uri : SchemaUri) : Option Bool :=
  (catalog.entry? uri).map (·.extension)

/-- The endpoint of a resource type. -/
def endpoint? (catalog : Catalog) (name : String) : Option String :=
  (catalog.resources.find? fun resource => resource.name == name).map (·.endpoint)

/-- Registers a schema under the identifier that a text spells. -/
def addSchema (catalog : Catalog) (text : String) (extension : Bool) :
    Except Fault (Catalog × SchemaUri) := do
  let uri ← SchemaUri.parse text
  match catalog.entry? uri with
  | some _ => .error (.schemaTaken uri.text)
  | none => .ok ({ catalog with schemas := catalog.schemas ++ [⟨uri, extension⟩] }, uri)

/-- Registers a resource type at its endpoint. -/
def addResource (catalog : Catalog) (name endpoint : String) : Except Fault Catalog :=
  match catalog.endpoint? name with
  | some _ => .error (.resourceTaken name)
  | none => .ok { catalog with resources := catalog.resources ++ [⟨name, endpoint⟩] }

theorem addSchema_ok {catalog next : Catalog} {text : String} {extension : Bool} {uri : SchemaUri} :
    catalog.addSchema text extension = .ok (next, uri) ↔
      text = uri.text ∧ catalog.entry? uri = none ∧
        next = { catalog with schemas := catalog.schemas ++ [⟨uri, extension⟩] } := by
  cases h : SchemaUri.parse text with
  | error fault =>
    have : text ≠ uri.text := by
      rintro rfl
      simp [SchemaUri.parse_text] at h
    simp [addSchema, h, this, bind, Except.bind]
  | ok found =>
    have ht := SchemaUri.parse_eq_ok.1 h
    subst ht
    cases he : catalog.entry? found <;> simp [addSchema, h, he, bind, Except.bind]
    · constructor
      · rintro ⟨rfl, rfl⟩
        exact ⟨rfl, he, rfl⟩
      · rintro ⟨ht, _, rfl⟩
        cases found; cases uri; cases ht
        exact ⟨rfl, rfl⟩
    · intro ht hu
      cases found; cases uri; cases ht
      simp [he] at hu

theorem addResource_ok {catalog next : Catalog} {name endpoint : String} :
    catalog.addResource name endpoint = .ok next ↔
      catalog.endpoint? name = none ∧
        next = { catalog with resources := catalog.resources ++ [⟨name, endpoint⟩] } := by
  cases h : catalog.endpoint? name <;> simp [addResource, h, eq_comm]

end Catalog

end Scim
