import Scim.Attribute.Declaration

/-!
# Attributes of every resource

Four attributes belong to every resource, whatever its schema: the list of schemas it conforms to, the
identifier that the service gives it, the identifier that the client knows it by, and the data that the
service keeps about it.

## Main results

* `sharedAttributes_names`: the attributes go by the names in `sharedNames`, in this order.
-/

namespace Scim

open Attribute

/-- The names of the attributes that every resource has. -/
def sharedNames : List String := ["schemas", "id", "externalId", "meta"]

/-- The list of the schemas that a resource conforms to. -/
def schemasAttribute : Attribute :=
  simple ⟨"schemas", by decide⟩ (.reference .uri) {
    description := "Schema URIs the resource conforms to"
    required := true
    multiValued := true
    mutability := .readOnly
    returned := .always
    caseExact := true }

/-- The identifier that the service gives to a resource. -/
def idAttribute : Attribute :=
  simple ⟨"id", by decide⟩ .string {
    description := "Unique identifier for the resource, assigned by the service provider"
    issuer := .server
    required := true
    mutability := .readOnly
    returned := .always
    caseExact := true
    uniqueness := .server }

/-- The identifier by which the client knows a resource. -/
def externalIdAttribute : Attribute :=
  simple ⟨"externalId", by decide⟩ .string {
    description := "Identifier of the resource as defined by the provisioning client"
    issuer := .client
    caseExact := true }

/-- The name of the data that the service keeps about a resource. -/
def metaName : AttrName := ⟨"meta", by decide⟩

/-- The name of the type that a resource says it is of. -/
def resourceTypeName : AttrName := ⟨"resourceType", by decide⟩

/-- The characteristics of what only the service writes. -/
def metaTraits (caseExact : Bool) : Traits :=
  { issuer := .server, mutability := .readOnly, caseExact }

/-- What the service keeps about a resource. -/
def metaAttribute : Attribute :=
  simple metaName
    (.complex [
      simple resourceTypeName .string (metaTraits true),
      simple ⟨"created", by decide⟩ .dateTime (metaTraits false),
      simple ⟨"lastModified", by decide⟩ .dateTime (metaTraits false),
      simple ⟨"location", by decide⟩ (.reference .uri) (metaTraits true),
      simple ⟨"version", by decide⟩ .string (metaTraits true)])
    { metaTraits false with description := "Resource metadata maintained by the service provider" }

/-- The attributes that every resource has. -/
def sharedAttributes : Attributes :=
  [schemasAttribute, idAttribute, externalIdAttribute, metaAttribute]

theorem sharedAttributes_names : sharedAttributes.map (fun attr => attr.name.text) = sharedNames := rfl

end Scim
