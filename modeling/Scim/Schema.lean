import Scim.Attribute.Rendering
import Scim.Schema.Attributes
import Scim.Schema.SharedAttributes

/-!
# Schemas

A schema describes one type of resource: the attributes that every resource has, those of the type, and the
extensions attached to it.  Declaring a schema registers its identifier, and the type with the endpoint
that serves it; declaring an extension registers its identifier.  A declaration that fails registers
nothing.

An extension is attached under a name and an identifier that no other attached extension has, the name
compared without regard to the case of ASCII letters.
-/

namespace Scim

open Text

/-! ## Extensions -/

/-- Attributes that can be attached to schemas under an identifier of their own. -/
structure Extension where
  uri : SchemaUri
  name : String
  description : String
  attrs : Attributes

namespace Extension

/-- Declares an extension and registers its identifier. -/
def declare (catalog : Catalog) (uri name description : String) (attrs : List Attribute) :
    Except Fault (Catalog × Extension) := do
  let (catalog, uri) ← catalog.addSchema uri true
  return (catalog, ⟨uri, name, description, Attributes.collect attrs⟩)

/-- The extension as a service publishes it. -/
def document (ext : Extension) : Json :=
  .object [("id", .text ext.uri.text), ("name", .text ext.name),
    ("description", .text ext.description), ("attributes", .list (definitions ext.attrs))]

end Extension

/-- An extension attached to a schema. -/
structure Attachment where
  extension : Extension
  /-- Whether resources have to have the data of the extension. -/
  required : Bool

/-! ## Schemas -/

/-- The description of one type of resource. -/
structure Schema where
  name : String
  endpoint : String
  description : String
  attrs : SchemaAttributes
  attachments : List Attachment := []

namespace Schema

/-- The identifier of the schema. -/
def uri (schema : Schema) : SchemaUri := schema.attrs.own.schema

/-- The identifiers of the schema and of its extensions. -/
def uris (schema : Schema) : List SchemaUri :=
  schema.uri :: schema.attachments.map fun attachment => attachment.extension.uri

/-- The attached extension of a name. -/
def extension? (schema : Schema) (name : String) : Option Extension :=
  (schema.attachments.find? fun attachment =>
    lowerAscii attachment.extension.name == lowerAscii name).map (·.extension)

/-- Declares a type of resource and registers it together with its schema.  The endpoint is the name of the
type behind a slash unless another is given. -/
def declare (catalog : Catalog) (uri name : String) (endpoint : Option String) (description : String)
    (attrs : List Attribute) : Except Fault (Catalog × Schema) := do
  let endpoint := endpoint.getD ("/" ++ name)
  match catalog.endpoint? name with
  | some _ => .error (.resourceTaken name)
  | none =>
    let (catalog, uri) ← catalog.addSchema uri false
    let own ← AttributeSet.declare catalog uri.text (sharedAttributes ++ attrs) sharedNames
    let catalog ← catalog.addResource name endpoint
    return (catalog, { name, endpoint, description, attrs := { own } })

/-- Attaches an extension. -/
def attach (schema : Schema) (catalog : Catalog) (ext : Extension) (required : Bool) :
    Except Fault Schema :=
  match schema.extension? ext.name with
  | some _ => .error (.extensionTaken schema.uri.text ext.uri.text)
  | none => do
    let attrs ← schema.attrs.extend catalog ext.attrs ext.uri.text required
    return { schema with attrs, attachments := schema.attachments ++ [⟨ext, required⟩] }

/-! ## Documents -/

/-- The schema as a service publishes it: its own attributes but those that every resource has. -/
def document (schema : Schema) : Json :=
  .object [("id", .text schema.uri.text), ("name", .text schema.name),
    ("description", .text schema.description),
    ("attributes", .list (definitions schema.attrs.own.coreAttrs))]

/-- The schema of descriptions of resource types. -/
def resourceTypeUri : String := "urn:ietf:params:scim:schemas:core:2.0:ResourceType"

/-- The type of resource as a service publishes it. -/
def resourceTypeDocument (schema : Schema) : Json :=
  .object [("schemas", .list [.text resourceTypeUri]), ("id", .text schema.name),
    ("name", .text schema.name), ("endpoint", .text schema.endpoint),
    ("description", .text schema.description), ("schema", .text schema.uri.text),
    ("schemaExtensions", .list (schema.attachments.map fun attachment =>
      .object [("schema", .text attachment.extension.uri.text),
        ("required", .bool attachment.required)]))]

end Schema

end Scim
