import Scim.Catalog
import Scim.Location

/-!
# Attribute paths

A path names an attribute or a sub-attribute, `name` or `name.givenName`.  Qualified by a schema
identifier and a colon it names the attribute of that schema only, and it is then *bound*: it carries the
identifier and whether the schema is an extension, which decides where in a record the attribute is found.

Since a name holds neither colon nor full stop, a path is cut at its last colon and then at its first full
stop, and no text can be read in two ways.

## Main results

* `BoundPath.beq_iff`: bound paths are equal when their schemas and their names are, whatever the
  extension flag says.
-/

namespace Scim

/-! ## Paths within a schema -/

/-- The path of an attribute within its schema, `attr` or `attr.sub`. -/
structure LocalPath where
  attr : AttrName
  sub : Option AttrName := none

namespace LocalPath

instance : BEq LocalPath := ⟨fun a b => a.attr == b.attr && a.sub == b.sub⟩

/-- The path that two texts spell. -/
def ofTexts (attr : String) (sub : Option String) : Except Fault LocalPath := do
  let attr ← AttrName.parse attr
  match sub with
  | none => .ok ⟨attr, none⟩
  | some sub => .ok ⟨attr, some (← AttrName.parse sub)⟩

/-- The name of the attribute itself: of a sub-attribute its own, not that of its parent. -/
def name (path : LocalPath) : AttrName := path.sub.getD path.attr

/-- The path of the attribute, or of the parent of the sub-attribute. -/
def topLevel (path : LocalPath) : LocalPath := ⟨path.attr, none⟩

/-- The path in writing. -/
def text (path : LocalPath) : String :=
  match path.sub with
  | none => path.attr.text
  | some sub => path.attr.text ++ "." ++ sub.text

/-- Where the value stands within the data of its schema. -/
def location (path : LocalPath) : Location :=
  .ofName path.attr :: (path.sub.map Segment.ofName).toList

end LocalPath

/-! ## Bound paths -/

/-- The path of an attribute together with the schema it belongs to. -/
structure BoundPath where
  schema : SchemaUri
  /-- Whether the schema is an extension. -/
  extension : Bool
  rep : LocalPath

namespace BoundPath

/-- Bound paths are compared by schema and names. -/
instance : BEq BoundPath := ⟨fun a b => a.schema == b.schema && a.rep == b.rep⟩

theorem beq_iff {a b : BoundPath} :
    (a == b) = true ↔ (a.schema == b.schema) = true ∧ (a.rep == b.rep) = true := by
  show (a.schema == b.schema && a.rep == b.rep) = true ↔ _
  simp

/-- Binds a path to a schema, which has to be registered. -/
def bind (catalog : Catalog) (schema : SchemaUri) (rep : LocalPath) : Except Fault BoundPath :=
  match catalog.isExtension? schema with
  | some extension => .ok ⟨schema, extension, rep⟩
  | none => .error (.unknownSchema schema.text)

/-- The path of the attribute, or of the parent of the sub-attribute. -/
def topLevel (path : BoundPath) : BoundPath := { path with rep := path.rep.topLevel }

/-- The path of a sub-attribute of the attribute. -/
def withSub (path : BoundPath) (sub : AttrName) : BoundPath :=
  { path with rep := ⟨path.rep.attr, some sub⟩ }

/-- The path in writing. -/
def text (path : BoundPath) : String := path.schema.text ++ ":" ++ path.rep.text

/-- Where the value stands in a record: below the identifier of the schema, if that is an extension. -/
def location (path : BoundPath) : Location :=
  if path.extension then .ofUri path.schema :: path.rep.location else path.rep.location

end BoundPath

/-! ## Paths -/

/-- A path as it is written by a user: with a schema or without. -/
inductive Path where
  | unbound (rep : LocalPath)
  | bound (path : BoundPath)

namespace Path

/-- An unbound path is never equal to a bound one. -/
protected def same : Path → Path → Bool
  | .unbound a, .unbound b => a == b
  | .bound a, .bound b => a == b
  | _, _ => false

instance : BEq Path := ⟨Path.same⟩

/-- The part of a path within its schema. -/
def rep : Path → LocalPath
  | .unbound rep => rep
  | .bound path => path.rep

/-- The schema by which a path is qualified. -/
def schema? : Path → Option SchemaUri
  | .unbound _ => none
  | .bound path => some path.schema

/-- Whether a path leads into the data of an extension. -/
def isExtension : Path → Bool
  | .unbound _ => false
  | .bound path => path.extension

/-- The path of the attribute, or of the parent of the sub-attribute. -/
def topLevel : Path → Path
  | .unbound rep => .unbound rep.topLevel
  | .bound path => .bound path.topLevel

/-- The path in writing. -/
def text : Path → String
  | .unbound rep => rep.text
  | .bound path => path.text

/-- Where the value stands in a record. -/
def location : Path → Location
  | .unbound rep => rep.location
  | .bound path => path.location

/-! ### Reading -/

/-- The names in the part of a path after the last colon, unless one of them is malformed. -/
def splitLocal (cs : List Char) : Option LocalPath :=
  match Text.splitFirst '.' cs with
  | none => (LocalPath.ofTexts (String.ofList cs) none).toOption
  | some (attr, sub) => (LocalPath.ofTexts (String.ofList attr) (some (String.ofList sub))).toOption

/-- Cuts a text into the schema identifier before its last colon, if it has one, and the names after. -/
def split? (text : String) : Option (Option SchemaUri × LocalPath) :=
  match Text.splitLast ':' text.toList with
  | none => (splitLocal text.toList).map fun rep => (none, rep)
  | some (schema, names) => do
    let rep ← splitLocal names
    let uri ← (SchemaUri.parse (String.ofList schema)).toOption
    some (some uri, rep)

/-- Cuts a text into its schema identifier and its names.  The only fault is that of the whole text. -/
def split (text : String) : Except Fault (Option SchemaUri × LocalPath) :=
  match split? text with
  | some parts => .ok parts
  | none => .error (.invalidPath text)

/-- Reads a path; the schema it is qualified by has to be registered. -/
def parse (catalog : Catalog) (text : String) : Except Fault Path := do
  match ← split text with
  | (none, rep) => .ok (.unbound rep)
  | (some schema, rep) => .ok (.bound (← BoundPath.bind catalog schema rep))

end Path

end Scim
