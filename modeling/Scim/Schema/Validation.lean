import Scim.Attribute.Validation
import Scim.Schema

/-!
# Validating resources

A resource is validated attribute by attribute, own attributes first.  The value of each is found by its
path, so the values of an extension are looked for in the record of the extension and what is found is
recorded below its identifier.  A value with violations is put back in its marked form, and a value that is
blocked as a whole becomes invalid.

Then two properties of the resource as a whole are checked.  Its list of schemas has no duplicates, names no
schema that the resource does not have, and names the main schema and every extension that has data.  And
if the resource says of which type it is, that is the type of the schema.

## Main results

* `Schema.hasDuplicates_iff`: a list has duplicates exactly if its texts are not all different.
-/

namespace Scim

open Text

/-! ## Attributes -/

namespace Record

/-- Puts a value in the place of a stored one.  Nothing happens if no value is stored there. -/
def replaceAt (record : Record) (path : Path) (value : Value) : Record :=
  let name := path.rep.attr.text
  match path.isExtension, path.schema? with
  | true, some uri =>
    match record.get? uri.text with
    | some (.record inner) => record.replace uri.text (.record (Entries.replace inner name value))
    | _ => record
  | _, _ => record.replace name value

end Record

/-- Validates the value of one attribute within a record. -/
def Attribute.validateIn (catalog : Catalog) (attr : Attribute) (state : Report × Record) :
    Report × Record :=
  let (report, record) := state
  let value := record.get (Place.ofPath attr.path)
  if value.isMissing then (report, record)
  else
    let (found, value) := attr.validate catalog value
    (report.merge found attr.path.location,
      if found.hasViolations [] then record.replaceAt attr.path (marked found value) else record)

namespace Schema

/-! ## The list of schemas -/

/-- Whether some text stands in a list twice. -/
def hasDuplicates : List String → Bool
  | [] => false
  | text :: texts => texts.contains text || hasDuplicates texts

theorem hasDuplicates_iff {texts : List String} : hasDuplicates texts = true ↔ ¬ texts.Nodup := by
  induction texts with
  | nil => simp [hasDuplicates]
  | cons text texts ih =>
    rw [hasDuplicates, Bool.or_eq_true, ih, List.nodup_cons, List.contains_iff_mem]
    by_cases h : text ∈ texts <;> simp [h]

/-- The schemas that a value lists, in lower case. -/
def listed (value : Value) : List String :=
  (((value.list?).getD []).filterMap Value.text?).map lower

/-- Checks the schemas that a resource lists, in lower case, against the schemas it may have and those whose
data it has. -/
def checkListed (schema : Schema) (record : Record) (listed : List String) : Report :=
  let own := schema.uri.folded
  let attached := schema.attachments.map fun attachment => attachment.extension.uri.folded
  let unlisted := record.keys.filter fun key =>
    attached.contains (lower key) && !listed.contains (lower key)
  let violations :=
    (if hasDuplicates listed then [.duplicates] else [])
      ++ (if listed.any fun uri => uri != own && !attached.contains uri then [.unknownSchema] else [])
      ++ (if listed.contains own then [] else [.missingMainSchema])
      ++ unlisted.map .missingExtension
  violations.foldl (fun report violation => report.addViolation violation true []) .empty

/-- The place of the list of schemas. -/
def schemasLocation : Location := [.key "schemas"]

/-- Adds what is wrong with the list of schemas, if there is one that can be read. -/
def checkSchemas (schema : Schema) (state : Report × Record) : Report × Record :=
  let (report, record) := state
  let value := record.get (.path "schemas")
  (if report.canProceed schemasLocation && value.truthy then
    report.merge (schema.checkListed record (listed value)) schemasLocation
  else report, record)

/-! ## The type of the resource -/

/-- The path of the type that a resource says it is of. -/
def resourceTypePath : LocalPath := ⟨metaName, some resourceTypeName⟩

/-- Adds that the resource says it is of another type. -/
def checkResourceType (schema : Schema) (state : Report × Record) : Report × Record :=
  let (report, record) := state
  (match report.canProceed [], record.get (Place.attr resourceTypePath) with
    | true, .text provided =>
      if provided == schema.name then report
      else report.addViolation (.wrongResource schema.name provided) true resourceTypePath.location
    | _, _ => report, record)

/-! ## Resources -/

/-- Validates a resource.  Gives what was found and the resource with rejected values marked. -/
def validate (schema : Schema) (catalog : Catalog) (record : Record) : Report × Record :=
  schema.checkResourceType <| schema.checkSchemas <|
    schema.attrs.all.foldl (fun state attr => attr.validateIn catalog state) (.empty, record)

end Schema

end Scim
