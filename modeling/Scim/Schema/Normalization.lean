import Scim.Attribute.Normalization
import Scim.Record.Address
import Scim.Schema

/-!
# Normalizing resources

A resource is serialized or deserialized into a new record that holds the converted values of the declared
attributes it has, and nothing else, in the order and with the casing of their declaration.

## Main results

* `Schema.convertAll_append`: attributes are written one after the other.
-/

namespace Scim.Schema

/-- Writes the converted values of attributes that a record has into another one. -/
def convertAll (direction : Direction) (record : Record) :
    List Attribute → Record → Except Fault Record
  | [], converted => .ok converted
  | attr :: attrs, converted =>
    let value := record.get (Place.ofPath attr.path)
    if value.isMissing then convertAll direction record attrs converted
    else
      match converted.set (Place.ofPath attr.path) (attr.convert direction value) with
      | .ok converted => convertAll direction record attrs converted
      | .error fault => .error fault

/-- The resource converted on its way into the service or out of it. -/
def convert (schema : Schema) (direction : Direction) (record : Record) : Except Fault Record :=
  convertAll direction record schema.attrs.all []

theorem convertAll_append (direction : Direction) (record : Record) (first second : List Attribute)
    (converted : Record) :
    convertAll direction record (first ++ second) converted =
      (convertAll direction record first converted).bind (convertAll direction record second) := by
  induction first generalizing converted with
  | nil => rfl
  | cons attr first ih =>
    rw [List.cons_append, convertAll, convertAll]
    split
    · exact ih converted
    · split
      · exact ih _
      · rfl

end Scim.Schema
