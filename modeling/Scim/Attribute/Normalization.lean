import Scim.Attribute

/-!
# Normalizing values

On its way into the service a value is deserialized and on its way out serialized.  A hook of the attribute
may do the whole of it; otherwise numbers take the form that the kind asks for, and a record is rebuilt from
the declared sub-attributes that it has, in the order and with the casing of their declaration.  The items
of a multi-valued attribute are converted one by one.
-/

namespace Scim

/-- The way a value takes. -/
inductive Direction where
  /-- Into the service. -/
  | deserialize
  /-- Out of the service. -/
  | serialize
deriving DecidableEq, Repr

/-- The hook for a way. -/
def Hooks.conversion? (hooks : Hooks) : Direction → Option Conversion
  | .deserialize => hooks.deserialize
  | .serialize => hooks.serialize

mutual

/-- Converts a value of an attribute. -/
def Attribute.convert (direction : Direction) : Attribute → Value → Value
  | ⟨_, kind, traits, hooks⟩, value =>
    match hooks.conversion? direction, traits.multiValued, value with
    | some conversion, _, value => conversion.run value
    | none, true, .list items => .list (items.map (Kind.convertItem direction kind))
    | none, _, value => Kind.convertItem direction kind value

/-- Converts a single item. -/
def Kind.convertItem (direction : Direction) : Kind → Value → Value
  | .complex subs, .record entries => .record (convertSubs direction subs entries [])
  | .decimal, .number n => .number n.preferFloat
  | .integer, .number n => .number n.preferInt
  | _, value => value

/-- Adds the converted values of the sub-attributes that a record has to those converted before. -/
def convertSubs (direction : Direction) : List Attribute → Record → Record → Record
  | [], _, converted => converted
  | sub :: subs, entries, converted =>
    let value := entries.value sub.name.text
    convertSubs direction subs entries <|
      if value.isMissing then converted
      else converted.insert sub.name.text (sub.convert direction value)

end

end Scim
