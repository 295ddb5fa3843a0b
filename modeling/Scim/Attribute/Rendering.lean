import Scim.Attribute

/-!
# Attributes in a schema document

The definition of an attribute as a service publishes it.  Members that say nothing for a kind are left out:
the type of an attribute that holds anything, canonical values where there are none, case for all but texts,
uniqueness for all but texts and numbers.
-/

namespace Scim

/-- Whether a schema says of a kind if texts are case-exact. -/
def Kind.hasCase : Kind → Bool
  | .string => true
  | .binary => true
  | .reference _ => true
  | _ => false

/-- Whether a schema says of a kind where its values are unique. -/
def Kind.hasUniqueness : Kind → Bool
  | .string => true
  | .integer => true
  | .decimal => true
  | _ => false

/-- The members that do not depend on sub-attributes. -/
def definitionMembers (name : AttrName) (kind : Kind) (traits : Traits) : List (String × Json) :=
  [("name", Json.text name.text)]
    ++ (match kind.dataType? with
      | some type => [("type", .text (Word.name type))]
      | none => [])
    ++ [("multiValued", .bool traits.multiValued),
      ("description", .text traits.description),
      ("required", .bool traits.required),
      ("mutability", .text (Word.name traits.mutability)),
      ("returned", .text (Word.name traits.returned))]
    ++ (match traits.canonical with
      | some ⟨value :: values, _⟩ => [("canonicalValues", .list (value :: values))]
      | _ => [])
    ++ (if kind.hasCase then [("caseExact", .bool traits.caseExact)] else [])
    ++ (if kind.hasUniqueness then [("uniqueness", .text (Word.name traits.uniqueness))] else [])

mutual

/-- The definition of an attribute. -/
def Attribute.definition : Attribute → Json
  | ⟨path, kind, traits, _⟩ =>
    .object (definitionMembers path.rep.name kind traits ++ Kind.definition kind)

/-- The members that only some kinds have. -/
def Kind.definition : Kind → List (String × Json)
  | .reference target => [("referenceTypes", .list (target.names.map .text))]
  | .complex subs => [("subAttributes", .list (definitions subs))]
  | _ => []

/-- The definitions of several attributes. -/
def definitions : List Attribute → List Json
  | [] => []
  | attr :: attrs => attr.definition :: definitions attrs

end

end Scim
