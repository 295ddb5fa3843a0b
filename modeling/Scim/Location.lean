import Scim.Name

/-!
# Locations

A location says where in a record something stands: a list of segments, each the key of an entry or the
index of a list element.  It is both the address of a value and the place at which an issue is recorded.
Keys are compared letter by letter without regard to case, so an issue recorded under one casing is found
under another; a key and an index are never equal.
-/

namespace Scim

/-- One step of a location. -/
inductive Segment where
  /-- The entry under a key. -/
  | key (text : String)
  /-- The element at a position of a list. -/
  | index (position : Nat)
deriving Repr

namespace Segment

/-- Segments are equal when their keys agree letter by letter up to case, or their indexes agree. -/
protected def same : Segment → Segment → Bool
  | .key a, .key b => Text.foldEach a == Text.foldEach b
  | .index m, .index n => m == n
  | _, _ => false

instance : BEq Segment := ⟨Segment.same⟩

/-- The step as it is written in a rendered tree. -/
def text : Segment → String
  | .key text => text
  | .index position => toString position

/-- The step to the value of a named attribute. -/
def ofName (name : AttrName) : Segment := .key name.text

/-- The step into the data of a schema extension. -/
def ofUri (uri : SchemaUri) : Segment := .key uri.text

end Segment

/-- The way from the root of a record to a value. -/
abbrev Location := List Segment

/-- Whether a location lies at or below another one. -/
def Location.startsWith (location start : Location) : Bool := start.isPrefixOf location

end Scim
