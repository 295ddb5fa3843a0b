import Scim.Attribute.Characteristics
import Scim.Path
import Scim.Report
import Scim.Value

/-!
# Attributes

An attribute describes one value of a resource: the kind of its data, its characteristics, and hooks with
which a service adds checks and conversions of its own.  A complex attribute holds sub-attributes, which
are attributes again.

Hooks are functions and are told apart by an identity, a number given to each when it is made; a copy of an
attribute shares its hooks.  The two checks that the shape of a multi-valued complex attribute brings with
it have names instead.

## Main results

* `Attributes.collect_distinct`: no two attributes of a collection have the same name.
-/

namespace Scim

/-! ## Hooks -/

/-- A check that runs after the rules of the kind. -/
inductive Check where
  /-- At most one element is the primary one. -/
  | singlePrimary
  /-- No two elements have the same type and value. -/
  | distinctPairs
  | custom (identity : Nat) (run : Value → Report)

/-- Two checks are equal when they are the same one. -/
def Check.same : Check → Check → Bool
  | .singlePrimary, .singlePrimary => true
  | .distinctPairs, .distinctPairs => true
  | .custom a _, .custom b _ => a == b
  | _, _ => false

/-- A conversion that takes the place of the built-in one. -/
structure Conversion where
  identity : Nat
  run : Value → Value

/-- What a service adds to an attribute. -/
structure Hooks where
  checks : List Check := []
  serialize : Option Conversion := none
  deserialize : Option Conversion := none

/-- Hooks are equal when they are the same ones in the same order. -/
def Hooks.same (a b : Hooks) : Bool :=
  a.checks.length == b.checks.length && (a.checks.zip b.checks).all (fun (c, d) => c.same d)
    && a.serialize.map (·.identity) == b.serialize.map (·.identity)
    && a.deserialize.map (·.identity) == b.deserialize.map (·.identity)

/-! ## Characteristics -/

/-- The values that are expected of an attribute. -/
structure Canonical where
  values : List Json
  /-- Whether other values are a violation, or only advised against. -/
  restricted : Bool := false

/-- The characteristics of an attribute that do not depend on its kind. -/
structure Traits where
  description : String := ""
  issuer : Issuer := .notSpecified
  required : Bool := false
  multiValued : Bool := false
  canonical : Option Canonical := none
  mutability : Mutability := .readWrite
  returned : Returned := .default
  /-- Whether texts differ that differ by case. -/
  caseExact : Bool := false
  uniqueness : Uniqueness := .none

/-! ## Attributes -/

/-- What a reference may lead to. -/
inductive Target where
  /-- The URL of something outside the service. -/
  | outside
  /-- Any identifier. -/
  | uri
  /-- A resource of one of certain types. -/
  | resource (types : List String)

/-- The names of the targets in a schema. -/
def Target.names : Target → List String
  | .outside => ["external"]
  | .uri => ["uri"]
  | .resource types => types

mutual

/-- The kind of data that an attribute holds. -/
inductive Kind where
  /-- Anything. -/
  | unknown
  | boolean
  | integer
  | decimal
  | string
  | binary
  | dateTime
  | reference (target : Target)
  | complex (subs : List Attribute)

/-- The declaration of one value of a resource. -/
structure Attribute where
  path : Path
  kind : Kind
  traits : Traits
  hooks : Hooks

end

/-- The type under which a schema shows a kind. -/
def Kind.dataType? : Kind → Option DataType
  | .unknown => none
  | .boolean => some .boolean
  | .integer => some .integer
  | .decimal => some .decimal
  | .string => some .string
  | .binary => some .binary
  | .dateTime => some .dateTime
  | .reference _ => some .reference
  | .complex _ => some .complex

/-- The attributes of a complex value. -/
abbrev Attributes := List Attribute

namespace Attribute

/-- The name of the attribute itself: of a sub-attribute its own. -/
def name (attr : Attribute) : AttrName := attr.path.rep.name

/-- The sub-attributes of a complex attribute. -/
def subs? (attr : Attribute) : Option Attributes :=
  match attr.kind with
  | .complex subs => some subs
  | _ => none

/-- Whether the attribute has sub-attributes. -/
def isComplex (attr : Attribute) : Bool := attr.subs?.isSome

end Attribute

/-! ## Collections -/

namespace Attributes

/-- The attribute of a name. -/
def find? (attrs : Attributes) (name : AttrName) : Option Attribute :=
  List.find? (fun attr => attr.name == name) attrs

/-- The attribute whose name a text spells, in any casing. -/
def spelled? (attrs : Attributes) (text : String) : Option Attribute :=
  List.find? (fun attr => attr.name.spells text) attrs

/-- Adds an attribute at the end, or in the place of the one of the same name. -/
def put (attrs : Attributes) (attr : Attribute) : Attributes :=
  if attrs.any fun other => other.name == attr.name then
    attrs.map fun other => if other.name == attr.name then attr else other
  else attrs ++ [attr]

/-- Collects declarations, of which the last one of each name counts. -/
def collect (attrs : List Attribute) : Attributes := attrs.foldl put []

/-- No two attributes have the same name. -/
def DistinctNames (attrs : Attributes) : Prop :=
  attrs.Pairwise fun a b => a.name.folded ≠ b.name.folded

theorem DistinctNames.put {attrs : Attributes} (h : attrs.DistinctNames) (attr : Attribute) :
    (attrs.put attr).DistinctNames := by
  unfold Attributes.put
  split
  · refine List.pairwise_map.2 (List.Pairwise.imp ?_ h)
    intro a b hab
    by_cases ha : a.name.folded = attr.name.folded
    · have hb : b.name.folded ≠ attr.name.folded := fun hb => hab (ha.trans hb.symm)
      simp [AttrName.beq_iff, ha, hb, Ne.symm hb]
    · by_cases hb : b.name.folded = attr.name.folded
      · simp [AttrName.beq_iff, ha, hb]
      · simpa [AttrName.beq_iff, ha, hb] using hab
  · rename_i hnew
    refine List.pairwise_append.2 ⟨h, by simp, ?_⟩
    intro a ha b hb
    have hb' : b = attr := by simpa using hb
    subst hb'
    intro hname
    exact hnew (List.any_eq_true.2 ⟨a, ha, AttrName.beq_iff.2 hname⟩)

theorem collect_distinct (attrs : List Attribute) : (collect attrs).DistinctNames := by
  have step : ∀ (attrs : List Attribute) (found : Attributes), found.DistinctNames →
      Attributes.DistinctNames (attrs.foldl put found) := by
    intro attrs
    induction attrs with
    | nil => exact fun _ h => h
    | cons attr attrs ih => exact fun found h => ih (found.put attr) (h.put attr)
  exact step attrs [] List.Pairwise.nil

end Attributes

end Scim
