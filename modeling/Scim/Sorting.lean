import Scim.Attribute.Shape
import Scim.Schema.Attributes

/-!
# Sorting resources

A list of resources is sorted by the value of one attribute.  Texts are compared in lower case unless the
attribute is case-exact, numbers by their value as doubles, and `false` comes before `true`; values of
different kinds have no order.  A multi-valued attribute sorts by its first value, and if it is complex by
the `value` of its primary element, or of its first element if none is primary.

Resources without a value stand last in either direction, and resources with equal values keep their order.

## Main results

* `SortKey.precedes_trans`, `SortKey.precedes_total`: the keys are ordered, in either direction.
-/

namespace Scim

open Text

/-! ## Keys -/

/-- What a resource is sorted by. -/
inductive SortKey where
  /-- There is no value to sort by. -/
  | absent
  | bool (value : Bool)
  /-- A number by its value as a double, counted in units of `2⁻¹⁰⁷⁴`. -/
  | number (units : Int)
  | text (value : String)
deriving DecidableEq, Repr

namespace SortKey

/-- The word for the kind of a key; absent keys have none. -/
def kind? : SortKey → Option String
  | .absent => none
  | .bool _ => some "boolean"
  | .number _ => some "number"
  | .text _ => some "string"

/-- The place of a kind among the kinds. -/
def rank : SortKey → Nat
  | .bool _ => 0
  | .number _ => 1
  | .text _ => 2
  | .absent => 3

/-- Whether a key is not above another one.  Keys of different kinds are ordered by their kinds, so that
any two keys have an order. -/
def le : SortKey → SortKey → Bool
  | .bool a, .bool b => !a || b
  | .number a, .number b => a ≤ b
  | .text a, .text b => !decide (b < a)
  | a, b => a.rank ≤ b.rank

theorem text_le {a b : String} : (SortKey.text a).le (.text b) = true ↔ a ≤ b := by
  rw [le, Bool.not_eq_true', decide_eq_false_iff_not]
  exact String.not_lt

theorem le_total (a b : SortKey) : (a.le b || b.le a) = true := by
  cases a <;> cases b
  case text.text a b =>
    rw [Bool.or_eq_true, text_le, text_le]
    exact String.le_total a b
  case bool.bool a b => cases a <;> cases b <;> rfl
  case number.number a b =>
    simp only [le, Bool.or_eq_true, decide_eq_true_eq]
    omega
  all_goals rfl

theorem le_trans {a b c : SortKey} (hab : a.le b = true) (hbc : b.le c = true) : a.le c = true := by
  cases a <;> cases b <;> cases c
  case text.text.text a b c =>
    exact text_le.2 (String.le_trans (text_le.1 hab) (text_le.1 hbc))
  case bool.bool.bool a b c => cases a <;> cases b <;> cases c <;> simp_all [le]
  case number.number.number a b c =>
    simp only [le, decide_eq_true_eq] at hab hbc ⊢
    omega
  all_goals simp_all [le, rank]

/-- Whether a key may stand before another one: absent keys only before absent ones. -/
def precedes (ascending : Bool) (a b : SortKey) : Bool :=
  match a, b with
  | _, .absent => true
  | .absent, _ => false
  | a, b => if ascending then a.le b else b.le a

theorem precedes_total (ascending : Bool) (a b : SortKey) :
    (precedes ascending a b || precedes ascending b a) = true := by
  have h := le_total a b
  cases ascending <;> cases a <;> cases b <;> simp_all [precedes, or_comm]

theorem precedes_trans {ascending : Bool} {a b c : SortKey} (hab : precedes ascending a b = true)
    (hbc : precedes ascending b c = true) : precedes ascending a c = true := by
  cases ascending
  · have h := @le_trans c b a
    cases a <;> cases b <;> cases c <;> simp_all [precedes]
  · have h := @le_trans a b c
    cases a <;> cases b <;> cases c <;> simp_all [precedes]

/-- The first pair of kinds that differ. -/
def mismatch? (keys : List SortKey) : Option (String × String) :=
  match keys.filterMap kind? with
  | [] => none
  | first :: others => (others.find? fun other => other != first).map fun other => (first, other)

end SortKey

/-! ## From values to keys -/

/-- Whether the values of a kind are texts that can be sorted. -/
def Kind.holdsText : Kind → Bool
  | .unknown => true
  | .string => true
  | .binary => true
  | .dateTime => true
  | .reference _ => true
  | _ => false

/-- The key of a single value of an attribute. -/
def SortKey.ofValue (attr : Attribute) : Value → SortKey
  | .bool b => .bool b
  | .number n => .number n.units
  | .text s =>
    if s.isEmpty || !attr.kind.holdsText then .absent
    else .text (if attr.traits.caseExact then s else lower s)
  | _ => .absent

/-- The first value of a list, or the value itself. -/
def firstValue : Value → Value
  | .list items => items.headD .missing
  | value => value

/-- The `value` of the primary element of a list, or of the first element if none is primary. -/
def primaryValue (value : Value) : Value :=
  let items := recordItems value
  match (items.find? isPrimary).or items.head? with
  | some item => item.get (.path "value")
  | none => .missing

/-- The key of the value of an attribute. -/
def SortKey.ofAttribute (attr : Attribute) (value : Value) : SortKey :=
  match attr.traits.multiValued && !value.isMissing, attr.subs? with
  | true, some subs =>
    match subs.spelled? "value" with
    | some sub => SortKey.ofValue sub (primaryValue value)
    | none => .absent
  | _, _ => SortKey.ofValue attr (firstValue value)

/-! ## Sorting -/

/-- By which attribute a list is sorted, and in which direction. -/
structure Sorting where
  path : Path
  ascending : Bool

namespace Sorting

/-- The sorting that a query asks for, none if it names no attribute.  Any order but `descending` is
ascending. -/
def ofQuery (catalog : Catalog) (query : Record) : Except Fault (Option Sorting) :=
  match query.get (.path "sortBy") with
  | .text name =>
    if name.isEmpty then .ok none
    else do
      let path ← Path.parse catalog name
      let descending := match query.get (.path "sortOrder") with
        | .text order => lowerAscii order == "descending"
        | _ => false
      return some ⟨path, !descending⟩
  | _ => .ok none

/-- The key of a resource, given the attribute that the path leads to. -/
def keyOf (sorting : Sorting) (attr : Option Attribute) (item : Record) : SortKey :=
  match attr with
  | none => .absent
  | some attr => SortKey.ofAttribute attr (item.get (Place.ofPath sorting.path))

/-- Sorts resources by keys that go with them. -/
def sortByKeys (ascending : Bool) (keys : List SortKey) (items : List Record) : List Record :=
  ((keys.zip items).mergeSort fun a b => SortKey.precedes ascending a.1 b.1).map (·.2)

/-- Sorts resources. -/
def sort (sorting : Sorting) (attrs : SchemaAttributes) (items : List Record) :
    Except Fault (List Record) := do
  let attr ← attrs.find? sorting.path
  let keys := items.map (sorting.keyOf attr)
  match SortKey.mismatch? keys with
  | some (left, right) => .error (.incomparable left right)
  | none => .ok (sortByKeys sorting.ascending keys items)

end Sorting

end Scim
