import Scim.Text.Split
import Scim.Value

/-!
# Equality of values and records

Records are equal when each entry of either has an equal counterpart in the other.  The data of a schema
extension can be written in two ways, as one entry that holds a record of its own, or as one entry
`schema:attr` per attribute, and both count as counterparts of each other.  The order of entries plays no
part; keys are compared up to case.

Two values are compared to the depth of the first, one level of nesting at a time: no comparison of parts
goes deeper than either side is, so the depth is never the reason for a difference.

## Main results

* `Value.depth_item_lt`, `Value.depth_entry_lt`: a part of a value is less deep than the value.
-/

namespace Scim

open Text

namespace Value

mutual

/-- How many levels of values a value has: one for a value without parts. -/
def depth : Value → Nat
  | .list items => depthItems items + 1
  | .record entries => depthEntries entries + 1
  | _ => 1

/-- The levels of the deepest item. -/
def depthItems : List Value → Nat
  | [] => 0
  | item :: items => max (depth item) (depthItems items)

/-- The levels of the deepest entry. -/
def depthEntries : List (String × Value) → Nat
  | [] => 0
  | (_, value) :: entries => max (depth value) (depthEntries entries)

end

theorem depth_item_lt {items : List Value} {item : Value} (h : item ∈ items) :
    item.depth < (Value.list items).depth := by
  have bound : item.depth ≤ depthItems items := by
    induction items with
    | nil => simp at h
    | cons first items ih =>
      rw [depthItems]
      rcases List.mem_cons.1 h with rfl | h
      · omega
      · have := ih h
        omega
  rw [depth]
  omega

theorem depth_entry_lt {entries : Record} {key : String} {value : Value} (h : (key, value) ∈ entries) :
    value.depth < (Value.record entries).depth := by
  have bound : value.depth ≤ depthEntries entries := by
    induction entries with
    | nil => simp at h
    | cons entry entries ih =>
      obtain ⟨other, first⟩ := entry
      rw [depthEntries]
      rcases List.mem_cons.1 h with h | h
      · cases h
        omega
      · have := ih h
        omega
  rw [depth]
  omega

end Value

namespace Record

/-- Whether a value stands under a key, where `same` compares values. -/
def holds (same : Value → Value → Bool) (record : Record) (key : String) (value : Value) : Bool :=
  match record.get? key with
  | some other => same other value
  | none => false

/-- Whether a value stands in the record of an extension that a key `schema:attr` names. -/
def holdsQualified (same : Value → Value → Bool) (record : Record) (key : String) (value : Value) :
    Bool :=
  match splitLast ':' key.toList with
  | none => false
  | some (schema, attr) =>
    match record.get? (String.ofList schema) with
    | some (.record inner) => holds same inner (String.ofList attr) value
    | _ => false

/-- Whether an entry has an equal counterpart in a record: under its own key if that is in use, else in the
other way of writing extension data. -/
def hasCounterpart (same : Value → Value → Bool) (record : Record) (entry : String × Value) : Bool :=
  match record.get? entry.1 with
  | some other => same other entry.2
  | none =>
    match entry.2 with
    | .record inner => inner.all fun (attr, value) => holds same record (entry.1 ++ ":" ++ attr) value
    | value => holdsQualified same record entry.1 value

/-- Whether every entry of one record has an equal counterpart in another. -/
def containedIn (same : Value → Value → Bool) (record other : Record) : Bool :=
  record.all (hasCounterpart same other)

end Record

namespace Value

/-- Equality of the first levels of two values. -/
def sameWithin : Nat → Value → Value → Bool
  | 0, _, _ => false
  | _ + 1, .missing, .missing => true
  | _ + 1, .invalid, .invalid => true
  | _ + 1, .null, .null => true
  | _ + 1, .bool a, .bool b => a == b
  | _ + 1, .number a, .number b => a.same b
  | _ + 1, .text a, .text b => a == b
  | n + 1, .list as, .list bs =>
    as.length == bs.length && (as.zip bs).all fun (a, b) => sameWithin n a b
  | n + 1, .record as, .record bs =>
    Record.containedIn (sameWithin n) as bs && Record.containedIn (sameWithin n) bs as
  | _ + 1, _, _ => false

/-- Equality of values. -/
def same (a b : Value) : Bool := sameWithin a.depth a b

mutual

/-- Equality of a value with a plain document.  A missing or invalid value equals none; a record is
compared with the record of an object. -/
def sameJson : Value → Json → Bool
  | .null, .null => true
  | .bool a, .bool b => a == b
  | .number a, .number b => a.same b
  | .text a, .text b => a == b
  | .list as, .list bs => sameJsonItems as bs
  | .record as, .object bs => same (.record as) (.record (Record.ofMembers bs))
  | _, _ => false

/-- Equality of a list of values with a list of documents, item by item. -/
def sameJsonItems : List Value → List Json → Bool
  | [], [] => true
  | a :: as, b :: bs => sameJson a b && sameJsonItems as bs
  | _, _ => false

end

end Value

/-- Equality of records. -/
def Record.same (a b : Record) : Bool := Value.same (.record a) (.record b)

end Scim
