import Scim.Json
import Scim.Record.Entries

/-!
# Values and records

Instance data is a tree of values.  Beside what a document can hold, a value may be *missing*, which is
what looking up something absent gives, or *invalid*, which is the mark that a check leaves on a value it
rejected so that later steps pass over it.  A record holds values under keys up to case, in order.

## Main results

* `Record.get?_of_stored`: a value that is not missing is stored.
* `Value.toItems_eq_map`: a list becomes the list of the documents of its items.
-/

namespace Scim

/-- A value of instance data. -/
inductive Value where
  /-- There is no value. -/
  | missing
  /-- There was a value, and a check rejected it. -/
  | invalid
  | null
  | bool (value : Bool)
  | number (value : Number)
  | text (value : String)
  | list (items : List Value)
  | record (entries : List (String × Value))

/-- Values under keys. -/
abbrev Record := Entries Value

namespace Value

instance : Inhabited Value := ⟨.missing⟩

/-- The word for the shape of a value. -/
def kind : Value → String
  | .missing => "missing"
  | .invalid => "invalid"
  | .null => "null"
  | .bool _ => "boolean"
  | .number _ => "number"
  | .text _ => "string"
  | .list _ => "list"
  | .record _ => "complex"

/-- Whether there is no value at all. -/
def isMissing : Value → Bool
  | .missing => true
  | _ => false

theorem eq_missing {value : Value} (h : value.isMissing = true) : value = .missing := by
  cases value with
  | missing => rfl
  | _ => cases h

/-- Whether a check rejected the value. -/
def isInvalid : Value → Bool
  | .invalid => true
  | _ => false

/-- Whether the value is missing or null, the two ways of having none. -/
def isAbsent : Value → Bool
  | .missing => true
  | .null => true
  | _ => false

/-- Whether the value says something: it is neither absent nor invalid nor false nor zero nor empty. -/
def truthy : Value → Bool
  | .missing => false
  | .invalid => false
  | .null => false
  | .bool b => b
  | .number n => !n.isZero
  | .text s => !s.isEmpty
  | .list items => !items.isEmpty
  | .record entries => !entries.isEmpty

/-- The text that the value is. -/
def text? : Value → Option String
  | .text s => some s
  | _ => none

/-- The truth value that the value is. -/
def bool? : Value → Option Bool
  | .bool b => some b
  | _ => none

/-- The number that the value is. -/
def number? : Value → Option Number
  | .number n => some n
  | _ => none

/-- The list that the value is. -/
def list? : Value → Option (List Value)
  | .list items => some items
  | _ => none

theorem list?_eq_some {value : Value} {items : List Value} :
    value.list? = some items ↔ value = .list items := by
  cases value <;> simp [list?]

/-- The record that the value is. -/
def record? : Value → Option Record
  | .record entries => some entries
  | _ => none

theorem record?_eq_some {value : Value} {entries : Record} :
    value.record? = some entries ↔ value = .record entries := by
  cases value <;> simp [record?]

/-! ## Documents -/

mutual

/-- The value of a document.  The members of an object become entries one after the other, so of two
members with the same key up to case the later one stays. -/
def ofJson : Json → Value
  | .null => .null
  | .bool b => .bool b
  | .number n => .number n
  | .text s => .text s
  | .list items => .list (ofItems items)
  | .object members => .record (ofMembers [] members)

/-- The values of the items of a list. -/
def ofItems : List Json → List Value
  | [] => []
  | item :: items => ofJson item :: ofItems items

/-- Adds the values of members to entries read so far. -/
def ofMembers (entries : List (String × Value)) : List (String × Json) → List (String × Value)
  | [] => entries
  | (key, json) :: members => ofMembers (Entries.insert entries key (ofJson json)) members

end

mutual

/-- The document of a value, in which missing and invalid values are null. -/
def toJson : Value → Json
  | .missing => .null
  | .invalid => .null
  | .null => .null
  | .bool b => .bool b
  | .number n => .number n
  | .text s => .text s
  | .list items => .list (toItems items)
  | .record entries => .object (toMembers entries)

/-- The documents of the items of a list. -/
def toItems : List Value → List Json
  | [] => []
  | item :: items => toJson item :: toItems items

/-- The members that entries become, in order and with their casing. -/
def toMembers : List (String × Value) → List (String × Json)
  | [] => []
  | (key, value) :: entries => (key, toJson value) :: toMembers entries

end

theorem toItems_eq_map (items : List Value) : toItems items = items.map toJson := by
  induction items with
  | nil => rfl
  | cons item items ih => simp [toItems, ih]

end Value

namespace Record

/-- The record of the members of an object. -/
def ofMembers (members : List (String × Json)) : Record := Value.ofMembers [] members

/-- The object of a record. -/
def toJson (record : Record) : Json := (Value.record record).toJson

/-- The value under a key, missing if there is none. -/
def value (record : Record) (key : String) : Value := (record.get? key).getD .missing

/-- A value that is not missing is stored. -/
theorem get?_of_stored {record : Record} {key : String} (h : (record.value key).isMissing = false) :
    record.get? key = some (record.value key) := by
  unfold value at h ⊢
  cases hget : record.get? key with
  | none =>
    rw [hget] at h
    cases h
  | some value => rfl

end Record

end Scim
