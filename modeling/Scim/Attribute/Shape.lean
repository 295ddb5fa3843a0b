import Scim.Record.Address
import Scim.Report
import Scim.Value.Equality

/-!
# Checks of multi-valued complex values

The elements of a multi-valued complex value are records that by convention have a `type`, a `value` and a
mark that one of them is `primary`.  Two checks follow from the convention; elements that are not records
play no part in them.

## Main results

* `checkSinglePrimary_of_not_list`: a value that is no list has no elements to check.
-/

namespace Scim

/-- The elements of a list that are records. -/
def recordItems (value : Value) : List Record := ((value.list?).getD []).filterMap Value.record?

/-- Whether an element is marked as the primary one. -/
def isPrimary (item : Record) : Bool := (item.get (.path "primary")).bool? == some true

/-- Reports that more than one element is the primary one.  Checking proceeds. -/
def checkSinglePrimary (value : Value) : Report :=
  if 1 < ((recordItems value).filter isPrimary).length then .ofViolation .severalPrimaries true
  else .empty

/-- The type and the value of an element, if both say something. -/
def pair? (item : Record) : Option (Value × Value) :=
  let kind := item.get (.path "type")
  let value := item.get (.path "value")
  if kind.truthy && value.truthy then some (kind, value) else none

/-- Adds a pair to those counted so far. -/
def countPair (counts : List ((Value × Value) × Nat)) (pair : Value × Value) :
    List ((Value × Value) × Nat) :=
  match counts with
  | [] => [(pair, 1)]
  | (other, n) :: rest =>
    if other.1.same pair.1 && other.2.same pair.2 then (other, n + 1) :: rest
    else (other, n) :: countPair rest pair

/-- Advises against each pair of type and value that several elements have. -/
def checkDistinctPairs (value : Value) : Report :=
  let counts := ((recordItems value).filterMap pair?).foldl countPair []
  (counts.filter fun (_, n) => 1 < n).foldl (fun report _ => report.addAdvice .repeatedPair []) .empty

theorem checkSinglePrimary_of_not_list {value : Value} (h : value.list? = none) :
    checkSinglePrimary value = .empty := by
  simp [checkSinglePrimary, recordItems, h]

end Scim
