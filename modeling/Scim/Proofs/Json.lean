import Mathlib.Data.List.Basic
import Scim.Json

/-!
# Documents that equal themselves

Two objects are compared by looking up each member of one in the other, so an object that repeated a key
would not even equal itself: its second member under that key is never found.  The objects of a data format
do not repeat keys, and `UniqueKeys` says so at every depth.

## Main results

* `Json.same_refl`: a document without repeated keys equals itself.
-/

namespace Scim.Json

mutual

/-- No object at any depth repeats a key. -/
def UniqueKeys : Json → Prop
  | .list items => uniqueItems items
  | .object members => (members.map Prod.fst).Nodup ∧ uniqueMembers members
  | _ => True

/-- No object at any depth of the items repeats a key. -/
def uniqueItems : List Json → Prop
  | [] => True
  | item :: items => item.UniqueKeys ∧ uniqueItems items

/-- No object at any depth of the values of members repeats a key. -/
def uniqueMembers : List (String × Json) → Prop
  | [] => True
  | (_, value) :: members => value.UniqueKeys ∧ uniqueMembers members

end

/-- Where keys are not repeated, a key leads to its own value. -/
theorem lookup_of_mem {members : List (String × Json)} (h : (members.map Prod.fst).Nodup) {key : String}
    {value : Json} (hmem : (key, value) ∈ members) : members.lookup key = some value := by
  induction members with
  | nil => cases hmem
  | cons member members ih =>
    obtain ⟨hfresh, hrest⟩ := List.nodup_cons.1 h
    obtain ⟨first, stored⟩ := member
    rw [List.lookup_cons]
    rcases List.mem_cons.1 hmem with hhead | htail
    · cases hhead
      simp
    · have hne : (key == first) = false := by
        rw [beq_eq_false_iff_ne]
        rintro rfl
        exact hfresh (List.mem_map.2 ⟨(key, value), htail, rfl⟩)
      rw [hne]
      exact ih hrest htail

/-- Members are found in an object that holds them under keys that it does not repeat. -/
theorem sameMembers_of_subset {whole : List (String × Json)} (h : (whole.map Prod.fst).Nodup)
    {members : List (String × Json)} (hsub : ∀ member ∈ members, member ∈ whole)
    (hself : ∀ member ∈ members, member.2.same member.2 = true) : sameMembers members whole = true := by
  induction members with
  | nil => rfl
  | cons member members ih =>
    obtain ⟨key, value⟩ := member
    have hfound := lookup_of_mem h (hsub (key, value) List.mem_cons_self)
    have hrest := ih (fun m hm => hsub m (List.mem_cons_of_mem _ hm))
      (fun m hm => hself m (List.mem_cons_of_mem _ hm))
    have hvalue : value.same value = true := hself (key, value) List.mem_cons_self
    rw [sameMembers, hfound, hrest]
    simpa using hvalue

mutual

/-- A document without repeated keys equals itself. -/
theorem same_refl : ∀ json : Json, json.UniqueKeys → json.same json = true
  | .null, _ => rfl
  | .bool _, _ => by simp [same]
  | .number n, _ => n.same_refl
  | .text _, _ => by simp [same]
  | .list items, h => sameItems_refl items h
  | .object members, h => by
    rw [same, Bool.and_eq_true]
    exact ⟨by simp, sameMembers_of_subset h.1 (fun _ hm => hm) (members_same_refl members h.2)⟩

theorem sameItems_refl : ∀ items : List Json, uniqueItems items → sameItems items items = true
  | [], _ => rfl
  | item :: items, h => by
    rw [sameItems, same_refl item h.1, sameItems_refl items h.2]
    rfl

theorem members_same_refl : ∀ members : List (String × Json), uniqueMembers members →
    ∀ member ∈ members, member.2.same member.2 = true
  | [], _ => fun _ hm => absurd hm List.not_mem_nil
  | (_, value) :: members, h => by
    intro member hm
    rcases List.mem_cons.1 hm with rfl | hm
    · exact same_refl value h.1
    · exact members_same_refl members h.2 member hm

end

end Scim.Json
