import Mathlib.Data.List.Forall2
import Mathlib.Data.List.Perm.Subperm
import Scim.Proofs.Json
import Scim.Proofs.Value.RoundTrip

/-!
# Where equality of documents is an equivalence

Objects are compared by their length and by looking each member of the first up in the second.  That alone is one
half of what symmetry asks for.  The other half is counting: an object that repeats no key, and finds all its members
in an object of the same length, has used up the keys of that one.  So equality is symmetric where the first document
repeats no key.  Transitivity asks for nothing, since what a lookup gives is a member again.

## Main results

* `Json.sameItems_iff`, `Json.sameMembers_iff`: what equality of lists and of objects means.
* `Json.same_symm`, `Json.same_trans`: equality is symmetric and transitive.
-/

namespace Scim

/-- What passes on between the items of lists passes on between the lists. -/
theorem forall₂_trans {α : Type} {R : α → α → Prop} {as bs cs : List α}
    (hfirst : List.Forall₂ R as bs) (hsecond : List.Forall₂ R bs cs)
    (htrans : ∀ a ∈ as, ∀ b ∈ bs, ∀ c ∈ cs, R a b → R b c → R a c) : List.Forall₂ R as cs := by
  induction hfirst generalizing cs with
  | nil => exact hsecond
  | @cons a b as bs hab _ ih =>
    cases hsecond with
    | @cons _ c _ cs hbc hrest =>
      refine .cons (htrans a List.mem_cons_self b List.mem_cons_self c List.mem_cons_self hab hbc) ?_
      refine ih hrest fun a ha b hb c hc => ?_
      exact htrans a (List.mem_cons_of_mem _ ha) b (List.mem_cons_of_mem _ hb) c (List.mem_cons_of_mem _ hc)

/-- What holds the other way round between the items of lists does so between the lists. -/
theorem forall₂_symm {α : Type} {R : α → α → Prop} {as bs : List α} (h : List.Forall₂ R as bs)
    (hsymm : ∀ a ∈ as, ∀ b, R a b → R b a) : List.Forall₂ R bs as := by
  induction h with
  | nil => exact .nil
  | @cons a b as bs hab _ ih =>
    obtain ⟨hfirst, hrest⟩ := List.forall_mem_cons.1 hsymm
    exact .cons (hfirst b hab) (ih hrest)

namespace Json

theorem sameItems_iff {as bs : List Json} :
    sameItems as bs = true ↔ List.Forall₂ (fun a b => a.same b = true) as bs := by
  induction as generalizing bs with
  | nil => cases bs <;> simp [sameItems]
  | cons a as ih =>
    cases bs with
    | nil => simp [sameItems]
    | cons b bs => rw [sameItems, Bool.and_eq_true, ih, List.forall₂_cons]

theorem sameMembers_iff {as bs : List (String × Json)} :
    sameMembers as bs = true ↔
      ∀ member ∈ as, ∃ other, bs.lookup member.1 = some other ∧ member.2.same other = true := by
  induction as with
  | nil => simp [sameMembers]
  | cons member as ih =>
    obtain ⟨key, value⟩ := member
    rw [sameMembers, Bool.and_eq_true, ih, List.forall_mem_cons]
    refine and_congr_left fun _ => ?_
    cases bs.lookup key <;> simp

theorem same_object_iff {as bs : List (String × Json)} :
    (object as).same (object bs) = true ↔ as.length = bs.length ∧ sameMembers as bs = true := by
  rw [same, Bool.and_eq_true, beq_iff_eq]

/-- What a key leads to is a member. -/
theorem mem_of_lookup {members : List (String × Json)} {key : String} {value : Json}
    (h : members.lookup key = some value) : (key, value) ∈ members := by
  obtain ⟨before, after, rfl, -⟩ := List.lookup_eq_some_iff.1 h
  exact List.mem_append_right _ List.mem_cons_self

theorem uniqueItems_iff {items : List Json} : uniqueItems items ↔ ∀ item ∈ items, item.UniqueKeys := by
  induction items with
  | nil => simp [uniqueItems]
  | cons item items ih => rw [uniqueItems, ih, List.forall_mem_cons]

theorem uniqueMembers_iff {members : List (String × Json)} :
    uniqueMembers members ↔ ∀ member ∈ members, member.2.UniqueKeys := by
  induction members with
  | nil => simp [uniqueMembers]
  | cons member members ih => rw [uniqueMembers, ih, List.forall_mem_cons]

/-- Members without repeated keys that are all found among as many members have the keys of these. -/
theorem perm_keys {as bs : List (String × Json)} (has : (as.map Prod.fst).Nodup) (hlength : as.length = bs.length)
    (h : sameMembers as bs = true) : (as.map Prod.fst).Perm (bs.map Prod.fst) := by
  have hsub : as.map Prod.fst ⊆ bs.map Prod.fst := by
    intro key hkey
    obtain ⟨member, hmember, rfl⟩ := List.mem_map.1 hkey
    obtain ⟨other, hother, -⟩ := sameMembers_iff.1 h member hmember
    exact List.mem_map.2 ⟨_, mem_of_lookup hother, rfl⟩
  exact (List.subperm_of_subset has hsub).perm_of_length_le (by simp [hlength])

private theorem sameMembers_symm {as bs : List (String × Json)} (has : (as.map Prod.fst).Nodup)
    (hvalues : ∀ member ∈ as, ∀ other : Json, member.2.same other = true → other.same member.2 = true)
    (hlength : as.length = bs.length) (h : sameMembers as bs = true) : sameMembers bs as = true := by
  have hkeys := perm_keys has hlength h
  refine sameMembers_iff.2 fun (key, value) hmember => ?_
  obtain ⟨⟨_, own⟩, hown, rfl⟩ := List.mem_map.1 (hkeys.mem_iff.2 (List.mem_map_of_mem hmember))
  obtain ⟨other, hother, hsame⟩ := sameMembers_iff.1 h _ hown
  rw [lookup_of_mem (hkeys.nodup_iff.1 has) hmember] at hother
  cases hother
  exact ⟨own, lookup_of_mem has hown, hvalues _ hown _ hsame⟩

/-- Where no key is repeated, equality is symmetric. -/
theorem same_symm {a b : Json} (ha : a.UniqueKeys) (h : a.same b = true) : b.same a = true := by
  induction a using Json.induct generalizing b with
  | null => cases b <;> first | rfl | cases h
  | bool value =>
    cases b with
    | bool other =>
      rw [same, beq_iff_eq] at h ⊢
      exact h.symm
    | _ => cases h
  | number n =>
    cases b with
    | number m =>
      rw [same] at h ⊢
      rwa [Number.same_comm]
    | _ => cases h
  | text s =>
    cases b with
    | text t =>
      rw [same, beq_iff_eq] at h ⊢
      exact h.symm
    | _ => cases h
  | list items ih =>
    cases b with
    | list others =>
      rw [same, sameItems_iff] at h ⊢
      rw [UniqueKeys, uniqueItems_iff] at ha
      exact forall₂_symm h fun item hitem other => ih item hitem (ha item hitem)
    | _ => cases h
  | object members ih =>
    cases b with
    | object others =>
      rw [same_object_iff] at h ⊢
      obtain ⟨hkeys, hvalues⟩ := ha
      rw [uniqueMembers_iff] at hvalues
      exact ⟨h.1.symm, sameMembers_symm hkeys (fun member hmember other => ih member hmember (hvalues member hmember))
        h.1 h.2⟩
    | _ => cases h

/-- Equality is transitive. -/
theorem same_trans {a b c : Json} (hleft : a.same b = true) (hright : b.same c = true) : a.same c = true := by
  induction a using Json.induct generalizing b c with
  | null =>
    cases b with
    | null => exact hright
    | _ => cases hleft
  | bool value =>
    cases b with
    | bool other =>
      rw [same, beq_iff_eq] at hleft
      rwa [hleft]
    | _ => cases hleft
  | number n =>
    cases b with
    | number m =>
      cases c with
      | number k => exact Number.same_trans hleft hright
      | _ => cases hright
    | _ => cases hleft
  | text s =>
    cases b with
    | text t =>
      rw [same, beq_iff_eq] at hleft
      rwa [hleft]
    | _ => cases hleft
  | list items ih =>
    cases b with
    | list others =>
      cases c with
      | list thirds =>
        rw [same, sameItems_iff] at hleft hright ⊢
        exact forall₂_trans hleft hright fun item hitem _ _ _ _ => ih item hitem
      | _ => cases hright
    | _ => cases hleft
  | object members ih =>
    cases b with
    | object others =>
      cases c with
      | object thirds =>
        rw [same_object_iff, sameMembers_iff] at hleft hright ⊢
        refine ⟨hleft.1.trans hright.1, fun member hmember => ?_⟩
        obtain ⟨other, hother, hsame⟩ := hleft.2 member hmember
        obtain ⟨third, hthird, hnext⟩ := hright.2 _ (mem_of_lookup hother)
        exact ⟨third, hthird, ih member hmember hsame hnext⟩
      | _ => cases hright
    | _ => cases hleft

end Json

end Scim
