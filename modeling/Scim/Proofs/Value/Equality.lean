import Mathlib.Data.List.Forall2
import Mathlib.Data.List.Zip
import Scim.Proofs.Record.Entries
import Scim.Proofs.Text.Qualified
import Scim.Proofs.Value.Everywhere
import Scim.Value.Equality

/-!
# Equality of values, one level at a time

Values are compared to the depth of the first of them.  Since no comparison of parts goes deeper than either
side is, any depth that reaches to the bottom of one side gives the same answer, and the depth can be left
out: lists are equal when their items are, one by one, and records are equal when each has a counterpart in
the other for all of its entries.

An entry has a counterpart in one of three ways.  Its key is in use, and then the value there decides.  Or it
is not, and the entry holds the data of an extension that the other record holds under keys `schema:attr`; or
it stands under such a key itself, and the other record holds the data of the extension in one entry.

## Main results

* `sameWithin_eq_same`: any depth that reaches to the bottom of one side will do.
* `same_list_iff`, `same_record_iff`: equality of lists and of records, without a depth.
* `same_comm`: equality is symmetric.
* `same_refl_of_wellKeyed`: values whose keys differ are equal to themselves.
-/

namespace Scim

open Text

namespace Value

theorem depth_pos (value : Value) : 0 < value.depth := by
  cases value <;> simp [depth]

end Value

/-! ## Depths -/

/-- What is asked of all items of a list depends on the items only. -/
private theorem all_congr_of_mem {α : Type} {items : List α} {p q : α → Bool}
    (h : ∀ item ∈ items, p item = q item) : items.all p = items.all q := by
  rw [Bool.eq_iff_iff, List.all_eq_true, List.all_eq_true]
  exact forall₂_congr fun item hitem => by rw [h item hitem]

namespace Record

variable {same other : Value → Value → Bool} {left right : Record}

theorem depth_of_get? {record : Record} {key : String} {value : Value} (h : record.get? key = some value) :
    value.depth < (Value.record record).depth := by
  obtain ⟨stored, hmem, -⟩ := Entries.mem_of_get? h
  exact Value.depth_entry_lt hmem

/-- Whether every entry has a counterpart depends on the comparison of parts only. -/
theorem containedIn_congr
    (h : ∀ a b : Value, a.depth < (Value.record right).depth → b.depth < (Value.record left).depth →
      same a b = other a b) :
    containedIn same left right = containedIn other left right := by
  have hholds : ∀ (record : Record) (key : String) (value : Value),
      (Value.record record).depth ≤ (Value.record right).depth → value.depth < (Value.record left).depth →
        holds same record key value = holds other record key value := by
    intro record key value hrecord hvalue
    unfold holds
    split
    · next found hfound =>
      have hdepth := depth_of_get? hfound
      exact h found value (by omega) hvalue
    · rfl
  refine all_congr_of_mem fun entry hentry => ?_
  obtain ⟨key, value⟩ := entry
  have hvalue : value.depth < (Value.record left).depth := Value.depth_entry_lt hentry
  unfold hasCounterpart
  split
  · next found hfound => exact h found value (depth_of_get? hfound) hvalue
  · split
    · next inner hinner =>
      refine all_congr_of_mem fun part hpart => ?_
      have hpart' : part.2.depth < value.depth := by
        rw [show value = .record inner from hinner]
        exact Value.depth_entry_lt hpart
      exact hholds right _ part.2 (Nat.le_refl _) (by omega)
    · unfold holdsQualified
      split
      · rfl
      · split
        · next inner hinner =>
          have hdepth := depth_of_get? hinner
          exact hholds inner _ value (by omega) hvalue
        · rfl

end Record

namespace Value

/-- Once the depth reaches to the bottom of one side, one more level makes no difference. -/
theorem sameWithin_succ {n : Nat} {a b : Value} (h : a.depth ≤ n ∨ b.depth ≤ n) :
    sameWithin (n + 1) a b = sameWithin n a b := by
  induction n generalizing a b with
  | zero =>
    have ha := depth_pos a
    have hb := depth_pos b
    omega
  | succ n ih =>
    cases a with
    | list as =>
      cases b with
      | list bs =>
        rw [sameWithin, sameWithin]
        congr 1
        refine all_congr_of_mem fun pair hpair => ?_
        have ha := depth_item_lt (List.of_mem_zip hpair).1
        have hb := depth_item_lt (List.of_mem_zip hpair).2
        exact ih (by omega)
      | _ => rfl
    | record as =>
      cases b with
      | record bs =>
        rw [sameWithin, sameWithin]
        congr 1
        · exact Record.containedIn_congr fun x y hx hy => ih (by omega)
        · exact Record.containedIn_congr fun x y hx hy => ih (by omega)
      | _ => rfl
    | _ => cases b <;> rfl

/-- Any depth that reaches to the bottom of one side will do. -/
theorem sameWithin_eq_same {n : Nat} {a b : Value} (h : a.depth ≤ n ∨ b.depth ≤ n) :
    sameWithin n a b = a.same b := by
  have hmore : ∀ {m : Nat} (extra : Nat), a.depth ≤ m ∨ b.depth ≤ m →
      sameWithin (m + extra) a b = sameWithin m a b := by
    intro m extra hm
    induction extra with
    | zero => rfl
    | succ extra ih =>
      rw [← Nat.add_assoc, sameWithin_succ (by omega), ih]
  rw [same]
  rcases Nat.le_total n a.depth with hle | hle
  · obtain ⟨extra, hextra⟩ := Nat.exists_eq_add_of_le hle
    rw [hextra, hmore extra h]
  · obtain ⟨extra, hextra⟩ := Nat.exists_eq_add_of_le hle
    rw [hextra, hmore extra (Or.inl (Nat.le_refl _))]

/-! ## Equality without a depth -/

/-- Lists are equal when their items are, one by one. -/
theorem same_list_iff {as bs : List Value} :
    (Value.list as).same (.list bs) = true ↔ List.Forall₂ (fun a b => a.same b = true) as bs := by
  have hitem : ∀ {a b : Value}, (a, b) ∈ as.zip bs → sameWithin (depthItems as) a b = a.same b := by
    intro a b hpair
    have hdepth := depth_item_lt (List.of_mem_zip hpair).1
    rw [depth] at hdepth
    exact sameWithin_eq_same (Or.inl (by omega))
  rw [same, depth, sameWithin, Bool.and_eq_true, beq_iff_eq, List.all_eq_true, List.forall₂_iff_zip]
  refine and_congr_right fun _ => ⟨fun h a b hpair => ?_, fun h pair hpair => ?_⟩
  · rw [← hitem hpair]
    exact h (a, b) hpair
  · exact (hitem hpair).trans (h hpair)

/-- Records are equal when all entries of either have a counterpart in the other. -/
theorem same_record {as bs : Record} :
    (Value.record as).same (.record bs) =
      (Record.containedIn Value.same as bs && Record.containedIn Value.same bs as) := by
  have hdepth : (Value.record as).depth = depthEntries as + 1 := by rw [depth]
  have hleft : Record.containedIn (sameWithin (depthEntries as)) as bs =
      Record.containedIn Value.same as bs :=
    Record.containedIn_congr fun x y _ hy => sameWithin_eq_same (Or.inr (by omega))
  have hright : Record.containedIn (sameWithin (depthEntries as)) bs as =
      Record.containedIn Value.same bs as :=
    Record.containedIn_congr fun x y hx _ => sameWithin_eq_same (Or.inl (by omega))
  rw [same, depth, sameWithin, hleft, hright]

theorem sameWithin_comm (n : Nat) (a b : Value) : sameWithin n a b = sameWithin n b a := by
  induction n generalizing a b with
  | zero => rfl
  | succ n ih =>
    cases a with
    | list as =>
      cases b with
      | list bs =>
        rw [sameWithin, sameWithin, BEq.comm, ← List.zip_swap as bs, List.all_map]
        congr 1
        exact all_congr_of_mem fun pair _ => ih pair.1 pair.2
      | _ => rfl
    | record as =>
      cases b with
      | record bs =>
        rw [sameWithin, sameWithin]
        exact Bool.and_comm _ _
      | _ => rfl
    | bool a =>
      cases b with
      | bool b => exact BEq.comm
      | _ => rfl
    | number a =>
      cases b with
      | number b => exact Number.same_comm a b
      | _ => rfl
    | text a =>
      cases b with
      | text b => exact BEq.comm
      | _ => rfl
    | _ => cases b <;> rfl

/-- Equality is symmetric. -/
theorem same_comm (a b : Value) : a.same b = b.same a := by
  rw [same, sameWithin_comm]
  exact sameWithin_eq_same (Or.inr (Nat.le_refl _))

end Value

/-! ## Counterparts of entries -/

namespace Record

variable {record left right : Record} {key : String} {value : Value}

/-- A record holds the parts of another one spread over several entries, each under a key that goes on from the
given one. -/
def HoldsSpread (record : Record) (key : String) (inner : Record) : Prop :=
  ∀ part ∈ inner, ∃ found, record.get? (key ++ ":" ++ part.1) = some found ∧ found.same part.2 = true

/-- An entry has an equal counterpart in a record: under its own key if that is in use, else in the other way
of writing extension data. -/
inductive Counterpart (record : Record) (key : String) : Value → Prop
  | stored {value found : Value} (hfound : record.get? key = some found) (same : found.same value = true) :
      Counterpart record key value
  | spread {inner : Record} (absent : record.get? key = none) (each : record.HoldsSpread key inner) :
      Counterpart record key (.record inner)
  | gathered {schema attr : String} {inner : Record} {value found : Value}
      (absent : record.get? key = none) (noRecord : value.record? = none)
      (whole : key = schema ++ ":" ++ attr) (last : ':' ∉ attr.toList)
      (hinner : record.get? schema = some (.record inner)) (hfound : inner.get? attr = some found)
      (same : found.same value = true) : Counterpart record key value

theorem holds_same_iff : holds Value.same record key value = true ↔
    ∃ found, record.get? key = some found ∧ found.same value = true := by
  unfold holds
  split
  · next found hfound => simp [hfound]
  · next hnone => simp [hnone]

/-- Where its key is not in use, a value that is no record has to stand in the record of an extension. -/
theorem holdsQualified_same_iff : holdsQualified Value.same record key value = true ↔
    ∃ schema attr inner found, key = schema ++ ":" ++ attr ∧ ':' ∉ attr.toList ∧
      record.get? schema = some (.record inner) ∧ Entries.get? inner attr = some found ∧
        found.same value = true := by
  constructor
  · intro h
    unfold holdsQualified at h
    split at h
    · cases h
    · next schema attr hcut =>
      obtain ⟨hwhole, hlast⟩ := splitLast_eq_some.1 hcut
      split at h
      · next inner hinner =>
        obtain ⟨found, hfound, hsame⟩ := holds_same_iff.1 h
        refine ⟨String.ofList schema, String.ofList attr, inner, found, ?_, by simpa using hlast, hinner,
          hfound, hsame⟩
        apply String.toList_injective
        simpa using hwhole
      · cases h
  · rintro ⟨schema, attr, inner, found, rfl, hlast, hinner, hfound, hsame⟩
    rw [holdsQualified, splitLast_qualified hlast]
    simp only [String.ofList_toList, hinner]
    exact holds_same_iff.2 ⟨found, hfound, hsame⟩

theorem hasCounterpart_iff :
    hasCounterpart Value.same record (key, value) = true ↔ Counterpart record key value := by
  unfold hasCounterpart
  constructor
  · intro h
    split at h
    · next found hfound => exact .stored hfound h
    · next hnone =>
      split at h
      · next inner hinner =>
        cases hinner
        exact .spread hnone fun entry hentry => holds_same_iff.1 (List.all_eq_true.1 h entry hentry)
      · next hrecord =>
        obtain ⟨schema, attr, inner, found, hwhole, hlast, hinner, hfound, hsame⟩ :=
          holdsQualified_same_iff.1 h
        have hnoRecord : value.record? = none := by
          cases value with
          | record entries => exact absurd rfl (hrecord entries)
          | _ => rfl
        exact .gathered hnone hnoRecord hwhole hlast hinner hfound hsame
  · intro h
    cases h with
    | stored hfound same => simp only [hfound, same]
    | spread absent each =>
      simp only [absent]
      exact List.all_eq_true.2 fun entry hentry => holds_same_iff.2 (each entry hentry)
    | gathered absent noRecord whole last hinner hfound same =>
      simp only [absent]
      have hqualified := holdsQualified_same_iff.2 ⟨_, _, _, _, whole, last, hinner, hfound, same⟩
      cases value with
      | record entries => cases noRecord
      | _ => exact hqualified

/-- All entries of a record have a counterpart in another one. -/
def Contained (left right : Record) : Prop := ∀ entry ∈ left, Counterpart right entry.1 entry.2

theorem containedIn_iff : containedIn Value.same left right = true ↔ Contained left right := by
  rw [containedIn, List.all_eq_true]
  exact forall₂_congr fun entry _ => hasCounterpart_iff

theorem same_record_iff :
    (Value.record left).same (.record right) = true ↔ Contained left right ∧ Contained right left := by
  rw [Value.same_record, Bool.and_eq_true, containedIn_iff, containedIn_iff]

end Record

/-! ## Values are equal to themselves -/

namespace Value

/-- A value whose keys differ at every depth is equal to itself: a key finds its own entry. -/
theorem same_refl_of_wellKeyed : ∀ value : Value, value.WellKeyed → value.same value = true
  | .missing, _ => rfl
  | .invalid, _ => rfl
  | .null, _ => rfl
  | .bool _, _ => BEq.rfl
  | .number n, _ => Number.same_refl n
  | .text _, _ => BEq.rfl
  | .list items, h => by
    have hitems := everywhere_list.1 h
    refine same_list_iff.2 (List.forall₂_same.2 fun item hitem => ?_)
    exact same_refl_of_wellKeyed item (hitems item hitem)
  | .record entries, h => by
    obtain ⟨hkeys, hvalues⟩ := everywhere_record.1 h
    have hself : Record.Contained entries entries := by
      intro entry hentry
      have hfound : Entries.get? entries entry.1 = some entry.2 := Entries.get?_of_mem hkeys hentry
      exact .stored hfound (same_refl_of_wellKeyed entry.2 (hvalues entry hentry))
    exact Record.same_record_iff.2 ⟨hself, hself⟩
termination_by value => value.depth
decreasing_by
  · exact depth_item_lt hitem
  · exact depth_entry_lt hentry

end Value

end Scim
