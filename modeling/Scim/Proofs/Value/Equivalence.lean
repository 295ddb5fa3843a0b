import Scim.Proofs.Json.Equality
import Scim.Proofs.Value.Equality

/-!
# Where equality is an equivalence

Equality of values is reflexive, as long as keys differ, and symmetric.  It is not transitive: whether an
entry is compared under its own key or in the other way of writing extension data depends on what the other
record holds, so a record in between can be equal to two records that are not compared in the same way.

Three things can go wrong.  An empty record stands for no entry at all where the key is not in use, and for an
empty record where it is.  A record that holds the data of one extension in both ways is compared in one of
them only.  And a capital sigma may have one lower-case form alone and another one before a colon.  A record is
*unambiguous* if it does none of these at any depth, and between such records equality is transitive.

The proof follows the entry through the record in between, by the three ways of having a counterpart.  What it
rests on is `Contained.value_of_extended`: an entry under `schema:attr` has its counterpart in the data of the
extension, if the other record holds that in one entry, and in no other way.

## Main results

* `Contained.value_of_extended`: where an entry under `schema:attr` has its counterpart.
* `counterpart_of_stored`, `counterpart_of_spread`, `counterpart_of_gathered`: counterparts of counterparts.
* `same_equivalence`: equality is reflexive, symmetric and, between unambiguous values, transitive.
-/

namespace Scim

open Text

/-- A record that writes the data of no extension in two ways, holds no empty record, and has no capital sigma
in its keys. -/
structure Record.Unambiguous (record : Record) : Prop where
  distinct : record.DistinctKeys
  noSigma : ∀ entry ∈ record, NoSigma entry.1
  filled : ∀ entry ∈ record, entry.2 ≠ .record []
  apart : ∀ (key : String) (inner : Record) (rest : String), (key, .record inner) ∈ record →
    record.get? (key ++ ":" ++ rest) = none

/-- A value all records of which, at any depth, are unambiguous. -/
def Value.Unambiguous (value : Value) : Prop := value.Everywhere Record.Unambiguous

namespace Value

/-- Only a record is equal to a record. -/
theorem exists_record_of_same {a : Value} {bs : Record} (h : a.same (.record bs) = true) :
    ∃ as, a = .record as := by
  cases a with
  | record as => exact ⟨as, rfl⟩
  | _ => cases h

/-- Only a list is equal to a list. -/
theorem exists_list_of_same {a : Value} {bs : List Value} (h : a.same (.list bs) = true) :
    ∃ as, a = .list as := by
  cases a with
  | list as => exact ⟨as, rfl⟩
  | _ => cases h

theorem record?_of_same {a b : Value} (h : a.same b = true) : a.record? = none ↔ b.record? = none := by
  cases a with
  | record as =>
    rw [same_comm] at h
    obtain ⟨bs, rfl⟩ := exists_record_of_same h
    simp [record?]
  | _ =>
    cases b with
    | record bs => cases h
    | _ => rfl

/-- Equality goes on from one side of a value to the other. -/
def Passes (middle : Value) : Prop :=
  ∀ ⦃a b : Value⦄, a.Unambiguous → b.Unambiguous → a.same middle = true → middle.same b = true →
    a.same b = true

end Value

namespace Record

open Value (same_comm same_record)

/-! ## Keys of unambiguous records -/

section

variable {record other : Record} {key : String} {value : Value}

theorem noSigma_of_mem (h : (Value.record record).Unambiguous) (hmem : (key, value) ∈ record) : NoSigma key :=
  (Value.everywhere_record.1 h).1.noSigma (key, value) hmem

theorem unambiguous_of_mem (h : (Value.record record).Unambiguous) (hmem : (key, value) ∈ record) :
    value.Unambiguous :=
  (Value.everywhere_record.1 h).2 (key, value) hmem

theorem unambiguous_of_get? (h : (Value.record record).Unambiguous) (hget : record.get? key = some value) :
    value.Unambiguous := by
  obtain ⟨stored, hmem, -⟩ := Entries.mem_of_get? hget
  exact unambiguous_of_mem h hmem

/-- What a key finds stands under a key without capital sigma. -/
theorem stored_of_get? (h : (Value.record record).Unambiguous) (hget : record.get? key = some value) :
    ∃ stored, (stored, value) ∈ record ∧ lower stored = lower key ∧ NoSigma stored := by
  obtain ⟨stored, hmem, hkey⟩ := Entries.mem_of_get? hget
  exact ⟨stored, hmem, hkey, noSigma_of_mem h hmem⟩

/-- No key goes on from one that finds a record. -/
theorem get?_extended (h : (Value.record record).Unambiguous) {inner : Record} (hkey : NoSigma key)
    (hget : record.get? key = some (.record inner)) {long rest : String} (hrest : NoSigma rest)
    (hlong : lower long = lower (key ++ ":" ++ rest)) : record.get? long = none := by
  obtain ⟨stored, hmem, hstored, hsigma⟩ := stored_of_get? h hget
  have hsame : lower long = lower (stored ++ ":" ++ rest) :=
    hlong.trans (lower_qualified_congr hkey hrest hsigma hrest hstored.symm rfl)
  rw [Entries.get?_congr record hsame]
  exact (Value.everywhere_record.1 h).1.apart stored inner rest hmem

/-- A record that is an entry of an unambiguous one is not empty. -/
theorem exists_part (h : (Value.record record).Unambiguous) {inner : Record}
    (hmem : (key, .record inner) ∈ record) : ∃ part, part ∈ inner := by
  cases inner with
  | nil => exact absurd rfl ((Value.everywhere_record.1 h).1.filled _ hmem)
  | cons part rest => exact ⟨part, List.mem_cons_self⟩

/-- An entry under `schema:attr` has its counterpart in the record that stands under `schema`, if there is one
there: it is no record, `attr` has no further colon, and its value stands under `attr`. -/
theorem Contained.value_of_extended (hcontained : Contained other record)
    (hother : (Value.record other).Unambiguous) (h : (Value.record record).Unambiguous) {inner : Record}
    {attr long : String} (hkey : NoSigma key) (hattr : NoSigma attr)
    (hget : record.get? key = some (.record inner)) (hmem : (long, value) ∈ other)
    (hlong : lower long = lower (key ++ ":" ++ attr)) :
    ':' ∉ attr.toList ∧ value.record? = none ∧ ∃ found, Entries.get? inner attr = some found ∧
      found.same value = true := by
  have hsigma : NoSigma long := noSigma_of_mem hother hmem
  have hcounterpart : Counterpart record long value := hcontained _ hmem
  cases hcounterpart with
  | stored hfound =>
    rw [get?_extended h hkey hget hattr hlong] at hfound
    cases hfound
  | @spread parts absent each =>
    -- the counterparts of the parts would stand under still longer keys
    obtain ⟨part, hpart⟩ := exists_part hother hmem
    obtain ⟨found, hfound, -⟩ := each part hpart
    have hpartSigma : NoSigma part.1 := noSigma_of_mem (unambiguous_of_mem hother hmem) hpart
    have hlonger : lower (long ++ ":" ++ part.1) = lower (key ++ ":" ++ (attr ++ ":" ++ part.1)) := by
      rw [lower_qualified_congr hsigma hpartSigma (noSigma_qualified.2 ⟨hkey, hattr⟩) hpartSigma hlong rfl]
      simp only [String.append_assoc]
    rw [get?_extended h hkey hget (noSigma_qualified.2 ⟨hattr, hpartSigma⟩) hlonger] at hfound
    cases hfound
  | @gathered schema name _ _ found absent noRecord whole last hinner hfound same =>
    rw [whole] at hsigma hlong
    by_cases hcolon : ':' ∈ attr.toList
    · -- the record would stand under a key that goes on from `key`
      obtain ⟨first, second, rfl, hsecond⟩ := exists_qualified hcolon
      obtain ⟨hfirstSigma, hsecondSigma⟩ := noSigma_qualified.1 hattr
      rw [show key ++ ":" ++ (first ++ ":" ++ second) = key ++ ":" ++ first ++ ":" ++ second by
        simp only [String.append_assoc]] at hlong
      have hwhole : NoSigma (key ++ ":" ++ first ++ ":" ++ second) :=
        noSigma_qualified.2 ⟨noSigma_qualified.2 ⟨hkey, hfirstSigma⟩, hsecondSigma⟩
      obtain ⟨hschema, -⟩ := lower_qualified_inj hsigma hwhole last hsecond hlong
      rw [get?_extended h hkey hget hfirstSigma hschema] at hinner
      cases hinner
    · obtain ⟨hschema, hname⟩ :=
        lower_qualified_inj hsigma (noSigma_qualified.2 ⟨hkey, hattr⟩) last hcolon hlong
      rw [Entries.get?_congr record hschema, hget] at hinner
      cases hinner
      rw [Entries.get?_congr _ hname] at hfound
      exact ⟨hcolon, noRecord, found, hfound, same⟩

end

/-! ## Counterparts of counterparts

Two records, `left` and `right`, are each compared with one in the `middle`, whose values pass equality on, as
do the values of the records that it holds.  What has a counterpart in the middle has one on the other side. -/

section

variable {left middle right inner : Record} {key : String} {value : Value}
  (hleft : (Value.record left).Unambiguous) (hmiddle : (Value.record middle).Unambiguous)
  (hright : (Value.record right).Unambiguous)
  (hpass : ∀ value : Value, value.depth < (Value.record middle).depth → value.Unambiguous → value.Passes)

section

variable (hfrom : Contained right middle)

include hmiddle hright hfrom

/-- Data of an extension that is one entry of the middle and spread over entries on the right has plain names
and no records among its values. -/
theorem part_of_spread (hkey : NoSigma key) (hget : middle.get? key = some (.record inner))
    (each : right.HoldsSpread key inner) {name : String} {item : Value} (hitem : (name, item) ∈ inner) :
    NoSigma name ∧ ':' ∉ name.toList ∧ item.record? = none := by
  obtain ⟨last, hlast, hlastSame⟩ := each (name, item) hitem
  obtain ⟨long, hlong, hlower, -⟩ := stored_of_get? hright hlast
  have hname : NoSigma name := noSigma_of_mem (unambiguous_of_get? hmiddle hget) hitem
  obtain ⟨hcolon, hnoRecord, -⟩ := hfrom.value_of_extended hright hmiddle hkey hname hget hlong hlower
  exact ⟨hname, hcolon, (Value.record?_of_same hlastSame).1 hnoRecord⟩

include hpass

/-- So a record whose entries have their counterparts in that data is spread on the right itself. -/
theorem holdsSpread_of_contained {other : String} {parts : Record} (hkey : NoSigma key)
    (hget : middle.get? key = some (.record inner)) (each : right.HoldsSpread key inner)
    (hother : NoSigma other) (hsame : lower other = lower key) (hpartsUn : (Value.record parts).Unambiguous)
    (hparts : Contained parts inner) : right.HoldsSpread other parts := by
  have hinnerUn := unambiguous_of_get? hmiddle hget
  rintro ⟨name, part⟩ hpart
  have hpartUn : part.Unambiguous := unambiguous_of_mem hpartsUn hpart
  have hname : NoSigma name := noSigma_of_mem hpartsUn hpart
  have hcounterpart : Counterpart inner name part := hparts _ hpart
  cases hcounterpart with
  | @stored _ item hitem hitemSame =>
    obtain ⟨own, hown, hownLower, hownSigma⟩ := stored_of_get? hinnerUn hitem
    obtain ⟨last, hlast, hlastSame⟩ := each (own, item) hown
    have hitemUn := unambiguous_of_get? hinnerUn hitem
    have hlastUn := unambiguous_of_get? hright hlast
    have hitemDepth := depth_of_get? hitem
    have hinnerDepth := depth_of_get? hget
    have hsameKey : lower (other ++ ":" ++ name) = lower (key ++ ":" ++ own) :=
      lower_qualified_congr hother hname hkey hownSigma hsame hownLower.symm
    rw [← Entries.get?_congr right hsameKey] at hlast
    exact ⟨last, hlast, hpass item (by omega) hitemUn hlastUn hpartUn hlastSame hitemSame⟩
  | spread _ each' =>
    -- a part of the part would stand in `inner` under a qualified key
    obtain ⟨below, hbelow⟩ := exists_part hpartsUn hpart
    obtain ⟨item, hitem, -⟩ := each' below hbelow
    obtain ⟨own, hown, hownLower, -⟩ := stored_of_get? hinnerUn hitem
    obtain ⟨hownSigma, hcolon, -⟩ := part_of_spread hmiddle hright hfrom hkey hget each hown
    have hlong : NoSigma (name ++ ":" ++ below.1) :=
      noSigma_qualified.2 ⟨hname, noSigma_of_mem hpartUn hbelow⟩
    rw [← colon_mem_lower hownSigma, hownLower, colon_mem_lower hlong] at hcolon
    exact absurd (by simp) hcolon
  | gathered _ _ _ _ hrecord =>
    -- a record would stand in `inner`
    obtain ⟨own, hown, -, -⟩ := stored_of_get? hinnerUn hrecord
    obtain ⟨-, -, hnoRecord⟩ := part_of_spread hmiddle hright hfrom hkey hget each hown
    cases hnoRecord

end

variable (hforth : Contained middle right)

include hleft hmiddle hright hforth hpass

/-- The key of the entry is qualified, and the middle holds the data of its extension in one entry. -/
theorem counterpart_of_gathered (hmem : (key, value) ∈ left) {schema attr : String} {found : Value}
    (hnoRecord : value.record? = none) (hwhole : key = schema ++ ":" ++ attr) (hcolon : ':' ∉ attr.toList)
    (hinner : middle.get? schema = some (.record inner)) (hfound : Entries.get? inner attr = some found)
    (hsame : found.same value = true) : Counterpart right key value := by
  have hsigma : NoSigma (schema ++ ":" ++ attr) := hwhole ▸ noSigma_of_mem hleft hmem
  obtain ⟨hschemaSigma, hattrSigma⟩ := noSigma_qualified.1 hsigma
  have hvalue : value.Unambiguous := unambiguous_of_mem hleft hmem
  have hinnerUn := unambiguous_of_get? hmiddle hinner
  have hfoundUn := unambiguous_of_get? hinnerUn hfound
  obtain ⟨stored, hstored, hlower, hstoredSigma⟩ := stored_of_get? hmiddle hinner
  obtain ⟨own, hown, hownLower, hownSigma⟩ := stored_of_get? hinnerUn hfound
  have hdepth : found.depth < (Value.record middle).depth := by
    have hfoundDepth := depth_of_get? hfound
    have hinnerDepth := depth_of_get? hinner
    omega
  have hcounterpart : Counterpart right stored (.record inner) := hforth _ hstored
  cases hcounterpart with
  | @stored _ last hlast hlastSame =>
    obtain ⟨parts, rfl⟩ := Value.exists_record_of_same hlastSame
    obtain ⟨-, hparts⟩ := same_record_iff.1 hlastSame
    have hpartsUn := unambiguous_of_get? hright hlast
    have habsent : right.get? key = none := by
      rw [hwhole]
      exact get?_extended hright hstoredSigma hlast hattrSigma
        (lower_qualified_congr hschemaSigma hattrSigma hstoredSigma hattrSigma hlower.symm rfl)
    have hownCounterpart : Counterpart parts own found := hparts _ hown
    cases hownCounterpart with
    | @stored _ item hitem hitemSame =>
      have hitemUn := unambiguous_of_get? hpartsUn hitem
      rw [Entries.get?_congr right hlower] at hlast
      rw [Entries.get?_congr parts hownLower] at hitem
      exact .gathered habsent hnoRecord hwhole hcolon hlast hitem
        (hpass found hdepth hfoundUn hitemUn hvalue hitemSame hsame)
    | spread =>
      rw [← Value.record?_of_same hsame] at hnoRecord
      cases hnoRecord
    | gathered _ _ hownWhole =>
      -- the name would be qualified itself
      have hownColon : ':' ∈ own.toList := by simp [hownWhole]
      rw [← colon_mem_lower hownSigma, hownLower, colon_mem_lower hattrSigma] at hownColon
      exact absurd hownColon hcolon
  | spread _ each =>
    obtain ⟨last, hlast, hlastSame⟩ := each _ hown
    have hlastUn := unambiguous_of_get? hright hlast
    have hsameKey : lower key = lower (stored ++ ":" ++ own) := by
      rw [hwhole]
      exact lower_qualified_congr hschemaSigma hattrSigma hstoredSigma hownSigma hlower.symm hownLower.symm
    rw [← Entries.get?_congr right hsameKey] at hlast
    exact .stored hlast (hpass found hdepth hfoundUn hlastUn hvalue hlastSame hsame)
  | gathered _ hrecord => cases hrecord

variable (hfrom : Contained right middle)

include hfrom

/-- The key of the entry is in use in the middle. -/
theorem counterpart_of_stored (hmem : (key, value) ∈ left) {found : Value}
    (hfound : middle.get? key = some found) (hsame : found.same value = true) : Counterpart right key value := by
  have hsigma : NoSigma key := noSigma_of_mem hleft hmem
  have hvalue : value.Unambiguous := unambiguous_of_mem hleft hmem
  have hfoundUn := unambiguous_of_get? hmiddle hfound
  obtain ⟨stored, hstored, hlower, hstoredSigma⟩ := stored_of_get? hmiddle hfound
  have hdepth := depth_of_get? hfound
  have hcounterpart : Counterpart right stored found := hforth _ hstored
  cases hcounterpart with
  | @stored _ last hlast hlastSame =>
    rw [Entries.get?_congr right hlower] at hlast
    have hlastUn := unambiguous_of_get? hright hlast
    exact .stored hlast (hpass found hdepth hfoundUn hlastUn hvalue hlastSame hsame)
  | @spread inner absent each =>
    rw [same_comm] at hsame
    obtain ⟨parts, rfl⟩ := Value.exists_record_of_same hsame
    obtain ⟨hparts, -⟩ := same_record_iff.1 hsame
    rw [← Entries.get?_congr middle hlower] at hfound
    rw [Entries.get?_congr right hlower] at absent
    exact .spread absent (holdsSpread_of_contained hmiddle hright hpass hfrom hstoredSigma hfound each hsigma
      hlower.symm hvalue hparts)
  | @gathered schema attr inner _ last absent noRecord whole hcolon hinner hlast hlastSame =>
    rw [whole] at hstoredSigma
    obtain ⟨schema', attr', hwhole', hcolon', hschema, hattr⟩ :=
      exists_qualified_of_lower_eq hsigma hstoredSigma hcolon (whole ▸ hlower.symm)
    have hlastUn := unambiguous_of_get? (unambiguous_of_get? hright hinner) hlast
    rw [Entries.get?_congr right hlower] at absent
    rw [← Entries.get?_congr right hschema] at hinner
    rw [← Entries.get?_congr inner hattr] at hlast
    exact .gathered absent ((Value.record?_of_same hsame).1 noRecord) hwhole' hcolon' hinner hlast
      (hpass found hdepth hfoundUn hlastUn hvalue hlastSame hsame)

omit hfrom in
/-- Data of an extension that both sides hold in one entry, and the middle in several: what stands in the one
entry on the left stands in the one on the right. -/
theorem contained_of_spread {other : String} {parts : Record} (hkey : NoSigma key)
    (hget : left.get? key = some (.record inner)) (hother : NoSigma other) (hsame : lower key = lower other)
    (hotherGet : right.get? other = some (.record parts)) (each : middle.HoldsSpread key inner) :
    Contained inner parts := by
  have hinnerUn := unambiguous_of_get? hleft hget
  have hpartsUn := unambiguous_of_get? hright hotherGet
  rintro ⟨name, item⟩ hitem
  have hname : NoSigma name := noSigma_of_mem hinnerUn hitem
  obtain ⟨found, hfound, hfoundSame⟩ := each (name, item) hitem
  have hdepth := depth_of_get? hfound
  have hfoundUn := unambiguous_of_get? hmiddle hfound
  obtain ⟨long, hlong, hlower, -⟩ := stored_of_get? hmiddle hfound
  have hlower' : lower long = lower (other ++ ":" ++ name) :=
    hlower.trans (lower_qualified_congr hkey hname hother hname hsame rfl)
  obtain ⟨-, -, last, hlast, hlastSame⟩ :=
    hforth.value_of_extended hmiddle hright hother hname hotherGet hlong hlower'
  have hlastUn := unambiguous_of_get? hpartsUn hlast
  exact .stored hlast
    (hpass found hdepth hfoundUn hlastUn (unambiguous_of_mem hinnerUn hitem) hlastSame hfoundSame)

/-- The middle holds the data of an extension in several entries, and the left in one. -/
theorem counterpart_of_spread (hback : Contained middle left) (hmem : (key, .record inner) ∈ left)
    (habsent : middle.get? key = none) (each : middle.HoldsSpread key inner) :
    Counterpart right key (.record inner) := by
  have hsigma : NoSigma key := noSigma_of_mem hleft hmem
  have hinnerUn : (Value.record inner).Unambiguous := unambiguous_of_mem hleft hmem
  have hget : left.get? key = some (.record inner) :=
    Entries.get?_of_mem (Value.everywhere_record.1 hleft).1.distinct hmem
  cases hright_get : right.get? key with
  | none =>
    refine .spread hright_get ?_
    rintro ⟨name, item⟩ hitem
    have hname : NoSigma name := noSigma_of_mem hinnerUn hitem
    obtain ⟨found, hfound, hfoundSame⟩ := each (name, item) hitem
    have hdepth := depth_of_get? hfound
    have hfoundUn := unambiguous_of_get? hmiddle hfound
    obtain ⟨long, hlong, hlower, hlongSigma⟩ := stored_of_get? hmiddle hfound
    obtain ⟨hcolon, hnoRecord, -⟩ :=
      hback.value_of_extended hmiddle hleft hsigma hname hget hlong hlower
    have hcounterpart : Counterpart right long found := hforth _ hlong
    cases hcounterpart with
    | @stored _ last hlast hlastSame =>
      have hlastUn := unambiguous_of_get? hright hlast
      rw [Entries.get?_congr right hlower] at hlast
      exact ⟨last, hlast,
        hpass found hdepth hfoundUn hlastUn (unambiguous_of_mem hinnerUn hitem) hlastSame hfoundSame⟩
    | spread => cases hnoRecord
    | gathered _ _ whole last hinner =>
      -- the record that it is gathered from would stand under `key`
      rw [whole] at hlongSigma hlower
      obtain ⟨hschema, -⟩ :=
        lower_qualified_inj hlongSigma (noSigma_qualified.2 ⟨hsigma, hname⟩) last hcolon hlower
      rw [Entries.get?_congr right hschema, hright_get] at hinner
      cases hinner
  | some last =>
    obtain ⟨stored, hstored, hlower, hstoredSigma⟩ := stored_of_get? hright hright_get
    have hcounterpart : Counterpart middle stored last := hfrom _ hstored
    cases hcounterpart with
    | stored hfound =>
      rw [Entries.get?_congr middle hlower, habsent] at hfound
      cases hfound
    | @spread parts _ eachPart =>
      have hstoredGet : right.get? stored = some (.record parts) := by
        rw [Entries.get?_congr right hlower, hright_get]
      have hinto : Contained inner parts := contained_of_spread hleft hmiddle hright hpass hforth hsigma hget
        hstoredSigma hlower.symm hstoredGet each
      have honto : Contained parts inner := contained_of_spread hright hmiddle hleft hpass hback hstoredSigma
        hstoredGet hsigma hlower hget eachPart
      exact .stored hright_get (same_record_iff.2 ⟨honto, hinto⟩)
    | @gathered schema attr _ _ _ _ _ whole _ hinner =>
      -- the middle would hold the data of another extension in both ways
      obtain ⟨⟨name, item⟩, hitem⟩ := exists_part hleft hmem
      have hname : NoSigma name := noSigma_of_mem hinnerUn hitem
      obtain ⟨found, hfound, -⟩ := each (name, item) hitem
      rw [whole] at hstoredSigma hlower
      obtain ⟨hschemaSigma, hattrSigma⟩ := noSigma_qualified.1 hstoredSigma
      have hlonger : lower (key ++ ":" ++ name) = lower (schema ++ ":" ++ (attr ++ ":" ++ name)) := by
        rw [lower_qualified_congr hsigma hname hstoredSigma hname hlower.symm rfl]
        simp only [String.append_assoc]
      rw [get?_extended hmiddle hschemaSigma hinner (noSigma_qualified.2 ⟨hattrSigma, hname⟩) hlonger] at hfound
      cases hfound

/-- Every entry that has a counterpart in the middle has one on the right. -/
theorem contained_trans (hinto : Contained left middle) (hback : Contained middle left) :
    Contained left right := by
  rintro ⟨key, value⟩ hmem
  have hcounterpart : Counterpart middle key value := hinto _ hmem
  cases hcounterpart with
  | stored hfound hsame =>
    exact counterpart_of_stored hleft hmiddle hright hpass hforth hfrom hmem hfound hsame
  | spread absent each =>
    exact counterpart_of_spread hleft hmiddle hright hpass hforth hfrom hback hmem absent each
  | gathered _ noRecord whole last hinner hfound hsame =>
    exact counterpart_of_gathered hleft hmiddle hright hpass hforth hmem noRecord whole last hinner hfound hsame

end

end Record

/-! ## Equality is an equivalence -/

namespace Value

/-- A value without parts passes equality on. -/
theorem passes_of_simple {middle : Value} (hlist : middle.list? = none) (hrecord : middle.record? = none) :
    middle.Passes := by
  intro a b _ _ hleft hright
  cases middle with
  | list items => cases hlist
  | record entries => cases hrecord
  | bool m =>
    cases a with
    | bool x =>
      have hsame : x = m := eq_of_beq hleft
      rw [hsame]
      exact hright
    | _ => cases hleft
  | text m =>
    cases a with
    | text x =>
      have hsame : x = m := eq_of_beq hleft
      rw [hsame]
      exact hright
    | _ => cases hleft
  | number m =>
    cases a with
    | number x =>
      cases b with
      | number z => exact Number.same_trans hleft hright
      | _ => cases hright
    | _ => cases hleft
  | missing =>
    cases a with
    | missing => exact hright
    | _ => cases hleft
  | invalid =>
    cases a with
    | invalid => exact hright
    | _ => cases hleft
  | null =>
    cases a with
    | null => exact hright
    | _ => cases hleft

/-- Unambiguous values pass equality on. -/
theorem Unambiguous.passes : ∀ {middle : Value}, middle.Unambiguous → middle.Passes
  | .list items, hmiddle => by
    intro a b ha hb hleft hright
    obtain ⟨lefts, rfl⟩ := exists_list_of_same hleft
    rw [same_comm] at hright
    obtain ⟨rights, rfl⟩ := exists_list_of_same hright
    rw [same_comm] at hright
    have hitems := everywhere_list.1 hmiddle
    refine same_list_iff.2 (forall₂_trans (same_list_iff.1 hleft) (same_list_iff.1 hright) ?_)
    intro x hx y hy z hz
    exact passes (hitems y hy) (everywhere_list.1 ha x hx) (everywhere_list.1 hb z hz)
  | .record entries, hmiddle => by
    intro a b ha hb hleft hright
    obtain ⟨lefts, rfl⟩ := exists_record_of_same hleft
    rw [same_comm] at hright
    obtain ⟨rights, rfl⟩ := exists_record_of_same hright
    obtain ⟨hinto, hback⟩ := Record.same_record_iff.1 hleft
    obtain ⟨hfrom, hforth⟩ := Record.same_record_iff.1 hright
    have hpass : ∀ value : Value, value.depth < (Value.record entries).depth → value.Unambiguous →
        value.Passes := fun value hdepth hvalue => passes hvalue
    exact Record.same_record_iff.2
      ⟨Record.contained_trans ha hmiddle hb hpass hforth hfrom hinto hback,
        Record.contained_trans hb hmiddle ha hpass hback hinto hfrom hforth⟩
  | .missing, _ => passes_of_simple rfl rfl
  | .invalid, _ => passes_of_simple rfl rfl
  | .null, _ => passes_of_simple rfl rfl
  | .bool _, _ => passes_of_simple rfl rfl
  | .number _, _ => passes_of_simple rfl rfl
  | .text _, _ => passes_of_simple rfl rfl
termination_by middle => middle.depth
decreasing_by
  · exact depth_item_lt hy
  · exact hdepth

/-- A value whose keys differ is equal to itself, equality of values is symmetric, and between unambiguous values
it is transitive. -/
theorem same_equivalence (a b c : Value) :
    (a.WellKeyed → a.same a = true) ∧
    (a.same b = true → b.same a = true) ∧
    (a.Unambiguous → b.Unambiguous → c.Unambiguous → a.same b = true → b.same c = true → a.same c = true) := by
  refine ⟨same_refl_of_wellKeyed a, fun h => ?_, fun ha hb hc hleft hright => ?_⟩
  · rw [same_comm]
    exact h
  · exact hb.passes ha hc hleft hright

/-- A record of one entry is unambiguous, as no key is equal up to case to one that goes on from it. -/
private theorem unambiguous_single {key : String} {value : Value} (hsigma : NoSigma key)
    (hfilled : value ≠ .record []) (hvalue : value.Unambiguous) : (Value.record [(key, value)]).Unambiguous := by
  refine everywhere_record.2 ⟨⟨List.pairwise_singleton _ _, ?_, ?_, ?_⟩, ?_⟩
  · exact fun entry hentry => List.mem_singleton.1 hentry ▸ hsigma
  · exact fun entry hentry => List.mem_singleton.1 hentry ▸ hfilled
  · intro stored inner rest hstored
    refine Entries.get?_eq_none_iff.2 fun entry hentry => ?_
    have hkey : stored = entry.1 := by
      rw [List.mem_singleton.1 hentry, (Prod.mk.inj (List.mem_singleton.1 hstored)).1]
    rw [hkey]
    exact lower_ne_qualified entry.1 rest
  · exact fun entry hentry => List.mem_singleton.1 hentry ▸ hvalue

/-- A number of a member of staff, written inside the record of the extension, under a qualified key, and again
inside, in capitals. -/
theorem same_equivalence_of_staff :
    (Value.record [("urn:Staff", .record [("number", .text "7")])]).Unambiguous ∧
    (Value.record [("urn:Staff:number", .text "7")]).Unambiguous ∧
    (Value.record [("URN:STAFF", .record [("NUMBER", .text "7")])]).Unambiguous ∧
    (Value.record [("urn:Staff:number", .text "7")]).WellKeyed ∧
    (Value.record [("urn:Staff:number", .text "7")]).same (.record [("urn:Staff:number", .text "7")]) = true ∧
    (Value.record [("urn:Staff", .record [("number", .text "7")])]).same
      (.record [("URN:STAFF", .record [("NUMBER", .text "7")])]) = true ∧
    (Value.record [("URN:STAFF", .record [("NUMBER", .text "7")])]).same
      (.record [("urn:Staff", .record [("number", .text "7")])]) = true := by
  have hsigma : ∀ key ∈ ["urn:Staff", "number", "urn:Staff:number", "URN:STAFF", "NUMBER"], NoSigma key := by
    decide
  have hgathered : (Value.record [("urn:Staff", .record [("number", .text "7")])]).Unambiguous :=
    unambiguous_single (hsigma _ (by simp)) (by simp) (unambiguous_single (hsigma _ (by simp)) (by simp) trivial)
  have hspread : (Value.record [("urn:Staff:number", .text "7")]).Unambiguous :=
    unambiguous_single (hsigma _ (by simp)) (by simp) trivial
  have hcapitals : (Value.record [("URN:STAFF", .record [("NUMBER", .text "7")])]).Unambiguous :=
    unambiguous_single (hsigma _ (by simp)) (by simp) (unambiguous_single (hsigma _ (by simp)) (by simp) trivial)
  have hkeys : (Value.record [("urn:Staff:number", .text "7")]).WellKeyed :=
    wellKeyed_ofJson (.object [("urn:Staff:number", .text "7")])
  have hself := (same_equivalence (.record [("urn:Staff:number", .text "7")]) .null .null).1 hkeys
  have hsame := (same_equivalence _ _ _).2.2 hgathered hspread hcapitals (by decide) (by decide)
  exact ⟨hgathered, hspread, hcapitals, hkeys, hself, hsame, (same_equivalence _ _ .null).2.1 hsame⟩

/-- Equality of values that were read from documents is not transitive.  In turn: the record on the right holds
an attribute of the extension in both ways; the one in the middle holds an empty record; and a capital sigma
ends the word in the key on the left, but not the one before the colon. -/
theorem same_not_transitive :
    ((ofJson (.object [("urn:Staff", .object [("number", .text "7"), ("title", .text "Dr")])])).same
        (ofJson (.object [("urn:Staff:number", .text "7"), ("urn:Staff:title", .text "Dr")])) = true ∧
      (ofJson (.object [("urn:Staff:number", .text "7"), ("urn:Staff:title", .text "Dr")])).same
        (ofJson (.object [("urn:Staff", .object [("title", .text "Dr")]), ("urn:Staff:number", .text "7"),
          ("urn:Staff:title", .text "Dr")])) = true ∧
      (ofJson (.object [("urn:Staff", .object [("number", .text "7"), ("title", .text "Dr")])])).same
        (ofJson (.object [("urn:Staff", .object [("title", .text "Dr")]), ("urn:Staff:number", .text "7"),
          ("urn:Staff:title", .text "Dr")])) = false) ∧
    ((ofJson (.object [("urn:Staff", .object [("name", .object [])])])).same
        (ofJson (.object [("urn:Staff", .object [])])) = true ∧
      (ofJson (.object [("urn:Staff", .object [])])).same (ofJson (.object [])) = true ∧
      (ofJson (.object [("urn:Staff", .object [("name", .object [])])])).same (ofJson (.object [])) = false) ∧
    ((ofJson (.object [("urn:Σ", .object [("number", .text "7")])])).same
        (ofJson (.object [("urn:ς", .object [("number", .text "7")])])) = true ∧
      (ofJson (.object [("urn:ς", .object [("number", .text "7")])])).same
        (ofJson (.object [("urn:ς:number", .text "7")])) = true ∧
      (ofJson (.object [("urn:Σ", .object [("number", .text "7")])])).same
        (ofJson (.object [("urn:ς:number", .text "7")])) = false) := by
  decide +kernel

end Value

end Scim
