import Mathlib.Data.List.Forall2
import Scim.Proofs.Record.Reachable
import Scim.Proofs.Record.Writing

/-!
# What a write and a removal leave alone

A write or a removal at a place touches one slot.  Of the record everything stays that does not stand under
the key of the slot: the values, their casing and their order.  Inside an extension the same holds of the
record of the extension, and below a sub-attribute it holds of the parent, or of every element of a parent
that is a list.

The entries of two records that do not stand under a key are compared as lists, so that no entry outside the
slot can be lost, added, cased anew or moved.  A write may put in what it needs to reach its slot: the record
of an extension, a parent, an element of a list, or a record in the place of an element without value.  A
removal puts in nothing, which the relations tell by a flag.

## Main results

* `AttrWritten.kept`, `attrKept_expandAttr`, `attrKept_dropAttr`: writing and removing an attribute.
* `kept_setBy`, `kept_drop`: writing and removing at an address.
* `kept_in_slot`: both for all addresses and all values, refused or not.
-/

namespace Scim

open Text

/-! ## Entries outside a slot -/

namespace Entries

variable {α : Type}

/-- Two lists of entries are the same, in casing and order too, but for what stands under a key. -/
def SameBut (key : String) (before after : Entries α) : Prop := before.erase key = after.erase key

theorem SameBut.refl (key : String) (entries : Entries α) : SameBut key entries entries := rfl

theorem sameBut_erase (entries : Entries α) (key : String) : SameBut key entries (entries.erase key) := by
  simp [SameBut, erase]

theorem sameBut_insert (entries : Entries α) (key : String) (value : α) :
    SameBut key entries (entries.insert key value) := by
  simp [SameBut, insert, erase, hasKey]

theorem sameBut_replace (entries : Entries α) (key : String) (value : α) :
    SameBut key entries (entries.replace key value) := by
  induction entries with
  | nil => rfl
  | cons entry entries ih =>
    have ih' : entries.filter (fun e => !hasKey key e) =
        (entries.map fun e => if hasKey key e then (e.1, value) else e).filter (fun e => !hasKey key e) := ih
    by_cases hkey : lower entry.1 = lower key <;>
      simpa [SameBut, replace, erase, hasKey, hkey] using ih'

end Entries

namespace Record

open Entries

variable {grows : Bool} {sub : AttrName} {rep : LocalPath} {record next : Record} {value : Value}

/-! ## Below a sub-attribute -/

/-- A record that holds nothing but a sub-attribute, if that. -/
def OnlySub (sub : AttrName) (item : Value) : Prop :=
  ∃ entries : Record, item = .record entries ∧ SameBut sub.text [] entries

/-- What an element of a list may become when a sub-attribute of it is written or removed. -/
inductive ItemKept (grows : Bool) (sub : AttrName) : Value → Value → Prop
  | unchanged (item : Value) : ItemKept grows sub item item
  | record {before after : Record} (others : SameBut sub.text before after) :
      ItemKept grows sub (.record before) (.record after)
  | filled {item after : Value} (grown : grows = true) (absent : item.isAbsent = true)
      (only : OnlySub sub after) : ItemKept grows sub item after

/-- What the parent of a sub-attribute may become when the sub-attribute is written or removed. -/
inductive ParentKept (grows : Bool) (sub : AttrName) : Option Value → Option Value → Prop
  | unchanged (parent : Option Value) : ParentKept grows sub parent parent
  | record {before after : Record} (others : SameBut sub.text before after) :
      ParentKept grows sub (some (.record before)) (some (.record after))
  | list {items kept added : List Value} (each : List.Forall₂ (ItemKept grows sub) items kept)
      (grown : added ≠ [] → grows = true) (only : ∀ item ∈ added, OnlySub sub item) :
      ParentKept grows sub (some (.list items)) (some (.list (kept ++ added)))
  | newRecord {after : Value} (grown : grows = true) (only : OnlySub sub after) :
      ParentKept grows sub none (some after)
  | newList {items : List Value} (grown : grows = true) (only : ∀ item ∈ items, OnlySub sub item) :
      ParentKept grows sub none (some (.list items))

theorem onlySub_single (sub : AttrName) (value : Value) : OnlySub sub (.record [(sub.text, value)]) :=
  ⟨_, rfl, sameBut_insert [] sub.text value⟩

theorem itemKept_setSubOf (sub : AttrName) (value item : Value) :
    ItemKept true sub item (setSubOf sub value item) := by
  cases item with
  | record entries => exact .record (sameBut_insert entries sub.text value)
  | missing => exact .filled rfl rfl (onlySub_single sub value)
  | null => exact .filled rfl rfl (onlySub_single sub value)
  | _ => exact .unchanged _

theorem itemKept_dropSubOf (sub : AttrName) (item : Value) :
    ItemKept false sub item (dropSubOf sub item) := by
  cases item with
  | record entries => exact .record (sameBut_erase entries sub.text)
  | _ => exact .unchanged _

/-- Distributing values keeps the elements that are there and adds records of the sub-attribute only. -/
theorem distribute_kept (sub : AttrName) (items values : List Value) :
    ∃ kept added, distribute sub items values = kept ++ added ∧
      List.Forall₂ (ItemKept true sub) items kept ∧ ∀ item ∈ added, OnlySub sub item := by
  induction items generalizing values with
  | nil =>
    refine ⟨[], distribute sub [] values, rfl, .nil, fun item hmem => ?_⟩
    cases values with
    | nil => cases hmem
    | cons value values =>
      obtain ⟨written, -, rfl⟩ := List.mem_map.1 hmem
      split
      · exact ⟨[], rfl, rfl⟩
      · exact onlySub_single sub written
  | cons item items ih =>
    cases values with
    | nil =>
      have hsame : List.Forall₂ (ItemKept true sub) (item :: items) (item :: items) :=
        List.forall₂_same.2 fun item _ => .unchanged item
      exact ⟨item :: items, [], (List.append_nil _).symm, hsame, List.forall_mem_nil _⟩
    | cons value values =>
      obtain ⟨kept, added, hsplit, heach, honly⟩ := ih values
      have hitem : ItemKept true sub item (if value.isMissing then item else setSubOf sub value item) := by
        split
        · exact .unchanged item
        · exact itemKept_setSubOf sub value item
      refine ⟨_ :: kept, added, ?_, .cons hitem heach, honly⟩
      rw [distribute, hsplit, List.cons_append]

/-! ## An attribute -/

/-- What a record may become when an attribute of it is written or removed. -/
structure AttrKept (grows : Bool) (rep : LocalPath) (before after : Record) : Prop where
  others : SameBut rep.attr.text before after
  siblings : ∀ sub, rep.sub = some sub →
    ParentKept grows sub (before.get? rep.attr.text) (after.get? rep.attr.text)

theorem AttrKept.refl (grows : Bool) (rep : LocalPath) (record : Record) :
    AttrKept grows rep record record :=
  ⟨.refl _ _, fun _ _ => .unchanged _⟩

/-- A parent that is put in its own place leaves the entries outside its key alone. -/
private theorem attrKept_replace {attr : AttrName} {parent after : Value}
    (found : record.get? attr.text = some parent) (kept : ParentKept grows sub (some parent) (some after)) :
    AttrKept grows ⟨attr, some sub⟩ record (record.replace attr.text after) := by
  refine ⟨sameBut_replace record attr.text after, ?_⟩
  rintro _ ⟨⟩
  rw [found, get?_replace_self found]
  exact kept

/-- So does a parent that is put in where there was none. -/
private theorem attrKept_insert {attr : AttrName} {after : Value} (absent : record.get? attr.text = none)
    (kept : ParentKept grows sub none (some after)) :
    AttrKept grows ⟨attr, some sub⟩ record (record.insert attr.text after) := by
  refine ⟨sameBut_insert record attr.text after, ?_⟩
  rintro _ ⟨⟩
  rw [absent, get?_insert_self]
  exact kept

theorem AttrWritten.kept (h : AttrWritten record value rep next) : AttrKept true rep record next := by
  cases h with
  | entry =>
    refine ⟨sameBut_insert record _ value, ?_⟩
    rintro _ ⟨⟩
  | newParent absent => exact attrKept_insert absent (.newRecord rfl (onlySub_single _ value))
  | inParent parent => exact attrKept_replace parent (.record (sameBut_insert _ _ value))
  | @overList attr sub items values parent list =>
    obtain ⟨kept, added, hsplit, heach, honly⟩ := distribute_kept sub items values
    rw [hsplit]
    exact attrKept_replace parent (.list heach (fun _ => rfl) honly)

theorem attrKept_setAttr (h : record.setAttr rep value = .ok next) : AttrKept true rep record next :=
  (setAttr_eq_ok_iff.1 h).kept

theorem attrKept_expandAttr (h : record.expandAttr rep value = .ok next) :
    AttrKept true rep record next := by
  obtain ⟨attr, sub⟩ := rep
  unfold expandAttr at h
  split at h
  · next sub values hsub absent =>
    cases Except.ok.inj h
    cases hsub
    obtain ⟨kept, added, hsplit, heach, honly⟩ := distribute_kept sub [] values
    cases heach
    rw [hsplit]
    exact attrKept_insert absent (.newList rfl honly)
  · exact attrKept_setAttr h

theorem attrKept_dropAttr (record : Record) (rep : LocalPath) :
    AttrKept false rep record (record.dropAttr rep) := by
  obtain ⟨attr, _ | sub⟩ := rep
  · refine ⟨sameBut_erase record attr.text, ?_⟩
    rintro _ ⟨⟩
  cases hparent : record.get? attr.text with
  | none =>
    simp only [dropAttr, hparent]
    exact .refl false _ record
  | some parent =>
    cases parent with
    | record entries =>
      simp only [dropAttr, hparent]
      exact attrKept_replace hparent (.record (sameBut_erase entries sub.text))
    | list items =>
      have heach : List.Forall₂ (ItemKept false sub) items (items.map (dropSubOf sub)) :=
        List.forall₂_map_right_iff.2 (List.forall₂_same.2 fun item _ => itemKept_dropSubOf sub item)
      have hkept := ParentKept.list heach (fun hadded => absurd rfl hadded) (List.forall_mem_nil _)
      simp only [dropAttr, hparent]
      rw [List.append_nil] at hkept
      exact attrKept_replace hparent hkept
    | _ =>
      simp only [dropAttr, hparent]
      exact .refl false _ record

/-! ## An address -/

/-- What a record may become when the value at a place is written or removed. -/
inductive Kept (grows : Bool) : Place → Record → Record → Prop
  | unchanged (place : Place) (record : Record) : Kept grows place record record
  | entry {text : String} {before after : Record} (others : SameBut text before after) :
      Kept grows (.entry text) before after
  | schema {uri : SchemaUri} {before after : Record} (others : SameBut uri.text before after) :
      Kept grows (.schema uri) before after
  | attr {rep : LocalPath} {before after : Record} (kept : AttrKept grows rep before after) :
      Kept grows (.attr rep) before after
  | inside {uri : SchemaUri} {rep : LocalPath} {before after inner changed : Record}
      (others : SameBut uri.text before after) (found : before.get? uri.text = some (.record inner))
      (stays : after.get? uri.text = some (.record changed)) (kept : AttrKept grows rep inner changed) :
      Kept grows (.extension uri rep) before after
  | created {uri : SchemaUri} {rep : LocalPath} {before after changed : Record} (grown : grows = true)
      (others : SameBut uri.text before after) (absent : before.get? uri.text = none)
      (new : after.get? uri.text = some (.record changed)) (kept : AttrKept grows rep [] changed) :
      Kept grows (.extension uri rep) before after

/-- Of an extension that is there the record stays, whatever happens to its attributes. -/
theorem Kept.extension_stays {uri : SchemaUri} {inner : Record}
    (h : Kept grows (.extension uri rep) record next) (found : record.get? uri.text = some (.record inner)) :
    ∃ changed : Record, next.get? uri.text = some (.record changed) ∧ AttrKept grows rep inner changed := by
  cases h with
  | unchanged => exact ⟨inner, found, .refl grows rep inner⟩
  | inside _ hfound stays kept =>
    rw [found] at hfound
    cases hfound
    exact ⟨_, stays, kept⟩
  | created _ _ absent =>
    rw [found] at absent
    cases absent

/-- Whatever way of writing attributes keeps to their slots, so does writing at an address that way. -/
theorem kept_setBy {write : Record → LocalPath → Value → Except Fault Record}
    (hwrite : ∀ {record next : Record} {rep : LocalPath} {value : Value},
      write record rep value = .ok next → AttrKept true rep record next)
    {key : Key} (h : record.setBy write key value = .ok next) :
    Kept true (record.resolve key) record next := by
  unfold setBy at h
  cases hplace : record.resolve key with
  | entry text =>
    rw [hplace] at h
    cases Except.ok.inj h
    exact .entry (sameBut_insert record text value)
  | schema uri =>
    rw [hplace] at h
    cases Except.ok.inj h
    refine .schema ?_
    unfold setSchema
    split
    · exact sameBut_replace record uri.text value
    · exact sameBut_insert record uri.text value
  | attr rep =>
    rw [hplace] at h
    exact .attr (hwrite h)
  | extension uri rep =>
    rw [hplace] at h
    obtain ⟨before, after, hinside, hwithin⟩ := setWithin_eq_ok_iff.1 h
    have hnew := hwithin.get?_eq
    have hkept := hwrite hinside
    cases hwithin with
    | created absent => exact .created rfl (sameBut_insert record uri.text _) absent hnew hkept
    | present parent => exact .inside (sameBut_replace record uri.text _) parent hnew hkept

theorem kept_drop (record : Record) (key : Key) :
    Kept false (record.resolve key) record (record.drop key) := by
  unfold drop
  cases record.resolve key with
  | entry text => exact .entry (sameBut_erase record text)
  | schema uri => exact .schema (sameBut_erase record uri.text)
  | attr rep => exact .attr (attrKept_dropAttr record rep)
  | extension uri rep =>
    dsimp only
    split
    · next inner found =>
      exact .inside (sameBut_replace record uri.text _) found (get?_replace_self found _)
        (attrKept_dropAttr inner rep)
    · exact .unchanged _ record

/-- A write that keeps to its slot if it is made keeps to it if it is refused. -/
theorem Kept.afterWrite {place : Place} {outcome : Except Fault Record}
    (h : ∀ next, outcome = .ok next → Kept grows place record next) :
    Kept grows place record (record.afterWrite outcome) := by
  cases outcome with
  | ok next => exact h next rfl
  | error fault => exact .unchanged place record

/-- Whatever is written at an address, and whether or not the write is refused, of the record stays what does
not stand in the slot of the address; the same holds of what is removed, and a removal puts in nothing.  The
record of an extension stays when an attribute is removed from it. -/
theorem kept_in_slot (record : Record) (key : Key) :
    (∀ value : Value,
      Kept true (record.resolve key) record (record.afterWrite (record.set key value)) ∧
        Kept true (record.resolve key) record (record.afterWrite (record.expand key value))) ∧
    Kept false (record.resolve key) record (record.pop key).2 ∧
    ∀ (uri : SchemaUri) (rep : LocalPath) (inner : Record), record.resolve key = .extension uri rep →
      record.get? uri.text = some (.record inner) →
        ∃ changed : Record, (record.pop key).2.get? uri.text = some (.record changed) ∧
          AttrKept false rep inner changed := by
  have hset : ∀ value next, record.set key value = .ok next → Kept true (record.resolve key) record next :=
    fun _ _ h => kept_setBy attrKept_setAttr h
  have hexpand : ∀ value next, record.expand key value = .ok next →
      Kept true (record.resolve key) record next :=
    fun _ _ h => kept_setBy attrKept_expandAttr h
  have hdrop := kept_drop record key
  refine ⟨fun value => ⟨.afterWrite (hset value), .afterWrite (hexpand value)⟩, hdrop, ?_⟩
  intro uri rep inner hplace found
  rw [hplace] at hdrop
  exact hdrop.extension_stays found

/-- The number of a member of staff is taken out of the data of the extension, named in another casing: the
record of the extension stays with its other attribute, and so does the attribute of the same name outside. -/
theorem kept_in_slot_of_extension :
    ∃ changed : Record,
      (Record.pop [("number", .text "1"),
          ("urn:example:Staff", .record [("number", .text "7"), ("title", .text "Dr")])]
        (.path "urn:example:staff:number")).2.get? "urn:example:staff" = some (.record changed) ∧
      AttrKept false ⟨⟨"number", by decide⟩, none⟩ [("number", .text "7"), ("title", .text "Dr")] changed := by
  have hplace : resolve [("number", .text "1"),
      ("urn:example:Staff", .record [("number", .text "7"), ("title", .text "Dr")])]
      (.path "urn:example:staff:number") =
        .extension ⟨"urn:example:staff", by decide⟩ ⟨⟨"number", by decide⟩, none⟩ := by rfl
  have hfound : Entries.get? [("number", Value.text "1"),
      ("urn:example:Staff", .record [("number", .text "7"), ("title", .text "Dr")])]
      "urn:example:staff" = some (.record [("number", .text "7"), ("title", .text "Dr")]) := by rfl
  obtain ⟨-, -, hstays⟩ := kept_in_slot [("number", .text "1"),
    ("urn:example:Staff", .record [("number", .text "7"), ("title", .text "Dr")])]
    (.path "urn:example:staff:number")
  obtain ⟨changed, hstored, hkept⟩ := hstays _ _ _ hplace hfound
  exact ⟨changed, hstored, hkept⟩

end Record

end Scim
