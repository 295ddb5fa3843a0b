import Scim.Proofs.Record.Lens
import Scim.Proofs.Record.Refusal

/-!
# Writing a list below a parent that is absent

Expanding differs from writing in one case only: a list is written to a sub-attribute whose parent is absent.
Writing puts in a record with the list below it, expanding a list with a record for each element, and that is
what two writes leave, one of the empty list to the parent and one of the list below it.

Where the parent is looked up is part of the case.  It is the record itself, or the record of an extension,
which counts as empty if the extension is absent: both ways of writing create it.  If the identifier of the
extension leads to anything but a record, both are refused alike.

A store takes the steps in another order.  It asks for a list before it asks for the parent, and puts in the
parent before it reads it; that it comes to the same store, tables and all, is shown step by step.

## Main results

* `expandAttr_eq_setAttr_iff`, `setWithin_eq_iff`: when the two ways of writing part, for an attribute and inside
  an extension.
* `expandAttr_of_absent`, `Store.expandAttr_of_absent`: expanding as two writes.
* `expand_refines_set`: both together for every address, for records and for stores.
-/

namespace Scim

namespace Record

variable {record started : Record} {key : Key} {value : Value} {place parent : Place} {fault : Fault}

/-! ## Parents that are absent -/

/-- The record that holds the attributes of an extension, or will hold them when the first one is written. -/
inductive Hosts (record : Record) (uri : SchemaUri) : Record → Prop
  | created (absent : record.get? uri.text = none) : Hosts record uri []
  | present {inner : Record} (stored : record.get? uri.text = some (.record inner)) : Hosts record uri inner

/-- A sub-attribute whose parent is absent, and the place of the parent. -/
inductive Orphaned (record : Record) : Place → Place → Prop
  | attr {attr sub : AttrName} (absent : record.get? attr.text = none) :
      Orphaned record (.attr ⟨attr, some sub⟩) (.attr ⟨attr, none⟩)
  | extension {uri : SchemaUri} {attr sub : AttrName} {inner : Record} (hosted : Hosts record uri inner)
      (absent : inner.get? attr.text = none) :
      Orphaned record (.extension uri ⟨attr, some sub⟩) (.extension uri ⟨attr, none⟩)

/-- A list is written to a sub-attribute whose parent, at the place given, is absent. -/
def Expands (record : Record) (key : Key) (value : Value) (parent : Place) : Prop :=
  (∃ values, value = .list values) ∧ Orphaned record (record.resolve key) parent

theorem Hosts.unique {uri : SchemaUri} {inner other : Record} (h : Hosts record uri inner)
    (hother : Hosts record uri other) : inner = other := by
  cases h with
  | created absent =>
    cases hother with
    | created => rfl
    | present stored => cases absent.symm.trans stored
  | present stored =>
    cases hother with
    | created absent => cases absent.symm.trans stored
    | present other => cases stored.symm.trans other; rfl

/-- What is said of some record that holds the attributes of an extension is said of the only one. -/
theorem Hosts.exists_iff {uri : SchemaUri} {inner : Record} (h : Hosts record uri inner) {P : Record → Prop} :
    (∃ other, Hosts record uri other ∧ P other) ↔ P inner := by
  refine ⟨?_, fun hinner => ⟨inner, h, hinner⟩⟩
  rintro ⟨other, hother, hP⟩
  exact h.unique hother ▸ hP

theorem exists_orphaned_attr_iff {rep : LocalPath} :
    (∃ parent, Orphaned record (.attr rep) parent) ↔ rep.sub.isSome ∧ record.get? rep.attr.text = none := by
  obtain ⟨attr, _ | sub⟩ := rep
  · exact iff_of_false (fun ⟨_, h⟩ => nomatch h) fun h => nomatch h.1
  · exact ⟨fun ⟨_, .attr absent⟩ => ⟨rfl, absent⟩, fun h => ⟨_, .attr h.2⟩⟩

theorem exists_orphaned_extension_iff {uri : SchemaUri} {rep : LocalPath} :
    (∃ parent, Orphaned record (.extension uri rep) parent) ↔
      ∃ inner, Hosts record uri inner ∧ rep.sub.isSome ∧ inner.get? rep.attr.text = none := by
  obtain ⟨attr, _ | sub⟩ := rep
  · exact iff_of_false (fun ⟨_, h⟩ => nomatch h) fun ⟨_, _, h⟩ => nomatch h.1
  · exact ⟨fun ⟨_, .extension hosted absent⟩ => ⟨_, hosted, rfl, absent⟩,
      fun ⟨_, hosted, h⟩ => ⟨_, .extension hosted h.2⟩⟩

/-- A write inside an extension changes the record that holds its attributes. -/
theorem Within.hosts {uri : SchemaUri} {before after next : Record} (h : Within record uri before after next) :
    Hosts record uri before := by
  cases h with
  | created absent => exact .created absent
  | present stored => exact .present stored

/-! ## Where expanding and writing part -/

/-- What expanding leaves at an absent parent is a list, and what writing leaves there is a record. -/
theorem expandAttr_ne_setAttr {attr sub : AttrName} (habsent : record.get? attr.text = none)
    (values : List Value) :
    record.expandAttr ⟨attr, some sub⟩ (.list values) ≠ record.setAttr ⟨attr, some sub⟩ (.list values) := by
  intro hsame
  simp only [expandAttr, setAttr, habsent] at hsame
  have hread := congrArg (Entries.get? · attr.text) (Except.ok.inj hsame)
  simp only [get?_insert_self] at hread
  cases hread

/-- For an attribute, expanding and writing part exactly where a list goes below an absent parent. -/
theorem expandAttr_eq_setAttr_iff {rep : LocalPath} :
    record.expandAttr rep value = record.setAttr rep value ↔
      ¬ ((∃ values, value = .list values) ∧ rep.sub.isSome ∧ record.get? rep.attr.text = none) := by
  obtain ⟨attr, _ | sub⟩ := rep
  · simp [expandAttr]
  cases hparent : record.get? attr.text with
  | some stored => simp [expandAttr_of_stored ⟨attr, some sub⟩ hparent]
  | none =>
    cases value with
    | list values => simpa using expandAttr_ne_setAttr hparent values
    | _ =>
      refine iff_of_true (expandAttr_of_not_list rfl) ?_
      rintro ⟨⟨_, hlist⟩, -⟩
      cases hlist

/-- Two writes inside an extension do the same if and only if they do the same to the record that holds its
attributes. -/
theorem setWithin_eq_iff {uri : SchemaUri} {inner : Record} (h : Hosts record uri inner) (rep : LocalPath)
    (first second : Record → Except Fault Record) :
    record.setWithin uri rep first = record.setWithin uri rep second ↔ first inner = second inner := by
  have hinj : ∀ put : Record → Record, (∀ after, (put after).get? uri.text = some (.record after)) →
      ((first inner).map put = (second inner).map put ↔ first inner = second inner) := by
    intro put hput
    refine ⟨fun hsame => ?_, congrArg _⟩
    cases hfirst : first inner <;> cases hsecond : second inner <;> rw [hfirst, hsecond] at hsame
    · exact congrArg Except.error (Except.error.inj hsame)
    · cases hsame
    · cases hsame
    · next after other =>
      have hread := congrArg (Entries.get? · uri.text) (Except.ok.inj hsame)
      simp only [hput, Option.some.injEq, Value.record.injEq] at hread
      rw [hread]
  cases h with
  | created absent =>
    simp only [setWithin, absent]
    exact hinj _ fun after => get?_insert_self record uri.text (.record after)
  | present stored =>
    simp only [setWithin, stored]
    exact hinj _ fun after => get?_replace_self stored (.record after)

/-- Where the identifier of an extension leads to no record, whatever is written is refused alike. -/
theorem setWithin_of_not_hosted {uri : SchemaUri} (h : ∀ inner, ¬ Hosts record uri inner) (rep : LocalPath)
    (write : Record → Except Fault Record) :
    record.setWithin uri rep write = .error (.cannotHold uri.text rep.attr.text) := by
  cases hstored : record.get? uri.text with
  | none => exact absurd (.created hstored) (h [])
  | some stored =>
    cases stored with
    | record inner => exact absurd (.present hstored) (h inner)
    | _ => simp only [setWithin, hstored]

/-- At every address, expanding and writing part exactly where a list goes below an absent parent. -/
theorem expand_eq_set_iff :
    record.expand key value = record.set key value ↔ ¬ ∃ parent, Expands record key value parent := by
  unfold expand set setBy Expands
  rw [exists_and_left]
  cases record.resolve key with
  | entry text => exact iff_of_true rfl fun ⟨_, _, h⟩ => nomatch h
  | schema uri => exact iff_of_true rfl fun ⟨_, _, h⟩ => nomatch h
  | attr rep =>
    rw [exists_orphaned_attr_iff]
    exact expandAttr_eq_setAttr_iff
  | extension uri rep =>
    rw [exists_orphaned_extension_iff]
    by_cases hhosted : ∃ inner, Hosts record uri inner
    · obtain ⟨inner, hinner⟩ := hhosted
      rw [hinner.exists_iff]
      exact (setWithin_eq_iff hinner rep _ _).trans expandAttr_eq_setAttr_iff
    · have hnone : ∀ inner, ¬ Hosts record uri inner := fun inner h => hhosted ⟨inner, h⟩
      refine iff_of_true ?_ fun ⟨_, inner, hinner, _⟩ => hnone inner hinner
      simp only [setWithin_of_not_hosted hnone]

/-! ## Expanding as two writes -/

/-- Below an absent parent, expanding is to write the empty list to the parent and then the list below it. -/
theorem expandAttr_of_absent {attr : AttrName} (habsent : record.get? attr.text = none) (sub : AttrName)
    (values : List Value) :
    setAttr (record.insert attr.text (.list [])) ⟨attr, some sub⟩ (.list values) =
      record.expandAttr ⟨attr, some sub⟩ (.list values) := by
  simp only [expandAttr, setAttr, habsent, get?_insert_self, Entries.replace_insert]

/-- An absent parent can be written. -/
theorem Orphaned.exists_set (h : Orphaned record place parent) (value : Value) :
    ∃ started, record.set parent value = .ok started := by
  cases h with
  | attr => exact ⟨_, rfl⟩
  | extension hosted =>
    cases hosted with
    | created absent => exact ⟨_, by simp only [set, setBy, resolve, setWithin, absent]; rfl⟩
    | present stored => exact ⟨_, by simp only [set, setBy, resolve, setWithin, stored]; rfl⟩

/-- A text that leads below an absent parent leads there still when the parent was written. -/
theorem resolve_set_parent (h : Orphaned record (record.resolve key) parent)
    (hset : record.set parent value = .ok started) : started.resolve key = record.resolve key := by
  cases key with
  | place place => rfl
  | path text =>
    cases hparts : record.resolve? text with
    | none =>
      simp only [resolve, hparts] at h
      cases h
    | some parts =>
      rw [resolve_of_resolve? hparts] at h ⊢
      obtain ⟨_ | uri, rep⟩ := parts
      · cases h with
        | attr =>
          cases Except.ok.inj hset
          exact resolve_of_resolve? (resolve?_of_attrWritten hparts .entry)
      · cases h with
        | extension =>
          obtain ⟨before, after, -, hwithin, -⟩ := set_extension hset
          exact resolve_of_resolve? (resolve?_of_within hparts hwithin)

/-- At every address, expanding a list below an absent parent is to write the empty list to the parent and then
the list at the address. -/
theorem set_set_parent {values : List Value} (h : Orphaned record (record.resolve key) parent)
    (hset : record.set parent (.list []) = .ok started) :
    started.set key (.list values) = record.expand key (.list values) := by
  unfold set setBy expand setBy
  rw [resolve_set_parent h hset]
  generalize record.resolve key = place at h
  cases h with
  | attr absent =>
    cases Except.ok.inj hset
    exact expandAttr_of_absent absent _ values
  | @extension uri attr sub inner hosted absent =>
    obtain ⟨before, after, hwritten, hwithin, -⟩ := set_extension hset
    cases hwithin.hosts.unique hosted
    cases hwritten with | entry =>
    exact hwithin.setWithin_eq (setAttr · ⟨attr, some sub⟩ (.list values))
      (expandAttr · ⟨attr, some sub⟩ (.list values)) (expandAttr_of_absent absent sub values)

/-- Nothing is refused that is expanded below an absent parent. -/
theorem exists_expand {values : List Value} (h : Orphaned record (record.resolve key) parent) :
    ∃ next, record.expand key (.list values) = .ok next := by
  unfold expand setBy
  generalize record.resolve key = place at h
  cases h with
  | attr absent => exact ⟨_, by simp only [expandAttr, absent]; rfl⟩
  | extension hosted absent =>
    cases hosted with
    | created gone => exact ⟨_, by simp only [setWithin, gone, expandAttr, absent]; rfl⟩
    | present stored => exact ⟨_, by simp only [setWithin, stored, expandAttr, absent]; rfl⟩

end Record

/-! ## Stores -/

namespace Store

open Record (Expands Hosts Orphaned)

variable {store : Store} {key : Key} {cell : Cell} {parent : Place}

/-- A cell whose plain value is a list is a list of cells. -/
theorem exists_eq_list {values : List Value} (h : cell.plain = .list values) : ∃ items, cell = .list items := by
  rcases cell.list_or_not with hlist | ⟨-, hnone⟩
  · exact hlist
  · rw [h] at hnone
    cases hnone

/-- For an attribute, expanding does what writing does unless a list goes below an absent parent. -/
theorem expandAttr_eq_setAttr (h : store.Sound) {rep : LocalPath}
    (hkept : ¬ ((∃ values, cell.plain = .list values) ∧ rep.sub.isSome ∧
      store.plain.get? rep.attr.text = none)) :
    store.expandAttr rep cell = store.setAttr rep cell := by
  obtain ⟨attr, _ | sub⟩ := rep
  · rfl
  cases hget : store.get? attr.text with
  | some stored => exact expandAttr_of_stored h ⟨attr, some sub⟩ hget
  | none =>
    have habsent : store.plain.get? attr.text = none := by rw [h.plain_get?, hget, Option.map_none]
    refine expandAttr_of_not_list fun items hitems => hkept ⟨⟨items.map Cell.plain, ?_⟩, rfl, habsent⟩
    rw [hitems, Cell.plain_list]

/-- Below an absent parent, expanding is to write the empty list to the parent and then the list below it. -/
theorem expandAttr_of_absent (h : store.Sound) {attr : AttrName} (hget : store.get? attr.text = none)
    (sub : AttrName) (values : List Cell) :
    setAttr (store.insert attr.text (.list [])) ⟨attr, some sub⟩ (.list values) =
      store.expandAttr ⟨attr, some sub⟩ (.list values) := by
  have hempty : (Cell.list []).Sound := Cell.sound_list.2 fun _ hmem => absurd hmem List.not_mem_nil
  have hstarted := get?_insert_self h attr.text (.list [])
  simp only [expandAttr, setAttr, orInsert_of_none h hget,
    orInsert_of_some (h.insert attr.text hempty) hstarted, hstarted]

/-! ### Inside an extension -/

/-- A key that is in use finds nothing new put in. -/
theorem orInsert_of_position? {name : String} {i : Nat} (hpos : store.position? name = some i) (other : Cell) :
    store.orInsert name other = store := by
  rw [orInsert, hpos]

/-- Whatever stood under a key, it is in use once something was put in where nothing was. -/
theorem exists_position?_orInsert (store : Store) (name : String) (other : Cell) :
    ∃ i, (store.orInsert name other).position? name = some i := by
  cases hpos : store.position? name with
  | some i => exact ⟨i, by rw [orInsert_of_position? hpos, hpos]⟩
  | none => exact ⟨_, by rw [orInsert, hpos, Indexed.position?, Indexed.insert, Std.HashMap.getElem?_insert_self]⟩

/-- The store to which an extension leads once an empty one was put in where none was holds its attributes. -/
theorem hosts_of_orInsert (h : store.Sound) {uri : SchemaUri} {inner : Store}
    (hget : (store.orInsert uri.text (.record .empty)).get? uri.text = some (.record inner)) :
    inner.Sound ∧ Hosts store.plain uri inner.plain := by
  cases hstored : store.get? uri.text with
  | none =>
    rw [orInsert_of_none h hstored, get?_insert_self h] at hget
    cases hget
    exact ⟨sound_empty, .created (by rw [h.plain_get?, hstored, Option.map_none])⟩
  | some stored =>
    rw [orInsert_of_some h hstored, hstored] at hget
    cases hget
    exact ⟨h.of_get? hstored, .present (by rw [h.plain_get?, hstored, Option.map_some, plain_record])⟩

/-- Writes that do the same to the store that holds the attributes of an extension do the same inside it. -/
theorem setWithin_congr {uri : SchemaUri} {rep : LocalPath} {first second : Store → Outcome}
    (hwrite : ∀ inner, (store.orInsert uri.text (.record .empty)).get? uri.text = some (.record inner) →
      first inner = second inner) :
    store.setWithin uri rep first = store.setWithin uri rep second := by
  unfold setWithin
  dsimp only
  split
  · next inner hget => rw [hwrite inner hget]
  · rfl

/-- Two writes inside an extension are one that does both to the store that holds its attributes. -/
theorem setWithin_setWithin (store : Store) (uri : SchemaUri) (rep : LocalPath) (first second : Store → Outcome) :
    (store.setWithin uri rep first).1.setWithin uri rep second =
      store.setWithin uri rep fun inner => second (first inner).1 := by
  obtain ⟨i, hpos⟩ := exists_position?_orInsert store uri.text (.record .empty)
  simp only [setWithin]
  generalize store.orInsert uri.text (.record .empty) = started at hpos ⊢
  -- the second write finds what the first one left under the identifier
  cases hget : started.get? uri.text with
  | none => simp only [orInsert_of_position? hpos, hget]
  | some stored =>
    cases stored with
    | record inner =>
      have hagain : (started.replace uri.text (.record (first inner).1)).position? uri.text = some i :=
        (Indexed.position?_replace started uri.text uri.text _).trans hpos
      simp only [orInsert_of_position? hagain, Indexed.get?_replace_self hget, Indexed.replace_replace]
    | _ => simp only [orInsert_of_position? hpos, hget]

/-! ### Addresses -/

/-- At every address, expanding does what writing does unless a list goes below an absent parent. -/
theorem expand_eq_set (h : store.Sound) (hkept : ¬ ∃ parent, Expands store.plain key cell.plain parent) :
    store.expand key cell = store.set key cell := by
  unfold expand set setBy
  unfold Expands at hkept
  rw [exists_and_left, resolve_plain h] at hkept
  generalize store.resolve key = place at hkept ⊢
  cases place with
  | entry text => rfl
  | schema uri => rfl
  | attr rep =>
    rw [Record.exists_orphaned_attr_iff] at hkept
    exact expandAttr_eq_setAttr h hkept
  | extension uri rep =>
    refine setWithin_congr fun inner hget => ?_
    obtain ⟨hinner, hosted⟩ := hosts_of_orInsert h hget
    rw [Record.exists_orphaned_extension_iff, hosted.exists_iff] at hkept
    exact expandAttr_eq_setAttr hinner hkept

/-- At every address, expanding a list below an absent parent is to write the empty list to the parent and then
the list at the address. -/
theorem set_set_parent (h : store.Sound) (horphan : Orphaned store.plain (store.plain.resolve key) parent)
    (items : List Cell) :
    (store.set parent (.list [])).2 = none ∧
      (store.set parent (.list [])).1.set key (.list items) = store.expand key (.list items) := by
  have hempty : (Cell.list []).Sound := Cell.sound_list.2 fun _ hmem => absurd hmem List.not_mem_nil
  have hagrees := set_agrees h (.place parent) hempty
  obtain ⟨started, hset⟩ := horphan.exists_set (Cell.plain (.list []))
  obtain ⟨hsound, hplain⟩ := hagrees.after
  rw [hset] at hagrees hplain
  have hresolve : (store.set parent (.list [])).1.resolve key = store.resolve key := by
    rw [← resolve_plain hsound, ← resolve_plain h]
    exact (congrArg (Record.resolve · key) hplain).trans (Record.resolve_set_parent horphan hset)
  refine ⟨hagrees.fault_eq_none, ?_⟩
  rw [resolve_plain h] at horphan
  rw [set, setBy, hresolve, expand, setBy]
  generalize store.resolve key = place at horphan
  cases horphan with
  | attr absent =>
    have hget := Option.map_eq_none_iff.1 ((h.plain_get? _).symm.trans absent)
    exact expandAttr_of_absent h hget _ items
  | @extension uri attr sub inner hosted absent =>
    refine (setWithin_setWithin store uri ⟨attr, some sub⟩ _ _).trans (setWithin_congr fun within hget => ?_)
    obtain ⟨hwithin, hhosts⟩ := hosts_of_orInsert h hget
    rw [hosted.unique hhosts, hwithin.plain_get?] at absent
    exact expandAttr_of_absent hwithin (Option.map_eq_none_iff.1 absent) sub items

end Store

/-! ## Both together -/

namespace Record

/-- Expanding has the outcome of writing, the same record or the same fault, except where a list goes below an
absent parent.  There it differs, and it is never refused: it leaves the record that is left when the empty list
is written to the parent and then the list at the address.  A store with tables is left, tables and all, as
writing leaves it, and in the exceptional case as the two writes leave it. -/
theorem expand_refines_set (record : Record) (key : Key) (value : Value) :
    (record.expand key value = record.set key value ↔ ¬ ∃ parent, Expands record key value parent) ∧
    (∀ parent, Expands record key value parent → ∃ started next,
      record.set parent (.list []) = .ok started ∧ started.set key value = .ok next ∧
        record.expand key value = .ok next) ∧
    ∀ store : Store, store.Sound → store.plain = record → ∀ cell : SoundCell, cell.plain = value →
      ((¬ ∃ parent, Expands record key value parent) → store.expand key cell.1 = store.set key cell.1) ∧
      ∀ parent, Expands record key value parent →
        (store.set parent (.list [])).2 = none ∧ (store.expand key cell.1).2 = none ∧
          (store.set parent (.list [])).1.set key cell.1 = store.expand key cell.1 := by
  refine ⟨expand_eq_set_iff, ?records, ?stores⟩
  case records =>
    rintro parent ⟨⟨values, rfl⟩, horphan⟩
    obtain ⟨started, hstarted⟩ := horphan.exists_set (.list [])
    obtain ⟨next, hnext⟩ := exists_expand horphan
    exact ⟨started, next, hstarted, (set_set_parent horphan hstarted).trans hnext, hnext⟩
  case stores =>
    rintro store hstore rfl ⟨cell, hcell⟩ rfl
    refine ⟨Store.expand_eq_set hstore, ?_⟩
    rintro parent ⟨⟨values, hvalues⟩, horphan⟩
    obtain ⟨items, rfl⟩ := Store.exists_eq_list hvalues
    obtain ⟨hstarted, htwice⟩ := Store.set_set_parent hstore horphan items
    obtain ⟨next, hnext⟩ := exists_expand horphan
    have hagrees := Store.expand_agrees hstore key hcell
    rw [Cell.plain_list, hnext] at hagrees
    exact ⟨hstarted, hagrees.fault_eq_none, htwice⟩

/-- Two addresses written for the first time into the data of an extension, by a path in writing: the parent is
new, so a list makes it a list with a record for each address, while a single value is written as ever. -/
theorem expand_refines_set_below_new_parent :
    ∃ store : Store, store.Sound ∧ store.plain = [("urn:example:Staff", .record [])] ∧
      store.plain.expand (.path "urn:example:Staff:emails.value") (.list [.text "a", .text "b"]) =
        .ok [("urn:example:Staff",
          .record [("emails", .list [.record [("value", .text "a")], .record [("value", .text "b")]])])] ∧
      store.plain.expand (.path "urn:example:Staff:emails.value") (.list [.text "a", .text "b"]) ≠
        store.plain.set (.path "urn:example:Staff:emails.value") (.list [.text "a", .text "b"]) ∧
      (store.expand (.path "urn:example:Staff:emails.value") (.list [.text "a", .text "b"])).2 = none ∧
      store.expand (.path "urn:example:Staff:emails.value") (.text "a") =
        store.set (.path "urn:example:Staff:emails.value") (.text "a") := by
  let staff : SchemaUri := ⟨"urn:example:Staff", by decide⟩
  let value : LocalPath := ⟨⟨"emails", by decide⟩, some ⟨"value", by decide⟩⟩
  obtain ⟨hsound, hplain⟩ := Store.ofMembers_agrees [("urn:example:Staff", .object [])] Store.sound_empty
  have hrecord : Store.plain (Store.ofMembers .empty [("urn:example:Staff", .object [])]) =
      [("urn:example:Staff", .record [])] := hplain
  have hresolve : resolve [("urn:example:Staff", .record [])] (.path "urn:example:Staff:emails.value") =
      .extension staff value := by rfl
  have hinner : Entries.get? [("urn:example:Staff", Value.record [])] "urn:example:Staff" = some (.record []) := by rfl
  have horphan : Orphaned [("urn:example:Staff", .record [])]
      (resolve [("urn:example:Staff", .record [])] (.path "urn:example:Staff:emails.value"))
      (.extension staff ⟨value.attr, none⟩) := by
    rw [hresolve]
    exact .extension (.present hinner) rfl
  obtain ⟨hsame, -, hlist⟩ := expand_refines_set [("urn:example:Staff", .record [])]
    (.path "urn:example:Staff:emails.value") (.list [.text "a", .text "b"])
  obtain ⟨-, -, htext⟩ := expand_refines_set [("urn:example:Staff", .record [])]
    (.path "urn:example:Staff:emails.value") (.text "a")
  have hexpands : Expands [("urn:example:Staff", .record [])] (.path "urn:example:Staff:emails.value")
      (.list [.text "a", .text "b"]) (.extension staff ⟨value.attr, none⟩) := ⟨⟨_, rfl⟩, horphan⟩
  have hcells : (Cell.list [.text "a", .text "b"]).Sound := Cell.sound_list.2 (by simp [Cell.Sound, Cell.Everywhere])
  refine ⟨_, hsound, hrecord, ?_, ?_, ?_, ?_⟩
  · rw [hrecord]
    rfl
  · rw [hrecord]
    exact fun heq => hsame.1 heq ⟨_, hexpands⟩
  · exact ((hlist _ hsound hrecord ⟨_, hcells⟩ rfl).2 _ hexpands).2.1
  · refine (htext _ hsound hrecord ⟨.text "a", trivial⟩ rfl).1 ?_
    rintro ⟨_, ⟨_, hvalue⟩, -⟩
    cases hvalue

end Record

end Scim
