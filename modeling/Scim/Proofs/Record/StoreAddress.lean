import Mathlib.Data.List.Basic
import Scim.Proofs.Record.Store

/-!
# Writing and removing in stores

The operations of a store at an address.  Where a record is written to in one go, a store is changed in
steps: a parent that is absent is put in first, found again through the table and changed where it stands.
A step that is taken before a refusal is noticed would stay, so a write gives the store that it leaves
behind together with the fault, if there is one.

Each operation agrees with that on plain records: the fault is the same, the tables of all levels are exact
again, and the plain record is the one written, or the old one if the write was refused.

## Main results

* `Store.set_agrees`, `Store.expand_agrees`: both ways of writing agree with those of records.
* `Store.drop_agrees`: removing agrees with removing from the plain record.
-/

namespace Scim

open Text

/-! ## Elements of lists -/

namespace Cell

/-- One element after a value was written to its sub-attribute. -/
def setSubOf (sub : AttrName) (value : Cell) : Cell → Cell
  | .record contents => .record (contents.insert sub.text value)
  | .missing => .record (Indexed.empty.insert sub.text value)
  | .null => .record (Indexed.empty.insert sub.text value)
  | item => item

/-- Writes values to the sub-attribute of the elements of a list, one value to each element. -/
def distribute (sub : AttrName) : List Cell → List Cell → List Cell
  | items, [] => items
  | [], values =>
    (values.reverse.dropWhile isMissing).reverse.map fun value =>
      if value.isMissing then .record .empty else .record (Indexed.empty.insert sub.text value)
  | item :: items, value :: values =>
    (if value.isMissing then item else setSubOf sub value item) :: distribute sub items values

/-- One element without its sub-attribute. -/
def dropSubOf (sub : AttrName) : Cell → Cell
  | .record contents => .record (contents.erase sub.text)
  | item => item

end Cell

/-! ## Stores -/

namespace Store

/-- Puts a value under a key that is not in use. -/
def orInsert (store : Store) (key : String) (cell : Cell) : Store :=
  match store.position? key with
  | none => store.insert key cell
  | some _ => store

/-- What a text addresses that is not itself a key of the store. -/
def resolve? (store : Store) (text : String) : Option (Option SchemaUri × LocalPath) :=
  match store.position? text with
  | some _ => none
  | none =>
    match Path.split? text with
    | none => none
    | some (none, rep) => some (none, rep)
    | some (some uri, rep) =>
      match store.get? uri.text with
      | some (.record _) => some (some uri, rep)
      | _ => none

/-- The place that a key addresses. -/
def resolve (store : Store) : Key → Place
  | .place place => place
  | .path text =>
    match store.resolve? text with
    | some parts => .ofParts parts
    | none => .entry text

/-- What a write leaves behind: the store, and the fault if the write was refused. -/
abbrev Outcome := Store × Option Fault

/-- Writes the value of an attribute. -/
def setAttr (store : Store) (rep : LocalPath) (value : Cell) : Outcome :=
  match rep.sub with
  | none => (store.insert rep.attr.text value, none)
  | some sub =>
    let store := store.orInsert rep.attr.text (.record .empty)
    match store.get? rep.attr.text, value with
    | some (.record inner), value =>
      (store.replace rep.attr.text (.record (inner.insert sub.text value)), none)
    | some (.list items), .list values =>
      (store.replace rep.attr.text (.list (Cell.distribute sub items values)), none)
    | _, _ => (store, some (.cannotHold rep.attr.text sub.text))

/-- Writes the value of an attribute, expanding a list over a new list of records. -/
def expandAttr (store : Store) (rep : LocalPath) (value : Cell) : Outcome :=
  match rep.sub, value with
  | some sub, .list values =>
    let store := store.orInsert rep.attr.text (.list [])
    match store.get? rep.attr.text with
    | some (.list items) =>
      (store.replace rep.attr.text (.list (Cell.distribute sub items values)), none)
    | some (.record inner) =>
      (store.replace rep.attr.text (.record (inner.insert sub.text (.list values))), none)
    | _ => (store, some (.cannotHold rep.attr.text sub.text))
  | _, _ => store.setAttr rep value

/-- Writes inside the store of an extension, which is created if it is absent. -/
def setWithin (store : Store) (uri : SchemaUri) (rep : LocalPath) (write : Store → Outcome) : Outcome :=
  let store := store.orInsert uri.text (.record .empty)
  match store.get? uri.text with
  | some (.record inner) =>
    let outcome := write inner
    (store.replace uri.text (.record outcome.1), outcome.2)
  | _ => (store, some (.cannotHold uri.text rep.attr.text))

/-- Writes the entry of a schema, in its place if there is one. -/
def setSchema (store : Store) (uri : SchemaUri) (value : Cell) : Store :=
  match store.position? uri.text with
  | some _ => store.replace uri.text value
  | none => store.insert uri.text value

/-- Writes a value at an address, where `write` writes the values of attributes. -/
def setBy (write : Store → LocalPath → Cell → Outcome) (store : Store) (key : Key) (value : Cell) :
    Outcome :=
  match store.resolve key with
  | .entry text => (store.insert text value, none)
  | .schema uri => (store.setSchema uri value, none)
  | .attr rep => write store rep value
  | .extension uri rep => store.setWithin uri rep fun inner => write inner rep value

/-- Writes a value at an address. -/
def set (store : Store) (key : Key) (value : Cell) : Outcome := store.setBy setAttr key value

/-- Writes a value at an address, expanding a list over a new list of records. -/
def expand (store : Store) (key : Key) (value : Cell) : Outcome := store.setBy expandAttr key value

/-- Removes the value of an attribute. -/
def dropAttr (store : Store) (rep : LocalPath) : Store :=
  match rep.sub with
  | none => store.erase rep.attr.text
  | some sub =>
    match store.get? rep.attr.text with
    | some (.record inner) => store.replace rep.attr.text (.record (inner.erase sub.text))
    | some (.list items) => store.replace rep.attr.text (.list (items.map (Cell.dropSubOf sub)))
    | _ => store

/-- Removes the value at an address. -/
def drop (store : Store) (key : Key) : Store :=
  match store.resolve key with
  | .entry text => store.erase text
  | .schema uri => store.erase uri.text
  | .attr rep => store.dropAttr rep
  | .extension uri rep =>
    match store.get? uri.text with
    | some (.record inner) => store.replace uri.text (.record (dropAttr inner rep))
    | _ => store

end Store

/-! ## Elements agree -/

namespace Cell

theorem sound_list {items : List Cell} : (Cell.list items).Sound ↔ ∀ item ∈ items, item.Sound :=
  everywhere_list

theorem sound_single (key : String) {value : Cell} (hvalue : value.Sound) :
    (Cell.record (Indexed.empty.insert key value)).Sound :=
  Store.sound_empty.insert key hvalue

theorem sound_setSubOf (sub : AttrName) {value item : Cell} (hvalue : value.Sound) (hitem : item.Sound) :
    (setSubOf sub value item).Sound := by
  cases item with
  | record contents => exact Store.Sound.insert hitem sub.text hvalue
  | missing => exact sound_single sub.text hvalue
  | null => exact sound_single sub.text hvalue
  | _ => exact hitem

theorem plain_single (key : String) (value : Cell) :
    (Cell.record (Indexed.empty.insert key value)).plain = .record [(key, value.plain)] := by
  rw [Store.plain_record, Store.sound_empty.plain_insert]
  rfl

theorem plain_setSubOf (sub : AttrName) (value : Cell) {item : Cell} (hitem : item.Sound) :
    (setSubOf sub value item).plain = Record.setSubOf sub value.plain item.plain := by
  cases item with
  | record contents =>
    show (Cell.record (contents.insert sub.text value)).plain = _
    rw [Store.plain_record, Store.plain_record, Store.Sound.plain_insert hitem]
    rfl
  | missing => exact plain_single sub.text value
  | null => exact plain_single sub.text value
  | _ => rfl

theorem sound_distribute (sub : AttrName) {items values : List Cell} (hitems : ∀ item ∈ items, item.Sound)
    (hvalues : ∀ value ∈ values, value.Sound) : ∀ item ∈ distribute sub items values, item.Sound := by
  induction values generalizing items with
  | nil =>
    cases items <;> exact hitems
  | cons value values ih =>
    have hhead := hvalues value List.mem_cons_self
    have htail : ∀ v ∈ values, v.Sound := fun v hv => hvalues v (List.mem_cons_of_mem _ hv)
    cases items with
    | nil =>
      intro item hmem
      obtain ⟨v, hv, rfl⟩ := List.mem_map.1 hmem
      have hin : v ∈ value :: values :=
        List.mem_reverse.1 ((List.dropWhile_sublist _).mem (List.mem_reverse.1 hv))
      split
      · exact Store.sound_empty
      · exact sound_single sub.text (hvalues v hin)
    | cons item items =>
      intro found hmem
      have hfirst := hitems item List.mem_cons_self
      rcases List.mem_cons.1 hmem with rfl | hrest
      · split
        · exact hfirst
        · exact sound_setSubOf sub hhead hfirst
      · exact ih (fun i hi => hitems i (List.mem_cons_of_mem _ hi)) htail found hrest

theorem plain_distribute (sub : AttrName) (values : List Cell) {items : List Cell}
    (hitems : ∀ item ∈ items, item.Sound) :
    (distribute sub items values).map plain =
      Record.distribute sub (items.map plain) (values.map plain) := by
  induction values generalizing items with
  | nil => cases items <;> rfl
  | cons value values ih =>
    cases items with
    | nil =>
      rw [List.map_nil, List.map_cons, Record.distribute, distribute, ← List.map_cons, ← List.map_reverse,
        List.dropWhile_map, ← List.map_reverse, List.map_map, List.map_map]
      · have hmiss : Value.isMissing ∘ plain = isMissing := funext isMissing_plain
        rw [hmiss]
        apply List.map_congr_left
        intro v _
        show (if v.isMissing then Cell.record .empty else _).plain =
          if v.plain.isMissing then Value.record [] else .record [(sub.text, v.plain)]
        rw [isMissing_plain]
        split
        · rfl
        · exact plain_single sub.text v
      · simp
      · simp
    | cons item items =>
      have hhead := hitems item List.mem_cons_self
      have htail : ∀ i ∈ items, i.Sound := fun i hi => hitems i (List.mem_cons_of_mem _ hi)
      rw [distribute, List.map_cons, List.map_cons, List.map_cons, Record.distribute, ih htail,
        isMissing_plain, ← plain_setSubOf sub value hhead]
      split <;> rfl

theorem sound_dropSubOf (sub : AttrName) {item : Cell} (hitem : item.Sound) : (dropSubOf sub item).Sound := by
  cases item with
  | record contents => exact Store.Sound.erase hitem sub.text
  | _ => exact hitem

theorem plain_dropSubOf (sub : AttrName) {item : Cell} (hitem : item.Sound) :
    (dropSubOf sub item).plain = Record.dropSubOf sub item.plain := by
  cases item with
  | record contents =>
    show (Cell.record (contents.erase sub.text)).plain = _
    rw [Store.plain_record, Store.plain_record, Store.Sound.plain_erase hitem]
    rfl
  | _ => rfl

/-- A cell is a list, or its plain value is none. -/
theorem list_or_not (cell : Cell) :
    (∃ items, cell = .list items) ∨ (∀ items, cell ≠ .list items) ∧ cell.plain.list? = none := by
  cases cell with
  | list items => exact .inl ⟨items, rfl⟩
  | record contents => exact .inr ⟨fun _ e => (nomatch e), by cases contents; rfl⟩
  | _ => exact .inr ⟨fun _ e => (nomatch e), rfl⟩

theorem plain_list (items : List Cell) : (Cell.list items).plain = .list (items.map plain) := by
  rw [plain, plainItems_eq_map]

end Cell

/-! ## Writes agree -/

namespace Record

/-- A value that is no list is written as it is. -/
theorem expandAttr_of_not_list {record : Record} {rep : LocalPath} {value : Value}
    (h : value.list? = none) : record.expandAttr rep value = record.setAttr rep value := by
  unfold expandAttr
  split
  · cases h
  · rfl

/-- Below a parent that is there a list is written as it is. -/
theorem expandAttr_of_stored {record : Record} (rep : LocalPath) {value parent : Value}
    (h : record.get? rep.attr.text = some parent) :
    record.expandAttr rep value = record.setAttr rep value := by
  unfold expandAttr
  split
  · rename_i hnone
    rw [h] at hnone
    cases hnone
  · rfl

/-- A write into an empty record is never refused. -/
theorem setAttr_nil (rep : LocalPath) (value : Value) : ∃ next, setAttr [] rep value = .ok next := by
  obtain ⟨attr, _ | sub⟩ := rep <;> exact ⟨_, rfl⟩

theorem expandAttr_nil (rep : LocalPath) (value : Value) :
    ∃ next, expandAttr [] rep value = .ok next := by
  unfold expandAttr
  split
  · exact ⟨_, rfl⟩
  · exact setAttr_nil rep _

end Record

namespace Store

/-- An outcome agrees with a write to the plain record: the plain record is the one written, or the one
before if both are refused for the same fault. -/
inductive Agrees (before : Record) : Outcome → Except Fault Record → Prop
  | written {store : Store} (sound : store.Sound) : Agrees before (store, none) (.ok store.plain)
  | refused {store : Store} {fault : Fault} (sound : store.Sound) (kept : store.plain = before) :
      Agrees before (store, some fault) (.error fault)

variable {store : Store}

theorem Agrees.written_eq {before next : Record} (hsound : store.Sound) (heq : store.plain = next) :
    Agrees before (store, none) (.ok next) :=
  heq ▸ .written hsound

/-- A key that is in use stays as it is. -/
theorem orInsert_of_some (h : store.Sound) {key : String} {cell : Cell} (hget : store.get? key = some cell)
    (other : Cell) : store.orInsert key other = store := by
  cases hpos : store.position? key with
  | none =>
    rw [h.exact.position?_eq_none_iff.1 hpos] at hget
    cases hget
  | some i => rw [orInsert, hpos]

/-- A key that is not in use is written. -/
theorem orInsert_of_none (h : store.Sound) {key : String} (hget : store.get? key = none) (other : Cell) :
    store.orInsert key other = store.insert key other := by
  rw [orInsert, h.exact.position?_eq_none_iff.2 hget]

theorem get?_insert_self (h : store.Sound) (key : String) (cell : Cell) :
    Indexed.get? (store.insert key cell) key = some cell := by
  rw [(h.exact.insert key cell).get?_eq, h.exact.entries_insert, Entries.get?_insert, if_pos rfl]

theorem setAttr_agrees (h : store.Sound) (rep : LocalPath) {value : Cell} (hvalue : value.Sound) :
    Agrees store.plain (store.setAttr rep value) (store.plain.setAttr rep value.plain) := by
  obtain ⟨attr, _ | sub⟩ := rep
  · exact .written_eq (h.insert attr.text hvalue) (h.plain_insert attr.text value)
  have hplain := h.plain_get? attr.text
  cases hget : store.get? attr.text with
  | none =>
    -- the parent is put in empty and then changed where it stands
    have hnew := h.insert attr.text Store.sound_empty
    have hinner := Cell.sound_single sub.text hvalue
    rw [hget] at hplain
    simp only [setAttr, Record.setAttr, orInsert_of_none h hget, get?_insert_self h, hplain, Option.map_none]
    refine .written_eq (hnew.replace attr.text hinner) ?_
    rw [hnew.plain_replace, h.plain_insert, Entries.replace_insert, Cell.plain_single]
  | some parent =>
    have hparent := h.of_get? hget
    rw [hget, Option.map_some] at hplain
    simp only [setAttr, Record.setAttr, orInsert_of_some h hget, hget, hplain]
    cases parent with
    | record inner =>
      rw [plain_record]
      refine .written_eq (h.replace attr.text (Store.Sound.insert hparent sub.text hvalue)) ?_
      rw [h.plain_replace, plain_record, Store.Sound.plain_insert hparent]
    | list items =>
      rw [Cell.plain_list]
      cases value with
      | list values =>
        have hitems := Cell.sound_list.1 hparent
        have hall := Cell.sound_distribute sub hitems (Cell.sound_list.1 hvalue)
        rw [Cell.plain_list]
        refine .written_eq (h.replace attr.text (Cell.sound_list.2 hall)) ?_
        rw [h.plain_replace, Cell.plain_list, Cell.plain_distribute sub values hitems]
      | record contents =>
        rw [plain_record]
        exact .refused h rfl
      | _ => exact .refused h rfl
    | _ => exact .refused h rfl

/-- A value that is no list is written as it is. -/
theorem expandAttr_of_not_list {rep : LocalPath} {value : Cell} (h : ∀ items, value ≠ .list items) :
    store.expandAttr rep value = store.setAttr rep value := by
  unfold expandAttr
  split
  · exact absurd rfl (h _)
  · rfl

/-- With a parent that is there both ways of writing do the same. -/
theorem expandAttr_of_stored (h : store.Sound) (rep : LocalPath) {value parent : Cell}
    (hget : store.get? rep.attr.text = some parent) : store.expandAttr rep value = store.setAttr rep value := by
  obtain ⟨attr, _ | sub⟩ := rep
  · rfl
  rcases value.list_or_not with ⟨values, rfl⟩ | ⟨hcell, -⟩
  · simp only [expandAttr, setAttr, orInsert_of_some h hget, hget]
    cases parent <;> rfl
  · exact expandAttr_of_not_list hcell

theorem expandAttr_agrees (h : store.Sound) (rep : LocalPath) {value : Cell} (hvalue : value.Sound) :
    Agrees store.plain (store.expandAttr rep value) (store.plain.expandAttr rep value.plain) := by
  obtain ⟨attr, _ | sub⟩ := rep
  · exact setAttr_agrees h ⟨attr, none⟩ hvalue
  rcases value.list_or_not with ⟨values, rfl⟩ | ⟨hcell, hplainValue⟩
  · have hvalues := Cell.sound_list.1 hvalue
    have hplain := h.plain_get? attr.text
    cases hget : store.get? attr.text with
    | none =>
      -- a list takes the place that a record takes when a single value is written
      have hempty : (Cell.list []).Sound := Cell.sound_list.2 fun _ hmem => absurd hmem List.not_mem_nil
      have hnew := h.insert attr.text hempty
      have hall := Cell.sound_distribute sub (fun _ hmem => absurd hmem List.not_mem_nil) hvalues
      rw [hget] at hplain
      simp only [expandAttr, orInsert_of_none h hget, get?_insert_self h, Cell.plain_list,
        Record.expandAttr, hplain, Option.map_none]
      refine .written_eq (hnew.replace attr.text (Cell.sound_list.2 hall)) ?_
      rw [hnew.plain_replace, h.plain_insert, Entries.replace_insert, Cell.plain_list,
        Cell.plain_distribute sub values (fun _ hmem => absurd hmem List.not_mem_nil)]
      rfl
    | some parent =>
      rw [hget, Option.map_some] at hplain
      rw [expandAttr_of_stored h ⟨attr, some sub⟩ hget, Record.expandAttr_of_stored ⟨attr, some sub⟩ hplain]
      exact setAttr_agrees h ⟨attr, some sub⟩ hvalue
  · rw [expandAttr_of_not_list hcell, Record.expandAttr_of_not_list hplainValue]
    exact setAttr_agrees h ⟨attr, some sub⟩ hvalue

section

variable (h : store.Sound) (uri : SchemaUri) (rep : LocalPath) {write : Store → Outcome}
  {plainWrite : Record → Except Fault Record}
  (hwrite : ∀ inner : Store, inner.Sound → Agrees inner.plain (write inner) (plainWrite inner.plain))

include h hwrite

/-- An extension that is absent is put in empty and then changed where it stands. -/
private theorem setWithin_agrees_of_none (hget : store.get? uri.text = none) {next : Record}
    (hnext : plainWrite [] = .ok next) :
    Agrees store.plain (store.setWithin uri rep write) (store.plain.setWithin uri rep plainWrite) := by
  have hplain := h.plain_get? uri.text
  have hcreated := h.insert uri.text Store.sound_empty
  have hempty : Store.plain .empty = [] := rfl
  have hinside := hwrite .empty Store.sound_empty
  rw [hempty, hnext] at hinside
  rw [hget] at hplain
  simp only [setWithin, Record.setWithin, orInsert_of_none h hget, get?_insert_self h, hplain,
    Option.map_none, hnext]
  cases hout : write .empty with
  | mk inner fault =>
    rw [hout] at hinside
    cases hinside with
    | written hinner =>
      refine .written_eq (hcreated.replace uri.text hinner) ?_
      rw [hcreated.plain_replace, h.plain_insert, Entries.replace_insert, plain_record]

/-- One that is there is changed, or put back as it was if the write inside is refused. -/
private theorem setWithin_agrees_of_record {inner : Store}
    (hget : store.get? uri.text = some (.record inner)) :
    Agrees store.plain (store.setWithin uri rep write) (store.plain.setWithin uri rep plainWrite) := by
  have hplain := h.plain_get? uri.text
  have hinside := hwrite inner (h.of_get? hget)
  rw [hget, Option.map_some, plain_record] at hplain
  simp only [setWithin, Record.setWithin, orInsert_of_some h hget, hget, hplain]
  show Agrees store.plain (store.replace uri.text (.record (write inner).1), (write inner).2)
    ((plainWrite (plain inner)).map fun after => store.plain.replace uri.text (.record after))
  cases hout : write inner with
  | mk after fault =>
    rw [hout] at hinside
    cases hexpected : plainWrite (plain inner) with
    | ok next =>
      rw [hexpected] at hinside
      cases hinside with
      | written hafter =>
        refine .written_eq (h.replace uri.text hafter) ?_
        rw [h.plain_replace, plain_record]
    | error refusal =>
      rw [hexpected] at hinside
      cases hinside with
      | refused hafter hkept =>
        refine .refused (h.replace uri.text hafter) ?_
        rw [h.plain_replace, plain_record, hkept]
        exact Entries.replace_self (h.exact.distinctKeys.mapValues _) hplain

/-- Writing inside the store of an extension agrees if the write inside does, as long as a write into an
empty record is not refused. -/
theorem setWithin_agrees (hnew : ∃ next, plainWrite [] = .ok next) :
    Agrees store.plain (store.setWithin uri rep write) (store.plain.setWithin uri rep plainWrite) := by
  cases hget : store.get? uri.text with
  | none =>
    obtain ⟨next, hnext⟩ := hnew
    exact setWithin_agrees_of_none h uri rep hwrite hget hnext
  | some parent =>
    cases parent with
    | record inner => exact setWithin_agrees_of_record h uri rep hwrite hget
    | _ =>
      have hplain := h.plain_get? uri.text
      rw [hget, Option.map_some] at hplain
      simp only [setWithin, Record.setWithin, orInsert_of_some h hget, hget, hplain]
      exact .refused h rfl

end

/-! ### Addresses -/

theorem resolve_plain (h : store.Sound) (key : Key) : store.plain.resolve key = store.resolve key := by
  cases key with
  | place place => rfl
  | path text =>
    have hsame : store.plain.resolve? text = store.resolve? text := by
      unfold Record.resolve? Store.resolve?
      rw [h.plain_get? text]
      cases hpos : store.position? text with
      | none =>
        rw [h.exact.position?_eq_none_iff.1 hpos, Option.map_none]
        dsimp only
        obtain _ | ⟨_ | uri, rep⟩ := Path.split? text
        · rfl
        · rfl
        · dsimp only
          rw [h.plain_get? uri.text]
          cases hget : store.get? uri.text with
          | none => rfl
          | some cell =>
            cases cell with
            | record inner => rw [Option.map_some, plain_record]
            | list items => rw [Option.map_some, Cell.plain_list]
            | _ => rfl
      | some i =>
        cases hget : store.get? text with
        | none =>
          rw [h.exact.position?_eq_none_iff.2 hget] at hpos
          cases hpos
        | some cell => rfl
    unfold Record.resolve Store.resolve
    dsimp only
    generalize store.plain.resolve? text = found at hsame ⊢
    subst hsame
    cases store.resolve? text <;> rfl

/-- The two ways of writing values of attributes. -/
structure Writing where
  write : Store → LocalPath → Cell → Outcome
  plainWrite : Record → LocalPath → Value → Except Fault Record
  agrees : ∀ {store : Store}, store.Sound → ∀ (rep : LocalPath) {value : Cell}, value.Sound →
    Agrees store.plain (write store rep value) (plainWrite store.plain rep value.plain)
  into_nil : ∀ (rep : LocalPath) (value : Value), ∃ next, plainWrite [] rep value = .ok next

theorem setBy_agrees (writing : Writing) (h : store.Sound) (key : Key) {value : Cell}
    (hvalue : value.Sound) :
    Agrees store.plain (store.setBy writing.write key value)
      (store.plain.setBy writing.plainWrite key value.plain) := by
  unfold setBy Record.setBy
  rw [resolve_plain h]
  cases store.resolve key with
  | entry text => exact .written_eq (h.insert text hvalue) (h.plain_insert text value)
  | schema uri =>
    simp only [setSchema, Record.setSchema]
    rw [h.plain_get?]
    cases hpos : store.position? uri.text with
    | none =>
      rw [h.exact.position?_eq_none_iff.1 hpos]
      exact .written_eq (h.insert uri.text hvalue) (h.plain_insert uri.text value)
    | some i =>
      cases hget : store.get? uri.text with
      | none =>
        rw [h.exact.position?_eq_none_iff.2 hget] at hpos
        cases hpos
      | some cell => exact .written_eq (h.replace uri.text hvalue) (h.plain_replace uri.text value)
  | attr rep => exact writing.agrees h rep hvalue
  | extension uri rep =>
    exact setWithin_agrees h uri rep (fun _ hinner => writing.agrees hinner rep hvalue)
      (writing.into_nil rep value.plain)

theorem set_agrees (h : store.Sound) (key : Key) {value : Cell} (hvalue : value.Sound) :
    Agrees store.plain (store.set key value) (store.plain.set key value.plain) :=
  setBy_agrees ⟨setAttr, Record.setAttr, setAttr_agrees, Record.setAttr_nil⟩ h key hvalue

theorem expand_agrees (h : store.Sound) (key : Key) {value : Cell} (hvalue : value.Sound) :
    Agrees store.plain (store.expand key value) (store.plain.expand key value.plain) :=
  setBy_agrees ⟨expandAttr, Record.expandAttr, expandAttr_agrees, Record.expandAttr_nil⟩ h key hvalue

/-! ## Removals agree -/

theorem dropAttr_agrees (h : store.Sound) (rep : LocalPath) :
    (store.dropAttr rep).Sound ∧ (store.dropAttr rep).plain = store.plain.dropAttr rep := by
  obtain ⟨attr, _ | sub⟩ := rep
  · exact ⟨h.erase attr.text, h.plain_erase attr.text⟩
  have hplain := h.plain_get? attr.text
  simp only [dropAttr, Record.dropAttr]
  rw [hplain]
  cases hget : store.get? attr.text with
  | none => exact ⟨h, rfl⟩
  | some parent =>
    have hparent := h.of_get? hget
    cases parent with
    | record inner =>
      rw [Option.map_some, plain_record]
      refine ⟨h.replace attr.text (Store.Sound.erase hparent sub.text), ?_⟩
      rw [h.plain_replace, plain_record, Store.Sound.plain_erase hparent]
    | list items =>
      have hitems := Cell.sound_list.1 hparent
      have hall : ∀ item ∈ items.map (Cell.dropSubOf sub), item.Sound := by
        intro item hmem
        obtain ⟨old, hold, rfl⟩ := List.mem_map.1 hmem
        exact Cell.sound_dropSubOf sub (hitems old hold)
      rw [Option.map_some, Cell.plain_list]
      refine ⟨h.replace attr.text (Cell.sound_list.2 hall), ?_⟩
      rw [h.plain_replace, Cell.plain_list, List.map_map]
      congr 2
      rw [List.map_map]
      exact List.map_congr_left fun item hmem => Cell.plain_dropSubOf sub (hitems item hmem)
    | _ => exact ⟨h, rfl⟩

theorem drop_agrees (h : store.Sound) (key : Key) :
    (store.drop key).Sound ∧ (store.drop key).plain = store.plain.drop key := by
  unfold drop Record.drop
  rw [resolve_plain h]
  cases store.resolve key with
  | entry text => exact ⟨h.erase text, h.plain_erase text⟩
  | schema uri => exact ⟨h.erase uri.text, h.plain_erase uri.text⟩
  | attr rep => exact dropAttr_agrees h rep
  | extension uri rep =>
    have hplain := h.plain_get? uri.text
    simp only
    rw [hplain]
    cases hget : store.get? uri.text with
    | none => exact ⟨h, rfl⟩
    | some parent =>
      have hparent := h.of_get? hget
      cases parent with
      | record inner =>
        obtain ⟨hafter, hsame⟩ := @dropAttr_agrees inner hparent rep
        rw [Option.map_some, plain_record]
        refine ⟨h.replace uri.text hafter, ?_⟩
        rw [h.plain_replace, plain_record, hsame]
      | list items =>
        rw [Option.map_some, Cell.plain_list]
        exact ⟨h, rfl⟩
      | _ => exact ⟨h, rfl⟩

end Store

end Scim
