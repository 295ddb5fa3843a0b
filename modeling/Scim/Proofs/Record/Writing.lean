import Scim.Proofs.Record.Entries
import Scim.Record.Address

/-!
# What a write leaves

A write to an attribute that is not refused either adds an entry at the end or puts a value in the place of
one that is there, and which of the two it does depends on the parent only.  The same holds of a write inside
the record of an extension.  Both facts are stated once, as a relation between the record before and the
record after with one rule for each way of writing; what else is said of writes follows from the rules.

Below a list a write changes the elements one by one and may leave some of them as they are, so it is set
apart: `listOver?` is the list that stands over the addressed sub-attribute.

## Main results

* `setAttr_eq_ok_iff`, `setWithin_eq_ok_iff`: what a write does if it is not refused.
* `AttrWritten.getAttr_eq`, `AttrWritten.setAttr_eq`: except below a list, what was written to an attribute
  is read back, and of two writes the second one stays.
* `getAttr_dropAttr`: what is left at an attribute that was removed.
-/

namespace Scim.Record

open Text

variable {record next : Record} {rep : LocalPath} {value : Value}

/-- The list that stands over a sub-attribute. -/
def listOver? (record : Record) (rep : LocalPath) : Option (List Value) :=
  match rep.sub, record.get? rep.attr.text with
  | some _, some (.list items) => some items
  | _, _ => none

theorem listOver?_nil (rep : LocalPath) : listOver? [] rep = none := by
  obtain ⟨attr, _ | sub⟩ := rep <;> rfl

/-- What removing leaves under an address: nothing, or nothing in any element of a list. -/
def emptied : Option (List Value) → Value
  | some items => .list (items.map fun _ => .missing)
  | none => .missing

/-! ## Entries -/

theorem value_of_get? {key : String} (h : record.get? key = some value) : record.value key = value := by
  rw [Record.value, h]
  rfl

/-- What was written under a key is found there. -/
theorem get?_insert_self (record : Record) (key : String) (value : Value) :
    (record.insert key value).get? key = some value := by
  rw [Entries.get?_insert, if_pos rfl]

theorem value_insert (record : Record) (key : String) (value : Value) :
    Record.value (record.insert key value) key = value :=
  value_of_get? (get?_insert_self record key value)

theorem value_erase (record : Record) (key : String) : Record.value (record.erase key) key = .missing := by
  rw [Record.value, Entries.get?_erase, if_pos rfl]
  rfl

/-- What was put in the place of a stored value is found there. -/
theorem get?_replace_self {key : String} {old : Value} (h : record.get? key = some old) (value : Value) :
    (record.replace key value).get? key = some value := by
  rw [Entries.get?_replace, if_pos rfl, h]
  rfl

/-- Putting a value in the place of another one makes no other key one of the record. -/
theorem get?_replace_eq_none {key other : String} (h : record.get? other = none) (value : Value) :
    (record.replace key value).get? other = none := by
  rw [Entries.get?_replace, h]
  split <;> rfl

/-! ## Writing an attribute -/

/-- The record after a write to an attribute, by the ways of writing. -/
inductive AttrWritten (record : Record) (value : Value) : LocalPath → Record → Prop
  | entry {attr : AttrName} : AttrWritten record value ⟨attr, none⟩ (record.insert attr.text value)
  | newParent {attr sub : AttrName} (absent : record.get? attr.text = none) :
      AttrWritten record value ⟨attr, some sub⟩
        (record.insert attr.text (.record [(sub.text, value)]))
  | inParent {attr sub : AttrName} {entries : Record}
      (parent : record.get? attr.text = some (.record entries)) :
      AttrWritten record value ⟨attr, some sub⟩
        (record.replace attr.text (.record (Entries.insert entries sub.text value)))
  | overList {attr sub : AttrName} {items values : List Value}
      (parent : record.get? attr.text = some (.list items)) (list : value = .list values) :
      AttrWritten record value ⟨attr, some sub⟩
        (record.replace attr.text (.list (distribute sub items values)))

theorem setAttr_eq_ok_iff : record.setAttr rep value = .ok next ↔ AttrWritten record value rep next := by
  constructor
  · intro h
    obtain ⟨attr, _ | sub⟩ := rep
    · cases Except.ok.inj h
      exact .entry
    cases hparent : record.get? attr.text with
    | none =>
      simp only [setAttr, hparent] at h
      cases Except.ok.inj h
      exact .newParent hparent
    | some parent =>
      simp only [setAttr, hparent] at h
      split at h
      · next hfound => cases hfound
      · next hfound =>
        cases Option.some.inj hfound
        cases Except.ok.inj h
        exact .inParent hparent
      · next hfound =>
        cases Option.some.inj hfound
        cases Except.ok.inj h
        exact .overList hparent rfl
      · cases h
  · intro h
    cases h with
    | entry => rfl
    | newParent absent => simp only [setAttr, absent]
    | inParent parent => simp only [setAttr, parent]
    | overList parent list => simp only [setAttr, parent, list]

namespace AttrWritten

/-- What was written is read back, unless it was handed out to the elements of a list. -/
theorem getAttr_eq (h : AttrWritten record value rep next) (hlist : record.listOver? rep = none) :
    next.getAttr rep = value := by
  cases h with
  | entry => simp only [getAttr, Entries.get?_insert, if_true]
  | newParent => simp [getAttr, Entries.get?_insert, Record.value, Entries.get?_cons]
  | inParent parent =>
    simp only [getAttr, get?_replace_self parent]
    exact value_insert _ _ _
  | overList parent => simp [listOver?, parent] at hlist

/-- The first of two writes leaves no trace, unless it was handed out to the elements of a list. -/
theorem setAttr_eq (h : AttrWritten record value rep next) (hlist : record.listOver? rep = none)
    (other : Value) : next.setAttr rep other = record.setAttr rep other := by
  cases h with
  | entry => simp only [setAttr, Entries.insert_insert]
  | newParent absent =>
    -- the parent that the first write made is there for the second one
    simp only [setAttr, Entries.get?_insert, if_true, absent, Entries.replace_insert]
    simp [Entries.insert, Entries.erase, Entries.hasKey]
  | inParent parent =>
    simp only [setAttr, get?_replace_self parent, parent, Entries.replace_replace, Entries.insert_insert]
  | overList parent => simp [listOver?, parent] at hlist

/-- A text that is no key of the record becomes one only by a write that makes it the key of an attribute. -/
theorem get?_eq_none (h : AttrWritten record value rep next) {text : String} (htext : record.get? text = none)
    (hkey : lower rep.attr.text ≠ lower text) : next.get? text = none := by
  cases h with
  | entry => rw [Entries.get?_insert, if_neg hkey, htext]
  | newParent => rw [Entries.get?_insert, if_neg hkey, htext]
  | inParent => exact get?_replace_eq_none htext _
  | overList => exact get?_replace_eq_none htext _

end AttrWritten

/-- Removing an attribute leaves nothing to be read there. -/
theorem getAttr_dropAttr (record : Record) (rep : LocalPath) :
    (record.dropAttr rep).getAttr rep = emptied (record.listOver? rep) := by
  obtain ⟨attr, _ | sub⟩ := rep
  · simp [dropAttr, getAttr, listOver?, emptied, Entries.get?_erase]
  cases hparent : record.get? attr.text with
  | none => simp only [dropAttr, getAttr, listOver?, emptied, hparent]
  | some parent =>
    cases parent with
    | record entries =>
      simp only [dropAttr, getAttr, listOver?, emptied, hparent, get?_replace_self hparent]
      exact value_erase entries sub.text
    | list items =>
      have hitem : ∀ item : Value, subOf sub (dropSubOf sub item) = .missing := by
        intro item
        cases item with
        | record entries => exact value_erase entries sub.text
        | _ => rfl
      simp only [dropAttr, getAttr, listOver?, emptied, hparent, get?_replace_self hparent, List.map_map]
      exact congrArg Value.list (List.map_congr_left fun item _ => hitem item)
    | _ => simp only [dropAttr, getAttr, listOver?, emptied, hparent]

/-! ## Writing inside an extension -/

/-- The record after a write inside the record of an extension, which was `before` and became `after`. -/
inductive Within (record : Record) (uri : SchemaUri) : Record → Record → Record → Prop
  | created {after : Record} (absent : record.get? uri.text = none) :
      Within record uri [] after (record.insert uri.text (.record after))
  | present {before after : Record} (parent : record.get? uri.text = some (.record before)) :
      Within record uri before after (record.replace uri.text (.record after))

theorem setWithin_eq_ok_iff {uri : SchemaUri} {write : Record → Except Fault Record} :
    record.setWithin uri rep write = .ok next ↔
      ∃ before after, write before = .ok after ∧ Within record uri before after next := by
  constructor
  · intro h
    unfold setWithin at h
    split at h
    · next absent =>
      cases hwrite : write [] with
      | error fault => rw [hwrite] at h; cases h
      | ok after =>
        rw [hwrite] at h
        cases Except.ok.inj h
        exact ⟨[], after, hwrite, .created absent⟩
    · next before parent =>
      cases hwrite : write before with
      | error fault => rw [hwrite] at h; cases h
      | ok after =>
        rw [hwrite] at h
        cases Except.ok.inj h
        exact ⟨before, after, hwrite, .present parent⟩
    · cases h
  · rintro ⟨before, after, hwrite, hnext⟩
    cases hnext with
    | created absent => simp only [setWithin, absent, hwrite, Except.map]
    | present parent => simp only [setWithin, parent, hwrite, Except.map]

namespace Within

variable {uri : SchemaUri} {before after : Record}

/-- The record of the extension is found under its identifier. -/
theorem get?_eq (h : Within record uri before after next) :
    next.get? uri.text = some (.record after) := by
  cases h with
  | created => exact get?_insert_self record uri.text _
  | present parent => exact get?_replace_self parent _

/-- A second write inside the extension is to the record before what a write is that does to the record of the
extension what both do. -/
theorem setWithin_eq (h : Within record uri before after next) (second both : Record → Except Fault Record)
    (hwrite : second after = both before) :
    next.setWithin uri rep second = record.setWithin uri rep both := by
  rw [setWithin, h.get?_eq]
  cases h with
  | created absent =>
    simp only [setWithin, absent, hwrite]
    cases both [] with
    | error fault => rfl
    | ok inner => exact congrArg Except.ok (Entries.replace_insert _ _ _ _)
  | present parent =>
    simp only [setWithin, parent, hwrite]
    cases both before with
    | error fault => rfl
    | ok inner => exact congrArg Except.ok (Entries.replace_replace _ _ _ _)

end Within

/-! ## Writing the entry of a schema -/

theorem get?_setSchema (record : Record) (uri : SchemaUri) (value : Value) :
    (record.setSchema uri value).get? uri.text = some value := by
  unfold setSchema
  split
  · next old hold => exact get?_replace_self hold value
  · exact get?_insert_self record uri.text value

theorem setSchema_setSchema (record : Record) (uri : SchemaUri) (old value : Value) :
    (record.setSchema uri old).setSchema uri value = record.setSchema uri value := by
  rw [setSchema, get?_setSchema]
  cases hstored : record.get? uri.text with
  | some _ => simp only [setSchema, hstored, Entries.replace_replace]
  | none => simp only [setSchema, hstored, Entries.replace_insert]

end Scim.Record
