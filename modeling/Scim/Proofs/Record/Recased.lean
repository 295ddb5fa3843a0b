import Mathlib.Data.List.Forall2
import Scim.Proofs.Record.Spelling

/-!
# Writing in any casing

A key that is written takes the casing it is written in, so writing a value under two spellings of a path does not
leave the same record.  What it leaves differs in nothing but the casing of the keys that were written: one entry
of the record, and below it one entry of each record there, may be spelled as the one path spells it or as the
other one does.  And whether a write is refused does not depend on the spelling at all.

## Main results

* `setAttr_alike`: writing an attribute of a record.
* `set_ofPath_alike`: writing under equal paths of one catalog.
-/

namespace Scim.Record

open Text

/-! ## Records up to the casing of the keys on a way -/

/-- Entries that are the same, or stand under a key that is spelled alike in both, or `name` in the one and
`other` in the other, with values that are related. -/
def RecasedEntry (name other : String) (related : Value → Value → Prop) (a b : String × Value) : Prop :=
  a = b ∨ lower a.1 = lower name ∧ (a.1 = b.1 ∨ a.1 = name ∧ b.1 = other) ∧ related a.2 b.2

/-- Values that are the same, or records that are related. -/
def RecasedItem (related : Record → Record → Prop) (a b : Value) : Prop :=
  a = b ∨ ∃ entries others, a = .record entries ∧ b = .record others ∧ related entries others

/-- Values that are the same, or related records, or lists whose items are so one by one. -/
def RecasedValue (related : Record → Record → Prop) (a b : Value) : Prop :=
  RecasedItem related a b ∨
    ∃ items others, a = .list items ∧ b = .list others ∧ items.Forall₂ (RecasedItem related) others

/-- Records that are the same entry by entry, except for the spelling of the keys on a way into them: each key
of the way is given as the one record may spell it and as the other one may. -/
def Recased : List (String × String) → Record → Record → Prop
  | [] => Eq
  | (name, other) :: way => List.Forall₂ (RecasedEntry name other (RecasedValue (Recased way)))

theorem RecasedValue.refl (related : Record → Record → Prop) (value : Value) : RecasedValue related value value :=
  .inl (.inl rfl)

theorem RecasedValue.record {related : Record → Record → Prop} {entries others : Record}
    (h : related entries others) : RecasedValue related (.record entries) (.record others) :=
  .inl (.inr ⟨entries, others, rfl, rfl, h⟩)

theorem forall₂_recasedEntry_refl (name other : String) (related : Value → Value → Prop) (record : Record) :
    List.Forall₂ (RecasedEntry name other related) record record :=
  List.forall₂_same.2 fun _ _ => .inl rfl

/-! ## Writing an entry -/

section Entry

variable {name other : String} {related : Value → Value → Prop} {value otherValue : Value}

theorem insert_recased (record : Record) (h : lower name = lower other) (hvalue : related value otherValue) :
    List.Forall₂ (RecasedEntry name other related) (record.insert name value) (record.insert other otherValue) := by
  rw [Entries.insert, Entries.insert, Entries.erase_congr record h]
  refine List.rel_append (forall₂_recasedEntry_refl name other related _) ?_
  exact .cons (.inr ⟨rfl, .inr ⟨rfl, rfl⟩, hvalue⟩) .nil

/-- A replaced entry keeps its spelling. -/
theorem replace_recased (record : Record) (h : lower name = lower other) (hvalue : related value otherValue) :
    List.Forall₂ (RecasedEntry name other related) (record.replace name value)
      (record.replace other otherValue) := by
  rw [Entries.replace, Entries.replace, ← Entries.hasKey_congr h, List.forall₂_map_left_iff,
    List.forall₂_map_right_iff, List.forall₂_same]
  intro entry _
  split
  · next hkey => exact .inr ⟨Entries.hasKey_iff.1 hkey, .inl rfl, hvalue⟩
  · exact .inl rfl

end Entry

/-! ## Writing an attribute -/

section Attribute

variable {sub other : AttrName}

/-- A new record of one sub-attribute. -/
theorem single_recased (value : Value) :
    Recased [(sub.text, other.text)] [(sub.text, value)] [(other.text, value)] :=
  .cons (.inr ⟨rfl, .inr ⟨rfl, rfl⟩, .refl Eq value⟩) .nil

theorem setSubOf_recased (h : sub.folded = other.folded) (value item : Value) :
    RecasedItem (Recased [(sub.text, other.text)]) (setSubOf sub value item) (setSubOf other value item) := by
  cases item with
  | record entries => exact .inr ⟨_, _, rfl, rfl, insert_recased entries h (.refl Eq value)⟩
  | missing => exact .inr ⟨_, _, rfl, rfl, single_recased value⟩
  | null => exact .inr ⟨_, _, rfl, rfl, single_recased value⟩
  | _ => exact .inl rfl

theorem distribute_recased (h : sub.folded = other.folded) (items values : List Value) :
    List.Forall₂ (RecasedItem (Recased [(sub.text, other.text)])) (distribute sub items values)
      (distribute other items values) := by
  induction items generalizing values with
  | nil =>
    cases values with
    | nil => exact .nil
    | cons value values =>
      simp only [distribute, List.forall₂_map_left_iff, List.forall₂_map_right_iff, List.forall₂_same]
      intro value _
      split
      · exact .inl rfl
      · exact .inr ⟨_, _, rfl, rfl, single_recased value⟩
  | cons item items ih =>
    cases values with
    | nil => exact List.forall₂_same.2 fun _ _ => .inl rfl
    | cons value values =>
      refine .cons ?_ (ih values)
      split
      · exact .inl rfl
      · exact setSubOf_recased h value item

end Attribute

/-- Writing an attribute under two spellings of its path is refused under both, or leaves records that differ in
the casing of its names. -/
theorem setAttr_alike (record : Record) {rep other : LocalPath} (h : (rep == other) = true) (value : Value) :
    Alike (Recased (rep.keys.zip other.keys)) (record.setAttr rep value) (record.setAttr other value) := by
  obtain ⟨attr, name, rfl, rfl, hattr⟩ | ⟨attr, name, sub, subName, rfl, rfl, hattr, hsub⟩ :=
    LocalPath.cases_of_beq h
  · exact .done (insert_recased record hattr (.refl Eq value))
  · unfold setAttr
    dsimp only
    rw [Entries.get?_congr record hattr]
    cases record.get? name.text with
    | none => exact .done (insert_recased record hattr (.record (single_recased value)))
    | some parent =>
      cases parent with
      | record entries =>
        exact .done (replace_recased record hattr (.record (insert_recased entries hsub (.refl Eq value))))
      | list items =>
        cases value with
        | list values =>
          exact .done (replace_recased record hattr (.inr ⟨_, _, rfl, rfl, distribute_recased hsub items values⟩))
        | _ => exact .refused _ _
      | _ => exact .refused _ _

/-- Writing below the identifier of an extension is refused under both spellings, or leaves records that differ in
its casing and in what was written there. -/
theorem setWithin_alike (record : Record) {uri other : SchemaUri} (h : uri.folded = other.folded)
    {rep otherRep : LocalPath} {write otherWrite : Record → Except Fault Record} {way : List (String × String)}
    (hwrite : ∀ inner, Alike (Recased way) (write inner) (otherWrite inner)) :
    Alike (Recased ((uri.text, other.text) :: way)) (record.setWithin uri rep write)
      (record.setWithin other otherRep otherWrite) := by
  unfold setWithin
  rw [Entries.get?_congr record h]
  cases record.get? other.text with
  | none => exact (hwrite []).map fun a b hab => insert_recased record h (.record hab)
  | some stored =>
    cases stored with
    | record inner => exact (hwrite inner).map fun a b hab => replace_recased record h (.record hab)
    | _ => exact .refused _ _

/-- Writing under equal paths of one catalog is refused under both, or leaves records that differ in the casing of
the keys of the paths. -/
theorem set_ofPath_alike (record : Record) {p q : Path} (h : (p == q) = true)
    (hextension : p.isExtension = q.isExtension) (value : Value) :
    Alike (Recased (p.keys.zip q.keys)) (record.set (Place.ofPath p) value)
      (record.set (Place.ofPath q) value) := by
  obtain ⟨a, b, rfl, rfl, hrep⟩ | ⟨a, b, rfl, rfl, hschema, hrep⟩ := Path.cases_of_beq h
  · exact setAttr_alike record hrep value
  · have hflag : a.extension = b.extension := hextension
    simp only [Path.keys, Place.ofPath, Place.ofBound, hflag]
    split
    · exact setWithin_alike record hschema fun inner => setAttr_alike inner hrep value
    · exact setAttr_alike record hrep value

end Scim.Record
