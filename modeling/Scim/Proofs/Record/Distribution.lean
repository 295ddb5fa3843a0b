import Mathlib.Data.List.DropRight
import Scim.Proofs.Record.Expansion
import Scim.Proofs.Record.Frame

/-!
# Writing a list below a list

A list that is written to a sub-attribute of a list is handed out: each value goes to the element at its own index.
A value that is missing is a hole and writes nothing.  What is left of the values when the elements run out makes
new elements, but only up to the last value that is there, and a hole among these leaves an empty record behind.

So the list becomes as long as it was, or as long as the values without the holes at their end, if that is more.
Of each element nothing but the sub-attribute is touched, and where an element cannot hold a sub-attribute its value
is lost.  Reading the sub-attribute back shows which values arrived.

The elements can also be written one after the other, in a list that grows as far as each value asks for.  Both ways
give the same list: growing past a hole puts in the empty record that the hole leaves.

## Main results

* `writeEach_eq`: writing the values one by one is handing them out.
* `length_distribute_le_iff`: how long the list becomes.
* `handed_distribute`: what becomes of the element at each index.
* `list_below_list`: the whole statement, for every address below a list.
-/

namespace Scim.Record

open Entries

/-! ## Lists with holes -/

variable {sub : AttrName} {items values : List Value} {item after value : Value}

/-- The values up to the last one that is there are at most so many if nothing is there from then on. -/
theorem length_rdropWhile_le_iff {n : Nat} :
    (values.rdropWhile Value.isMissing).length ≤ n ↔ ∀ value ∈ values.drop n, value.isMissing = true := by
  induction values using List.reverseRecOn with
  | nil => simp
  | append_singleton values last ih =>
    rw [List.rdropWhile_concat]
    split
    · next hlast =>
      rw [ih, List.drop_append]
      refine ⟨fun h value hvalue => ?_, fun h value hvalue => h value (List.mem_append_left _ hvalue)⟩
      rcases List.mem_append.1 hvalue with hbefore | hrest
      · exact h value hbefore
      · rw [List.mem_singleton.1 (List.mem_of_mem_drop hrest)]
        exact hlast
    · next hlast =>
      refine ⟨fun hlength value hvalue => ?_, fun h => ?_⟩
      · rw [List.drop_of_length_le hlength] at hvalue
        cases hvalue
      · by_contra hlonger
        have hmem : last ∈ (values ++ [last]).drop n := by
          rw [List.length_append, List.length_singleton] at hlonger
          rw [List.drop_append_of_le_length (by omega)]
          exact List.mem_append_right _ (List.mem_singleton.2 rfl)
        exact hlast (h last hmem)

theorem length_distribute_le_iff (sub : AttrName) (items values : List Value) (n : Nat) :
    (distribute sub items values).length ≤ n ↔
      items.length ≤ n ∧ ∀ value ∈ values.drop n, value.isMissing = true := by
  fun_induction distribute sub items values generalizing n with
  | case1 items => simp
  | case2 values =>
    rw [List.length_map]
    exact length_rdropWhile_le_iff.trans (by simp)
  | case3 item items value values ih =>
    cases n with
    | zero => simp
    | succ n => simpa using ih n

/-- Where a value is there, the list has an element for it. -/
theorem lt_length_distribute (sub : AttrName) (items : List Value) {i : Nat} (stored : values[i]? = some value)
    (present : value.isMissing = false) : i < (distribute sub items values).length := by
  by_contra hshort
  have hrest := ((length_distribute_le_iff sub items values _).1 le_rfl).2
  have hmem : value ∈ values.drop (distribute sub items values).length := by
    refine List.mem_iff_getElem?.2 ⟨i - (distribute sub items values).length, ?_⟩
    rw [List.getElem?_drop, Nat.add_sub_cancel' (Nat.le_of_not_lt hshort), stored]
  rw [hrest value hmem] at present
  cases present

/-! ## Elements -/

/-- An element that can hold a sub-attribute: a record, or none at all yet. -/
def CanHold : Option Value → Prop
  | some (.record _) => True
  | some item => item.isAbsent = true
  | none => True

/-- What becomes of the element at an index of a list, if there is one, when a value is written to its sub-attribute,
if there is one to write. -/
inductive Handed (sub : AttrName) : Option Value → Value → Value → Prop
  | kept (item : Value) : Handed sub (some item) .missing item
  | gap : Handed sub none .missing (.record [])
  | inRecord {before after : Record} {value : Value} (present : value.isMissing = false)
      (others : SameBut sub.text before after) (own : after.get? sub.text = some value) :
      Handed sub (some (.record before)) value (.record after)
  | newRecord {item : Option Value} {value : Value} (present : value.isMissing = false)
      (absent : ∀ stored, item = some stored → stored.isAbsent = true) :
      Handed sub item value (.record [(sub.text, value)])
  | lost {item value : Value} (present : value.isMissing = false) (other : ¬ CanHold (some item)) :
      Handed sub (some item) value item

theorem handed_setSubOf (item : Value) (present : value.isMissing = false) :
    Handed sub (some item) value (setSubOf sub value item) := by
  have hnew : item.isAbsent = true → Handed sub (some item) value (.record [(sub.text, value)]) :=
    fun habsent => .newRecord present (by rintro _ ⟨⟩; exact habsent)
  cases item with
  | record entries => exact .inRecord present (sameBut_insert entries sub.text value) (get?_insert_self _ _ _)
  | missing => exact hnew rfl
  | null => exact hnew rfl
  | _ => exact .lost present (by simp [CanHold, Value.isAbsent])

/-- Each value goes to the element at its own index. -/
theorem handed_distribute (sub : AttrName) (items values : List Value) {i : Nat}
    (h : (distribute sub items values)[i]? = some after) :
    Handed sub items[i]? (values[i]?.getD .missing) after := by
  fun_induction distribute sub items values generalizing i with
  | case1 items =>
    rw [h]
    exact .kept after
  | case2 values =>
    rw [List.getElem?_map, Option.map_eq_some_iff] at h
    obtain ⟨value, hvalue, rfl⟩ := h
    change (values.rdropWhile Value.isMissing)[i]? = some value at hvalue
    obtain ⟨rest, hsplit⟩ := List.rdropWhile_prefix Value.isMissing (l := values)
    have hstored : values[i]? = some value := by
      rw [← hsplit, List.getElem?_append_left (List.getElem?_eq_some_iff.1 hvalue).1]
      exact hvalue
    rw [hstored, Option.getD_some]
    split
    · next hmissing =>
      rw [Value.eq_missing hmissing]
      exact .gap
    · next hpresent => exact .newRecord (Bool.eq_false_iff.2 hpresent) (by rintro _ ⟨⟩)
  | case3 item items value values ih =>
    cases i with
    | zero =>
      cases Option.some.inj h
      cases hmissing : value.isMissing with
      | true =>
        rw [Value.eq_missing hmissing]
        exact .kept item
      | false => exact handed_setSubOf item hmissing
    | succ i => exact ih h

/-- What is read of an element afterwards: the value that was written if it could be, and else what was read
before. -/
theorem Handed.subOf_eq {item : Option Value} (h : Handed sub item value after) :
    (value.isMissing = false → CanHold item → subOf sub after = value) ∧
      (value.isMissing = true ∨ ¬ CanHold item → subOf sub after = (item.map (subOf sub)).getD .missing) := by
  cases h with
  | kept => exact ⟨nofun, fun _ => rfl⟩
  | gap => exact ⟨nofun, fun _ => rfl⟩
  | inRecord present others own =>
    refine ⟨fun _ _ => value_of_get? own, ?_⟩
    rintro (hmissing | hcannot)
    · rw [present] at hmissing
      cases hmissing
    · exact absurd trivial hcannot
  | @newRecord item value present absent =>
    refine ⟨fun _ _ => value_of_get? (by simp [Entries.get?_cons]), ?_⟩
    rintro (hmissing | hcannot)
    · rw [present] at hmissing
      cases hmissing
    · refine absurd ?_ hcannot
      cases item with
      | none => trivial
      | some item => cases item <;> first | trivial | exact absent _ rfl
  | lost present other =>
    exact ⟨fun _ hcan => absurd hcan other, fun _ => rfl⟩

/-! ## One value after the other -/

/-- Writes a value to the element at an index, up to which the list is filled with empty records. -/
def writeOne (sub : AttrName) (items : List Value) (i : Nat) (value : Value) : List Value :=
  if value.isMissing then items
  else (items ++ List.replicate (i + 1 - items.length) (Value.record [])).modify i (setSubOf sub value)

/-- Writes values one after the other, the first of them at an index that is given. -/
def writeEach (sub : AttrName) (items : List Value) (start : Nat) : List Value → List Value
  | [] => items
  | value :: values => writeEach sub (writeOne sub items start value) (start + 1) values

/-- An element before the index stays where it is. -/
theorem writeOne_cons (sub : AttrName) (item : Value) (items : List Value) (i : Nat) (value : Value) :
    writeOne sub (item :: items) (i + 1) value = item :: writeOne sub items i value := by
  unfold writeOne
  split
  · rfl
  · rw [List.length_cons, Nat.add_sub_add_right, List.cons_append, List.modify_succ_cons]

theorem writeEach_cons (sub : AttrName) (item : Value) (items : List Value) (start : Nat) (values : List Value) :
    writeEach sub (item :: items) (start + 1) values = item :: writeEach sub items start values := by
  induction values generalizing items start with
  | nil => rfl
  | cons value values ih => rw [writeEach, writeEach, writeOne_cons, ih]

/-- In a list without elements a hole in front is filled as soon as a value comes after it. -/
theorem writeEach_nil_succ (sub : AttrName) (start : Nat) (values : List Value) :
    writeEach sub [] (start + 1) values =
      if values.all Value.isMissing then [] else .record [] :: writeEach sub [] start values := by
  induction values generalizing start with
  | nil => rfl
  | cons value values ih =>
    rw [writeEach, writeEach]
    cases hmissing : value.isMissing with
    | true =>
      have hsame : ∀ i, writeOne sub [] i value = [] := fun i => by rw [writeOne, hmissing, if_pos rfl]
      rw [hsame, hsame, ih, List.all_cons, hmissing, Bool.true_and]
    | false =>
      have hgrown : writeOne sub [] (start + 1) value = .record [] :: writeOne sub [] start value := by
        simp [writeOne, hmissing, List.replicate_succ]
      rw [hgrown, writeEach_cons, List.all_cons, hmissing, Bool.false_and]
      rfl

theorem rdropWhile_cons {α : Type} (p : α → Bool) (first : α) (rest : List α) :
    (first :: rest).rdropWhile p = if (first :: rest).all p then [] else first :: rest.rdropWhile p := by
  induction rest using List.reverseRecOn with
  | nil => cases hp : p first <;> simp [List.rdropWhile, hp]
  | append_singleton rest last ih =>
    rw [← List.cons_append, List.rdropWhile_concat, List.rdropWhile_concat, ih]
    cases hp : p last <;> simp [hp]

/-- So it is when values are handed out. -/
theorem distribute_nil_cons (sub : AttrName) (value : Value) (values : List Value) :
    distribute sub [] (value :: values) =
      if (value :: values).all Value.isMissing then []
      else (if value.isMissing then .record [] else .record [(sub.text, value)]) :: distribute sub [] values := by
  have hnil : ∀ values, distribute sub [] values = (values.rdropWhile Value.isMissing).map fun value =>
      if value.isMissing then .record [] else .record [(sub.text, value)] := by
    rintro (_ | _) <;> rfl
  rw [hnil, hnil, rdropWhile_cons]
  split <;> rfl

theorem writeEach_nil (sub : AttrName) (values : List Value) :
    writeEach sub [] 0 values = distribute sub [] values := by
  induction values with
  | nil => rfl
  | cons value values ih =>
    rw [writeEach, distribute_nil_cons]
    cases hmissing : value.isMissing with
    | true =>
      rw [writeOne, hmissing, if_pos rfl, writeEach_nil_succ, ih, List.all_cons, hmissing, Bool.true_and]
      rfl
    | false =>
      have hfirst : writeOne sub [] 0 value = [.record [(sub.text, value)]] := by
        simp [writeOne, hmissing, setSubOf, Entries.insert, Entries.erase]
      rw [hfirst, writeEach_cons, ih, List.all_cons, hmissing]
      rfl

/-- Writing the values one after the other is handing them out. -/
theorem writeEach_eq (sub : AttrName) (items values : List Value) :
    writeEach sub items 0 values = distribute sub items values := by
  induction items generalizing values with
  | nil => exact writeEach_nil sub values
  | cons item items ih =>
    cases values with
    | nil => rfl
    | cons value values =>
      have hfirst : writeOne sub (item :: items) 0 value =
          (if value.isMissing then item else setSubOf sub value item) :: items := by
        cases hmissing : value.isMissing <;> simp [writeOne, hmissing]
      rw [writeEach, hfirst, writeEach_cons, ih, distribute]

/-! ## What the list becomes -/

/-- The list after values were written to a sub-attribute of its elements. -/
structure Distributed (sub : AttrName) (items values written : List Value) : Prop where
  /-- Holes alone add nothing. -/
  length_of_holes : (∀ value ∈ values, value.isMissing = true) → written.length = items.length
  /-- The list reaches as far as the last value that is there. -/
  length_of_last {last : Nat} {value : Value} (stored : values[last]? = some value)
    (present : value.isMissing = false) (holes : ∀ value ∈ values.drop (last + 1), value.isMissing = true) :
    written.length = max items.length (last + 1)
  element {i : Nat} {after : Value} (stored : written[i]? = some after) :
    Handed sub items[i]? (values[i]?.getD .missing) after

theorem distributed_distribute (sub : AttrName) (items values : List Value) :
    Distributed sub items values (distribute sub items values) where
  length_of_holes := fun holes =>
    le_antisymm
      ((length_distribute_le_iff sub items values _).2
        ⟨le_rfl, fun value hvalue => holes value (List.mem_of_mem_drop hvalue)⟩)
      ((length_distribute_le_iff sub items values _).1 le_rfl).1
  length_of_last := by
    intro last value stored present holes
    have hitems := ((length_distribute_le_iff sub items values _).1 le_rfl).1
    refine le_antisymm ?_ (max_le hitems ?_)
    · refine (length_distribute_le_iff sub items values _).2 ⟨le_max_left _ _, fun value hvalue => ?_⟩
      exact holes value (List.drop_subset_drop_left values (le_max_right _ _) hvalue)
    · exact lt_length_distribute sub items stored present
  element := handed_distribute sub items values

/-- The list that is read below a list after values were written there, by the one that was read before. -/
structure ReadBack (items values before after : List Value) : Prop where
  /-- A value that was written into a record is read at its index. -/
  arrived {i : Nat} {value : Value} (stored : values[i]? = some value) (present : value.isMissing = false)
    (can : CanHold items[i]?) : after[i]? = some value
  /-- At all other indices of the list nothing else is read than before. -/
  stays {i : Nat} (inside : i < after.length)
    (unwritten : (values[i]?.getD .missing).isMissing = true ∨ ¬ CanHold items[i]?) :
    after[i]? = some (before[i]?.getD .missing)

theorem readBack_distribute (sub : AttrName) (items values : List Value) :
    ReadBack items values (items.map (subOf sub)) ((distribute sub items values).map (subOf sub)) where
  arrived := by
    intro i value stored present can
    have hinside := lt_length_distribute sub items stored present
    have hread := (handed_distribute sub items values (List.getElem?_eq_getElem hinside)).subOf_eq.1
    rw [stored, Option.getD_some] at hread
    rw [List.getElem?_map, List.getElem?_eq_getElem hinside, Option.map_some, hread present can]
  stays := by
    intro i inside unwritten
    rw [List.length_map] at inside
    have hread := (handed_distribute sub items values (List.getElem?_eq_getElem inside)).subOf_eq.2 unwritten
    rw [List.getElem?_map, List.getElem?_eq_getElem inside, Option.map_some, hread, List.getElem?_map]

/-! ## Below a list -/

/-- A place of a sub-attribute whose parent is a list. -/
inductive BelowList (record : Record) (sub : AttrName) (items : List Value) : Place → Prop
  | attr {attr : AttrName} (stored : record.get? attr.text = some (.list items)) :
      BelowList record sub items (.attr ⟨attr, some sub⟩)
  | extension {uri : SchemaUri} {attr : AttrName} {inner : Record}
      (found : record.get? uri.text = some (.record inner)) (stored : inner.get? attr.text = some (.list items)) :
      BelowList record sub items (.extension uri ⟨attr, some sub⟩)

section BelowList

variable {record : Record} {key : Key} {place : Place}

/-- What is read below a list is read from its elements. -/
theorem BelowList.get_eq (h : BelowList record sub items (record.resolve key)) :
    record.get key = .list (items.map (subOf sub)) := by
  unfold get
  generalize record.resolve key = place at h
  cases h with
  | attr stored => simp only [getAttr, stored]
  | extension found stored => simp only [found, getAttr, stored]

/-- A list that is written below a list is never refused, and what it leaves is the list that it was handed out
to, in the place of the list before. -/
theorem BelowList.exists_set (h : BelowList record sub items (record.resolve key)) (values : List Value) :
    ∃ next, record.set key (.list values) = .ok next ∧ next.resolve key = record.resolve key ∧
      BelowList next sub (distribute sub items values) (next.resolve key) := by
  have hset : ∃ next, record.set key (.list values) = .ok next ∧
      BelowList next sub (distribute sub items values) (record.resolve key) := by
    unfold set setBy
    generalize record.resolve key = place at h
    cases h with
    | attr stored =>
      exact ⟨_, setAttr_eq_ok_iff.2 (.overList stored rfl), .attr (get?_replace_self stored _)⟩
    | @extension uri attr inner found stored =>
      have hinner : inner.setAttr ⟨attr, some sub⟩ (.list values) = .ok _ :=
        setAttr_eq_ok_iff.2 (.overList stored rfl)
      exact ⟨_, setWithin_eq_ok_iff.2 ⟨_, _, hinner, .present found⟩,
        .extension (get?_replace_self found _) (get?_replace_self stored _)⟩
  obtain ⟨next, hnext, hbelow⟩ := hset
  have hresolve : next.resolve key = record.resolve key := by
    rcases resolve_set hnext with hsame | ⟨attr, hbefore, -⟩
    · exact hsame
    · rw [hbefore] at h
      cases h
  exact ⟨next, hnext, hresolve, hresolve ▸ hbelow⟩

/-- No parent is absent below a list, so a list is expanded there as it is written. -/
theorem BelowList.expand_eq (h : BelowList record sub items (record.resolve key)) (value : Value) :
    record.expand key value = record.set key value := by
  refine expand_eq_set_iff.2 ?_
  rintro ⟨parent, -, horphan⟩
  generalize record.resolve key = place at h horphan
  cases h with
  | attr stored =>
    cases horphan with
    | attr absent => cases stored.symm.trans absent
  | extension found stored =>
    cases horphan with
    | extension hosted absent =>
      cases hosted.unique (.present found)
      cases stored.symm.trans absent

end BelowList

/-- A list that is written to a sub-attribute below a list is handed out to the elements, whatever the record, the
address, the elements and the values.  It is never refused, and expanding does the same.  The list becomes as long
as it was, or as the values up to the last one that is there, if that is more; what becomes of each element is said
by the element and by the value at its own index; and it is as if the values had been written one after the other
into a list that grows.  Reading the sub-attribute gives the values where they could be written, and else what was
read before.  A record with tables of positions is changed in the same way. -/
theorem list_below_list (record : Record) (key : Key) (sub : AttrName) (items values : List Value)
    (h : BelowList record sub items (record.resolve key)) :
    ∃ (next : Record) (written before after : List Value),
      record.set key (.list values) = .ok next ∧ record.expand key (.list values) = .ok next ∧
      next.resolve key = record.resolve key ∧ BelowList next sub written (next.resolve key) ∧
      Distributed sub items values written ∧ written = writeEach sub items 0 values ∧
      record.get key = .list before ∧ next.get key = .list after ∧
      before.length = items.length ∧ after.length = written.length ∧ ReadBack items values before after ∧
      ∀ (store : Store) (cell : Cell), store.Sound → cell.Sound → store.plain = record →
        cell.plain = .list values →
          (store.set key cell).2 = none ∧ (store.set key cell).1.Sound ∧ (store.set key cell).1.plain = next := by
  obtain ⟨next, hset, hresolve, hbelow⟩ := h.exists_set values
  refine ⟨next, distribute sub items values, items.map (subOf sub), (distribute sub items values).map (subOf sub),
    hset, (h.expand_eq _).trans hset, hresolve, hbelow, distributed_distribute sub items values,
    (writeEach_eq sub items values).symm, h.get_eq, hbelow.get_eq, List.length_map _, List.length_map _,
    readBack_distribute sub items values, ?_⟩
  rintro store cell hstore hcell rfl hvalues
  have hagrees := Store.set_agrees hstore key hcell
  rw [hvalues, hset] at hagrees
  exact ⟨hagrees.fault_eq_none, hagrees.after⟩

/-- Addresses of a member of staff: one with a type, none, one that is only a text, and one that was removed. -/
def staffEmails : Record :=
  [("urn:example:Staff", .record [("Emails",
    .list [.record [("type", .text "work"), ("value", .text "old")], .null, .text "plain", .missing])])]

/-- Six values with two holes, written by a path in another casing: the third value is lost, the fourth element
stays missing, an empty record fills the gap, and the hole at the end adds nothing. -/
theorem list_below_list_staffEmails :
    ∃ (next : Record) (written : List Value),
      BelowList staffEmails ⟨"value", by decide⟩
        [.record [("type", .text "work"), ("value", .text "old")], .null, .text "plain", .missing]
        (staffEmails.resolve (.path "urn:example:staff:emails.value")) ∧
      staffEmails.set (.path "urn:example:staff:emails.value")
        (.list [.text "a", .text "b", .text "c", .missing, .missing, .text "f", .missing]) = .ok next ∧
      BelowList next ⟨"value", by decide⟩ written (next.resolve (.path "urn:example:staff:emails.value")) ∧
      written.length = 6 := by
  have hbelow : BelowList staffEmails ⟨"value", by decide⟩
      [.record [("type", .text "work"), ("value", .text "old")], .null, .text "plain", .missing]
      (staffEmails.resolve (.path "urn:example:staff:emails.value")) := by
    have hplace : staffEmails.resolve (.path "urn:example:staff:emails.value") =
        .extension ⟨"urn:example:staff", by decide⟩ ⟨⟨"emails", by decide⟩, some ⟨"value", by decide⟩⟩ := by rfl
    rw [hplace]
    exact @BelowList.extension _ _ _ _ _ [("Emails", _)] (by rfl) (by rfl)
  obtain ⟨next, written, -, -, hset, -, -, hafter, hwritten, -⟩ := list_below_list staffEmails
    (.path "urn:example:staff:emails.value") ⟨"value", by decide⟩ _
    [.text "a", .text "b", .text "c", .missing, .missing, .text "f", .missing] hbelow
  exact ⟨next, written, hbelow, hset, hafter, @hwritten.length_of_last 5 (.text "f") rfl rfl (by decide)⟩

end Scim.Record
