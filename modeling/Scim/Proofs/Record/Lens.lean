import Scim.Proofs.Path
import Scim.Proofs.Record.StoreRemoval
import Scim.Proofs.Record.Writing

/-!
# Reading what was written

What is written at an address is read back from there, the first of two writes leaves no trace, and what is
taken out is what was read; afterwards nothing is read.  These laws hold of every record and every address,
with the one exception that a list hands a written value out to its elements.

For a place they follow from the ways of writing.  A path in writing is read anew in view of what the record
holds each time it is used, so a write could change what the next use of the same text means.  It does in one
case: the name of an attribute that the record does not hold yet is a key of the record from the first write
on, and it is the entry that the attribute was written to.

## Main results

* `resolve_set`: what a text means after a write at it.
* `get_set`, `set_set`, `get_drop`: the laws one by one.
* `lens_laws`: all of them, for keys, for paths of a catalog and for records with tables of positions.
-/

namespace Scim.Record

open Text

variable {record next : Record} {key : Key} {place : Place} {value : Value}

/-- The list below which an address leads to a sub-attribute. -/
def listAbove? (record : Record) (key : Key) : Option (List Value) :=
  match record.resolve key with
  | .attr rep => record.listOver? rep
  | .extension uri rep =>
    match record.get? uri.text with
    | some (.record inner) => listOver? inner rep
    | _ => none
  | _ => none

/-! ## What a text means -/

/-- A text leads somewhere if it is no key of the record and can be read as a path; if the path is qualified,
the record has to hold a record for its schema. -/
theorem resolve?_eq_some_iff {text : String} {parts : Option SchemaUri × LocalPath} :
    record.resolve? text = some parts ↔
      record.get? text = none ∧ Path.split? text = some parts ∧
        ∀ uri, parts.1 = some uri → ∃ inner : Record, record.get? uri.text = some (.record inner) := by
  rw [resolve?]
  cases record.get? text with
  | some stored => simp
  | none =>
    cases Path.split? text with
    | none => simp
    | some found =>
      obtain ⟨_ | uri, rep⟩ := found
      · constructor
        · intro h
          cases Option.some.inj h
          refine ⟨rfl, rfl, ?_⟩
          rintro uri ⟨⟩
        · rintro ⟨-, h, -⟩
          exact h
      · constructor
        · intro h
          dsimp only at h
          split at h
          · next inner hinner =>
            cases Option.some.inj h
            exact ⟨rfl, rfl, fun _ hsame => ⟨inner, Option.some.inj hsame ▸ hinner⟩⟩
          · cases h
        · rintro ⟨-, h, huri⟩
          cases Option.some.inj h
          obtain ⟨inner, hinner⟩ := huri uri rfl
          dsimp only
          rw [hinner]

/-- A text that leads to a sub-attribute leads there still when the sub-attribute was written, or its parent:
the parent may be a new key of the record, but the text is longer. -/
theorem resolve?_of_attrWritten {text : String} {attr sub : AttrName} {written : Option AttrName}
    (hparts : record.resolve? text = some (none, ⟨attr, some sub⟩))
    (h : AttrWritten record value ⟨attr, written⟩ next) :
    next.resolve? text = some (none, ⟨attr, some sub⟩) := by
  obtain ⟨htext, hsplit, -⟩ := resolve?_eq_some_iff.1 hparts
  have hspelled : LocalPath.text ⟨attr, some sub⟩ = text := Path.text_of_split? hsplit
  have hsub : (LocalPath.mk attr (some sub)).sub = some sub := rfl
  have hlonger := LocalPath.lower_attr_ne hsub
  rw [hspelled] at hlonger
  refine resolve?_eq_some_iff.2 ⟨h.get?_eq_none htext hlonger, hsplit, ?_⟩
  rintro uri ⟨⟩

/-- A text that leads into the record of an extension leads there still after a write inside that record. -/
theorem resolve?_of_within {text : String} {uri : SchemaUri} {rep : LocalPath} {before after : Record}
    (hparts : record.resolve? text = some (some uri, rep)) (h : Within record uri before after next) :
    next.resolve? text = some (some uri, rep) := by
  obtain ⟨htext, hsplit, huri⟩ := resolve?_eq_some_iff.1 hparts
  have hafter := h.get?_eq
  have hnext : next.get? text = none := by
    cases h with
    | created absent =>
      obtain ⟨inner, hinner⟩ := huri uri rfl
      rw [absent] at hinner
      cases hinner
    | present => exact get?_replace_eq_none htext _
  exact resolve?_eq_some_iff.2
    ⟨hnext, hsplit, fun _ hsame => ⟨after, Option.some.inj hsame ▸ hafter⟩⟩

/-- A write at an address does not change what the address means, except that the name of an attribute
becomes the key that it was written under. -/
theorem resolve_set (h : record.set key value = .ok next) :
    next.resolve key = record.resolve key ∨
      ∃ attr, record.resolve key = .attr ⟨attr, none⟩ ∧ next.resolve key = .entry attr.text := by
  cases key with
  | place place => exact .inl rfl
  | path text =>
    cases hparts : record.resolve? text with
    | none =>
      have hplace : record.resolve (.path text) = .entry text := by simp only [resolve, hparts]
      rw [set, setBy, hplace] at h
      cases Except.ok.inj h
      rw [hplace]
      exact .inl (resolve_of_stored (get?_insert_self record text value))
    | some parts =>
      rw [set, setBy, resolve_of_resolve? hparts] at h
      rw [resolve_of_resolve? hparts]
      obtain ⟨_ | uri, ⟨attr, _ | sub⟩⟩ := parts
      · obtain ⟨-, hsplit, -⟩ := resolve?_eq_some_iff.1 hparts
        have hname : attr.text = text := Path.text_of_split? hsplit
        cases Except.ok.inj h
        refine .inr ⟨attr, rfl, ?_⟩
        rw [hname]
        exact resolve_of_stored (get?_insert_self record text value)
      · exact .inl (resolve_of_resolve? (resolve?_of_attrWritten hparts (setAttr_eq_ok_iff.1 h)))
      all_goals
        obtain ⟨before, after, -, hwithin⟩ := setWithin_eq_ok_iff.1 h
        exact .inl (resolve_of_resolve? (resolve?_of_within hparts hwithin))

/-- The value of an attribute is the one under its name. -/
theorem get_entry_name (record : Record) (attr : AttrName) :
    record.get (.place (.entry attr.text)) = record.get (.place (.attr ⟨attr, none⟩)) := by
  show record.value attr.text = record.getAttr ⟨attr, none⟩
  rw [getAttr_name]

/-! ## The laws at a place -/

/-- A write to an attribute of an extension is one to the record of the extension, which the list that stands
above the place belongs to. -/
theorem set_extension {uri : SchemaUri} {rep : LocalPath}
    (h : record.set (.place (.extension uri rep)) value = .ok next) :
    ∃ before after, AttrWritten before value rep after ∧ Within record uri before after next ∧
      record.listAbove? (.place (.extension uri rep)) = listOver? before rep := by
  rw [set, setBy, resolve] at h
  obtain ⟨before, after, hwrite, hwithin⟩ := setWithin_eq_ok_iff.1 h
  refine ⟨before, after, setAttr_eq_ok_iff.1 hwrite, hwithin, ?_⟩
  cases hwithin with
  | created absent => simp only [listAbove?, resolve, absent, listOver?_nil]
  | present parent => simp only [listAbove?, resolve, parent]

/-- Where no list stands above, writing at a place and reading there gives the value written. -/
theorem get_set_place (hlist : record.listAbove? place = none) (h : record.set place value = .ok next) :
    next.get place = value := by
  cases place with
  | entry text =>
    cases Except.ok.inj h
    exact value_insert record text value
  | schema uri =>
    cases Except.ok.inj h
    exact value_of_get? (get?_setSchema record uri value)
  | attr rep => exact (setAttr_eq_ok_iff.1 h).getAttr_eq hlist
  | extension uri rep =>
    obtain ⟨before, after, hwritten, hwithin, hover⟩ := set_extension h
    rw [get_extension rep hwithin.get?_eq]
    exact hwritten.getAttr_eq (hover.symm.trans hlist)

/-- Where no list stands above, writing at a place again leaves the record that the last write alone leaves. -/
theorem set_set_place (hlist : record.listAbove? place = none) (h : record.set place value = .ok next)
    (other : Value) : next.set place other = record.set place other := by
  cases place with
  | entry text =>
    cases Except.ok.inj h
    exact congrArg Except.ok (Entries.insert_insert record text value other)
  | schema uri =>
    cases Except.ok.inj h
    exact congrArg Except.ok (setSchema_setSchema record uri value other)
  | attr rep => exact (setAttr_eq_ok_iff.1 h).setAttr_eq hlist other
  | extension uri rep =>
    obtain ⟨before, after, hwritten, hwithin, hover⟩ := set_extension h
    have hagain := hwritten.setAttr_eq (hover.symm.trans hlist) other
    exact hwithin.setWithin_eq (setAttr · rep other) (setAttr · rep other) hagain

/-- After a removal at a place nothing is read there, and below a list nothing in any element. -/
theorem get_drop (record : Record) (place : Place) :
    (record.drop place).get place = emptied (record.listAbove? place) := by
  cases place with
  | entry text => exact value_erase record text
  | schema uri => exact value_erase record uri.text
  | attr rep => exact getAttr_dropAttr record rep
  | extension uri rep =>
    cases hparent : record.get? uri.text with
    | none => simp only [drop, get, listAbove?, resolve, hparent, emptied]
    | some parent =>
      cases parent with
      | record inner =>
        simp only [drop, get, listAbove?, resolve, hparent, get?_replace_self hparent]
        exact getAttr_dropAttr inner rep
      | _ => simp only [drop, get, listAbove?, resolve, hparent, emptied]

/-! ## The laws at an address -/

theorem get_set (hlist : record.listAbove? key = none) (h : record.set key value = .ok next) :
    next.get key = value := by
  have hplace : next.get (record.resolve key) = value := get_set_place hlist h
  rcases resolve_set h with hsame | ⟨attr, hbefore, hafter⟩
  · rw [← hsame] at hplace
    exact hplace
  · rw [hbefore, ← get_entry_name, ← hafter] at hplace
    exact hplace

theorem set_set (hlist : record.listAbove? key = none) (h : record.set key value = .ok next)
    (other : Value) : next.set key other = record.set key other := by
  have hplace : next.set (record.resolve key) other = record.set key other := set_set_place hlist h other
  rcases resolve_set h with hsame | ⟨attr, hbefore, hafter⟩
  · rw [← hsame] at hplace
    exact hplace
  · -- the name is now the key of the entry, which is written alike
    rw [hbefore] at hplace
    rw [← hplace, set, setBy, hafter]
    rfl

/-- Reading, writing and taking out obey the laws at every address of every record: where no list stands above,
what was written is read back and the first of two writes leaves no trace; what is taken out, in one walk
through a record with tables of positions, is what was read before; and after that nothing is read at a place,
below a list nothing in any element.  The same holds of every path that is accepted in view of a catalog. -/
theorem lens_laws (record : Record) :
    (∀ key : Key, record.listAbove? key = none → ∀ value next, record.set key value = .ok next →
      next.get key = value ∧ ∀ other, next.set key other = record.set key other) ∧
    (∀ key : Key, (record.pop key).1 = record.get key ∧
      ∀ store : Store, store.Sound → store.plain = record →
        (store.take key).1.plain = record.get key ∧
          (store.take key).2.Sound ∧ (store.take key).2.plain = (record.pop key).2) ∧
    (∀ place : Place, (record.pop place).2.get place = emptied (record.listAbove? place)) ∧
    ∀ (catalog : Catalog) (text : String) (place : Place), Place.parse catalog text = .ok place →
      (record.listAbove? place = none → ∀ value next, record.setPath catalog text value = .ok next →
        next.getPath catalog text = .ok value ∧
          ∀ other, next.setPath catalog text other = record.setPath catalog text other) ∧
      ∃ value next, record.getPath catalog text = .ok value ∧
        record.popPath catalog text = .ok (value, next) ∧
          next.getPath catalog text = .ok (emptied (record.listAbove? place)) := by
  refine ⟨?keys, ?taken, fun place => get_drop record place, ?paths⟩
  case keys => exact fun key hlist value next h => ⟨get_set hlist h, set_set hlist h⟩
  case taken =>
    rintro key
    refine ⟨rfl, ?_⟩
    rintro store hstore rfl
    obtain ⟨hpair, hsound⟩ := Store.take_agrees hstore key
    exact ⟨congrArg Prod.fst hpair, hsound, congrArg Prod.snd hpair⟩
  case paths =>
    intro catalog text place hparse
    simp only [getPath, setPath, popPath, hparse, Except.map, Except.bind]
    refine ⟨fun hlist value next h => ⟨congrArg Except.ok (get_set hlist h), set_set hlist h⟩, ?_⟩
    exact ⟨_, _, rfl, rfl, congrArg Except.ok (get_drop record place)⟩

/-- A name written for the first time into the data of an extension, by a path in writing: the text means the
same place before and after, although both the parent and the key below it are new. -/
theorem lens_laws_of_new_parent :
    ∃ next,
      listAbove? [("urn:example:Staff", .record [])] (.path "urn:example:Staff:name.givenName") = none ∧
      Record.set [("urn:example:Staff", .record [])] (.path "urn:example:Staff:name.givenName")
        (.text "Ada") = .ok next ∧
      next.get (.path "urn:example:Staff:name.givenName") = .text "Ada" ∧
      next.set (.path "urn:example:Staff:name.givenName") (.text "Eva") =
        Record.set [("urn:example:Staff", .record [])] (.path "urn:example:Staff:name.givenName")
          (.text "Eva") := by
  have hlist : listAbove? [("urn:example:Staff", .record [])] (.path "urn:example:Staff:name.givenName") =
      none := by rfl
  have hset : Record.set [("urn:example:Staff", .record [])] (.path "urn:example:Staff:name.givenName")
      (.text "Ada") =
      .ok [("urn:example:Staff", .record [("name", .record [("givenName", .text "Ada")])])] := by rfl
  obtain ⟨hget, hagain⟩ := (lens_laws _).1 _ hlist _ _ hset
  exact ⟨_, hlist, hset, hget, hagain _⟩

end Scim.Record
