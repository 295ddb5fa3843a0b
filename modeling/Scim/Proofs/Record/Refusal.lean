import Scim.Proofs.Record.Reachable

/-!
# Writes that are refused

There are two grounds on which a write is refused.  A sub-attribute cannot be written below a value that is
neither a record nor, for a list, a list; and an attribute of an extension cannot be written where the
identifier of the extension leads to something other than a record.  Both are seen from what the record holds
before the write, so they are stated without the write, as a relation with one rule for each ground.

A store puts in what is absent before it finds out whether the write can be made.  It never has to take
anything out again: what it puts in can always be written to, so a refused write has put in nothing, and the
store with all its tables is the one before.

## Main results

* `setAttr_eq_error_iff`, `expandAttr_eq_error_iff`, `setBy_eq_error_iff`: the grounds are those of writing.
* `Store.setAttr_kept`, `Store.expandAttr_kept`, `Store.setBy_kept`: a refused write leaves the store as it is.
* `refused_iff`: both together, for all ways of writing.
-/

namespace Scim

/-- A value below which another one can be written to a sub-attribute. -/
inductive Value.CanHold (value : Value) : Value → Prop
  | record {entries : Record} : CanHold value (.record entries)
  | list {items values : List Value} (same : value = .list values) : CanHold value (.list items)

namespace Record

variable {record : Record} {rep : LocalPath} {value : Value} {fault : Fault}

/-- The ground for refusing a write to an attribute, with the fault that reports it. -/
inductive AttrRefused (record : Record) (value : Value) : LocalPath → Fault → Prop
  | parent {attr sub : AttrName} {stored : Value} (found : record.get? attr.text = some stored)
      (cannot : ¬ value.CanHold stored) :
      AttrRefused record value ⟨attr, some sub⟩ (.cannotHold attr.text sub.text)

/-- The grounds for refusing a write at a place, each with the fault that reports it. -/
inductive Refused (record : Record) (value : Value) : Place → Fault → Prop
  | attr {rep : LocalPath} {fault : Fault} (ground : AttrRefused record value rep fault) :
      Refused record value (.attr rep) fault
  | inside {uri : SchemaUri} {rep : LocalPath} {inner : Record} {fault : Fault}
      (found : record.get? uri.text = some (.record inner)) (ground : AttrRefused inner value rep fault) :
      Refused record value (.extension uri rep) fault
  | schema {uri : SchemaUri} {rep : LocalPath} {stored : Value} (found : record.get? uri.text = some stored)
      (noRecord : stored.record? = none) :
      Refused record value (.extension uri rep) (.cannotHold uri.text rep.attr.text)

/-- Every ground is reported as a value that cannot hold what is to be written below it. -/
theorem Refused.fault_eq {place : Place} (h : Refused record value place fault) :
    ∃ target sub, fault = .cannotHold target sub := by
  cases h with
  | attr ground => cases ground with | parent => exact ⟨_, _, rfl⟩
  | inside _ ground => cases ground with | parent => exact ⟨_, _, rfl⟩
  | schema => exact ⟨_, _, rfl⟩

/-! ## Attributes -/

theorem setAttr_eq_error_iff :
    record.setAttr rep value = .error fault ↔ AttrRefused record value rep fault := by
  constructor
  · intro h
    obtain ⟨sub, stored, hsub, hfound, rfl⟩ := setAttr_error h
    obtain ⟨attr, _⟩ := rep
    subst hsub
    refine .parent hfound fun hcan => ?_
    cases hcan with
    | record =>
      simp only [setAttr, hfound] at h
      cases h
    | list hlist =>
      simp only [setAttr, hfound, hlist] at h
      cases h
  · intro h
    cases h with
    | parent found cannot =>
      simp only [setAttr, found]
      split
      · next hnone => cases hnone
      · next hrecord =>
        cases Option.some.inj hrecord
        exact absurd .record cannot
      · next hlist =>
        cases Option.some.inj hlist
        exact absurd (.list rfl) cannot
      · rfl

/-- Expanding a list over a new list of records is an addition to writing, and not refused. -/
theorem expandAttr_eq_error_iff :
    record.expandAttr rep value = .error fault ↔ AttrRefused record value rep fault := by
  rw [← setAttr_eq_error_iff]
  cases hfound : record.get? rep.attr.text with
  | some stored => rw [expandAttr_of_stored rep hfound]
  | none =>
    -- nothing is refused where the parent is absent
    have hset : record.setAttr rep value ≠ .error fault := by
      intro h
      obtain ⟨-, stored, -, hstored, -⟩ := setAttr_error h
      rw [hfound] at hstored
      cases hstored
    have hexpand : record.expandAttr rep value ≠ .error fault := by
      unfold expandAttr
      split
      · exact fun h => nomatch h
      · exact hset
    exact iff_of_false hexpand hset

/-! ## Addresses -/

/-- A write inside an extension is refused on the grounds of the write inside, or because there is no record
to write to; it is not refused where the extension is absent, if no write into an empty record is. -/
theorem setWithin_eq_error_iff {uri : SchemaUri} {write : Record → Except Fault Record}
    (hnew : ∃ next, write [] = .ok next) :
    record.setWithin uri rep write = .error fault ↔
      (∃ inner, record.get? uri.text = some (.record inner) ∧ write inner = .error fault) ∨
        ∃ stored, record.get? uri.text = some stored ∧ stored.record? = none ∧
          fault = .cannotHold uri.text rep.attr.text := by
  cases hfound : record.get? uri.text with
  | none =>
    obtain ⟨next, hnext⟩ := hnew
    simp [setWithin, hfound, hnext, Except.map]
  | some stored =>
    cases stored with
    | record inner =>
      have hmap : record.setWithin uri rep write =
          (write inner).map fun after => record.replace uri.text (.record after) := by
        simp only [setWithin, hfound]
      rw [hmap]
      cases hwrite : write inner <;> simp [Except.map, hwrite, Value.record?]
    | _ => simp [setWithin, hfound, Value.record?, eq_comm]

/-- Whatever way of writing attributes is refused on the grounds given, writing at an address that way is. -/
theorem setBy_eq_error_iff {write : Record → LocalPath → Value → Except Fault Record}
    (hwrite : ∀ (record : Record) (rep : LocalPath) (value : Value) (fault : Fault),
      write record rep value = .error fault ↔ AttrRefused record value rep fault)
    (hnew : ∀ (rep : LocalPath) (value : Value), ∃ next, write [] rep value = .ok next)
    (record : Record) (key : Key) (value : Value) (fault : Fault) :
    record.setBy write key value = .error fault ↔ Refused record value (record.resolve key) fault := by
  unfold setBy
  cases record.resolve key with
  | entry text => exact iff_of_false (fun h => nomatch h) (fun h => nomatch h)
  | schema uri => exact iff_of_false (fun h => nomatch h) (fun h => nomatch h)
  | attr rep =>
    have hattr := hwrite record rep value fault
    refine ⟨fun h => .attr (hattr.1 h), fun h => ?_⟩
    cases h with
    | attr ground => exact hattr.2 ground
  | extension uri rep =>
    rw [setWithin_eq_error_iff (hnew rep value)]
    constructor
    · rintro (⟨inner, hfound, hinside⟩ | ⟨stored, hfound, hrecord, rfl⟩)
      · exact .inside hfound ((hwrite inner rep value fault).1 hinside)
      · exact .schema hfound hrecord
    · intro h
      cases h with
      | inside found ground => exact .inl ⟨_, found, (hwrite _ rep value fault).2 ground⟩
      | schema found noRecord => exact .inr ⟨_, found, noRecord, rfl⟩

theorem set_eq_error_iff (record : Record) (key : Key) (value : Value) (fault : Fault) :
    record.set key value = .error fault ↔ Refused record value (record.resolve key) fault :=
  setBy_eq_error_iff (fun _ _ _ _ => setAttr_eq_error_iff) setAttr_nil record key value fault

theorem expand_eq_error_iff (record : Record) (key : Key) (value : Value) (fault : Fault) :
    record.expand key value = .error fault ↔ Refused record value (record.resolve key) fault :=
  setBy_eq_error_iff (fun _ _ _ _ => expandAttr_eq_error_iff) expandAttr_nil record key value fault

end Record

/-! ## What a refused write leaves of a store -/

/-- Putting a value in its own place changes neither the entries nor the table. -/
theorem Indexed.Exact.replace_get? {α : Type} {store : Indexed α} (h : store.Exact) {key : String} {value : α}
    (hget : store.get? key = some value) : store.replace key value = store := by
  cases hpos : store.position? key with
  | none => rw [Indexed.replace, hpos]
  | some i =>
    obtain ⟨⟨stored, found⟩, hentry, -⟩ := h.position?_eq_some_iff.1 hpos
    have hvalue : found = value := by simpa [Indexed.get?, hpos, hentry] using hget
    have hsame : store.entries.modify i (fun entry => (entry.1, value)) = store.entries := by
      apply List.ext_getElem?
      intro j
      rw [List.getElem?_modify]
      by_cases hj : i = j
      · subst hj
        rw [hentry, hvalue]
        simp
      · cases store.entries[j]? <;> simp [hj]
    rw [Indexed.replace, hpos]
    show { store with entries := _ } = store
    rw [hsame]

namespace Store

variable {store : Store} {rep : LocalPath} {cell : Cell} {fault : Fault}

/-- A refused write to an attribute leaves the store as it is: a parent that is put in is never refused. -/
theorem setAttr_kept (h : store.Sound) (hrefused : (store.setAttr rep cell).2 = some fault) :
    (store.setAttr rep cell).1 = store := by
  obtain ⟨attr, _ | sub⟩ := rep
  · cases hrefused
  cases hget : store.get? attr.text with
  | none =>
    simp only [setAttr, orInsert_of_none h hget, get?_insert_self h] at hrefused
    cases hrefused
  | some parent =>
    simp only [setAttr, orInsert_of_some h hget, hget] at hrefused ⊢
    split at hrefused
    · cases hrefused
    · cases hrefused
    · rfl

/-- So does one that expands a list. -/
theorem expandAttr_kept (h : store.Sound) (hrefused : (store.expandAttr rep cell).2 = some fault) :
    (store.expandAttr rep cell).1 = store := by
  obtain ⟨attr, _ | sub⟩ := rep
  · cases hrefused
  rcases cell.list_or_not with ⟨values, rfl⟩ | ⟨hcell, -⟩
  · cases hget : store.get? attr.text with
    | none =>
      simp only [expandAttr, orInsert_of_none h hget, get?_insert_self h] at hrefused
      cases hrefused
    | some parent =>
      simp only [expandAttr, orInsert_of_some h hget, hget] at hrefused ⊢
      split at hrefused
      · cases hrefused
      · cases hrefused
      · rfl
  · rw [expandAttr_of_not_list hcell] at hrefused ⊢
    exact setAttr_kept h hrefused

/-- A write inside an extension that is refused leaves the store as it is, if the write inside does; an empty
record that was put in for the extension is never refused. -/
theorem setWithin_kept (h : store.Sound) (uri : SchemaUri) (rep : LocalPath) {write : Store → Outcome}
    (hkept : ∀ inner : Store, inner.Sound → ∀ fault, (write inner).2 = some fault → (write inner).1 = inner)
    (hnew : (write .empty).2 = none) (hrefused : (store.setWithin uri rep write).2 = some fault) :
    (store.setWithin uri rep write).1 = store := by
  cases hget : store.get? uri.text with
  | none =>
    simp only [setWithin, orInsert_of_none h hget, get?_insert_self h, hnew] at hrefused
    cases hrefused
  | some parent =>
    cases parent with
    | record inner =>
      simp only [setWithin, orInsert_of_some h hget, hget] at hrefused ⊢
      have hinside : (write inner).1 = inner := hkept inner (h.of_get? hget) fault hrefused
      rw [hinside]
      exact h.exact.replace_get? hget
    | _ => simp only [setWithin, orInsert_of_some h hget, hget]

/-- What agrees with a write is refused for the same faults. -/
theorem Agrees.fault_iff {before : Record} {outcome : Outcome} {expected : Except Fault Record}
    (h : Agrees before outcome expected) : outcome.2 = some fault ↔ expected = .error fault := by
  cases h with
  | written => exact iff_of_false (fun h => nomatch h) (fun h => nomatch h)
  | refused => exact ⟨fun h => congrArg _ (Option.some.inj h), fun h => congrArg _ (Except.error.inj h)⟩

/-- What agrees with a write that is made is not refused. -/
theorem Agrees.fault_eq_none {before next : Record} {outcome : Outcome} (h : Agrees before outcome (.ok next)) :
    outcome.2 = none := by
  cases h
  rfl

/-- Whatever way of writing attributes leaves a store as it is when it is refused, so does writing at an
address that way. -/
theorem setBy_kept (writing : Writing)
    (hkept : ∀ {store : Store} {rep : LocalPath} {cell : Cell} {fault : Fault}, store.Sound →
      (writing.write store rep cell).2 = some fault → (writing.write store rep cell).1 = store)
    (h : store.Sound) (key : Key) (hcell : cell.Sound)
    (hrefused : (store.setBy writing.write key cell).2 = some fault) :
    (store.setBy writing.write key cell).1 = store := by
  unfold setBy at hrefused ⊢
  cases hplace : store.resolve key with
  | entry text =>
    rw [hplace] at hrefused
    cases hrefused
  | schema uri =>
    rw [hplace] at hrefused
    cases hrefused
  | attr rep =>
    rw [hplace] at hrefused
    exact hkept h hrefused
  | extension uri rep =>
    rw [hplace] at hrefused
    have hnew : (writing.write .empty rep cell).2 = none := by
      obtain ⟨next, hnext⟩ := writing.into_nil rep cell.plain
      have hagrees := writing.agrees sound_empty rep hcell
      cases hfault : (writing.write .empty rep cell).2 with
      | none => rfl
      | some fault =>
        have herror := hagrees.fault_iff.1 hfault
        have hok : writing.plainWrite (plain .empty) rep cell.plain = .ok next := hnext
        rw [hok] at herror
        cases herror
    exact setWithin_kept h uri rep (fun inner hinner fault => hkept hinner) hnew hrefused

theorem set_kept (h : store.Sound) (key : Key) (hcell : cell.Sound)
    (hrefused : (store.set key cell).2 = some fault) : (store.set key cell).1 = store :=
  setBy_kept ⟨setAttr, Record.setAttr, setAttr_agrees, Record.setAttr_nil⟩ setAttr_kept h key hcell hrefused

theorem expand_kept (h : store.Sound) (key : Key) (hcell : cell.Sound)
    (hrefused : (store.expand key cell).2 = some fault) : (store.expand key cell).1 = store :=
  setBy_kept ⟨expandAttr, Record.expandAttr, expandAttr_agrees, Record.expandAttr_nil⟩ expandAttr_kept h key
    hcell hrefused

end Store

/-! ## All ways of writing -/

namespace Record

/-- Writing and expanding are refused exactly on the grounds given, in view of what the address means, and so
is writing where a text leads in view of a catalog, once it leads somewhere.  The fault is always one of a
value that cannot hold what is to be written below it.  A store with tables is refused the same writes for the
same faults, and then it is left exactly as it was, tables and all. -/
theorem refused_iff (record : Record) :
    (∀ (key : Key) (value : Value) (fault : Fault),
      (record.set key value = .error fault ↔ Refused record value (record.resolve key) fault) ∧
        (record.expand key value = .error fault ↔ Refused record value (record.resolve key) fault)) ∧
    (∀ (catalog : Catalog) (text : String) (place : Place), Place.parse catalog text = .ok place →
      ∀ (value : Value) (fault : Fault),
        record.setPath catalog text value = .error fault ↔ Refused record value place fault) ∧
    (∀ (value : Value) (place : Place) (fault : Fault), Refused record value place fault →
      ∃ target sub, fault = .cannotHold target sub) ∧
    ∀ store : Store, store.Sound → store.plain = record → ∀ (key : Key) (cell : SoundCell) (fault : Fault),
      ((store.set key cell.1).2 = some fault ↔ Refused record cell.plain (record.resolve key) fault) ∧
      ((store.expand key cell.1).2 = some fault ↔ Refused record cell.plain (record.resolve key) fault) ∧
      ((store.set key cell.1).2 = some fault → (store.set key cell.1).1 = store) ∧
      ((store.expand key cell.1).2 = some fault → (store.expand key cell.1).1 = store) := by
  refine ⟨?addresses, ?paths, fun value place fault h => h.fault_eq, ?stores⟩
  case addresses =>
    intro key value fault
    exact ⟨set_eq_error_iff record key value fault, expand_eq_error_iff record key value fault⟩
  case paths =>
    intro catalog text place hparse value fault
    have hset : record.setPath catalog text value = record.set place value := by
      rw [setPath, hparse]
      rfl
    rw [hset]
    exact set_eq_error_iff record place value fault
  case stores =>
    rintro store hstore rfl key cell fault
    have hset : (store.set key cell.1).2 = some fault ↔ store.plain.set key cell.plain = .error fault :=
      (Store.set_agrees hstore key cell.2).fault_iff
    have hexpand : (store.expand key cell.1).2 = some fault ↔ store.plain.expand key cell.plain = .error fault :=
      (Store.expand_agrees hstore key cell.2).fault_iff
    exact ⟨hset.trans (set_eq_error_iff _ key _ fault), hexpand.trans (expand_eq_error_iff _ key _ fault),
      Store.set_kept hstore key cell.2, Store.expand_kept hstore key cell.2⟩

/-- The given name below a name that is a text, in the data of an extension: the text leads there both in view
of the record and of a catalog, and every way of writing is refused and leaves the store as it was. -/
theorem refused_iff_below_text :
    ∃ (store : Store) (catalog : Catalog), store.Sound ∧
      store.plain = [("urn:example:Staff", .record [("name", .text "Ada")])] ∧
      store.plain.set (.path "urn:example:Staff:name.givenName") (.text "Eva") =
        .error (.cannotHold "name" "givenName") ∧
      store.plain.setPath catalog "urn:example:Staff:name.givenName" (.text "Eva") =
        .error (.cannotHold "name" "givenName") ∧
      (store.set (.path "urn:example:Staff:name.givenName") (.text "Eva")).2 =
        some (.cannotHold "name" "givenName") ∧
      (store.set (.path "urn:example:Staff:name.givenName") (.text "Eva")).1 = store := by
  let staff : SchemaUri := ⟨"urn:example:Staff", by decide⟩
  let rep : LocalPath := ⟨⟨"name", by decide⟩, some ⟨"givenName", by decide⟩⟩
  obtain ⟨hsound, hplain⟩ := Store.ofMembers_agrees
    [("urn:example:Staff", .object [("name", .text "Ada")])] Store.sound_empty
  have hrecord : Store.plain (Store.ofMembers .empty
      [("urn:example:Staff", .object [("name", .text "Ada")])]) =
        [("urn:example:Staff", .record [("name", .text "Ada")])] := hplain
  have hresolve : resolve [("urn:example:Staff", .record [("name", .text "Ada")])]
      (.path "urn:example:Staff:name.givenName") = .extension staff rep := by rfl
  have hparse : Place.parse { schemas := [⟨⟨"urn:example:Staff", by decide⟩, true⟩] }
      "urn:example:Staff:name.givenName" = .ok (.extension staff rep) := by rfl
  have hinner : Entries.get? [("urn:example:Staff", Value.record [("name", .text "Ada")])]
      "urn:example:Staff" = some (.record [("name", .text "Ada")]) := by rfl
  have hname : Entries.get? [("name", Value.text "Ada")] "name" = some (.text "Ada") := by rfl
  have hground : Refused [("urn:example:Staff", .record [("name", .text "Ada")])] (.text "Eva")
      (.extension staff rep) (.cannotHold "name" "givenName") :=
    .inside hinner (.parent hname fun hcan => nomatch hcan)
  obtain ⟨haddress, hpath, -, hstore⟩ := refused_iff [("urn:example:Staff", .record [("name", .text "Ada")])]
  have hset := (haddress (.path "urn:example:Staff:name.givenName") (.text "Eva")
    (.cannotHold "name" "givenName")).1
  obtain ⟨hfault, -, hkept, -⟩ := hstore _ hsound hrecord (.path "urn:example:Staff:name.givenName")
    ⟨.text "Eva", trivial⟩ (.cannotHold "name" "givenName")
  rw [hresolve] at hset hfault
  have hrefused := hfault.2 hground
  refine ⟨_, { schemas := [⟨⟨"urn:example:Staff", by decide⟩, true⟩] }, hsound, hrecord, ?_, ?_, hrefused,
    hkept hrefused⟩
  · rw [hrecord]
    exact hset.2 hground
  · rw [hrecord]
    exact (hpath _ _ _ hparse _ _).2 hground

end Record

end Scim
