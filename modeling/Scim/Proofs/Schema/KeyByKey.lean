import Mathlib.Data.List.Induction
import Scim.Proofs.Attribute.Settled
import Scim.Proofs.Record.Writing
import Scim.Proofs.Schema.Conversion

/-!
# Converting resources key by key

An own attribute is read and written under its name, and all attributes of an extension under its identifier.  So what
stands under a key of a converted resource depends on nothing but what stood under that key before: it is the converted
value of the own attribute of that name, and the entries of the extension of that identifier are written into it.
Mostly one of the two is not there.  But an extension may go by the name of an own attribute, and then both are, and
the values of the extension stay.

In this view no write can fail, whatever the names are.  If there is anything to be written for an extension, a record
stands under its identifier, and an attribute converts a record to a record.

## Main results

* `Attribute.convert_record`: an attribute converts a record to a record.
* `SchemaAttributes.convertAt`: what the value under a key is converted to.
* `Schema.convert_eq_keyed`: a resource is converted key by key.
-/

namespace Scim

open Text

variable {direction : Direction} {record : Record}

/-! ## Entries written into a record -/

namespace Entries

variable {α : Type}

/-- Entries are overlaid by others: those of the same keys give way, and the others follow. -/
def overlaid (entries more : Entries α) : Entries α :=
  (entries.filter fun entry => !more.any (hasKey entry.1)) ++ more

theorem foldl_insert_eq_overlaid {entries more : Entries α} (h : more.DistinctKeys) :
    more.foldl (fun written entry => written.insert entry.1 entry.2) entries = entries.overlaid more := by
  rw [foldl_insert, latest_eq_self_iff.2 h, overlaid]

theorem any_hasKey_eq (entries : Entries α) (key : String) : entries.any (hasKey key) = (entries.get? key).isSome := by
  rw [get?, Option.isSome_map, List.isSome_find?]

/-- What gives way to other entries is what stands under a key of theirs. -/
theorem get?_filter_unused (entries more : Entries α) (key : String) :
    get? (entries.filter fun entry => !more.any (hasKey entry.1)) key =
      if more.any (hasKey key) then none else entries.get? key := by
  induction entries with
  | nil => simp [get?]
  | cons entry entries ih =>
    rw [List.filter_cons]
    by_cases hhit : lower entry.1 = lower key
    · rw [hasKey_congr hhit]
      cases hused : more.any (hasKey key) with
      | false => simp [get?_cons, hhit]
      | true => simpa [hused] using ih
    · cases more.any (hasKey entry.1) <;> simp [get?_cons, hhit, ih]

theorem get?_overlaid (entries more : Entries α) (key : String) :
    (entries.overlaid more).get? key = (more.get? key).or (entries.get? key) := by
  rw [overlaid, get?_append, get?_filter_unused, any_hasKey_eq]
  cases more.get? key <;> simp

/-- Entries that were overlaid are overlaid by the same again. -/
theorem overlaid_overlaid (entries more : Entries α) : (entries.overlaid more).overlaid more = entries.overlaid more := by
  have hgone : (more.filter fun entry => !more.any (hasKey entry.1)) = [] := by
    refine List.filter_eq_nil_iff.2 fun entry hentry => ?_
    have hused : more.any (hasKey entry.1) = true := any_hasKey_iff.2 ⟨entry, hentry, rfl⟩
    simp [hused]
  rw [overlaid, overlaid, List.filter_append, List.filter_filter, hgone]
  simp

end Entries

namespace Record

/-- The entries of the keys that have a value. -/
def keyed (value : String → Value) (keys : List String) : Record :=
  keys.filterMap fun key => if (value key).isMissing then none else some (key, value key)

variable {value other : String → Value} {keys : List String} {key : String}

theorem keyed_congr (h : ∀ key ∈ keys, value key = other key) : keyed value keys = keyed other keys :=
  List.filterMap_congr fun key hkey => by rw [h key hkey]

theorem keyed_append (value : String → Value) (keys more : List String) :
    keyed value (keys ++ more) = keyed value keys ++ keyed value more :=
  List.filterMap_append

theorem mem_keyed {entry : String × Value} :
    entry ∈ keyed value keys ↔ ∃ key ∈ keys, (value key).isMissing = false ∧ entry = (key, value key) := by
  rw [keyed, List.mem_filterMap]
  refine exists_congr fun key => and_congr_right fun _ => ?_
  cases (value key).isMissing <;> simp [eq_comm]

/-- Keys that are names of attributes have the entries that the attributes become. -/
theorem keyed_names {direction : Direction} {read : Attribute → Value} {attrs : List Attribute}
    (hvalue : ∀ attr ∈ attrs, value attr.name.text = attr.convert direction (read attr))
    (hmissing : ∀ attr ∈ attrs, (attr.convert direction (read attr)).isMissing = (read attr).isMissing) :
    keyed value (attrs.map fun attr => attr.name.text) = convertedEntries direction read attrs := by
  rw [keyed, List.filterMap_map]
  refine List.filterMap_congr fun attr hattr => ?_
  rw [Function.comp_apply, hvalue attr hattr, hmissing attr hattr]

theorem distinctKeys_keyed (h : (keys.map lower).Nodup) : (keyed value keys).DistinctKeys := by
  refine List.pairwise_filterMap.2 ((List.pairwise_map.1 h).imp ?_)
  intro a b hab x hx y hy
  split at hx
  · cases hx
  · split at hy
    · cases hy
    · rw [← Option.some.inj hx, ← Option.some.inj hy]
      exact hab

theorem get?_keyed_eq_none {other : String} (h : ∀ key ∈ keys, lower key ≠ lower other) :
    (keyed value keys).get? other = none := by
  refine Entries.get?_eq_none_iff.2 fun entry hentry => ?_
  obtain ⟨key, hkey, -, rfl⟩ := mem_keyed.1 hentry
  exact h key hkey

/-- Replacing a value is giving its key another one. -/
theorem replace_keyed {other : String} {stored : Value} (hstored : stored.isMissing = false)
    (h : ∀ key ∈ keys, lower key = lower other → (value key).isMissing = false) :
    (keyed value keys).replace other stored =
      keyed (fun key => if lower key = lower other then stored else value key) keys := by
  rw [Entries.replace, keyed, List.map_filterMap]
  refine List.filterMap_congr fun key hkey => ?_
  by_cases hsame : lower key = lower other
  · simp [hsame, hstored, h key hkey hsame, Entries.hasKey]
  · cases hvalue : (value key).isMissing <;> simp [hsame, hvalue, Entries.hasKey]

/-- Under each of the keys stands its value. -/
theorem value_keyed (hkeys : (keys.map lower).Nodup) (hkey : key ∈ keys) :
    Record.value (keyed value keys) key = value key := by
  cases hvalue : (value key).isMissing with
  | false =>
    have hmem : (key, value key) ∈ keyed value keys := mem_keyed.2 ⟨key, hkey, hvalue, rfl⟩
    rw [Record.value, Entries.get?_of_mem (distinctKeys_keyed hkeys) hmem]
    rfl
  | true =>
    have hnone : (keyed value keys).get? key = none := by
      refine Entries.get?_eq_none_iff.2 fun entry hentry hsame => ?_
      obtain ⟨stored, hstored, hthere, rfl⟩ := mem_keyed.1 hentry
      rw [List.inj_on_of_nodup_map hkeys hstored hkey hsame, hvalue] at hthere
      cases hthere
    rw [Record.value, hnone, Value.eq_missing hvalue]
    rfl

end Record

/-! ## What stands under a key -/

/-- The entries that the attributes of an extension become, given the value under its identifier. -/
def AttributeSet.within (set : AttributeSet) (direction : Direction) (value : Value) : Record :=
  convertedEntries direction (fun attr => Record.subOf attr.name value) set.attrs

/-- A value after entries were written into it; a value that is no record gives way to one. -/
def Value.overlaid (value : Value) (entries : Record) : Value :=
  if entries.isEmpty then value else .record (Entries.overlaid (value.record?.getD []) entries)

theorem Value.overlaid_record (entries : Record) {more : Record} (h : more ≠ []) :
    (Value.record entries).overlaid more = .record (Entries.overlaid entries more) := by
  rw [overlaid, if_neg (by rwa [List.isEmpty_iff])]
  rfl

namespace SchemaAttributes

/-- The own attribute whose values are stored under a key. -/
def ownAt? (attrs : SchemaAttributes) (key : String) : Option Attribute :=
  List.find? (fun attr : Attribute => attr.name.folded == lower key) attrs.own.attrs

/-- The extension whose values are stored under a key. -/
def extensionAt? (attrs : SchemaAttributes) (key : String) : Option AttributeSet :=
  attrs.extensions.find? fun set => set.schema.folded == lower key

/-- What the value under a key is converted to as that of an own attribute. -/
def ownValue (attrs : SchemaAttributes) (direction : Direction) (key : String) (value : Value) : Value :=
  match attrs.ownAt? key with
  | some attr => attr.convert direction value
  | none => .missing

/-- The entries that the value under a key gives for the attributes of an extension. -/
def extensionEntries (attrs : SchemaAttributes) (direction : Direction) (key : String) (value : Value) : Record :=
  match attrs.extensionAt? key with
  | some set => set.within direction value
  | none => []

/-- What the value under a key is converted to. -/
def convertAt (attrs : SchemaAttributes) (direction : Direction) (key : String) (value : Value) : Value :=
  (attrs.ownValue direction key value).overlaid (attrs.extensionEntries direction key value)

/-- The keys that values are stored under: the names of the own attributes, and the identifiers of those extensions
that do not go by one of them. -/
def slots (attrs : SchemaAttributes) : List String :=
  (attrs.own.attrs.map fun attr => attr.name.text) ++
    (attrs.extensions.filter fun set => (attrs.ownAt? set.schema.text).isNone).map fun set => set.schema.text

/-- The resource that another one is converted to, key by key. -/
def rebuilt (attrs : SchemaAttributes) (direction : Direction) (record : Record) : Record :=
  .keyed (fun key => attrs.convertAt direction key (record.value key)) attrs.slots

/-- The attributes of a resource type: own ones, and extensions of different identifiers, each with attributes of
different names. -/
structure Layered (attrs : SchemaAttributes) : Prop where
  own : attrs.own.extension = false
  extensions : ∀ set ∈ attrs.extensions, set.extension = true
  names : ∀ set ∈ attrs.sets, set.attrs.DistinctNames
  schemas : (attrs.extensions.map fun set => set.schema.folded).Nodup

variable {attrs : SchemaAttributes}

theorem ownValue_of_none {key : String} (h : attrs.ownAt? key = none) (value : Value) :
    attrs.ownValue direction key value = .missing := by
  rw [ownValue, h]

theorem ownValue_of_some {key : String} {attr : Attribute} (h : attrs.ownAt? key = some attr) (value : Value) :
    attrs.ownValue direction key value = attr.convert direction value := by
  rw [ownValue, h]

theorem ownAt?_eq_none_iff {key : String} :
    attrs.ownAt? key = none ↔ ∀ attr ∈ attrs.own.attrs, attr.name.folded ≠ lower key := by
  simp [ownAt?]

theorem ownAt?_of_mem (h : attrs.Layered) {attr : Attribute} (hattr : attr ∈ attrs.own.attrs) :
    attrs.ownAt? attr.name.text = some attr :=
  (h.names attrs.own List.mem_cons_self).find?_of_mem hattr

/-- Different slots are different up to case. -/
theorem Layered.nodup_slots (h : attrs.Layered) : (attrs.slots.map lower).Nodup := by
  have hown : ((attrs.own.attrs.map fun attr => attr.name.text).map lower).Nodup := by
    rw [List.map_map]
    exact Attributes.distinctNames_iff_nodup.1 (h.names attrs.own List.mem_cons_self)
  have hextensions : (((attrs.extensions.filter fun set => (attrs.ownAt? set.schema.text).isNone).map fun set =>
      set.schema.text).map lower).Nodup := by
    rw [List.map_map]
    exact h.schemas.sublist (List.filter_sublist.map _)
  rw [slots, List.map_append]
  refine List.nodup_append'.2 ⟨hown, hextensions, fun key hname huri => ?_⟩
  simp only [List.mem_map, List.mem_filter] at hname huri
  obtain ⟨_, ⟨attr, hattr, rfl⟩, rfl⟩ := hname
  obtain ⟨_, ⟨set, ⟨-, hnone⟩, rfl⟩, hsame⟩ := huri
  exact ownAt?_eq_none_iff.1 (Option.isNone_iff_eq_none.1 hnone) attr hattr hsame.symm

/-- Nothing is converted to anything under a key that nothing is stored under. -/
theorem convertAt_of_not_mem {key : String} (h : lower key ∉ attrs.slots.map lower) (value : Value) :
    attrs.convertAt direction key value = .missing := by
  rw [slots, List.map_append, List.mem_append, not_or, List.map_map, List.map_map] at h
  have hown : attrs.ownAt? key = none :=
    ownAt?_eq_none_iff.2 fun attr hattr hsame => h.1 (List.mem_map.2 ⟨attr, hattr, hsame⟩)
  have hextension : attrs.extensionAt? key = none := by
    refine List.find?_eq_none.2 fun set hset hhit => ?_
    have hsame : lower set.schema.text = lower key := beq_iff_eq.1 hhit
    have hnone : attrs.ownAt? set.schema.text = none := by
      rw [ownAt?, hsame]
      exact hown
    refine h.2 (List.mem_map.2 ⟨set, List.mem_filter.2 ⟨hset, ?_⟩, hsame⟩)
    rw [hnone]
    rfl
  rw [convertAt, ownValue_of_none hown, extensionEntries, hextension]
  rfl

theorem convertAt_congr {key other : String} (h : lower key = lower other) (value : Value) :
    attrs.convertAt direction key value = attrs.convertAt direction other value := by
  have hown : attrs.ownAt? key = attrs.ownAt? other := by rw [ownAt?, ownAt?, h]
  have hextension : attrs.extensionAt? key = attrs.extensionAt? other := by rw [extensionAt?, extensionAt?, h]
  rw [convertAt, convertAt, ownValue, ownValue, extensionEntries, extensionEntries, hown, hextension]

/-- Under every key stands what the value under the key is converted to. -/
theorem value_rebuilt (h : attrs.Layered) (record : Record) (key : String) :
    Record.value (attrs.rebuilt direction record) key = attrs.convertAt direction key (record.value key) := by
  by_cases hkey : lower key ∈ attrs.slots.map lower
  · obtain ⟨slot, hslot, hsame⟩ := List.mem_map.1 hkey
    rw [← Record.value_congr _ hsame, ← Record.value_congr _ hsame, convertAt_congr hsame.symm]
    exact Record.value_keyed h.nodup_slots hslot
  · have hnone : (attrs.rebuilt direction record).get? key = none :=
      Record.get?_keyed_eq_none fun slot hslot hsame => hkey (List.mem_map.2 ⟨slot, hslot, hsame⟩)
    rw [convertAt_of_not_mem hkey, Record.value, hnone]
    rfl

end SchemaAttributes

/-! ## Reading and writing at a key -/

/-- The value of an attribute of an extension is one in the record under the identifier. -/
theorem Record.get_extension_eq (record : Record) (uri : SchemaUri) (name : AttrName) :
    record.get (.place (.extension uri ⟨name, none⟩)) = subOf name (record.value uri.text) := by
  cases hstored : record.get? uri.text with
  | none =>
    rw [get_extension_missing, Record.value, hstored]
    · rfl
    · rw [hstored]
      exact fun inner h => by cases h
  | some value =>
    cases value with
    | record inner =>
      rw [get_extension _ hstored, Record.value, hstored, getAttr_name]
      rfl
    | _ =>
      rw [get_extension_missing, Record.value, hstored]
      · rfl
      · rw [hstored]
        exact fun inner h => by cases h

namespace AttributeSet

variable {set : AttributeSet}

/-- The entries of an extension are made of the value under its identifier. -/
theorem entries_eq_within (hextension : set.extension = true) :
    set.entries direction record = set.within direction (record.value set.schema.text) := by
  have hread : ∀ attr ∈ set.attrs,
      record.get (Place.ofPath attr.path) = Record.subOf attr.name (record.value set.schema.text) := by
    intro attr hattr
    rw [place_of_mem hattr, if_pos hextension, Record.get_extension_eq]
  refine convertedEntries_congr (fun attr hattr => ?_) fun attr hattr => ?_
  · rw [← hread attr hattr]
  · rw [← hread attr hattr]

theorem distinctKeys_within (h : set.attrs.DistinctNames) (value : Value) :
    (set.within direction value).DistinctKeys :=
  distinctKeys_convertedEntries h

/-- If there are any, the value is a record. -/
theorem exists_record_of_within {value : Value} (h : set.within direction value ≠ []) :
    ∃ entries : Record, value = .record entries := by
  obtain ⟨entry, hentry⟩ := List.exists_mem_of_ne_nil _ h
  obtain ⟨attr, -, hstored, -⟩ := mem_convertedEntries.1 hentry
  cases value with
  | record entries => exact ⟨entries, rfl⟩
  | _ => cases hstored

/-- Otherwise no attribute of the extension has a value. -/
theorem isMissing_of_within {value : Value} (h : set.within direction value = []) {attr : Attribute}
    (hattr : attr ∈ set.attrs) : (Record.subOf attr.name value).isMissing = true := by
  by_contra hstored
  have hmem : (attr.name.text, attr.convert direction (Record.subOf attr.name value)) ∈ set.within direction value :=
    mem_convertedEntries.2 ⟨attr, hattr, Bool.eq_false_iff.2 hstored, rfl⟩
  rw [h] at hmem
  cases hmem

end AttributeSet

namespace Attribute

variable {attr : Attribute}

/-- An attribute converts a record to a record. -/
theorem convert_record (h : attr.hooks.conversion? direction = none) (entries : Record) :
    ∃ converted : Record, attr.convert direction (.record entries) = .record converted := by
  rcases convert_record_cases h entries with ⟨subs, -, hconvert⟩ | ⟨-, hconvert⟩
  · exact ⟨_, hconvert⟩
  · exact ⟨_, hconvert⟩

end Attribute

/-! ## Writing the sets one after the other -/

namespace SchemaAttributes

/-- The attributes with one more extension. -/
def attached (attrs : SchemaAttributes) (set : AttributeSet) : SchemaAttributes :=
  { attrs with extensions := attrs.extensions ++ [set] }

variable {attrs : SchemaAttributes} {set : AttributeSet}

theorem mem_attached (attrs : SchemaAttributes) (set : AttributeSet) : set ∈ (attrs.attached set).extensions :=
  List.mem_append_right _ (List.mem_singleton.2 rfl)

namespace Layered

variable (h : (attrs.attached set).Layered)

include h

theorem of_attached : attrs.Layered where
  own := h.own
  extensions := fun other hother => h.extensions other (List.mem_append_left _ hother)
  names := by
    intro other hother
    refine h.names other ?_
    rcases List.mem_cons.1 hother with rfl | hextension
    · exact List.mem_cons_self
    · exact List.mem_cons_of_mem _ (List.mem_append_left _ hextension)
  schemas := by
    have hschemas := h.schemas
    rw [attached, List.map_append] at hschemas
    exact hschemas.of_append_left

theorem extension_attached : set.extension = true :=
  h.extensions set (mem_attached attrs set)

theorem names_attached : set.attrs.DistinctNames :=
  h.names set (List.mem_cons_of_mem _ (mem_attached attrs set))

end Layered

/-- Under the identifier of the new extension there was none before. -/
theorem extensionAt?_of_attached (h : (attrs.attached set).Layered) {key : String}
    (hkey : lower key = set.schema.folded) : attrs.extensionAt? key = none := by
  have hschemas := h.schemas
  rw [attached, List.map_append] at hschemas
  refine List.find?_eq_none.2 fun other hother hhit => ?_
  have hsame : other.schema.folded = set.schema.folded := (beq_iff_eq.1 hhit).trans hkey
  have hapart := List.disjoint_of_nodup_append hschemas
  exact hapart (List.mem_map.2 ⟨other, hother, rfl⟩) (List.mem_singleton.2 hsame)

theorem extensionEntries_attached (h : (attrs.attached set).Layered) (key : String) (value : Value) :
    (attrs.attached set).extensionEntries direction key value =
      if lower key = set.schema.folded then set.within direction value
      else attrs.extensionEntries direction key value := by
  have hextension : (attrs.attached set).extensionAt? key =
      (attrs.extensionAt? key).or (if set.schema.folded == lower key then some set else none) := by
    rw [extensionAt?, attached, List.find?_append, List.find?_singleton]
    rfl
  rw [extensionEntries, hextension]
  by_cases hkey : lower key = set.schema.folded
  · rw [extensionAt?_of_attached h hkey, if_pos hkey, if_pos (beq_iff_eq.2 hkey.symm)]
    rfl
  · have hmiss : (set.schema.folded == lower key) = false := beq_false_of_ne (Ne.symm hkey)
    rw [if_neg hkey, hmiss, extensionEntries]
    simp

/-- Under another key than the identifier of the new extension nothing changes. -/
theorem convertAt_attached_of_ne (h : (attrs.attached set).Layered) {key : String}
    (hkey : lower key ≠ set.schema.folded) (value : Value) :
    (attrs.attached set).convertAt direction key value = attrs.convertAt direction key value := by
  rw [convertAt, extensionEntries_attached h, if_neg hkey]
  rfl

/-- Under its identifier there has only been the value of the own attribute. -/
theorem convertAt_of_attached (h : (attrs.attached set).Layered) {key : String} (hkey : lower key = set.schema.folded)
    (value : Value) : attrs.convertAt direction key value = attrs.ownValue direction key value := by
  rw [convertAt, extensionEntries, extensionAt?_of_attached h hkey]
  rfl

/-- Now its entries are written into that value. -/
theorem convertAt_attached_of_eq (h : (attrs.attached set).Layered) {key : String}
    (hkey : lower key = set.schema.folded) (value : Value) :
    (attrs.attached set).convertAt direction key value =
      (attrs.ownValue direction key value).overlaid (set.within direction value) := by
  rw [convertAt, extensionEntries_attached h, if_pos hkey]
  rfl

theorem slots_attached : (attrs.attached set).slots =
    attrs.slots ++ if (attrs.ownAt? set.schema.text).isNone then [set.schema.text] else [] := by
  have hown : ∀ key, (attrs.attached set).ownAt? key = attrs.ownAt? key := fun _ => rfl
  rw [slots, slots, List.append_assoc]
  congr 1
  simp only [hown]
  rw [attached, List.filter_append, List.map_append, List.filter_singleton]
  congr 1
  cases (attrs.ownAt? set.schema.text).isNone <;> rfl

/-- An identifier that is no name of an own attribute is a slot of its own. -/
theorem slots_attached_of_none (hown : attrs.ownAt? set.schema.text = none) :
    (attrs.attached set).slots = attrs.slots ++ [set.schema.text] := by
  rw [slots_attached, hown]
  rfl

theorem slots_attached_of_some {attr : Attribute} (hown : attrs.ownAt? set.schema.text = some attr) :
    (attrs.attached set).slots = attrs.slots := by
  rw [slots_attached, hown]
  exact List.append_nil _

/-- No other slot is equal to such an identifier up to case. -/
theorem slot_ne_of_none (h : (attrs.attached set).Layered) (hown : attrs.ownAt? set.schema.text = none) :
    ∀ key ∈ attrs.slots, lower key ≠ lower set.schema.text := by
  have hnodup := h.nodup_slots
  rw [slots_attached_of_none hown, List.map_append] at hnodup
  intro key hkey hsame
  exact List.disjoint_of_nodup_append hnodup (List.mem_map.2 ⟨key, hkey, rfl⟩) (List.mem_singleton.2 hsame)

/-- With an extension of a slot of its own, what its entries are is written at the end. -/
theorem rebuilt_attached_of_none (h : (attrs.attached set).Layered) (hown : attrs.ownAt? set.schema.text = none)
    (record : Record) :
    (attrs.attached set).rebuilt direction record = attrs.rebuilt direction record ++
      .keyed (fun key => Value.overlaid .missing (set.within direction (record.value key))) [set.schema.text] := by
  rw [rebuilt, slots_attached_of_none hown, Record.keyed_append]
  congr 1
  · exact Record.keyed_congr fun key hkey => convertAt_attached_of_ne h (slot_ne_of_none h hown key hkey) _
  · refine Record.keyed_congr fun key hkey => ?_
    rw [List.mem_singleton.1 hkey, convertAt_attached_of_eq h rfl, ownValue_of_none hown]

/-- With an extension that goes by the name of an own attribute but has no values, nothing changes. -/
theorem rebuilt_attached_of_idle (h : (attrs.attached set).Layered) {attr : Attribute}
    (hown : attrs.ownAt? set.schema.text = some attr)
    (hwithin : set.within direction (record.value set.schema.text) = []) :
    (attrs.attached set).rebuilt direction record = attrs.rebuilt direction record := by
  rw [rebuilt, slots_attached_of_some hown]
  refine Record.keyed_congr fun key _ => ?_
  by_cases hkey : lower key = set.schema.folded
  · rw [convertAt_attached_of_eq h hkey, convertAt_of_attached h hkey]
    rw [@Record.value_congr record key set.schema.text hkey, hwithin]
    rfl
  · exact convertAt_attached_of_ne h hkey _

section Over

variable {attr : Attribute} {entries converted : Record}

/-- Before, the converted record of the own attribute stands under the identifier. -/
theorem get?_rebuilt_of_some (h : (attrs.attached set).Layered) (hown : attrs.ownAt? set.schema.text = some attr)
    (hvalue : record.value set.schema.text = .record entries)
    (hconverted : attr.convert direction (.record entries) = .record converted) :
    (attrs.rebuilt direction record).get? set.schema.text = some (.record converted) := by
  have hthere : (attrs.rebuilt direction record).value set.schema.text = .record converted := by
    rw [value_rebuilt h.of_attached, convertAt_of_attached h rfl, ownValue_of_some hown, hvalue, hconverted]
  rw [Record.get?_of_stored (by rw [hthere]; rfl), hthere]

/-- With an extension that has values, these are written into that record. -/
theorem rebuilt_attached_of_some (h : (attrs.attached set).Layered) (hown : attrs.ownAt? set.schema.text = some attr)
    (hvalue : record.value set.schema.text = .record entries)
    (hconverted : attr.convert direction (.record entries) = .record converted)
    (hwithin : set.within direction (.record entries) ≠ []) :
    (attrs.attached set).rebuilt direction record = (attrs.rebuilt direction record).replace set.schema.text
      (.record (Entries.overlaid converted (set.within direction (.record entries)))) := by
  have hthere : ∀ {key : String}, lower key = set.schema.folded →
      attrs.ownValue direction key (record.value key) = .record converted := by
    intro key hkey
    have hat : attrs.ownAt? key = some attr := by
      rw [← hown, ownAt?, ownAt?, hkey]
      rfl
    rw [ownValue_of_some hat, Record.value_congr record hkey, hvalue, hconverted]
  rw [rebuilt, slots_attached_of_some hown, rebuilt, Record.replace_keyed rfl]
  · refine Record.keyed_congr fun key _ => ?_
    split
    · next hkey =>
      rw [convertAt_attached_of_eq h hkey, hthere hkey]
      rw [@Record.value_congr record key set.schema.text hkey, hvalue, Value.overlaid_record converted hwithin]
    · next hkey => exact convertAt_attached_of_ne h hkey _
  · intro key _ hkey
    rw [convertAt_of_attached h hkey, hthere hkey]
    rfl

end Over

end SchemaAttributes

namespace Schema

/-- Where no attribute has a value nothing is written. -/
theorem convertAll_missing {attrs : List Attribute}
    (h : ∀ attr ∈ attrs, (record.get (Place.ofPath attr.path)).isMissing = true) (converted : Record) :
    convertAll direction record attrs converted = .ok converted := by
  induction attrs with
  | nil => rfl
  | cons attr attrs ih =>
    obtain ⟨hfirst, hrest⟩ := List.forall_mem_cons.1 h
    rw [convertAll, if_pos hfirst]
    exact ih hrest

/-- A value of an extension is written into the record that stands under the identifier. -/
theorem set_replaced {set : AttributeSet} (hextension : set.extension = true) {written : Record} {old : Value}
    (hget : written.get? set.schema.text = some old) {attr : Attribute} (hattr : attr ∈ set.attrs) (inner : Record)
    (value : Value) :
    Record.set (written.replace set.schema.text (.record inner)) (Place.ofPath attr.path) value =
      .ok (written.replace set.schema.text (.record (inner.insert attr.name.text value))) := by
  rw [AttributeSet.place_of_mem hattr, if_pos hextension]
  show Record.setWithin _ set.schema ⟨attr.name, none⟩ (fun inner => .ok (inner.insert attr.name.text value)) = _
  rw [Record.setWithin, Record.get?_replace_self hget]
  exact congrArg Except.ok (Entries.replace_replace _ _ _ _)

section Attached

variable {attrs : SchemaAttributes} {set : AttributeSet}

/-- The attributes of an extension that does not go by the name of an own attribute are written at the end. -/
theorem convertAll_apart (h : (attrs.attached set).Layered) (hown : attrs.ownAt? set.schema.text = none) :
    convertAll direction record set.attrs (attrs.rebuilt direction record) =
      .ok ((attrs.attached set).rebuilt direction record) := by
  have hfree : (attrs.rebuilt direction record).get? set.schema.text = none :=
    Record.get?_keyed_eq_none (SchemaAttributes.slot_ne_of_none h hown)
  rw [convertAll_extension h.extension_attached h.names_attached hfree,
    AttributeSet.entries_eq_within h.extension_attached, SchemaAttributes.rebuilt_attached_of_none h hown]
  refine congrArg Except.ok (congrArg (attrs.rebuilt direction record ++ ·) ?_)
  rw [Record.keyed, List.filterMap_cons]
  cases set.within direction (record.value set.schema.text) <;> rfl

/-- Where an extension goes by the name of an own attribute but has no values, nothing is written. -/
theorem convertAll_idle (h : (attrs.attached set).Layered) {attr : Attribute}
    (hown : attrs.ownAt? set.schema.text = some attr)
    (hwithin : set.within direction (record.value set.schema.text) = []) :
    convertAll direction record set.attrs (attrs.rebuilt direction record) =
      .ok ((attrs.attached set).rebuilt direction record) := by
  have hread : ∀ attr ∈ set.attrs, (record.get (Place.ofPath attr.path)).isMissing = true := by
    intro attr hattr
    rw [AttributeSet.place_of_mem hattr, if_pos h.extension_attached, Record.get_extension_eq]
    exact AttributeSet.isMissing_of_within hwithin hattr
  rw [convertAll_missing hread, SchemaAttributes.rebuilt_attached_of_idle h hown hwithin]

/-- Where it has values, they are written into the record that the own attribute was converted to. -/
theorem convertAll_over (h : (attrs.attached set).Layered) {attr : Attribute}
    (hown : attrs.ownAt? set.schema.text = some attr) (hconversion : attr.hooks.conversion? direction = none)
    (hwithin : set.within direction (record.value set.schema.text) ≠ []) :
    convertAll direction record set.attrs (attrs.rebuilt direction record) =
      .ok ((attrs.attached set).rebuilt direction record) := by
  obtain ⟨entries, hentries⟩ := AttributeSet.exists_record_of_within hwithin
  obtain ⟨converted, hconverted⟩ := Attribute.convert_record hconversion entries
  have hget := SchemaAttributes.get?_rebuilt_of_some h hown hentries hconverted
  have hall := @convertAll_within direction record _
    (fun inner => (attrs.rebuilt direction record).replace set.schema.text (.record inner))
    (fun _ hattr => set_replaced h.extension_attached hget hattr) converted
  have hstart : (attrs.rebuilt direction record).replace set.schema.text (.record converted) =
      attrs.rebuilt direction record :=
    Entries.replace_self (Record.distinctKeys_keyed h.of_attached.nodup_slots) hget
  rw [hstart, ← AttributeSet.entries, AttributeSet.entries_eq_within h.extension_attached,
    Entries.foldl_insert_eq_overlaid (AttributeSet.distinctKeys_within h.names_attached _), hentries] at hall
  rw [hentries] at hwithin
  rw [hall, SchemaAttributes.rebuilt_attached_of_some h hown hentries hconverted hwithin]

end Attached

/-- The own attributes are written under their names. -/
theorem convertAll_alone {own : AttributeSet} (h : (SchemaAttributes.mk own []).Layered)
    (hown : ∀ attr ∈ own.attrs, attr.hooks.conversion? direction = none) :
    convertAll direction record own.attrs [] = .ok ((SchemaAttributes.mk own []).rebuilt direction record) := by
  have hslots : (SchemaAttributes.mk own []).slots = own.attrs.map fun attr => attr.name.text := List.append_nil _
  rw [convertAll_own h.own (h.names own List.mem_cons_self) fun _ _ => rfl]
  rw [List.nil_append, SchemaAttributes.rebuilt, hslots]
  refine congrArg Except.ok (Record.keyed_names (fun attr hattr => ?_) fun attr hattr => ?_).symm
  · have hread : record.get (Place.ofPath attr.path) = record.value attr.name.text := by
      rw [AttributeSet.place_of_mem hattr, h.own]
      exact record.getAttr_name attr.name
    rw [hread]
    exact SchemaAttributes.ownValue_of_some (SchemaAttributes.ownAt?_of_mem h hattr) _
  · exact Attribute.isMissing_convert (hown attr hattr) _

/-- A resource is converted key by key, and no write fails. -/
theorem convert_eq_keyed {schema : Schema} (h : schema.attrs.Layered)
    (hown : ∀ attr ∈ schema.attrs.own.attrs, attr.hooks.conversion? direction = none) (record : Record) :
    schema.convert direction record = .ok (schema.attrs.rebuilt direction record) := by
  rw [convert]
  generalize schema.attrs = attrs at h hown
  obtain ⟨own, extensions⟩ := attrs
  induction extensions using List.reverseRecOn with
  | nil =>
    rw [SchemaAttributes.all, List.flatMap_nil, List.append_nil]
    exact convertAll_alone h hown
  | append_singleton extensions set ih =>
    have hattached : ((SchemaAttributes.mk own extensions).attached set).Layered := h
    rw [SchemaAttributes.all, List.flatMap_append, List.flatMap_singleton, ← List.append_assoc, convertAll_append]
    have hbefore := ih hattached.of_attached hown
    rw [SchemaAttributes.all] at hbefore
    rw [hbefore]
    cases hat : (SchemaAttributes.mk own extensions).ownAt? set.schema.text with
    | none => exact convertAll_apart hattached hat
    | some attr =>
      by_cases hwithin : set.within direction (record.value set.schema.text) = []
      · exact convertAll_idle hattached hat hwithin
      · exact convertAll_over hattached hat (hown attr (List.mem_of_find?_eq_some hat)) hwithin

end Schema

end Scim
