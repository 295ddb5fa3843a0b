import Mathlib.Data.List.Nodup
import Scim.Proofs.Attribute.Conversion
import Scim.Proofs.Schema.Attached
import Scim.Proofs.Schema.Conformance
import Scim.Proofs.Schema.Lookup
import Scim.Schema.Normalization

/-!
# Converting resources in which nothing is wrong

A resource is converted attribute by attribute into a new record.  The own attributes become entries of that record,
those of an extension entries of a record under the identifier of the extension.  As long as no identifier is the
name of an own attribute, no two of these writes meet, so the record can be given in closed form and each attribute
is found in it with its converted value.  The list of schemas and the type are attributes like the others, or else
they are left out.

So a resource in which validation finds nothing wrong stays one, if its values do.  Where an extension goes by the
name of an own attribute, the values of both are read from one record and converted twice.

## Main results

* `Schema.convert_eq`: the record that a resource is converted to.
* `Schema.get_converted`: under the path of every attribute stands its converted value.
* `Schema.Conforms.converted`: a resource that conforms is converted to one that does.
* `Schema.convert_keeps_clean`: conversion keeps resources clean in which validation finds nothing wrong.
* `Schema.integer_for_double_refused`, `Schema.extension_for_attribute_refused`: neither the condition on decimal
  values nor that on identifiers can be left out.
-/

namespace Scim

open Text

variable {direction : Direction} {record : Record}

/-! ## Converted sets of attributes -/

/-- The record of an extension under its identifier, if anything was written into it. -/
def Record.wrapped (uri : SchemaUri) (inner : Record) : Record :=
  if inner.isEmpty then [] else [(uri.text, .record inner)]

theorem Record.mem_wrapped {uri : SchemaUri} {inner : Record} {entry : String × Value} :
    entry ∈ wrapped uri inner ↔ inner ≠ [] ∧ entry = (uri.text, .record inner) := by
  cases inner <;> simp [wrapped]

theorem Record.distinctKeys_wrapped (uri : SchemaUri) (inner : Record) : (wrapped uri inner).DistinctKeys := by
  unfold wrapped
  split
  · exact .nil
  · exact List.pairwise_singleton _ _

/-- What is read of the attributes of an extension whose record was written like that. -/
theorem Record.get_wrapped {uri : SchemaUri} {inner : Record}
    (h : record.get? uri.text = (wrapped uri inner).get? uri.text) (name : AttrName) :
    record.get (.place (.extension uri ⟨name, none⟩)) = Record.value inner name.text := by
  cases inner with
  | nil =>
    refine get_extension_missing _ fun inner hinner => ?_
    rw [h] at hinner
    cases hinner
  | cons entry inner =>
    have hstored : record.get? uri.text = some (.record (entry :: inner)) := by
      rw [h]
      simp [wrapped, Entries.get?_cons]
    rw [get_extension _ hstored, getAttr_name]

namespace AttributeSet

variable {set : AttributeSet}

/-- The keys that the values of a set of attributes are stored under, in lower case. -/
def keys (set : AttributeSet) : List String :=
  if set.extension then [set.schema.folded] else set.attrs.map fun attr => attr.name.folded

/-- The entries that the attributes of a set become. -/
def entries (set : AttributeSet) (direction : Direction) (record : Record) : Record :=
  convertedEntries direction (fun attr => record.get (Place.ofPath attr.path)) set.attrs

/-- What is written for a set of attributes. -/
def converted (set : AttributeSet) (direction : Direction) (record : Record) : Record :=
  if set.extension then .wrapped set.schema (set.entries direction record) else set.entries direction record

/-- An own attribute is read under its name, one of an extension below the identifier. -/
theorem place_of_mem {attr : Attribute} (h : attr ∈ set.attrs) :
    Place.ofPath attr.path =
      if set.extension then .extension set.schema ⟨attr.name, none⟩ else .attr ⟨attr.name, none⟩ := by
  rw [(bound_of_mem h).1]
  rfl

/-- Where no attribute of the set has a value yet, its entries are written side by side at the end. -/
theorem foldl_entries (hnames : set.attrs.DistinctNames) {before : Record}
    (hfree : ∀ attr ∈ set.attrs, before.get? attr.name.text = none) :
    (set.entries direction record).foldl (fun written entry => written.insert entry.1 entry.2) before =
      before ++ set.entries direction record := by
  refine Entries.foldl_insert_eq (distinctKeys_convertedEntries hnames) fun entry hentry => ?_
  obtain ⟨attr, hattr, -, rfl⟩ := mem_convertedEntries.1 hentry
  exact hfree attr hattr

/-- Everything is written under one of the keys of the set. -/
theorem key_mem_of_mem_converted : ∀ entry ∈ set.converted direction record, lower entry.1 ∈ set.keys := by
  intro entry h
  unfold converted at h
  unfold keys
  split at h
  · next hextension =>
    obtain ⟨-, rfl⟩ := Record.mem_wrapped.1 h
    rw [if_pos hextension]
    exact List.mem_singleton.2 rfl
  · next hown =>
    rw [if_neg hown]
    obtain ⟨attr, hattr, -, rfl⟩ := mem_convertedEntries.1 h
    exact List.mem_map.2 ⟨attr, hattr, rfl⟩

/-- The entry is the converted value of an attribute that is stored under its name. -/
def ConvertedFrom (set : AttributeSet) (direction : Direction) (source : Record) (entry : String × Value) : Prop :=
  ∃ attr ∈ set.attrs, ∃ value, source.get? attr.name.text = some value ∧
    entry = (attr.name.text, attr.convert direction value)

/-- The entries of a set were made of what is stored in the resource, or else in the record under the identifier. -/
theorem convertedFrom_of_mem_entries {entry : String × Value} (h : entry ∈ set.entries direction record) :
    set.extension = false ∧ set.ConvertedFrom direction record entry ∨
      set.extension = true ∧ ∃ inner : Record, record.get? set.schema.text = some (.record inner) ∧
        set.ConvertedFrom direction inner entry := by
  obtain ⟨attr, hattr, hvalue, rfl⟩ := mem_convertedEntries.1 h
  have hpath := (bound_of_mem hattr).1
  rw [hpath] at hvalue ⊢
  rcases @Record.stored_of_get record (set.pathOf attr.name) rfl hvalue with
    ⟨hown, hget⟩ | ⟨hextension, inner, hinner, hget⟩
  · exact .inl ⟨hown, attr, hattr, _, hget, rfl⟩
  · exact .inr ⟨hextension, inner, hinner, attr, hattr, _, hget, rfl⟩

/-- What is written for a set is the converted value of an own attribute, or else the record of an extension with the
converted values of what is stored in one under the identifier. -/
theorem cases_of_mem_converted {entry : String × Value} (h : entry ∈ set.converted direction record) :
    set.ConvertedFrom direction record entry ∨
      ∃ inner : Record, record.get? set.schema.text = some (.record inner) ∧
        entry = (set.schema.text, .record (set.entries direction record)) ∧
        ∀ entry ∈ set.entries direction record, set.ConvertedFrom direction inner entry := by
  unfold converted at h
  cases hextension : set.extension with
  | false =>
    rw [hextension] at h
    rcases convertedFrom_of_mem_entries h with ⟨-, hfrom⟩ | ⟨hother, -⟩
    · exact .inl hfrom
    · rw [hextension] at hother
      cases hother
  | true =>
    have hinside : ∀ entry ∈ set.entries direction record, ∃ inner : Record,
        record.get? set.schema.text = some (.record inner) ∧ set.ConvertedFrom direction inner entry := by
      intro entry hentry
      rcases convertedFrom_of_mem_entries hentry with ⟨hother, -⟩ | ⟨-, hinner⟩
      · rw [hextension] at hother
        cases hother
      · exact hinner
    rw [if_pos hextension] at h
    obtain ⟨hentries, rfl⟩ := Record.mem_wrapped.1 h
    -- all entries were read from the record that the first one was read from
    obtain ⟨first, hfirst⟩ := List.exists_mem_of_ne_nil _ hentries
    obtain ⟨inner, hinner, -⟩ := hinside first hfirst
    refine .inr ⟨inner, hinner, rfl, fun entry hentry => ?_⟩
    obtain ⟨other, hother, hfrom⟩ := hinside entry hentry
    rw [hinner] at hother
    cases hother
    exact hfrom

theorem distinctKeys_converted (hnames : set.attrs.DistinctNames) :
    (set.converted direction record).DistinctKeys := by
  unfold converted
  split
  · exact Record.distinctKeys_wrapped set.schema _
  · exact distinctKeys_convertedEntries hnames

end AttributeSet

/-! ## Writing the attributes of a set -/

/-- Writing one attribute of an extension into a record writes it into the record under the identifier, which is
made for the first one. -/
theorem Record.set_wrapped {converted : Record} {uri : SchemaUri} (hfree : converted.get? uri.text = none)
    (inner : Record) (name : AttrName) (value : Value) :
    Record.set (converted ++ wrapped uri inner) (.place (.extension uri ⟨name, none⟩)) value =
      .ok (converted ++ wrapped uri (inner.insert name.text value)) := by
  have hwrapped : wrapped uri (inner.insert name.text value) =
      [(uri.text, .record (inner.insert name.text value))] := by
    simp [wrapped, Entries.insert]
  have hset : Record.set (converted ++ wrapped uri inner) (.place (.extension uri ⟨name, none⟩)) value =
      Record.setWithin (converted ++ wrapped uri inner) uri ⟨name, none⟩ fun inner =>
        .ok (inner.insert name.text value) := rfl
  rw [hset, hwrapped]
  cases inner with
  | nil =>
    have hnone : converted ++ wrapped uri [] = converted := List.append_nil converted
    rw [hnone, setWithin, hfree]
    show Except.ok (Entries.insert converted uri.text _) = _
    rw [Entries.insert_of_get?_eq_none hfree]
  | cons entry inner =>
    have hinner : Entries.get? (converted ++ wrapped uri (entry :: inner)) uri.text =
        some (.record (entry :: inner)) := by
      rw [Entries.get?_append, hfree]
      simp [wrapped, Entries.get?_cons]
    rw [setWithin, hinner]
    show Except.ok (Entries.replace _ uri.text _) = _
    rw [Entries.replace, List.map_append, ← Entries.replace, ← Entries.replace,
      Entries.replace_of_forall_ne (Entries.get?_eq_none_iff.1 hfree)]
    simp [wrapped, Entries.replace, Entries.hasKey]

namespace Schema

/-- Attributes that are all written into one record within another are so one after the other. -/
theorem convertAll_within {attrs : List Attribute} (around : Record → Record)
    (hwrite : ∀ attr ∈ attrs, ∀ (inner : Record) (value : Value),
      (around inner).set (Place.ofPath attr.path) value = .ok (around (inner.insert attr.name.text value)))
    (inner : Record) :
    convertAll direction record attrs (around inner) =
      .ok (around ((convertedEntries direction (fun attr => record.get (Place.ofPath attr.path)) attrs).foldl
        (fun written entry => written.insert entry.1 entry.2) inner)) := by
  induction attrs generalizing inner with
  | nil => rfl
  | cons attr attrs ih =>
    have hrest := ih fun later hlater => hwrite later (List.mem_cons_of_mem attr hlater)
    rw [convertAll, convertedEntries_cons, List.foldl_append]
    cases (record.get (Place.ofPath attr.path)).isMissing with
    | true => exact hrest inner
    | false =>
      rw [if_neg Bool.false_ne_true, hwrite attr List.mem_cons_self]
      exact hrest _

/-- The attributes of an extension are written into a record at the end, if nothing stands under the identifier. -/
theorem convertAll_extension {set : AttributeSet} (hextension : set.extension = true)
    (hnames : set.attrs.DistinctNames) {converted : Record} (hfree : converted.get? set.schema.text = none) :
    convertAll direction record set.attrs converted =
      .ok (converted ++ .wrapped set.schema (set.entries direction record)) := by
  have hwrite : ∀ attr ∈ set.attrs, ∀ (inner : Record) (value : Value),
      Record.set (converted ++ .wrapped set.schema inner) (Place.ofPath attr.path) value =
        .ok (converted ++ .wrapped set.schema (inner.insert attr.name.text value)) := by
    intro attr hattr inner value
    rw [AttributeSet.place_of_mem hattr, if_pos hextension]
    exact Record.set_wrapped hfree inner attr.name value
  have hall :=
    @convertAll_within direction record _ (fun inner => converted ++ .wrapped set.schema inner) hwrite []
  rw [← AttributeSet.entries, AttributeSet.foldl_entries hnames fun _ _ => rfl] at hall
  simpa [Record.wrapped] using hall

/-- Own attributes are written at the end, if nothing stands under their names. -/
theorem convertAll_own {set : AttributeSet} (hown : set.extension = false) (hnames : set.attrs.DistinctNames)
    {converted : Record} (hfree : ∀ attr ∈ set.attrs, converted.get? attr.name.text = none) :
    convertAll direction record set.attrs converted = .ok (converted ++ set.entries direction record) := by
  have hwrite : ∀ attr ∈ set.attrs, ∀ (inner : Record) (value : Value),
      inner.set (Place.ofPath attr.path) value = .ok (inner.insert attr.name.text value) := by
    intro attr hattr inner value
    rw [AttributeSet.place_of_mem hattr, hown]
    rfl
  have hall := @convertAll_within direction record _ (fun inner => inner) hwrite converted
  rw [← AttributeSet.entries, AttributeSet.foldl_entries hnames hfree] at hall
  exact hall

/-- The attributes of a set are written at the end, if nothing stands under its keys before. -/
theorem convertAll_set {set : AttributeSet} (hnames : set.attrs.DistinctNames) {converted : Record}
    (hfree : ∀ key, lower key ∈ set.keys → converted.get? key = none) :
    convertAll direction record set.attrs converted = .ok (converted ++ set.converted direction record) := by
  unfold AttributeSet.keys at hfree
  unfold AttributeSet.converted
  cases hextension : set.extension with
  | true =>
    rw [hextension] at hfree
    exact convertAll_extension hextension hnames (hfree _ (List.mem_singleton.2 rfl))
  | false =>
    rw [hextension] at hfree
    exact convertAll_own hextension hnames fun attr hattr => hfree _ (List.mem_map.2 ⟨attr, hattr, rfl⟩)

end Schema

/-! ## Writing all sets -/

/-- The attributes of every set have different names, and no two values of attributes are stored under one key: no
identifier of an extension is that of another one or the name of an own attribute. -/
structure SchemaAttributes.SeparateKeys (attrs : SchemaAttributes) : Prop where
  names : ∀ set ∈ attrs.sets, set.attrs.DistinctNames
  keys : (attrs.sets.flatMap AttributeSet.keys).Nodup

section Sets

variable {sets : List AttributeSet}

theorem key_mem_of_mem_flatMap : ∀ entry ∈ sets.flatMap fun set => set.converted direction record,
    lower entry.1 ∈ sets.flatMap AttributeSet.keys := by
  intro entry hentry
  obtain ⟨set, hset, hmem⟩ := List.mem_flatMap.1 hentry
  exact List.mem_flatMap.2 ⟨set, hset, AttributeSet.key_mem_of_mem_converted entry hmem⟩

theorem convertAll_sets (hnames : ∀ set ∈ sets, set.attrs.DistinctNames)
    (hkeys : (sets.flatMap AttributeSet.keys).Nodup) {converted : Record}
    (hfree : ∀ key, lower key ∈ sets.flatMap AttributeSet.keys → converted.get? key = none) :
    Schema.convertAll direction record (sets.flatMap AttributeSet.attrs) converted =
      .ok (converted ++ sets.flatMap fun set => set.converted direction record) := by
  induction sets generalizing converted with
  | nil => rw [List.flatMap_nil, List.flatMap_nil, Schema.convertAll, List.append_nil]
  | cons set sets ih =>
    rw [List.flatMap_cons] at hkeys hfree
    obtain ⟨-, hrest, hapart⟩ := List.nodup_append'.1 hkeys
    have hset := @Schema.convertAll_set direction record _ (hnames set List.mem_cons_self) converted
      fun key hkey => hfree key (List.mem_append_left _ hkey)
    have hnext : ∀ key, lower key ∈ sets.flatMap AttributeSet.keys →
        Entries.get? (converted ++ set.converted direction record) key = none := by
      intro key hkey
      have hset : (set.converted direction record).get? key = none :=
        Entries.get?_eq_none_of_keys AttributeSet.key_mem_of_mem_converted fun hmem => hapart hmem hkey
      rw [Entries.get?_append, hfree key (List.mem_append_right _ hkey), hset, Option.none_or]
    rw [List.flatMap_cons, List.flatMap_cons, Schema.convertAll_append, hset, ← List.append_assoc]
    exact ih (fun later hlater => hnames later (List.mem_cons_of_mem set hlater)) hrest hnext

/-- A key of one set finds what was written for that set. -/
theorem get?_flatMap_converted (hkeys : (sets.flatMap AttributeSet.keys).Nodup) {set : AttributeSet}
    (hset : set ∈ sets) {key : String} (hkey : lower key ∈ set.keys) :
    Entries.get? (sets.flatMap fun set => set.converted direction record) key =
      Entries.get? (set.converted direction record) key := by
  induction sets with
  | nil => cases hset
  | cons first sets ih =>
    rw [List.flatMap_cons] at hkeys ⊢
    obtain ⟨-, hrest, hapart⟩ := List.nodup_append'.1 hkeys
    rw [Entries.get?_append]
    rcases List.mem_cons.1 hset with rfl | hlater
    · have hnone : Entries.get? (sets.flatMap fun set => set.converted direction record) key = none :=
        Entries.get?_eq_none_of_keys key_mem_of_mem_flatMap fun hmem => hapart hkey hmem
      rw [hnone, Option.or_none]
    · have hnone : Entries.get? (first.converted direction record) key = none :=
        Entries.get?_eq_none_of_keys AttributeSet.key_mem_of_mem_converted fun hmem =>
          hapart hmem (List.mem_flatMap.2 ⟨set, hlater, hkey⟩)
      rw [hnone, ih hrest hlater, Option.none_or]

theorem distinctKeys_flatMap_converted (hnames : ∀ set ∈ sets, set.attrs.DistinctNames)
    (hkeys : (sets.flatMap AttributeSet.keys).Nodup) :
    Entries.DistinctKeys (sets.flatMap fun set => set.converted direction record) := by
  obtain ⟨-, hapart⟩ := List.nodup_flatMap.1 hkeys
  refine List.pairwise_flatMap.2 ⟨fun set hset => AttributeSet.distinctKeys_converted (hnames set hset), ?_⟩
  refine hapart.imp fun hdisjoint a ha b hb hsame => ?_
  have hmem := AttributeSet.key_mem_of_mem_converted b hb
  rw [← hsame] at hmem
  exact hdisjoint (AttributeSet.key_mem_of_mem_converted a ha) hmem

end Sets

namespace Schema

variable {schema : Schema} {catalog : Catalog}

/-- The record that a resource is converted to. -/
def converted (schema : Schema) (direction : Direction) (record : Record) : Record :=
  schema.attrs.sets.flatMap fun set => set.converted direction record

/-- Conversion writes the sets of attributes one after the other, and no write fails. -/
theorem convert_eq (hkeys : schema.attrs.SeparateKeys) (direction : Direction) (record : Record) :
    schema.convert direction record = .ok (schema.converted direction record) :=
  convertAll_sets hkeys.names hkeys.keys fun _ _ => rfl

/-! ## What a converted resource holds -/

/-- Under the path of every attribute stands its converted value. -/
theorem get_converted (hkeys : schema.attrs.SeparateKeys) {attr : Attribute} (hattr : attr ∈ schema.attrs.all)
    (hmissing : attr.convert direction .missing = .missing) :
    (schema.converted direction record).get (Place.ofPath attr.path) =
      attr.convert direction (record.get (Place.ofPath attr.path)) := by
  rw [SchemaAttributes.all_eq] at hattr
  obtain ⟨set, hset, hmem⟩ := List.mem_flatMap.1 hattr
  have hvalue : Record.value (set.entries direction record) attr.name.text =
      attr.convert direction (record.get (Place.ofPath attr.path)) :=
    value_convertedEntries (hkeys.names set hset) hmem hmissing
  have hfound : ∀ {key : String}, lower key ∈ set.keys →
      (schema.converted direction record).get? key = (set.converted direction record).get? key :=
    get?_flatMap_converted hkeys.keys hset
  unfold AttributeSet.keys AttributeSet.converted at hfound
  rw [← hvalue, AttributeSet.place_of_mem hmem]
  cases hextension : set.extension with
  | true =>
    rw [hextension] at hfound
    exact Record.get_wrapped (hfound (List.mem_singleton.2 rfl)) attr.name
  | false =>
    rw [hextension] at hfound
    show Record.getAttr _ ⟨attr.name, none⟩ = _
    rw [Record.getAttr_name, Record.value, Record.value, hfound (List.mem_map.2 ⟨attr, hmem, rfl⟩)]
    rfl

/-- A converted resource is the resource, reduced. -/
theorem reduced_converted (hattrs : ∀ attr ∈ schema.attrs.all, attr.Throughout Attribute.Convertible) :
    Value.Reduced (.record record) (.record (schema.converted direction record)) := by
  refine .of_forall fun entry hentry => ?_
  obtain ⟨set, hset, hmem⟩ := List.mem_flatMap.1 hentry
  have hreduced : ∀ {source : Record} {entry : String × Value}, set.ConvertedFrom direction source entry →
      ∃ value, source.get? entry.1 = some value ∧ Value.Reduced value entry.2 := by
    rintro source entry ⟨attr, hattr, value, hget, rfl⟩
    have hall : attr ∈ schema.attrs.all := List.mem_flatMap.2 ⟨set, hset, hattr⟩
    have hstructural := (hattrs attr hall).imp fun _ => Attribute.Convertible.structural
    exact ⟨value, hget, Attribute.convert_reduced hstructural value⟩
  rcases AttributeSet.cases_of_mem_converted hmem with hown | ⟨inner, hinner, rfl, hentries⟩
  · exact hreduced hown
  · exact ⟨_, hinner, .of_forall fun entry hentry => hreduced (hentries entry hentry)⟩

/-- The resource of a document is converted to that of another one. -/
theorem fromJson_converted (hattrs : ∀ attr ∈ schema.attrs.all, attr.Throughout Attribute.Convertible)
    (hkeys : schema.attrs.SeparateKeys) (hjson : (Value.record record).FromJson) :
    (Value.record (schema.converted direction record)).FromJson := by
  refine .record (distinctKeys_flatMap_converted hkeys.names hkeys.keys) fun entry hentry => ?_
  obtain ⟨set, hset, hmem⟩ := List.mem_flatMap.1 hentry
  have hvalue : ∀ {source : Record} {entry : String × Value}, (Value.record source).FromJson →
      set.ConvertedFrom direction source entry → entry.2.FromJson := by
    rintro source entry hsource ⟨attr, hattr, value, hget, rfl⟩
    have hall : attr ∈ schema.attrs.all := List.mem_flatMap.2 ⟨set, hset, hattr⟩
    obtain ⟨key, hstored, -⟩ := Entries.mem_of_get? hget
    exact Attribute.convert_fromJson (hattrs attr hall) (hsource.entry hstored)
  rcases AttributeSet.cases_of_mem_converted hmem with hown | ⟨inner, hinner, rfl, hentries⟩
  · exact hvalue hjson hown
  · obtain ⟨key, hstored, -⟩ := Entries.mem_of_get? hinner
    have hdistinct : (set.entries direction record).DistinctKeys :=
      distinctKeys_convertedEntries (hkeys.names set hset)
    exact .record hdistinct fun entry hentry => hvalue (hjson.entry hstored) (hentries entry hentry)

/-! ## Conforming resources -/

/-- A value that is reduced lists the same schemas. -/
theorem listed_reduced {value other : Value} (h : Value.Reduced value other) : listed other = listed value := by
  unfold listed
  cases h with
  | list hitems => exact congrArg (List.map lower) (Value.Reduced.texts hitems)
  | _ => rfl

/-- The list of schemas that a resource should have is the one that it should have when it was reduced. -/
theorem Lists.reduced {reduced : Record} {listed : List String} (h : schema.Lists record listed)
    (hreduced : Value.Reduced (.record record) (.record reduced)) : schema.Lists reduced listed := by
  refine { h with extensions := fun key hkey hattached => ?_ }
  obtain ⟨stored, hstored, hsame⟩ := hreduced.exists_key hkey
  rw [← hsame] at hattached ⊢
  exact h.extensions stored hstored hattached

/-- A text that is found below an attribute of a reduced record was there before. -/
theorem getAttr_of_reduced {reduced : Record} (h : Value.Reduced (.record record) (.record reduced))
    {name sub : AttrName} {text : String} (hget : reduced.getAttr ⟨name, some sub⟩ = .text text) :
    record.getAttr ⟨name, some sub⟩ = .text text := by
  unfold Record.getAttr at hget ⊢
  cases hparent : reduced.get? name.text with
  | none =>
    rw [hparent] at hget
    cases hget
  | some parent =>
    rw [hparent] at hget
    obtain ⟨source, hsource, hreduced⟩ := h.get? hparent
    cases parent with
    | record entries =>
      dsimp only at hget
      obtain ⟨before, rfl⟩ := hreduced.of_record
      rw [hsource]
      have hvalue := @Value.Reduced.value_of_stored _ _ hreduced sub.text (by rw [hget]; rfl)
      rw [hget] at hvalue
      exact hvalue.of_text
    | _ => cases hget

/-- A resource that conforms is converted to one that does. -/
theorem Conforms.converted (h : schema.Conforms catalog record)
    (hattrs : ∀ attr ∈ schema.attrs.all, attr.Throughout Attribute.Convertible)
    (hkeys : schema.attrs.SeparateKeys) : schema.Conforms catalog (schema.converted direction record) := by
  have hreduced := @reduced_converted direction record schema hattrs
  have hschemas : ∀ record : Record, record.get (.path "schemas") = record.value "schemas" := fun record =>
    record.get_name ⟨"schemas", by decide⟩ (by rfl)
  refine ⟨fun attr hattr => ?_, fun htruthy => ?_, fun provided hprovided => ?_⟩
  · have hmissing : attr.convert direction .missing = .missing := by
      obtain ⟨hplain, -⟩ := hattrs attr hattr
      exact Attribute.convert_absent (hplain.conversion? direction) rfl
    rw [get_converted hkeys hattr hmissing]
    exact Attribute.convert_conforms (hattrs attr hattr) (h.attributes attr hattr)
  · rw [hschemas] at htruthy ⊢
    have hstored : (Record.value (schema.converted direction record) "schemas").isMissing = false := by
      cases hvalue : Record.value (schema.converted direction record) "schemas" with
      | missing =>
        rw [hvalue] at htruthy
        cases htruthy
      | _ => rfl
    have hvalue := hreduced.value_of_stored hstored
    have hlists := h.schemas
    rw [hschemas] at hlists
    rw [listed_reduced hvalue]
    exact (hlists (hvalue.truthy htruthy)).reduced hreduced
  · exact h.resourceType provided (getAttr_of_reduced hreduced hprovided)

/-! ## Resources in which nothing is wrong -/

/-- Whenever validation finds nothing wrong with the resource of a document, both conversions of it give a resource
with which it finds nothing wrong either. -/
def KeepsClean (schema : Schema) (catalog : Catalog) : Prop :=
  ∀ members : List (String × Json),
    (schema.validate catalog (Record.ofMembers members)).1.hasViolations [] = false →
      ∀ direction, ∃ converted, schema.convert direction (Record.ofMembers members) = .ok converted ∧
        (schema.validate catalog converted).1.hasViolations [] = false

/-- Conversion keeps resources clean, if there are no hooks of a service and no canonical records, if canonical
values of decimal attributes are so as doubles, and if no extension goes by the name of an own attribute. -/
theorem convert_keeps_clean (schema : Schema) (catalog : Catalog)
    (hattrs : ∀ attr ∈ schema.attrs.all, attr.Throughout Attribute.Convertible)
    (hkeys : schema.attrs.SeparateKeys) : schema.KeepsClean catalog := by
  intro members hvalid direction
  have hchecks : ∀ attr ∈ schema.attrs.all, attr.EveryCheck Check.BuiltIn := fun attr hattr =>
    ((hattrs attr hattr).imp fun _ h => h.toPlain).everyCheck
  have hjson := Value.fromJson_ofMembers members
  refine ⟨_, convert_eq hkeys direction _, ?_⟩
  obtain ⟨⟨hattributes, hschemas⟩, htype⟩ := (validate_clean_iff hchecks hjson).1 hvalid
  have hbefore : schema.Conforms catalog (Record.ofMembers members) := ⟨hattributes, hschemas, htype⟩
  have hafter := @Conforms.converted direction _ schema catalog hbefore hattrs hkeys
  exact (validate_clean_iff hchecks (fromJson_converted hattrs hkeys hjson)).2
    ⟨⟨hafter.attributes, hafter.schemas⟩, hafter.resourceType⟩

/-- One resource that is clean before the conversion and not after it is enough. -/
theorem not_keepsClean {members : List (String × Json)}
    (hvalid : (schema.validate catalog (Record.ofMembers members)).1.hasViolations [] = false)
    (hrefused : (schema.convert direction (Record.ofMembers members)).toOption.map (fun converted =>
      (schema.validate catalog converted).1.hasViolations []) = some true) : ¬ schema.KeepsClean catalog := by
  intro hkeeps
  obtain ⟨converted, hconvert, hclean⟩ := hkeeps members hvalid direction
  rw [hconvert] at hrefused
  have hfound : (schema.validate catalog converted).1.hasViolations [] = true := Option.some.inj hrefused
  rw [hfound] at hclean
  cases hclean

end Schema

/-! ## Attributes of every resource -/

/-- What holds of the declared attributes wherever they are bound holds of those of the set. -/
theorem AttributeSet.throughout_attrs {P : Attribute → Prop} {set : AttributeSet}
    (h : ∀ attr ∈ set.declared, ∀ path, (attr.bindTo path).Throughout P) : ∀ attr ∈ set.attrs, attr.Throughout P := by
  intro attr hattr
  obtain ⟨declared, hdeclared, rfl⟩ := List.mem_map.1 hattr
  exact h declared hdeclared _

/-- The attributes that every resource has can be converted. -/
theorem sharedAttributes_convertible :
    ∀ attr ∈ sharedAttributes, ∀ path, (attr.bindTo path).Throughout Attribute.Convertible := by
  simp only [sharedAttributes, List.forall_mem_cons]
  refine ⟨fun path => ?_, fun path => ?_, fun path => ?_, fun path => ?_, List.forall_mem_nil _⟩
  · exact .convertible_of_simple rfl rfl rfl
  · exact .convertible_of_simple rfl rfl rfl
  · exact .convertible_of_simple rfl rfl rfl
  · refine .intro ⟨⟨List.forall_mem_nil _, rfl, rfl, fun _ _ => rfl⟩, ?_, fun subs hkind => ?_⟩ fun subs hkind => ?_
    · intro hkind
      cases hkind
    · cases hkind
      refine List.pairwise_map.1 (?_ : List.Nodup _)
      show List.Nodup [lower "resourceType", lower "created", lower "lastModified", lower "location", lower "version"]
      decide +kernel
    · cases hkind
      refine List.forall_mem_map.2 ?_
      simp only [List.forall_mem_cons]
      exact ⟨.convertible_of_simple rfl rfl rfl, .convertible_of_simple rfl rfl rfl,
        .convertible_of_simple rfl rfl rfl, .convertible_of_simple rfl rfl rfl,
        .convertible_of_simple rfl rfl rfl, List.forall_mem_nil _⟩

namespace Schema

/-! ## Workers -/

/-- A schema of workers with one attribute of their own. -/
def ofWorkers (given : Attribute) : Schema where
  name := "Worker"
  endpoint := "/Workers"
  description := ""
  attrs :=
    { own :=
        { schema := ⟨"urn:worker", by decide⟩, extension := false,
          declared := sharedAttributes ++ [given], shared := sharedNames.map lower } }

/-- The schema with an extension attached. -/
def ofWorkersWith (given : Attribute) (ext : Extension) : Schema :=
  { ofWorkers given with
    attrs := { (ofWorkers given).attrs with extensions := [Attachment.set ⟨ext, false⟩] }
    attachments := [⟨ext, false⟩] }

/-- The catalog of workers. -/
def plainCatalog : Catalog where
  schemas := [⟨⟨"urn:worker", by decide⟩, false⟩]
  resources := [⟨"Worker", "/Workers"⟩]

/-- The catalog with the identifier of the extension. -/
def workerCatalog (ext : Extension) : Catalog :=
  { plainCatalog with schemas := plainCatalog.schemas ++ [⟨ext.uri, true⟩] }

variable {given : Attribute} {ext : Extension} {P : Attribute → Prop}

theorem ofWorkersWith_reachable (hgiven : given.Made) (hinner : ∀ attr ∈ ext.attrs, attr.Made)
    (hdeclared : declare {} "urn:worker" "Worker" (some "/Workers") "" [given] = .ok (plainCatalog, ofWorkers given))
    (hextension : Extension.declare plainCatalog ext.uri.text ext.name "" ext.attrs = .ok (workerCatalog ext, ext))
    (hattached : (ofWorkers given).attach (workerCatalog ext) ext false = .ok (ofWorkersWith given ext)) :
    (ofWorkersWith given ext).Reachable (workerCatalog ext) :=
  reachable_with_extension (List.forall_mem_singleton.2 hgiven) hinner hdeclared hextension hattached

/-- What holds throughout the shared attributes, the one given and those of the extension holds of all. -/
theorem throughout_ofWorkersWith (hshared : ∀ attr ∈ sharedAttributes, ∀ path, (attr.bindTo path).Throughout P)
    (hgiven : ∀ path, (given.bindTo path).Throughout P)
    (hinner : ∀ attr ∈ ext.attrs, ∀ path, (attr.bindTo path).Throughout P) :
    ∀ attr ∈ (ofWorkersWith given ext).attrs.all, attr.Throughout P := by
  refine List.forall_mem_append.2 ⟨?_, ?_⟩
  · exact AttributeSet.throughout_attrs (List.forall_mem_append.2 ⟨hshared, List.forall_mem_singleton.2 hgiven⟩)
  · show ∀ attr ∈ (Attachment.set ⟨ext, false⟩).attrs ++ [], attr.Throughout P
    rw [List.append_nil]
    exact AttributeSet.throughout_attrs hinner

/-- The extension that numbers the badges of workers. -/
def badge : Extension :=
  ⟨⟨"urn:badge", by decide⟩, "Badge", "", [Attribute.simple ⟨"serial", by decide⟩ .integer {}]⟩

/-- The level of a worker, one of the given canonical ones. -/
def levelAmong (levels : List Json) : Attribute :=
  .simple ⟨"level", by decide⟩ .decimal { canonical := some ⟨levels, true⟩ }

/-- Levels that are kept as they are given make an attribute. -/
theorem levelAmong_made {levels : List Json} (h : levels.map (Attribute.keptCanonical false) = levels) :
    (levelAmong levels).Made := by
  refine @Attribute.Made.simple "level" .decimal (levelAmong levels).traits {} _ (by simp) ?_
  have hname : AttrName.parse "level" = .ok ⟨"level", by decide⟩ := by rfl
  simp only [Attribute.declare, hname, levelAmong, Attribute.simple, Attribute.declaredKind, Attribute.isAlwaysExact,
    Option.map_some, Bool.or_false, h, bind, Except.bind]
  rfl

/-- A schema of workers of a level, with the extension attached. -/
def ofLevels (levels : List Json) : Schema := ofWorkersWith (levelAmong levels) badge

theorem badge_made : ∀ attr ∈ badge.attrs, attr.Made := List.forall_mem_singleton.2 (.of_simple _ (by simp) rfl rfl)

/-- The members of a worker of the first level. -/
def ofFirstLevel : List (String × Json) :=
  [("schemas", .list [.text "urn:worker", .text "URN:Badge"]), ("LEVEL", .number (.int 1)),
    ("urn:badge", .object [("serial", .number (.int 7)), ("colour", .text "red")])]

theorem separateKeys_ofLevels (levels : List Json) : (ofLevels levels).attrs.SeparateKeys := by
  have hown : Attributes.DistinctNames (ofLevels levels).attrs.own.attrs := by
    refine List.pairwise_map.1 (?_ : List.Nodup _)
    show List.Nodup [lower "schemas", lower "id", lower "externalId", lower "meta", lower "level"]
    decide +kernel
  refine ⟨fun set hset => ?_, ?_⟩
  · rcases List.mem_cons.1 hset with rfl | hset
    · exact hown
    · rw [List.mem_singleton.1 hset]
      exact List.pairwise_singleton _ _
  · show List.Nodup [lower "schemas", lower "id", lower "externalId", lower "meta", lower "level", lower "urn:badge"]
    decide +kernel

/-- A worker of a level that is canonical as an integer and as a double is converted to one with whom nothing is wrong. -/
theorem convert_keeps_clean_badge :
    let schema := ofLevels [.number (.int 1), .number (Number.int 1).preferFloat]
    let catalog := workerCatalog badge
    let worker := Record.ofMembers ofFirstLevel
    (schema.Reachable catalog ∧ (∀ attr ∈ schema.attrs.all, attr.Throughout Attribute.Convertible) ∧
        schema.attrs.SeparateKeys) ∧
      (schema.validate catalog worker).1.hasViolations [] = false ∧
      ∀ direction, ∃ converted, schema.convert direction worker = .ok converted ∧
        (schema.validate catalog converted).1.hasViolations [] = false := by
  intro schema catalog worker
  have hlevels : ∀ path, ((levelAmong [.number (.int 1), .number (Number.int 1).preferFloat]).bindTo path).Throughout
      Attribute.Convertible := by
    intro path
    refine .of_simple (Attribute.kind_ne_complex rfl) (.of_simple rfl rfl ?_)
    intro _ canonical hcanonical _ n hn
    cases hcanonical
    refine ⟨(Number.int 1).preferFloat, by simp, ?_⟩
    have hone : n = .int 1 ∨ n = (Number.int 1).preferFloat := by simpa using hn
    rcases hone with rfl | rfl <;> decide +kernel
  have hattrs : ∀ attr ∈ schema.attrs.all, attr.Throughout Attribute.Convertible :=
    throughout_ofWorkersWith sharedAttributes_convertible hlevels
      (List.forall_mem_singleton.2 fun path => .convertible_of_simple rfl rfl rfl)
  have hreachable : schema.Reachable catalog :=
    ofWorkersWith_reachable (levelAmong_made rfl) badge_made (by rfl) (by rfl) (by rfl)
  have hvalid : (schema.validate catalog worker).1.hasViolations [] = false := by decide +kernel
  exact ⟨⟨hreachable, hattrs, separateKeys_ofLevels _⟩, hvalid,
    schema.convert_keeps_clean catalog hattrs (separateKeys_ofLevels _) ofFirstLevel hvalid⟩

/-- A schema of workers of the first or the second level, numbered by integers. -/
def ofTwoLevels : Schema := ofLevels [.number (.int 1), .number (.int 2)]

/-- A level that is canonical as an integer is taken before the conversion and refused after it. -/
theorem integer_for_double_refused :
    ¬ ∀ (schema : Schema) (catalog : Catalog), schema.Reachable catalog → schema.attrs.SeparateKeys →
      (∀ attr ∈ schema.attrs.all, attr.Throughout Attribute.Plain) → schema.KeepsClean catalog := by
  intro hall
  have hreachable : ofTwoLevels.Reachable (workerCatalog badge) :=
    ofWorkersWith_reachable (levelAmong_made rfl) badge_made (by rfl) (by rfl) (by rfl)
  have hsimple : ∀ {attr : Attribute}, attr.hooks = {} → attr.isComplex = false →
      attr.Throughout Attribute.Plain := fun hhooks hsimple =>
    .of_simple (Attribute.kind_ne_complex hsimple) (.of_simple hhooks hsimple)
  have hplain : ∀ attr ∈ ofTwoLevels.attrs.all, attr.Throughout Attribute.Plain :=
    throughout_ofWorkersWith
      (fun attr hattr path => (sharedAttributes_convertible attr hattr path).imp fun _ h => h.toPlain)
      (fun path => hsimple rfl rfl) (List.forall_mem_singleton.2 fun path => hsimple rfl rfl)
  have hrefused : (ofTwoLevels.convert .serialize (Record.ofMembers ofFirstLevel)).toOption.map (fun converted =>
      (ofTwoLevels.validate (workerCatalog badge) converted).1.hasViolations []) = some true := by
    decide +kernel
  exact not_keepsClean (by decide +kernel) hrefused
    (hall ofTwoLevels (workerCatalog badge) hreachable (separateKeys_ofLevels _) hplain)

/-- The extension that goes by the name of an own attribute of `ofStaff`. -/
def staffRanks : Extension :=
  ⟨⟨"staff", by decide⟩, "Staff", "", [Attribute.simple ⟨"rank", by decide⟩ .decimal {}]⟩

/-- What is known of a worker among the staff. -/
def staffRank : Attribute :=
  .simple ⟨"staff", by decide⟩ (.complex [.simple ⟨"rank", by decide⟩ .integer {}]) {}

/-- A schema of workers of a rank among the staff, with the extension attached that gives it as another number. -/
def ofStaff : Schema := ofWorkersWith staffRank staffRanks

theorem ofStaff_reachable : ofStaff.Reachable (workerCatalog staffRanks) := by
  have hmade : staffRank.Made := by
    refine @Attribute.Made.complex "staff" [.simple ⟨"rank", by decide⟩ .integer {}] {} {} _ ?_ (by rfl)
    exact List.forall_mem_singleton.2 (.of_simple _ (by simp) rfl rfl)
  have hinner : ∀ attr ∈ staffRanks.attrs, attr.Made := List.forall_mem_singleton.2 (.of_simple _ (by simp) rfl rfl)
  exact ofWorkersWith_reachable hmade hinner (by rfl) (by rfl) (by rfl)

/-- The members of a worker of a rank. -/
def staffMembers : List (String × Json) :=
  [("schemas", .list [.text "urn:worker", .text "staff"]), ("staff", .object [("rank", .number (.int 4))])]

/-- An extension that goes by the name of an own attribute converts the values of that attribute as its own. -/
theorem extension_for_attribute_refused :
    ¬ ∀ (schema : Schema) (catalog : Catalog), schema.Reachable catalog →
      (∀ attr ∈ schema.attrs.all, attr.Throughout Attribute.Convertible) → schema.KeepsClean catalog := by
  intro hall
  have hstaff : ∀ path, (staffRank.bindTo path).Throughout Attribute.Convertible := by
    intro path
    refine .intro ⟨⟨List.forall_mem_nil _, rfl, rfl, fun _ _ => rfl⟩, ?_, fun subs hkind => ?_⟩ fun subs hkind => ?_
    · intro hkind
      cases hkind
    · cases hkind
      exact List.pairwise_singleton _ _
    · cases hkind
      exact List.forall_mem_singleton.2 (.convertible_of_simple rfl rfl rfl)
  have hattrs : ∀ attr ∈ ofStaff.attrs.all, attr.Throughout Attribute.Convertible :=
    throughout_ofWorkersWith sharedAttributes_convertible hstaff
      (List.forall_mem_singleton.2 fun path => .convertible_of_simple rfl rfl rfl)
  have hrefused : (ofStaff.convert .serialize (Record.ofMembers staffMembers)).toOption.map (fun converted =>
      (ofStaff.validate (workerCatalog staffRanks) converted).1.hasViolations []) = some true := by
    decide +kernel
  exact not_keepsClean (by decide +kernel) hrefused
    (hall ofStaff (workerCatalog staffRanks) ofStaff_reachable hattrs)

end Schema

end Scim
