import Scim.Proofs.Schema.Attached
import Scim.Proofs.Schema.Conversion

/-!
# What a resource is converted to

Conversion writes one attribute after the other into a new record, below an identifier for those of an extension, and
each of these writes could fail.  None does, and the record that they leave can be said at once: the own attributes
that have a value, in the order of their declaration, and then one record for each extension that has such
attributes.  Records within it are rebuilt in the same way, from the sub-attributes that are declared.

This asks for two things.  The extensions have to be registered as such where the schema is, which they are if they
were declared there; and none of them may go by the name of an own attribute, as it would be written over.

## Main results

* `Schema.Reachable.separateKeys`: no two values of attributes are stored under one key.
* `Attribute.rebuilds_of_wellNamed`: what a complex attribute does to the records it is given.
* `Schema.output_is_declared`: the whole statement.
-/

namespace Scim

open Text

/-! ## Rebuilt records -/

namespace Attribute

/-- A record rebuilt from declared sub-attributes; every other value stays. -/
def rebuilt (direction : Direction) (subs : Attributes) : Value → Value
  | .record entries => .record (convertedEntries direction (fun sub => Record.value entries sub.name.text) subs)
  | value => value

/-- A complex attribute without a conversion of a service rebuilds the records that it is given, and does so item by
item if it is multi-valued and is given a list. -/
def Rebuilds (direction : Direction) (attr : Attribute) : Prop :=
  attr.hooks.conversion? direction = none → ∀ subs, attr.kind = .complex subs →
    (∀ items, attr.traits.multiValued = true →
      attr.convert direction (.list items) = .list (items.map (rebuilt direction subs))) ∧
    ∀ value, (attr.traits.multiValued = true → value.list? = none) →
      attr.convert direction value = rebuilt direction subs value

theorem convertItem_complex {direction : Direction} {subs : Attributes} (hnames : subs.DistinctNames) (value : Value) :
    (Kind.complex subs).convertItem direction value = rebuilt direction subs value := by
  cases value with
  | record entries => rw [Kind.convertItem, convertSubs_eq hnames, rebuilt]
  | _ => rfl

/-- An attribute whose names differ rebuilds records, and so do its sub-attributes, at every depth. -/
theorem rebuilds_of_wellNamed {attr : Attribute} (h : attr.WellNamed) (direction : Direction) :
    attr.Throughout (Rebuilds direction) := by
  refine h.imp fun attr hnames hnone subs hkind => ?_
  have hitem : attr.kind.convertItem direction = rebuilt direction subs := by
    rw [hkind]
    exact funext (convertItem_complex (hnames subs hkind))
  constructor
  · intro items hmulti
    rcases convert_eq hnone (.list items) with ⟨others, -, hlist, hconvert⟩ | ⟨hneither, -⟩
    · cases hlist
      rw [hconvert, hitem]
    · exact absurd ⟨hmulti, items, rfl⟩ hneither
  · intro value hvalue
    rcases convert_eq hnone value with ⟨items, hmulti, rfl, -⟩ | ⟨-, hconvert⟩
    · cases hvalue hmulti
    · rw [hconvert, hitem]

end Attribute

/-! ## Values of different attributes -/

namespace Schema

variable {catalog : Catalog} {schema : Schema}

namespace Reachable

/-- The values are stored under the names of the own attributes and the identifiers of the attachments. -/
theorem keys_eq (h : schema.Reachable catalog) :
    schema.attrs.sets.flatMap AttributeSet.keys = (schema.attrs.own.attrs.map fun attr => attr.name.folded) ++
      schema.attachments.map fun attachment => attachment.extension.uri.folded := by
  have hextensions : (schema.attachments.map Attachment.set).flatMap AttributeSet.keys =
      schema.attachments.map fun attachment => attachment.extension.uri.folded := by
    rw [List.flatMap_map, List.map_eq_flatMap]
    rfl
  have hown : schema.attrs.own.keys = schema.attrs.own.attrs.map fun attr => attr.name.folded := by
    rw [AttributeSet.keys, h.own]
    rfl
  rw [SchemaAttributes.sets, h.extensions, List.flatMap_cons, hown, hextensions]

/-- No two values of attributes are stored under one key, if no extension goes by the name of an own attribute. -/
theorem separateKeys (h : schema.Reachable catalog)
    (hnames : ∀ attr ∈ schema.attrs.own.attrs, ∀ attachment ∈ schema.attachments,
      attr.name.folded ≠ attachment.extension.uri.folded) : schema.attrs.SeparateKeys := by
  have hsets : ∀ set ∈ schema.attrs.sets, set.attrs.DistinctNames := fun set hset =>
    (h.attrs.wellFormed set hset).distinctNames_attrs
  refine ⟨hsets, ?_⟩
  have huris : (schema.attachments.map fun attachment => attachment.extension.uri.folded).Nodup := by
    have hdistinct := h.attrs.built.distinctSchemas
    rw [SchemaAttributes.DistinctSchemas, SchemaAttributes.sets, h.extensions, List.map_cons,
      List.map_map] at hdistinct
    exact (List.nodup_cons.1 hdistinct).2
  rw [h.keys_eq]
  refine List.nodup_append'.2 ⟨Attributes.distinctNames_iff_nodup.1 (hsets _ List.mem_cons_self), huris, ?_⟩
  intro key hname huri
  obtain ⟨attr, hattr, rfl⟩ := List.mem_map.1 hname
  obtain ⟨attachment, hattachment, hsame⟩ := List.mem_map.1 huri
  exact hnames attr hattr attachment hattachment hsame.symm

end Reachable

/-! ## The output -/

/-- What is written depends on nothing but the values of the declared attributes. -/
theorem convertAll_congr {direction : Direction} {record other : Record} {attrs : List Attribute}
    (h : ∀ attr ∈ attrs, record.get (Place.ofPath attr.path) = other.get (Place.ofPath attr.path))
    (converted : Record) :
    convertAll direction record attrs converted = convertAll direction other attrs converted := by
  induction attrs generalizing converted with
  | nil => rfl
  | cons attr attrs ih =>
    obtain ⟨hfirst, hrest⟩ := List.forall_mem_cons.1 h
    simp only [convertAll, hfirst, ih hrest]

/-- A resource is converted, whatever it holds, to the entries of the own attributes that have a value, followed by a
record for each attachment with the entries of its attributes, if one of them has a value.  The records within are
rebuilt from what is declared for them, at every depth.  And resources that have the same values under all declared
paths are converted to the same. -/
theorem output_is_declared (catalog : Catalog) (schema : Schema) (h : schema.Reachable catalog)
    (hnames : ∀ attr ∈ schema.attrs.own.attrs, ∀ attachment ∈ schema.attachments,
      attr.name.folded ≠ attachment.extension.uri.folded) :
    (schema.attrs.all =
      schema.attrs.own.attrs ++ schema.attachments.flatMap fun attachment => attachment.set.attrs) ∧
    (∀ direction record, schema.convert direction record = .ok (schema.attrs.own.entries direction record ++
      schema.attachments.flatMap fun attachment =>
        Record.wrapped attachment.extension.uri (attachment.set.entries direction record))) ∧
    (∀ direction, ∀ attr ∈ schema.attrs.all, attr.Throughout (Attribute.Rebuilds direction)) ∧
    ∀ direction (record other : Record),
      (∀ attr ∈ schema.attrs.all, record.get (Place.ofPath attr.path) = other.get (Place.ofPath attr.path)) →
      schema.convert direction record = schema.convert direction other := by
  refine ⟨h.all_eq, ?_, ?_, fun direction record other hsame => convertAll_congr hsame []⟩
  · intro direction record
    have hown : schema.attrs.own.converted direction record = schema.attrs.own.entries direction record := by
      rw [AttributeSet.converted, h.own]
      rfl
    rw [convert_eq (h.separateKeys hnames), converted, SchemaAttributes.sets, h.extensions, List.flatMap_cons, hown,
      List.flatMap_map]
    rfl
  · intro direction attr hattr
    obtain ⟨set, hset, hmem⟩ := List.mem_flatMap.1 (SchemaAttributes.all_eq schema.attrs ▸ hattr)
    exact Attribute.rebuilds_of_wellNamed ((h.attrs.wellFormed set hset).wellNamed_of_mem hmem) direction

/-- The name that members go by, under an identifier of its own. -/
def memberNames : Extension :=
  ⟨SchemaAttributes.memberUri, "Member", "", [SchemaAttributes.memberName]⟩

/-- People, whose names have two parts. -/
def ofPeople : Schema where
  name := "Person"
  endpoint := "/Person"
  description := ""
  attrs :=
    { own :=
        { schema := SchemaAttributes.personUri, extension := false,
          declared := sharedAttributes ++ [SchemaAttributes.nameInParts], shared := sharedNames.map lower } }

/-- People, some of whom are members. -/
def ofMembers : Schema :=
  { ofPeople with
    attrs := { ofPeople.attrs with extensions := [Attachment.set ⟨memberNames, false⟩] }
    attachments := [⟨memberNames, false⟩] }

/-- What is known of a member, some of it not declared. -/
def givenMember : Record :=
  [("urn:member", .record [("NAME", .text "Ada"), ("since", .text "1842")]), ("shoes", .number (.int 2)),
    ("NAME", .record [("nick", .null), ("Given", .text "Ada")])]

theorem output_is_declared_of_members :
    ∃ catalog, ofMembers.Reachable catalog ∧
      ofMembers.convert .serialize givenMember = .ok
        [("name", .record [("given", .text "Ada")]), ("urn:member", .record [("Name", .text "Ada")])] := by
  let people : Catalog :=
    { schemas := [⟨SchemaAttributes.personUri, false⟩], resources := [⟨"Person", "/Person"⟩] }
  have hpeople : declare {} "urn:person" "Person" none "" [SchemaAttributes.nameInParts] = .ok (people, ofPeople) := by
    rfl
  let members : Catalog := { people with schemas := people.schemas ++ [⟨memberNames.uri, true⟩] }
  have hadded : people.addSchema "urn:member" true = .ok (members, memberNames.uri) := by rfl
  have hdeclared : Extension.declare people "urn:member" "Member" "" [SchemaAttributes.memberName] =
      .ok (members, memberNames) := by
    simp only [Extension.declare, hadded, bind, Except.bind]
    rfl
  have hattached : ofPeople.attach members memberNames false = .ok ofMembers := by
    have hset := AttributeSet.declare_registered (Catalog.entry?_of_addSchema hadded) memberNames.attrs []
    have hapart : (memberNames.uri == ofPeople.attrs.own.schema) = false := by decide +kernel
    simp only [attach, SchemaAttributes.extend, hset, hapart, bind, Except.bind]
    rfl
  have hreachable : ofMembers.Reachable members :=
    reachable_with_extension (List.forall_mem_singleton.2 SchemaAttributes.nameInParts_made)
      (List.forall_mem_singleton.2 SchemaAttributes.memberName_made) hpeople hdeclared hattached
  have hnames : ∀ attr ∈ ofMembers.attrs.own.attrs, ∀ attachment ∈ ofMembers.attachments,
      attr.name.folded ≠ attachment.extension.uri.folded := by decide +kernel
  refine ⟨members, hreachable, ?_⟩
  rw [(output_is_declared members ofMembers hreachable hnames).2.1]
  rfl

end Schema

end Scim
