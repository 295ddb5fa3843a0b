import Scim.Proofs.Schema.KeyByKey
import Scim.Proofs.Schema.Output

/-!
# Converting resources a second time

A resource that was converted is left alone by a second conversion, and it does not matter which of the two directions
was taken.  As a resource is converted key by key, this has to be seen of the values under one key.  Where an
extension goes by the name of an own attribute, two conversions are at work there, one after the other.  The entries
of the extension are read from what they became the first time, so they stay; and the own attribute rebuilds the
record, but what it makes of those entries they replace again.

That is also what is wrong with such names.  An integer under the own attribute is not one any more if the extension
has a decimal attribute of the name.  Everywhere else the numbers under integer attributes keep their exact values.

## Main results

* `SchemaAttributes.convertAt_convertAt`: the values under a key are settled after one conversion.
* `Schema.get_rebuilt`: under the path of an attribute stands its converted value.
* `Schema.conversion_settles`: the whole statement.
* `Schema.integer_under_extension_lost`: an integer that is not kept.
-/

namespace Scim

open Text

variable {direction : Direction} {record : Record}

/-! ## Reading from a value that was converted -/

theorem Record.subOf_eq_value (value : Value) (name : AttrName) :
    subOf name value = Record.value (value.record?.getD []) name.text := by
  cases value <;> rfl

/-- What is not there is not there in the reduced value. -/
theorem Value.Reduced.isMissing_subOf {value other : Value} (h : Reduced value other) {name : AttrName}
    (hmissing : (Record.subOf name value).isMissing = true) : (Record.subOf name other).isMissing = true := by
  cases other with
  | record others =>
    obtain ⟨entries, rfl⟩ := h.of_record
    by_contra hstored
    have hvalue := @value_of_stored _ _ h name.text (Bool.eq_false_iff.2 hstored)
    rw [show Record.value entries name.text = .missing from Value.eq_missing hmissing] at hvalue
    -- nothing but itself is reduced from what is missing
    generalize hother : Record.value others name.text = other at hvalue
    cases hvalue with
    | same => exact hstored (by rw [Record.subOf, hother]; rfl)
  | _ => rfl

namespace AttributeSet

variable {set : AttributeSet}

/-- What is read of an extension after its entries were written: its converted values, and where there are none, no
other ones. -/
theorem subOf_overlaid (hnames : set.attrs.DistinctNames) (hsettles : ∀ attr ∈ set.attrs, attr.Settles direction)
    {value base : Value} (hbase : ∀ name, (Record.subOf name value).isMissing = true →
      (Record.subOf name base).isMissing = true) {attr : Attribute} (hattr : attr ∈ set.attrs) :
    Record.subOf attr.name (base.overlaid (set.within direction value)) =
      attr.convert direction (Record.subOf attr.name value) := by
  have hwritten : Record.value (set.within direction value) attr.name.text =
      attr.convert direction (Record.subOf attr.name value) :=
    value_convertedEntries hnames hattr (hsettles attr hattr).of_missing
  have hnone : (Record.subOf attr.name value).isMissing = true →
      attr.convert direction (Record.subOf attr.name value) = Record.subOf attr.name base := fun hmissing => by
    rw [Value.eq_missing hmissing, (hsettles attr hattr).of_missing, Value.eq_missing (hbase _ hmissing)]
  by_cases hwithin : set.within direction value = []
  · rw [hwithin]
    exact (hnone (isMissing_of_within hwithin hattr)).symm
  · rw [Value.overlaid, if_neg (by rwa [List.isEmpty_iff])]
    show Record.value _ attr.name.text = _
    rw [Record.value, Entries.get?_overlaid]
    cases hget : (set.within direction value).get? attr.name.text with
    | some written =>
      rw [← hwritten, Record.value, hget]
      rfl
    | none =>
      rw [Record.value, hget] at hwritten
      have hmissing : (Record.subOf attr.name value).isMissing = true := by
        rw [← (hsettles attr hattr).missing, ← hwritten]
        rfl
      rw [hnone hmissing, Record.subOf_eq_value, Record.value]
      rfl

/-- So the entries of the extension are the same when they are read again. -/
theorem within_overlaid (hnames : set.attrs.DistinctNames) (hsettles : ∀ attr ∈ set.attrs, attr.Settles direction)
    {value base : Value} (hbase : ∀ name, (Record.subOf name value).isMissing = true →
      (Record.subOf name base).isMissing = true) :
    set.within direction (base.overlaid (set.within direction value)) = set.within direction value :=
  convertedEntries_again hsettles fun _ hattr => subOf_overlaid hnames hsettles hbase hattr

end AttributeSet

/-! ## The values under a key -/

/-- Leaving out entries by their keys is leaving out the attributes of these names. -/
theorem filter_convertedEntries (keep : String → Bool) (read : Attribute → Value) (attrs : List Attribute) :
    ((convertedEntries direction read attrs).filter fun entry => keep entry.1) =
      convertedEntries direction read (attrs.filter fun attr => keep attr.name.text) := by
  rw [convertedEntries, convertedEntries, List.filter_filterMap, List.filterMap_filter]
  refine List.filterMap_congr fun attr _ => ?_
  cases (read attr).isMissing <;> cases hkeep : keep attr.name.text <;> simp [hkeep]

namespace Attribute

variable {attr : Attribute}

/-- Sub-attributes that other entries do not stand for are converted as before. -/
theorem convertedEntries_overlaid {subs : List Attribute} (hnames : Attributes.DistinctNames subs)
    (hsettles : ∀ sub ∈ subs, sub.Settles direction) (entries more : Record) :
    let converted := convertedEntries direction (fun sub => Record.value entries sub.name.text) subs
    Entries.overlaid (convertedEntries direction
      (fun sub => Record.value (Entries.overlaid converted more) sub.name.text) subs) more =
        Entries.overlaid converted more := by
  intro converted
  refine congrArg (· ++ more) ?_
  rw [filter_convertedEntries fun key => !more.any (Entries.hasKey key),
    filter_convertedEntries fun key => !more.any (Entries.hasKey key)]
  refine convertedEntries_again (fun sub hsub => hsettles sub (List.mem_filter.1 hsub).1) fun sub hsub => ?_
  obtain ⟨hmem, hunused⟩ := List.mem_filter.1 hsub
  have hnone : more.get? sub.name.text = none := by
    rwa [Entries.any_hasKey_eq, Bool.not_eq_true', Option.isSome_eq_false_iff, Option.isNone_iff_eq_none] at hunused
  rw [Record.value, Entries.get?_overlaid, hnone, Option.none_or]
  exact value_convertedEntries hnames hmem (hsettles sub hmem).of_missing

/-- An attribute that is given its record back with some entries overlaid makes of them what it wants, but the others
it leaves alone. -/
theorem convert_overlaid (h : attr.Throughout Structural) (entries : Record) {more : Record} (hmore : more ≠ []) :
    (attr.convert direction ((attr.convert direction (.record entries)).overlaid more)).overlaid more =
      (attr.convert direction (.record entries)).overlaid more := by
  obtain ⟨here, below⟩ := h
  have hcases := convert_record_cases (here.conversion? direction)
  rcases hcases entries with ⟨subs, hkind, hconvert⟩ | ⟨hplain, hconvert⟩
  · have hnames := here.names subs hkind
    have hsettles : ∀ sub ∈ subs, sub.Settles direction := fun sub hsub => settles (below subs hkind sub hsub) direction
    rw [hconvert, Value.overlaid_record _ hmore]
    rcases hcases (Entries.overlaid (convertSubs direction subs entries []) more) with
      ⟨others, hsame, hagain⟩ | ⟨hplain, -⟩
    · rw [hkind] at hsame
      cases hsame
      rw [hagain, Value.overlaid_record _ hmore, convertSubs_eq hnames, convertSubs_eq hnames,
        convertedEntries_overlaid hnames hsettles]
    · exact absurd hkind (hplain subs)
  · rw [hconvert, Value.overlaid_record _ hmore]
    rcases hcases (Entries.overlaid entries more) with ⟨subs, hkind, -⟩ | ⟨-, hagain⟩
    · exact absurd hkind (hplain subs)
    · rw [hagain, Value.overlaid_record _ hmore, Entries.overlaid_overlaid]

end Attribute

namespace SchemaAttributes

variable {attrs : SchemaAttributes}

theorem structural_of_ownAt? (hattrs : ∀ attr ∈ attrs.all, attr.Throughout Attribute.Structural) {key : String}
    {attr : Attribute} (hat : attrs.ownAt? key = some attr) : attr.Throughout Attribute.Structural :=
  hattrs attr (List.mem_append_left _ (List.mem_of_find?_eq_some hat))

theorem structural_of_mem (hattrs : ∀ attr ∈ attrs.all, attr.Throughout Attribute.Structural) {set : AttributeSet}
    (hset : set ∈ attrs.extensions) {attr : Attribute} (hattr : attr ∈ set.attrs) :
    attr.Throughout Attribute.Structural :=
  hattrs attr (List.mem_append_right _ (List.mem_flatMap.2 ⟨set, hset, hattr⟩))

/-- What is not there under a key is not there in the converted value of the own attribute. -/
theorem isMissing_ownValue (hattrs : ∀ attr ∈ attrs.all, attr.Throughout Attribute.Structural) {key : String}
    {value : Value} {name : AttrName} (hmissing : (Record.subOf name value).isMissing = true) :
    (Record.subOf name (attrs.ownValue direction key value)).isMissing = true := by
  cases hat : attrs.ownAt? key with
  | none =>
    rw [ownValue_of_none hat]
    rfl
  | some attr =>
    rw [ownValue_of_some hat]
    exact (Attribute.convert_reduced (structural_of_ownAt? hattrs hat) value).isMissing_subOf hmissing

/-- If there are entries for an extension, the value is a record. -/
theorem exists_record_of_extensionEntries {key : String} {value : Value}
    (h : attrs.extensionEntries direction key value ≠ []) : ∃ entries : Record, value = .record entries := by
  unfold extensionEntries at h
  split at h
  · exact AttributeSet.exists_record_of_within h
  · exact absurd rfl h

/-- The values under a key are settled after one conversion. -/
theorem convertAt_convertAt (h : attrs.Layered) (hattrs : ∀ attr ∈ attrs.all, attr.Throughout Attribute.Structural)
    (key : String) (value : Value) :
    attrs.convertAt direction key (attrs.convertAt direction key value) = attrs.convertAt direction key value := by
  have hbase := fun name => @isMissing_ownValue direction attrs hattrs key value name
  -- the entries of the extension are read from themselves
  have hentries : attrs.extensionEntries direction key (attrs.convertAt direction key value) =
      attrs.extensionEntries direction key value := by
    rw [convertAt, extensionEntries, extensionEntries]
    cases hat : attrs.extensionAt? key with
    | none => rfl
    | some set =>
      have hset := List.mem_of_find?_eq_some hat
      exact AttributeSet.within_overlaid (h.names set (List.mem_cons_of_mem _ hset))
        (fun attr hattr => Attribute.settles (structural_of_mem hattrs hset hattr) direction) hbase
  rw [convertAt, hentries, convertAt]
  cases hat : attrs.ownAt? key with
  | none => rw [ownValue_of_none hat, ownValue_of_none hat]
  | some attr =>
    rw [ownValue_of_some hat, ownValue_of_some hat]
    by_cases hnone : attrs.extensionEntries direction key value = []
    · rw [hnone]
      exact (Attribute.settles (structural_of_ownAt? hattrs hat) direction).again value
    · obtain ⟨entries, rfl⟩ := exists_record_of_extensionEntries hnone
      exact Attribute.convert_overlaid (structural_of_ownAt? hattrs hat) entries hnone

/-- So is the whole record. -/
theorem rebuilt_rebuilt (h : attrs.Layered) (hattrs : ∀ attr ∈ attrs.all, attr.Throughout Attribute.Structural)
    (record : Record) : attrs.rebuilt direction (attrs.rebuilt direction record) = attrs.rebuilt direction record := by
  refine Record.keyed_congr fun key _ => ?_
  rw [value_rebuilt h, convertAt_convertAt h hattrs]

/-! ## The values of attributes -/

/-- No extension goes by the name of the attribute, unless it is one of an extension itself. -/
def Apart (attrs : SchemaAttributes) (attr : Attribute) : Prop :=
  attr ∈ attrs.own.attrs → ∀ set ∈ attrs.extensions, set.schema.folded ≠ attr.name.folded

theorem extensionAt?_of_mem (h : attrs.Layered) {set : AttributeSet} (hset : set ∈ attrs.extensions) :
    attrs.extensionAt? set.schema.text = some set := by
  cases hfound : attrs.extensionAt? set.schema.text with
  | none => exact absurd (beq_iff_eq.2 rfl) (List.find?_eq_none.1 hfound set hset)
  | some found =>
    have hhit := List.find?_some hfound
    rw [List.inj_on_of_nodup_map h.schemas (List.mem_of_find?_eq_some hfound) hset (beq_iff_eq.1 hhit)]

/-- Under the path of an attribute stands its converted value. -/
theorem get_rebuilt (h : attrs.Layered) (hattrs : ∀ attr ∈ attrs.all, attr.Throughout Attribute.Structural)
    {attr : Attribute} (hattr : attr ∈ attrs.all) (hapart : attrs.Apart attr) (record : Record) :
    (attrs.rebuilt direction record).get (Place.ofPath attr.path) =
      attr.convert direction (record.get (Place.ofPath attr.path)) := by
  rcases List.mem_append.1 hattr with hown | hextension
  · have hread : ∀ record : Record, record.get (Place.ofPath attr.path) = record.value attr.name.text := by
      intro record
      rw [AttributeSet.place_of_mem hown, h.own]
      exact record.getAttr_name attr.name
    have hnone : attrs.extensionAt? attr.name.text = none :=
      List.find?_eq_none.2 fun set hset hhit => hapart hown set hset (beq_iff_eq.1 hhit)
    rw [hread, hread, value_rebuilt h, convertAt, ownValue_of_some (ownAt?_of_mem h hown), extensionEntries, hnone]
    rfl
  · obtain ⟨set, hset, hmem⟩ := List.mem_flatMap.1 hextension
    have hread : ∀ record : Record, record.get (Place.ofPath attr.path) =
        Record.subOf attr.name (record.value set.schema.text) := by
      intro record
      rw [AttributeSet.place_of_mem hmem, if_pos (h.extensions set hset), Record.get_extension_eq]
    rw [hread, hread, value_rebuilt h, convertAt, extensionEntries, extensionAt?_of_mem h hset]
    exact AttributeSet.subOf_overlaid (h.names set (List.mem_cons_of_mem _ hset))
      (fun attr hattr => Attribute.settles (structural_of_mem hattrs hset hattr) direction)
      (fun _ => isMissing_ownValue hattrs) hmem

end SchemaAttributes

/-! ## Resources -/

namespace Schema

variable {schema : Schema}

theorem Reachable.layered {catalog : Catalog} (h : schema.Reachable catalog) : schema.attrs.Layered where
  own := h.own
  extensions := by
    rw [h.extensions, List.forall_mem_map]
    exact fun _ _ => rfl
  names := fun set hset => (h.attrs.wellFormed set hset).distinctNames_attrs
  schemas := by
    have hdistinct := h.attrs.built.distinctSchemas
    rw [SchemaAttributes.DistinctSchemas, SchemaAttributes.sets, List.map_cons] at hdistinct
    exact (List.nodup_cons.1 hdistinct).2

theorem Reachable.structural {catalog : Catalog} (h : schema.Reachable catalog)
    (hattrs : ∀ attr ∈ schema.attrs.all, attr.Throughout Attribute.Unhooked) :
    ∀ attr ∈ schema.attrs.all, attr.Throughout Attribute.Structural := by
  intro attr hattr
  obtain ⟨set, hset, hmem⟩ := List.mem_flatMap.1 (SchemaAttributes.all_eq schema.attrs ▸ hattr)
  exact Attribute.structural ((h.attrs.wellFormed set hset).wellNamed_of_mem hmem) (hattrs attr hattr)

/-- Both directions write the same. -/
theorem convertAll_direction {attrs : List Attribute} (hattrs : ∀ attr ∈ attrs, attr.Throughout Attribute.Unhooked)
    (direction other : Direction) (record converted : Record) :
    convertAll other record attrs converted = convertAll direction record attrs converted := by
  induction attrs generalizing converted with
  | nil => rfl
  | cons attr attrs ih =>
    obtain ⟨hfirst, hrest⟩ := List.forall_mem_cons.1 hattrs
    simp only [convertAll, Attribute.convert_direction hfirst direction other, ih hrest]

/-- What both directions make of a resource, which either of them leaves alone. -/
structure SettlesAs (schema : Schema) (record converted : Record) : Prop where
  same : ∀ direction, schema.convert direction record = .ok converted
  again : ∀ direction, schema.convert direction converted = .ok converted

/-- Under an attribute the second resource has, for the numbers under integer types, what such a type makes of those
in the first. -/
def KeepsIntegers (attr : Attribute) (record converted : Record) : Prop :=
  ∀ location, Option.Rel Number.AsInteger (attr.integerAt? (record.get (Place.ofPath attr.path)) location)
    (attr.integerAt? (converted.get (Place.ofPath attr.path)) location)

theorem settlesAs (h : schema.attrs.Layered)
    (hattrs : ∀ attr ∈ schema.attrs.all, attr.Throughout Attribute.Structural) (record : Record) :
    schema.SettlesAs record (schema.attrs.rebuilt .serialize record) := by
  have hunhooked : ∀ attr ∈ schema.attrs.all, attr.Throughout Attribute.Unhooked := fun attr hattr =>
    (hattrs attr hattr).imp fun _ hone => hone.toUnhooked
  have hconvert : ∀ direction record,
      schema.convert direction record = .ok (schema.attrs.rebuilt .serialize record) := by
    intro direction record
    have hown : ∀ attr ∈ schema.attrs.own.attrs, attr.hooks.conversion? .serialize = none := by
      intro attr hattr
      obtain ⟨here, -⟩ := hunhooked attr (List.mem_append_left _ hattr)
      exact here.conversion? .serialize
    rw [← convert_eq_keyed h hown record]
    exact convertAll_direction hunhooked .serialize direction record []
  refine ⟨fun direction => hconvert direction record, fun direction => ?_⟩
  rw [hconvert direction, SchemaAttributes.rebuilt_rebuilt h hattrs]

/-- Without conversions of a service, both directions make the same of the values of an attribute and of a resource,
and leave it alone when they are given it again.  The numbers under integer types keep their exact values, integers as
they are, doubles as integers if they can be, and other doubles as they are, wherever no extension goes by the name of
the attribute. -/
theorem conversion_settles (catalog : Catalog) (schema : Schema) (hreachable : schema.Reachable catalog)
    (hunhooked : ∀ attr ∈ schema.attrs.all, attr.Throughout Attribute.Unhooked) :
    (∀ attr : Attribute, attr.Made → attr.Throughout Attribute.Unhooked → ∀ value, ∃ converted,
      attr.SettlesAs value converted) ∧
    ∀ record, ∃ converted, schema.SettlesAs record converted ∧
      ∀ attr ∈ schema.attrs.all, schema.attrs.Apart attr → KeepsIntegers attr record converted := by
  constructor
  · intro attr hmade hunhooked value
    exact ⟨_, Attribute.settlesAs (Attribute.structural hmade.wellNamed hunhooked) value⟩
  · intro record
    have hattrs := hreachable.structural hunhooked
    refine ⟨_, settlesAs hreachable.layered hattrs record, fun attr hattr hapart location => ?_⟩
    rw [SchemaAttributes.get_rebuilt hreachable.layered hattrs hattr hapart]
    exact Attribute.integers_convert (hattrs attr hattr) _ location

/-! ## Sailors and their grades -/

/-- The grade of a sailor in the crew. -/
def gradedCrew : Attribute :=
  .simple ⟨"crew", by decide⟩ (.complex [.simple ⟨"grade", by decide⟩ .integer {}]) {}

/-- Grades that may have fractions, under an identifier. -/
def gradesUnder (uri : SchemaUri) : Extension :=
  ⟨uri, "Grades", "", [.simple ⟨"grade", by decide⟩ .decimal {}]⟩

/-- Sailors with a grade in the crew. -/
def ofSailors : Schema where
  name := "Sailor"
  endpoint := "/Sailor"
  description := ""
  attrs :=
    { own :=
        { schema := ⟨"urn:sailor", by decide⟩, extension := false, declared := sharedAttributes ++ [gradedCrew],
          shared := sharedNames.map lower } }

/-- The same with other grades attached under an identifier. -/
def ofGraded (uri : SchemaUri) : Schema :=
  { ofSailors with
    attrs := { ofSailors.attrs with extensions := [Attachment.set ⟨gradesUnder uri, false⟩] }
    attachments := [⟨gradesUnder uri, false⟩] }

theorem gradedCrew_made : gradedCrew.Made := by
  refine @Attribute.Made.complex "crew" [.simple ⟨"grade", by decide⟩ .integer {}] {} {} _ ?_ (by rfl)
  exact List.forall_mem_singleton.2 (.of_simple _ (by simp) rfl rfl)

/-- Whatever identifier it is that grades are attached under, if it is not that of the schema. -/
theorem ofGraded_reachable {uri : SchemaUri} (hapart : (uri == ofSailors.uri) = false) :
    ∃ catalog, (ofGraded uri).Reachable catalog := by
  let sailors : Catalog := { schemas := [⟨ofSailors.uri, false⟩], resources := [⟨"Sailor", "/Sailor"⟩] }
  let graded : Catalog := { sailors with schemas := sailors.schemas ++ [⟨uri, true⟩] }
  have hsailors : declare {} "urn:sailor" "Sailor" none "" [gradedCrew] = .ok (sailors, ofSailors) := by rfl
  have hadded : sailors.addSchema uri.text true = .ok (graded, uri) := by
    refine Catalog.addSchema_ok.2 ⟨rfl, List.find?_eq_none.2 fun entry hentry hsame => ?_, rfl⟩
    rw [List.mem_singleton.1 hentry] at hsame
    rw [Bool.eq_false_iff, Ne, SchemaUri.beq_iff] at hapart
    exact hapart (SchemaUri.beq_iff.1 hsame).symm
  have hdeclared : Extension.declare sailors uri.text "Grades" "" [.simple ⟨"grade", by decide⟩ .decimal {}] =
      .ok (graded, gradesUnder uri) := by
    simp only [Extension.declare, hadded, bind, Except.bind]
    rfl
  have hattached : ofSailors.attach graded (gradesUnder uri) false = .ok (ofGraded uri) := by
    have hset := AttributeSet.declare_registered (Catalog.entry?_of_addSchema hadded) (gradesUnder uri).attrs []
    have huri : (uri == ofSailors.attrs.own.schema) = false := hapart
    have htext : (gradesUnder uri).uri.text = uri.text := rfl
    simp only [attach, SchemaAttributes.extend, htext, hset, huri, bind, Except.bind]
    rfl
  refine ⟨graded, reachable_with_extension (List.forall_mem_singleton.2 gradedCrew_made)
    (List.forall_mem_singleton.2 ?_) hsailors hdeclared hattached⟩
  exact .of_simple _ (by simp) rfl rfl

theorem ofGraded_unhooked (uri : SchemaUri) : ∀ attr ∈ (ofGraded uri).attrs.all, attr.Throughout Attribute.Unhooked :=
  throughout_of_areUnhooked _ (by rfl)

/-- The own attribute of the grade. -/
def boundCrew : Attribute := gradedCrew.bindTo (ofSailors.attrs.own.pathOf gradedCrew.name)

theorem boundCrew_mem (uri : SchemaUri) : boundCrew ∈ (ofGraded uri).attrs.all :=
  List.mem_append_left _ (List.mem_map.2 ⟨gradedCrew, List.mem_append_right _ (List.mem_singleton.2 rfl), rfl⟩)

/-- A sailor of a grade. -/
def gradedSailor (grade : Number) : Record := [("Crew", .record [("GRADE", .number grade)])]

/-- The grade that a sailor is given by the own attribute. -/
def gradeOf (sailor : Record) : Option Number :=
  boundCrew.integerAt? (sailor.get (Place.ofPath boundCrew.path)) [.key "grade"]

/-- The double that is six. -/
def six : Number := .float { negative := false, exponent := 1025, fraction := 0x8000000000000 }

/-- A grade that is given as a double becomes an integer, and no grade is read as that of another identifier. -/
theorem conversion_settles_of_graded :
    let grades : SchemaUri := ⟨"urn:grades", by decide⟩
    (gradedCrew.Made ∧ gradedCrew.Throughout Attribute.Unhooked ∧
      ∃ converted, gradedCrew.SettlesAs (.record [("GRADE", .number six)]) converted) ∧
    ∃ catalog, (ofGraded grades).Reachable catalog ∧
      (∀ attr ∈ (ofGraded grades).attrs.all, attr.Throughout Attribute.Unhooked) ∧
      (ofGraded grades).attrs.Apart boundCrew ∧
      ∃ converted, (ofGraded grades).SettlesAs (gradedSailor six) converted ∧ gradeOf converted = some (.int 6) := by
  intro grades
  have hunhooked : gradedCrew.Throughout Attribute.Unhooked := by decide +kernel
  obtain ⟨catalog, hreachable⟩ := @ofGraded_reachable grades (by decide +kernel)
  have hapart : (ofGraded grades).attrs.Apart boundCrew := by
    intro _ set hset
    rw [List.mem_singleton.1 hset]
    show lower "urn:grades" ≠ lower "crew"
    decide +kernel
  obtain ⟨hattribute, hschema⟩ := conversion_settles catalog _ hreachable (ofGraded_unhooked grades)
  obtain ⟨converted, hsettles, hintegers⟩ := hschema (gradedSailor six)
  refine ⟨⟨gradedCrew_made, hunhooked, hattribute gradedCrew gradedCrew_made hunhooked _⟩, catalog, hreachable,
    ofGraded_unhooked grades, hapart, converted, hsettles, ?_⟩
  have hgrade : Option.Rel Number.AsInteger (gradeOf (gradedSailor six)) (gradeOf converted) :=
    hintegers boundCrew (boundCrew_mem grades) hapart [.key "grade"]
  have hbefore : gradeOf (gradedSailor six) = some six := by decide +kernel
  rw [hbefore] at hgrade
  generalize gradeOf converted = after at hgrade ⊢
  cases hgrade with
  | some hinteger => exact congrArg some (hinteger.whole _ 6 rfl (by decide +kernel) ⟨by decide, by decide⟩)

/-- An extension that goes by the name of an own attribute reads the integers of that attribute as its own numbers,
and rounds them to doubles. -/
theorem integer_under_extension_lost :
    ¬ ∀ (catalog : Catalog) (schema : Schema), schema.Reachable catalog →
      (∀ attr ∈ schema.attrs.all, attr.Throughout Attribute.Unhooked) → ∀ record, ∃ converted,
        schema.SettlesAs record converted ∧ ∀ attr ∈ schema.attrs.all, KeepsIntegers attr record converted := by
  intro hall
  let crew : SchemaUri := ⟨"crew", by decide⟩
  let sailor : Record := gradedSailor (.int 0x20000000000001)
  obtain ⟨catalog, hreachable⟩ := @ofGraded_reachable crew (by decide +kernel)
  obtain ⟨converted, hsettles, hintegers⟩ := hall catalog _ hreachable (ofGraded_unhooked crew) sailor
  have hgrade : Option.Rel Number.AsInteger (gradeOf sailor) (gradeOf converted) :=
    hintegers boundCrew (boundCrew_mem crew) [.key "grade"]
  have hafter : ((ofGraded crew).convert .serialize sailor).toOption.map gradeOf =
      some (some (Number.int 0x20000000000000).preferFloat) := by
    decide +kernel
  rw [hsettles.same .serialize] at hafter
  have hbefore : gradeOf sailor = some (.int 0x20000000000001) := by decide +kernel
  rw [hbefore, Option.some.inj hafter] at hgrade
  cases hgrade with
  | some hinteger =>
    have hkept := hinteger.int _ rfl
    revert hkept
    decide +kernel

end Schema

end Scim
