import Scim.Proofs.Attribute.Screened
import Scim.Proofs.Schema.Marking
import Scim.Proofs.Schema.Settled

/-!
# Validating resources a second time

A resource that was validated is left as it is by a second validation.  Attribute by attribute that is so because the
marks that one leaves in its own value do not spread; and mostly no two attributes look at the same value.

But an extension may go by the name of an own attribute.  Then the own attribute is validated with the values of the
extension in the state in which they are given, and those are marked after that.  So the second time the own
attribute finds marks that it did not make.  If it takes no records, there is nothing for the extension to mark; and if
it is lenient, it does not mind.  But with checks of a service, or with canonical records, it may refuse now what it
took before.

## Main results

* `Attribute.validateIn_screened`: what validation of one attribute leaves of a resource.
* `SchemaAttributes.pairwise_outlasts`: no attribute undoes what was settled by one before it.
* `Schema.validation_settles`: the whole statement.
* `Schema.refused_for_marks`: a resource that is changed again, by an attribute that is not lenient.
-/

namespace Scim

open Text

variable {catalog : Catalog} {record : Record}

/-! ## Values within records -/

/-- A value after the one under a key in it was revised, if it is a record. -/
def Value.reviseIn (key : String) (f : Value → Value) : Value → Value
  | .record entries => .record (Record.revise entries key f)
  | value => value

namespace Attribute

variable {attr later : Attribute}

/-- The key of a resource that the value of an attribute stands under, or the record with that value. -/
def slot (attr : Attribute) : String :=
  match attr.path.isExtension, attr.path.schema? with
  | true, some uri => uri.text
  | _, _ => attr.path.rep.attr.text

/-- What validation of an attribute leaves of the value under its slot. -/
def screenedAt (catalog : Catalog) (attr : Attribute) : Value → Value :=
  if attr.path.isExtension then Value.reviseIn attr.path.rep.attr.text (attr.screened catalog)
  else attr.screened catalog

/-- What validation of an attribute leaves of a resource. -/
def screenedOf (catalog : Catalog) (record : Record) (attr : Attribute) : Record :=
  record.revise attr.slot (attr.screenedAt catalog)

section Own

variable {set : AttributeSet} (hset : set.extension = false) (hmem : attr ∈ set.attrs)

include hset hmem

theorem slot_own : attr.slot = attr.name.text := by
  rw [slot, (AttributeSet.bound_of_mem hmem).1]
  simp [Path.isExtension, AttributeSet.pathOf, hset, Path.rep]

theorem screenedAt_own : attr.screenedAt catalog = attr.screened catalog := by
  rw [screenedAt, (AttributeSet.bound_of_mem hmem).1]
  simp [Path.isExtension, AttributeSet.pathOf, hset]

end Own

section Extension

variable {set : AttributeSet} (hset : set.extension = true) (hmem : attr ∈ set.attrs)

include hset hmem

theorem slot_extension : attr.slot = set.schema.text := by
  rw [slot, (AttributeSet.bound_of_mem hmem).1]
  simp [Path.isExtension, AttributeSet.pathOf, hset, Path.schema?]

theorem screenedAt_extension : attr.screenedAt catalog = Value.reviseIn attr.name.text (attr.screened catalog) := by
  rw [screenedAt, (AttributeSet.bound_of_mem hmem).1]
  simp [Path.isExtension, AttributeSet.pathOf, hset, Path.rep]

end Extension

theorem screenedAt_missing (catalog : Catalog) (attr : Attribute) : attr.screenedAt catalog .missing = .missing := by
  unfold screenedAt
  split
  · rfl
  · exact attr.screened_missing catalog

variable {value : Value}

theorem dimmed_screenedAt (h : attr.Throughout Settling) (hkeys : value.WellKeyed) :
    value.Dimmed (attr.screenedAt catalog value) := by
  unfold screenedAt
  split
  · cases value with
    | record entries =>
      exact Record.dimmed_revise (Value.everywhere_record.1 hkeys).1 (dimmed_screened h (hkeys.value _))
    | _ => exact .kept _
  · exact dimmed_screened h hkeys

theorem screenedAt_screenedAt (h : attr.Throughout Settling) (hkeys : value.WellKeyed) :
    attr.screenedAt catalog (attr.screenedAt catalog value) = attr.screenedAt catalog value := by
  unfold screenedAt
  split
  · cases value with
    | record entries =>
      exact congrArg Value.record (Record.revise_revise (attr.screened_missing catalog)
        (Value.everywhere_record.1 hkeys).1 (screened_screened h (hkeys.value _)))
    | _ => rfl
  · exact screened_screened h hkeys

/-! ## One attribute of a resource -/

/-- A resource is left as it is if the value under the slot is. -/
theorem screenedOf_of_kept (hkeys : record.DistinctKeys)
    (h : attr.screenedAt catalog (record.value attr.slot) = record.value attr.slot) :
    attr.screenedOf catalog record = record :=
  (Record.revise_eq_self_iff (attr.screenedAt_missing catalog) hkeys).2 h

/-- Validating an attribute within a resource puts back what is left of its value, or leaves the resource as it is if
that is the value. -/
theorem validateIn_eq (h : attr.Throughout Settling) (hread : record.get (Place.ofPath attr.path) = value)
    (hkeys : value.WellKeyed) {next : Record} (hkept : attr.screened catalog value = value → record = next)
    (hput : value.isMissing = false → record.replaceAt attr.path (attr.screened catalog value) = next)
    (report : Report) : (attr.validateIn catalog (report, record)).2 = next := by
  unfold validateIn
  dsimp only
  rw [hread]
  split
  · next hmissing =>
    refine hkept ?_
    rw [Value.eq_missing hmissing]
    exact attr.screened_missing catalog
  · next hstored =>
    dsimp only
    split
    · exact hput (Bool.eq_false_iff.2 hstored)
    · next hfree => exact hkept (screened_of_free h hkeys (Bool.eq_false_iff.2 hfree))

/-- The value of an own attribute is put back under its name. -/
theorem validateIn_own {set : AttributeSet} (hset : set.extension = false) (hmem : attr ∈ set.attrs)
    (h : attr.Throughout Settling) (hkeys : (Value.record record).WellKeyed) (report : Report) :
    (attr.validateIn catalog (report, record)).2 = attr.screenedOf catalog record := by
  have hread : record.get (Place.ofPath attr.path) = record.value attr.name.text := by
    rw [AttributeSet.place_of_mem hmem, hset]
    exact record.getAttr_name attr.name
  refine validateIn_eq h hread (hkeys.value _) (fun hsame => ?_) (fun _ => ?_) report
  · refine (screenedOf_of_kept (Value.everywhere_record.1 hkeys).1 ?_).symm
    rwa [screenedAt_own hset hmem, slot_own hset hmem]
  · rw [screenedOf, slot_own hset hmem, screenedAt_own hset hmem, Record.replaceAt,
      (AttributeSet.bound_of_mem hmem).1]
    simp [Path.isExtension, AttributeSet.pathOf, hset, Path.rep, Record.revise]

/-- The value of an attribute of an extension is put back in the record under the identifier. -/
theorem validateIn_extension {set : AttributeSet} (hset : set.extension = true) (hmem : attr ∈ set.attrs)
    (h : attr.Throughout Settling) (hkeys : (Value.record record).WellKeyed) (report : Report) :
    (attr.validateIn catalog (report, record)).2 = attr.screenedOf catalog record := by
  have hread : record.get (Place.ofPath attr.path) = Record.subOf attr.name (record.value set.schema.text) := by
    rw [AttributeSet.place_of_mem hmem, if_pos hset, Record.get_extension_eq]
  have hkept : Value.reviseIn attr.name.text (attr.screened catalog) (record.value set.schema.text) =
      record.value set.schema.text → record = attr.screenedOf catalog record := fun hsame => by
    refine (screenedOf_of_kept (Value.everywhere_record.1 hkeys).1 ?_).symm
    rwa [screenedAt_extension hset hmem, slot_extension hset hmem]
  cases hvalue : record.value set.schema.text with
  | record inner =>
    have hinner : record.get? set.schema.text = some (.record inner) := by
      rw [← hvalue]
      exact Record.get?_of_stored (by rw [hvalue]; rfl)
    have hinnerKeys : (Value.record inner).WellKeyed := hvalue ▸ hkeys.value set.schema.text
    rw [hvalue] at hread hkept
    refine validateIn_eq h hread (hinnerKeys.value attr.name.text) (fun hsame => hkept ?_) (fun _ => ?_) report
    · exact congrArg Value.record ((Record.revise_eq_self_iff (attr.screened_missing catalog)
        (Value.everywhere_record.1 hinnerKeys).1).2 hsame)
    · rw [screenedOf, slot_extension hset hmem, screenedAt_extension hset hmem, Record.replaceAt,
        (AttributeSet.bound_of_mem hmem).1, Record.revise, hvalue]
      simp [Path.isExtension, AttributeSet.pathOf, hset, Path.rep, Path.schema?, hinner, Value.reviseIn,
        Record.revise, Record.subOf]
  | _ =>
    -- nothing of the extension is there to be validated
    rw [hvalue] at hread hkept
    exact validateIn_eq h hread trivial (fun _ => hkept rfl) (fun hstored => by cases hstored) report

/-- Validating an attribute of either kind. -/
theorem validateIn_screened {set : AttributeSet} (hmem : attr ∈ set.attrs) (h : attr.Throughout Settling)
    (hkeys : (Value.record record).WellKeyed) (report : Report) :
    (attr.validateIn catalog (report, record)).2 = attr.screenedOf catalog record := by
  cases hset : set.extension with
  | false => exact validateIn_own hset hmem h hkeys report
  | true => exact validateIn_extension hset hmem h hkeys report

theorem wellKeyed_screenedOf (h : attr.Throughout Settling) (hkeys : (Value.record record).WellKeyed) :
    (Value.record (attr.screenedOf catalog record)).WellKeyed :=
  (Record.dimmed_revise (Value.everywhere_record.1 hkeys).1 (dimmed_screenedAt h (hkeys.value _))).wellKeyed hkeys

theorem screenedOf_screenedOf (h : attr.Throughout Settling) (hkeys : (Value.record record).WellKeyed) :
    attr.screenedOf catalog (attr.screenedOf catalog record) = attr.screenedOf catalog record :=
  Record.revise_revise (attr.screenedAt_missing catalog) (Value.everywhere_record.1 hkeys).1
    (screenedAt_screenedAt h (hkeys.value _))

/-! ## One attribute after another -/

/-- What an attribute leaves of a value in its slot it still leaves alone after a later attribute. -/
def Outlasts (catalog : Catalog) (attr later : Attribute) : Prop :=
  lower later.slot = lower attr.slot → ∀ {value : Value}, value.WellKeyed →
    attr.screenedAt catalog value = value →
      attr.screenedAt catalog (later.screenedAt catalog value) = later.screenedAt catalog value

/-- So the resource that it leaves alone it still leaves alone. -/
theorem Outlasts.screenedOf (h : attr.Outlasts catalog later) (hkeys : (Value.record record).WellKeyed)
    (hleft : attr.screenedOf catalog record = record) :
    attr.screenedOf catalog (later.screenedOf catalog record) = later.screenedOf catalog record :=
  Record.revise_keeps (attr.screenedAt_missing catalog) (later.screenedAt_missing catalog)
    (Value.everywhere_record.1 hkeys).1 (fun hsame hvalue => h hsame (hkeys.value _) hvalue) hleft

end Attribute

namespace SchemaAttributes

variable {attrs : SchemaAttributes} (h : attrs.Layered)
  (hattrs : ∀ attr ∈ attrs.all, attr.Throughout Attribute.Settling)

include h

/-- Own attributes have slots of their own. -/
theorem pairwise_own : attrs.own.attrs.Pairwise (Attribute.Outlasts catalog) := by
  refine (h.names attrs.own List.mem_cons_self).imp_of_mem fun {attr later} hattr hlater hapart hsame => ?_
  rw [Attribute.slot_own h.own hattr, Attribute.slot_own h.own hlater] at hsame
  exact absurd hsame.symm hapart

/-- Attributes of one extension look at different values in one record. -/
theorem pairwise_extension {set : AttributeSet} (hset : set ∈ attrs.extensions) :
    set.attrs.Pairwise (Attribute.Outlasts catalog) := by
  have hextension := h.extensions set hset
  refine (h.names set (List.mem_cons_of_mem _ hset)).imp_of_mem fun {attr later} hattr hlater hapart _ value hkeys => ?_
  rw [Attribute.screenedAt_extension hextension hattr, Attribute.screenedAt_extension hextension hlater]
  intro hleft
  cases value with
  | record entries =>
    refine congrArg Value.record (Record.revise_keeps (attr.screened_missing catalog) (later.screened_missing catalog)
      (Value.everywhere_record.1 hkeys).1 (fun hsame => absurd hsame.symm hapart) (Value.record.inj hleft))
  | _ => rfl

/-- Different extensions have different slots. -/
theorem pairwise_extensions : attrs.extensions.Pairwise fun set other =>
    ∀ attr ∈ set.attrs, ∀ later ∈ other.attrs, attr.Outlasts catalog later := by
  refine (List.pairwise_map.1 h.schemas).imp_of_mem fun {set other} hset hother hapart attr hattr later hlater => ?_
  rw [Attribute.Outlasts, Attribute.slot_extension (h.extensions set hset) hattr,
    Attribute.slot_extension (h.extensions other hother) hlater]
  exact fun hsame => absurd hsame.symm hapart

include hattrs

/-- An own attribute shares its slot with an extension of its name only, and then it is to be lenient, if it takes
records at all. -/
theorem outlasts_extension {attr later : Attribute} (hattr : attr ∈ attrs.own.attrs) {set : AttributeSet}
    (hset : set ∈ attrs.extensions) (hlater : later ∈ set.attrs)
    (hlenient : ¬ attrs.Apart attr → attr.TakesRecords → attr.Throughout Attribute.Lenient) :
    attr.Outlasts catalog later := by
  have hextension := h.extensions set hset
  have hsettling := hattrs later (List.mem_append_right _ (List.mem_flatMap.2 ⟨set, hset, hlater⟩))
  intro hsame value hkeys hleft
  rw [Attribute.slot_own h.own hattr, Attribute.slot_extension hextension hlater] at hsame
  have hshared : ¬ attrs.Apart attr := fun hapart => hapart hattr set hset hsame
  have hdimmed := @Attribute.dimmed_screenedAt catalog later value hsettling hkeys
  rw [Attribute.screenedAt_own h.own hattr] at hleft ⊢
  rw [Attribute.screenedAt_extension hextension hlater] at hdimmed ⊢
  cases value with
  | record entries =>
    have htakes := Attribute.takesRecords_of_screened hleft
    exact Attribute.screened_dimmed (hattrs attr (List.mem_append_left _ hattr)) (hlenient hshared htakes) hkeys hleft
      hdimmed
  | _ => exact hleft

/-- No attribute undoes what was settled by one before it. -/
theorem pairwise_outlasts (hlenient : ∀ attr ∈ attrs.all, ¬ attrs.Apart attr → attr.TakesRecords →
      attr.Throughout Attribute.Lenient) : attrs.all.Pairwise (Attribute.Outlasts catalog) := by
  refine List.pairwise_append.2 ⟨pairwise_own h, List.pairwise_flatMap.2 ⟨?_, pairwise_extensions h⟩, ?_⟩
  · exact fun set hset => pairwise_extension h hset
  · intro attr hattr later hlater
    obtain ⟨set, hset, hmem⟩ := List.mem_flatMap.1 hlater
    exact outlasts_extension h hattrs hattr hset hmem (hlenient attr (List.mem_append_left _ hattr))

end SchemaAttributes

/-! ## Resources -/

namespace Schema

variable {schema : Schema}

theorem settling_of_reachable (h : schema.Reachable catalog)
    (hattrs : ∀ attr ∈ schema.attrs.all, attr.Throughout Attribute.Repeatable) :
    ∀ attr ∈ schema.attrs.all, attr.Throughout Attribute.Settling := by
  intro attr hattr
  obtain ⟨set, hset, hmem⟩ := List.mem_flatMap.1 (SchemaAttributes.all_eq schema.attrs ▸ hattr)
  exact Attribute.settling ((h.attrs.wellFormed set hset).wellNamed_of_mem hmem) (hattrs attr hattr)

theorem wellKeyed_foldl {attrs : List Attribute} (hattrs : ∀ attr ∈ attrs, attr.Throughout Attribute.Settling)
    (hkeys : (Value.record record).WellKeyed) :
    (Value.record (attrs.foldl (Attribute.screenedOf catalog) record)).WellKeyed :=
  List.foldlRecOn (motive := fun record => (Value.record record).WellKeyed) attrs _ hkeys
    fun _ hrecord attr hattr => Attribute.wellKeyed_screenedOf (hattrs attr hattr) hrecord

/-- What validation of attributes one after the other leaves of a resource. -/
theorem validateAttrs_screened {attrs : List Attribute} (hmem : ∀ attr ∈ attrs, attr ∈ schema.attrs.all)
    (hattrs : ∀ attr ∈ attrs, attr.Throughout Attribute.Settling) (hkeys : (Value.record record).WellKeyed)
    (report : Report) :
    (attrs.foldl (fun state attr => attr.validateIn catalog state) (report, record)).2 =
      attrs.foldl (Attribute.screenedOf catalog) record := by
  induction attrs generalizing record report with
  | nil => rfl
  | cons attr attrs ih =>
    obtain ⟨hfirst, hrest⟩ := List.forall_mem_cons.1 hattrs
    obtain ⟨hmemFirst, hmemRest⟩ := List.forall_mem_cons.1 hmem
    obtain ⟨set, -, hset⟩ := List.mem_flatMap.1 (SchemaAttributes.all_eq schema.attrs ▸ hmemFirst)
    have hstep : attr.validateIn catalog (report, record) =
        ((attr.validateIn catalog (report, record)).1, attr.screenedOf catalog record) :=
      Prod.ext rfl (Attribute.validateIn_screened hset hfirst hkeys report)
    rw [List.foldl_cons, hstep, List.foldl_cons]
    exact ih hmemRest hrest (Attribute.wellKeyed_screenedOf hfirst hkeys) _

/-- What validation leaves of a resource. -/
theorem validate_screened (hattrs : ∀ attr ∈ schema.attrs.all, attr.Throughout Attribute.Settling)
    (hkeys : (Value.record record).WellKeyed) :
    (schema.validate catalog record).2 = schema.attrs.all.foldl (Attribute.screenedOf catalog) record :=
  -- the checks of the resource as a whole change nothing of it
  validateAttrs_screened (fun _ hattr => hattr) hattrs hkeys .empty

/-- A resource that was validated is left exactly as it is when it is validated again, if no attribute with
sub-attributes has canonical values, at any depth, and the checks of a service block values as a whole or not at all.
Where an extension goes by the name of an own attribute that takes records, this one is to be lenient: without checks
of a service, and without canonical values that it insists on while it takes values of any kind. -/
theorem validation_settles (catalog : Catalog) (schema : Schema) (h : schema.Reachable catalog)
    (hattrs : ∀ attr ∈ schema.attrs.all, attr.Throughout Attribute.Repeatable)
    (hlenient : ∀ attr ∈ schema.attrs.all, ¬ schema.attrs.Apart attr → attr.TakesRecords →
      attr.Throughout Attribute.Lenient)
    (record : Record) (hkeys : (Value.record record).WellKeyed) :
    (schema.validate catalog (schema.validate catalog record).2).2 = (schema.validate catalog record).2 := by
  have hsettling := settling_of_reachable h hattrs
  have hsettled := @foldl_settles Record Attribute (fun record => (Value.record record).WellKeyed)
    (Attribute.screenedOf catalog) schema.attrs.all
    (fun attr hattr _ => Attribute.wellKeyed_screenedOf (hsettling attr hattr))
    (fun attr hattr _ => Attribute.screenedOf_screenedOf (hsettling attr hattr))
    ((SchemaAttributes.pairwise_outlasts h.layered hsettling hlenient).imp fun houtlasts _ => houtlasts.screenedOf)
    record hkeys
  rw [validate_screened hsettling hkeys, validate_screened hsettling (wellKeyed_foldl hsettling hkeys)]
  exact foldl_of_settled hsettled

/-! ## Sailors and their berths -/

/-- The only vessel that is known, with its one berth. -/
def knownVessel : Attribute :=
  .simple ⟨"vessel", by decide⟩ .unknown { canonical := some ⟨[.object [("berth", .number (.int 7))]], true⟩ }

/-- Any vessel with a numbered berth. -/
def berthedVessel : Attribute :=
  .simple ⟨"vessel", by decide⟩ (.complex [.simple ⟨"berth", by decide⟩ .integer {}]) {}

/-- Named berths, under an identifier that is the name of the vessel. -/
def berths : Extension :=
  ⟨⟨"vessel", by decide⟩, "Berths", "", [.simple ⟨"berth", by decide⟩ .string {}]⟩

/-- Sailors of a vessel. -/
def ofVessel (vessel : Attribute) : Schema :=
  { ofSailors with attrs := { own := { ofSailors.attrs.own with declared := sharedAttributes ++ [vessel] } } }

/-- The same with the named berths attached. -/
def ofBerths (vessel : Attribute) : Schema :=
  { ofVessel vessel with
    attrs := { (ofVessel vessel).attrs with extensions := [Attachment.set ⟨berths, false⟩] }
    attachments := [⟨berths, false⟩] }

/-- The catalog of sailors. -/
def sailorCatalog : Catalog := { schemas := [⟨ofSailors.uri, false⟩], resources := [⟨"Sailor", "/Sailor"⟩] }

/-- The catalog with the identifier of berths. -/
def berthCatalog : Catalog := { sailorCatalog with schemas := [⟨ofSailors.uri, false⟩, ⟨berths.uri, true⟩] }

theorem ofBerths_reachable {vessel : Attribute} (hmade : vessel.Made)
    (hvessel : declare {} "urn:sailor" "Sailor" none "" [vessel] = .ok (sailorCatalog, ofVessel vessel))
    (hattached : (ofVessel vessel).attach berthCatalog berths false = .ok (ofBerths vessel)) :
    (ofBerths vessel).Reachable berthCatalog := by
  have hdeclared : Extension.declare sailorCatalog "vessel" "Berths" "" berths.attrs = .ok (berthCatalog, berths) := by
    rfl
  refine reachable_with_extension (List.forall_mem_singleton.2 hmade) (List.forall_mem_singleton.2 ?_) hvessel
    hdeclared hattached
  exact .of_simple _ (by simp) rfl rfl

/-- A sailor of a vessel, in a berth with a number. -/
def berthedSailor : Record := [("VESSEL", .record [("Berth", .number (.int 7))])]

theorem berthedSailor_wellKeyed : (Value.record berthedSailor).WellKeyed :=
  Value.FromJson.wellKeyed ⟨.object [("VESSEL", .object [("Berth", .number (.int 7))])], by rfl⟩

/-- A berth with a number is marked, as it should have a name, after the vessel has taken it for a number.  The second
time the vessel finds the mark, and does not mind. -/
theorem validation_settles_of_berths :
    let schema := ofBerths berthedVessel
    let left := (schema.validate berthCatalog berthedSailor).2
    (schema.Reachable berthCatalog ∧ (∀ attr ∈ schema.attrs.all, attr.Throughout Attribute.Repeatable) ∧
        (∀ attr ∈ schema.attrs.all, ¬ schema.attrs.Apart attr → attr.TakesRecords →
          attr.Throughout Attribute.Lenient) ∧ (Value.record berthedSailor).WellKeyed) ∧
      (Record.subOf ⟨"berth", by decide⟩ (Record.value left "vessel")).isInvalid = true ∧
      (schema.validate berthCatalog left).2 = left := by
  intro schema left
  have hmade : berthedVessel.Made := by
    refine @Attribute.Made.complex "vessel" [.simple ⟨"berth", by decide⟩ .integer {}] {} {} _ ?_ (by rfl)
    exact List.forall_mem_singleton.2 (.of_simple _ (by simp) rfl rfl)
  have hreachable := ofBerths_reachable hmade (by rfl) (by rfl)
  have htested : ∀ attr ∈ schema.attrs.all, attr.Throughout fun attr =>
      (attr.hooks.checks.isEmpty && attr.traits.canonical.isNone) = true :=
    Attribute.throughout_of_tests _ (by rfl)
  have hrepeatable : ∀ attr ∈ schema.attrs.all, attr.Throughout Attribute.Repeatable := fun attr hattr =>
    (htested attr hattr).imp fun attr hplain => by
      rw [Bool.and_eq_true, List.isEmpty_iff, Option.isNone_iff_eq_none] at hplain
      exact .of_no_checks hplain.1 fun _ _ => hplain.2
  have hlenient : ∀ attr ∈ schema.attrs.all, ¬ schema.attrs.Apart attr → attr.TakesRecords →
      attr.Throughout Attribute.Lenient := fun attr hattr _ _ =>
    (htested attr hattr).imp fun attr hplain => by
      rw [Bool.and_eq_true, List.isEmpty_iff, Option.isNone_iff_eq_none] at hplain
      exact .of_plain hplain.1 hplain.2
  exact ⟨⟨hreachable, hrepeatable, hlenient, berthedSailor_wellKeyed⟩, by decide +kernel,
    validation_settles berthCatalog schema hreachable hrepeatable hlenient berthedSailor berthedSailor_wellKeyed⟩

/-- An attribute that takes nothing but one record accepts it the first time, and refuses it the second time for the
mark that the extension of its name has made. -/
theorem refused_for_marks :
    ¬ ∀ (catalog : Catalog) (schema : Schema), schema.Reachable catalog →
      (∀ attr ∈ schema.attrs.all, attr.Throughout Attribute.Repeatable) →
      ∀ record : Record, (Value.record record).WellKeyed →
        (schema.validate catalog (schema.validate catalog record).2).2 = (schema.validate catalog record).2 := by
  intro hall
  have hmade : knownVessel.Made := @Attribute.Made.simple "vessel" .unknown knownVessel.traits {} _ (by simp) (by rfl)
  have hreachable := ofBerths_reachable hmade (by rfl) (by rfl)
  have hrepeatable : ∀ attr ∈ (ofBerths knownVessel).attrs.all, attr.Throughout Attribute.Repeatable := by
    have htested : ∀ attr ∈ (ofBerths knownVessel).attrs.all, attr.Throughout fun attr =>
        (attr.hooks.checks.isEmpty && (attr.traits.canonical.isNone || !attr.isComplex)) = true :=
      Attribute.throughout_of_tests _ (by rfl)
    refine fun attr hattr => (htested attr hattr).imp fun attr hplain => ?_
    rw [Bool.and_eq_true, List.isEmpty_iff] at hplain
    refine .of_no_checks hplain.1 fun subs hkind => ?_
    have hcomplex : attr.isComplex = true := by rw [Attribute.isComplex, Attribute.subs?, hkind]; rfl
    simpa [hcomplex] using hplain.2
  have hsettled := hall berthCatalog _ hreachable hrepeatable berthedSailor berthedSailor_wellKeyed
  let left := ((ofBerths knownVessel).validate berthCatalog berthedSailor).2
  have hmarked : (Record.value ((ofBerths knownVessel).validate berthCatalog left).2 "vessel").isInvalid = true := by
    decide +kernel
  have hkept : (Record.value left "vessel").isInvalid = false := by decide +kernel
  rw [hsettled, hkept] at hmarked
  cases hmarked

end Schema

end Scim
