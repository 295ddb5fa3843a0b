import Scim.Proofs.Attribute.Conformance
import Scim.Proofs.Schema.Marking

/-!
# Resources that conform to a schema

A resource conforms if the value of every attribute does, own or of an extension, if the schemas it lists are
those it has, and if it says of itself to be of the type of the schema, where it says so.

As long as nothing is found, validation changes nothing, so each attribute is validated in the resource as it
was given, and so are the list of schemas and the type at the end.  And what is found at one attribute is
still found in the end.  So validation finds nothing exactly in the resources that conform.

## Main results

* `Schema.Conforms`: the resources that conform to a schema.
* `Schema.checkListed_clean_iff`: when nothing is wrong with a list of schemas.
* `Schema.validate_clean_iff_conforms`: validation finds no violation exactly in the resources that conform.
-/

namespace Scim

open Text

namespace Schema

/-! ## Conforming resources -/

/-- The identifiers of the attached extensions, in lower case. -/
def attached (schema : Schema) : List String :=
  schema.attachments.map fun attachment => attachment.extension.uri.folded

/-- A list of schemas, in lower case, is the one that a resource should have. -/
structure Lists (schema : Schema) (record : Record) (listed : List String) : Prop where
  distinct : listed.Nodup
  /-- Every listed schema is the main one or an attached extension. -/
  known : ∀ uri ∈ listed, uri = schema.uri.folded ∨ uri ∈ schema.attached
  main : schema.uri.folded ∈ listed
  /-- Every attached extension is listed whose identifier is a key of the resource. -/
  extensions : ∀ key ∈ record.keys, lower key ∈ schema.attached → lower key ∈ listed

/-- The resources that conform to a schema. -/
structure Conforms (schema : Schema) (catalog : Catalog) (record : Record) : Prop where
  /-- The value at the path of every attribute conforms to the attribute. -/
  attributes : ∀ attr ∈ schema.attrs.all, attr.Conforms catalog (record.get (Place.ofPath attr.path))
  /-- The list of schemas, if there is one, is that of the resource. -/
  schemas : (record.get (.path "schemas")).truthy = true →
    schema.Lists record (listed (record.get (.path "schemas")))
  /-- The type that the resource says it is of is that of the schema. -/
  resourceType : ∀ provided, record.get (Place.attr resourceTypePath) = .text provided →
    provided = schema.name

variable {schema : Schema} {catalog : Catalog}

/-! ## The list of schemas -/

private theorem foldl_addViolation_clean_iff {violations : List Violation} {report : Report} :
    (violations.foldl (fun report v => report.addViolation v true []) report).Clean ↔
      report.Clean ∧ violations = [] := by
  induction violations generalizing report with
  | nil => simp
  | cons violation violations ih =>
    rw [List.foldl_cons, ih]
    exact iff_of_false (fun h => Report.not_clean_addViolation _ _ _ h.1) (by simp)

/-- Nothing is wrong with a list of schemas exactly if it is the one that the resource should have. -/
theorem checkListed_clean_iff {record : Record} {listed : List String} :
    (schema.checkListed record listed).Clean ↔ schema.Lists record listed := by
  have hattached : (schema.attachments.map fun attachment => attachment.extension.uri.folded) =
      schema.attached := rfl
  have hdistinct : (if hasDuplicates listed then [Violation.duplicates] else []) = [] ↔
      listed.Nodup := by
    have hdup := @hasDuplicates_iff listed
    by_cases h : hasDuplicates listed = true
    · simp [h, hdup.1 h]
    · simpa [h] using fun hnot => h (hdup.2 hnot)
  have hknown : (if listed.any fun uri => uri != schema.uri.folded && !schema.attached.contains uri then
      [Violation.unknownSchema] else []) = [] ↔
        ∀ uri ∈ listed, uri = schema.uri.folded ∨ uri ∈ schema.attached := by
    simp [or_iff_not_imp_left]
  have hmain : (if listed.contains schema.uri.folded then [] else [Violation.missingMainSchema]) = [] ↔
      schema.uri.folded ∈ listed := by
    simp
  have hextensions : (record.keys.filter fun key =>
      schema.attached.contains (lower key) && !listed.contains (lower key)).map
        Violation.missingExtension = [] ↔
      ∀ key ∈ record.keys, lower key ∈ schema.attached → lower key ∈ listed := by
    simp
  unfold checkListed
  dsimp only
  rw [foldl_addViolation_clean_iff, hattached, List.append_eq_nil_iff, List.append_eq_nil_iff,
    List.append_eq_nil_iff, hdistinct, hknown, hmain, hextensions]
  constructor
  · rintro ⟨-, ⟨⟨hdistinct, hknown⟩, hmain⟩, hextensions⟩
    exact ⟨hdistinct, hknown, hmain, hextensions⟩
  · rintro ⟨hdistinct, hknown, hmain, hextensions⟩
    exact ⟨Report.clean_empty, ⟨⟨hdistinct, hknown⟩, hmain⟩, hextensions⟩

/-- If nothing was found before, the check of the listed schemas finds nothing exactly if the list, where
there is one, is the one that the resource should have. -/
theorem checkSchemas_clean_iff {report : Report} (hsound : report.Sound) {record : Record} :
    (schema.checkSchemas (report, record)).1.Clean ↔ report.Clean ∧
      ((record.get (.path "schemas")).truthy = true →
        schema.Lists record (listed (record.get (.path "schemas")))) := by
  unfold checkSchemas
  dsimp only
  by_cases hclean : report.Clean
  · rw [hclean.canProceed hsound schemasLocation, Bool.true_and]
    split
    · next htruthy =>
      rw [Report.clean_merge_iff, checkListed_clean_iff]
      simp [htruthy]
    · next htruthy => simp [htruthy]
  · refine iff_of_false ?_ fun h => hclean h.1
    split
    · exact fun h => hclean (Report.clean_merge_iff.1 h).1
    · exact hclean

/-- Likewise for the type of the resource. -/
theorem checkResourceType_clean_iff {report : Report} (hsound : report.Sound) {record : Record} :
    (schema.checkResourceType (report, record)).1.Clean ↔ report.Clean ∧
      ∀ provided, record.get (Place.attr resourceTypePath) = .text provided → provided = schema.name := by
  unfold checkResourceType
  dsimp only
  by_cases hclean : report.Clean
  · rw [hclean.canProceed hsound []]
    split
    · next provided _ hprovided =>
      split
      · next hname =>
        rw [hprovided]
        have hsame : provided = schema.name := by simpa using hname
        simp [hclean, hsame]
      · next hname =>
        apply iff_of_false (Report.not_clean_addViolation _ _ _)
        intro h
        exact hname (by simpa using h.2 provided hprovided)
    · next hother =>
      refine iff_of_true hclean ⟨hclean, fun provided hprovided => ?_⟩
      exact absurd hprovided (hother provided rfl)
  · refine iff_of_false ?_ fun h => hclean h.1
    split
    · split
      · exact hclean
      · exact Report.not_clean_addViolation _ _ _
    · exact hclean

end Schema

/-! ## The attributes of a resource -/

variable {catalog : Catalog} {record : Record}

namespace Attribute

/-- What was found before stays found while an attribute is validated. -/
theorem clean_of_validateIn {attr : Attribute} {state : Report × Record}
    (h : (attr.validateIn catalog state).1.Clean) : state.1.Clean := by
  unfold validateIn at h
  dsimp only at h
  split at h
  · exact h
  · exact (Report.clean_merge_iff.1 h).1

/-- Validating one attribute within a resource finds nothing exactly if its value conforms, and then the
resource is left as it is. -/
theorem validateIn_clean_iff {attr : Attribute} (hchecks : attr.EveryCheck Check.BuiltIn) {bound : BoundPath}
    (hpath : attr.path = .bound bound) (hsub : bound.rep.sub = none)
    (hjson : (Value.record record).FromJson) {report : Report} :
    ((attr.validateIn catalog (report, record)).1.Clean ↔
      report.Clean ∧ attr.Conforms catalog (record.get (Place.ofPath attr.path))) ∧
    ((attr.validateIn catalog (report, record)).1.Clean →
      (attr.validateIn catalog (report, record)).2 = record) := by
  have hget := @Record.inherits_get record bound Value.FromJson
    (fun hrecord hmem => hrecord.entry hmem) hsub hjson
  unfold validateIn
  rw [hpath]
  dsimp only
  generalize record.get (Place.ofPath (.bound bound)) = value at hget ⊢
  cases hmissing : value.isMissing with
  | true =>
    have habsent : value.isAbsent = true := by
      cases value with
      | missing => rfl
      | _ => cases hmissing
    have hconforms : attr.Conforms catalog value := .absent habsent
    rw [if_pos rfl]
    exact ⟨by simp [hconforms], fun _ => rfl⟩
  | false =>
    have hvalidate := @Attribute.validate_clean_iff catalog attr hchecks value (hget hmissing)
    rw [if_neg Bool.false_ne_true]
    dsimp only
    rw [Report.clean_merge_iff, hvalidate]
    refine ⟨Iff.rfl, fun h => if_neg ?_⟩
    have hclean : (attr.validate catalog value).1.Clean := hvalidate.2 h.2
    rw [hclean]
    exact Bool.false_ne_true

end Attribute

namespace Schema

variable {schema : Schema}

/-- What was found before stays found while attributes are validated. -/
private theorem clean_of_validateAttrs {attrs : List Attribute} {state : Report × Record}
    (h : (attrs.foldl (fun state attr => attr.validateIn catalog state) state).1.Clean) :
    state.1.Clean := by
  induction attrs generalizing state with
  | nil => exact h
  | cons attr attrs ih => exact Attribute.clean_of_validateIn (ih h)

/-- Validating attributes one after the other finds nothing exactly if the values of all of them conform. -/
theorem validateAttrs_clean_iff (hchecks : ∀ attr ∈ schema.attrs.all, attr.EveryCheck Check.BuiltIn)
    (hjson : (Value.record record).FromJson) {attrs : List Attribute}
    (hattrs : ∀ attr ∈ attrs, attr ∈ schema.attrs.all) {report : Report} :
    ((attrs.foldl (fun state attr => attr.validateIn catalog state) (report, record)).1.Clean ↔
      report.Clean ∧ ∀ attr ∈ attrs, attr.Conforms catalog (record.get (Place.ofPath attr.path))) ∧
    ((attrs.foldl (fun state attr => attr.validateIn catalog state) (report, record)).1.Clean →
      (attrs.foldl (fun state attr => attr.validateIn catalog state) (report, record)).2 = record) := by
  induction attrs generalizing report with
  | nil => simp
  | cons attr attrs ih =>
    have hmem := hattrs attr List.mem_cons_self
    obtain ⟨bound, hpath, hsub⟩ := path_of_mem hmem
    obtain ⟨hone, hleft⟩ := @Attribute.validateIn_clean_iff catalog record attr (hchecks attr hmem) bound
      hpath hsub hjson report
    have hrest := @ih fun later hlater => hattrs later (List.mem_cons_of_mem _ hlater)
    rw [List.foldl_cons, List.forall_mem_cons, ← and_assoc, ← hone]
    -- either the attribute changed nothing, or it found something for good
    by_cases hclean : (attr.validateIn catalog (report, record)).1.Clean
    · have hsame : attr.validateIn catalog (report, record) =
          ((attr.validateIn catalog (report, record)).1, record) := Prod.ext rfl (hleft hclean)
      rw [hsame]
      exact hrest
    · refine ⟨iff_of_false (fun h => hclean (clean_of_validateAttrs h)) fun h => hclean h.1, fun h => ?_⟩
      exact absurd (clean_of_validateAttrs h) hclean

/-! ## Resources -/

/-- What is found in a resource is what is found in its attributes, its list of schemas and its type. -/
theorem validate_clean_iff (hchecks : ∀ attr ∈ schema.attrs.all, attr.EveryCheck Check.BuiltIn)
    (hjson : (Value.record record).FromJson) :
    (schema.validate catalog record).1.Clean ↔
      ((∀ attr ∈ schema.attrs.all, attr.Conforms catalog (record.get (Place.ofPath attr.path))) ∧
        ((record.get (.path "schemas")).truthy = true →
          schema.Lists record (listed (record.get (.path "schemas"))))) ∧
      ∀ provided, record.get (Place.attr resourceTypePath) = .text provided →
        provided = schema.name := by
  have hroot : ∀ attr ∈ schema.attrs.all, attr.EveryCheck Check.BlocksRootOnly := fun attr hattr =>
    Attribute.EveryCheck.imp (fun _ h => Check.BuiltIn.blocksRootOnly h) (hchecks attr hattr)
  have hattrs := @validateAttrs_tracks catalog _ _ _ schema hroot hjson.wellKeyed schema.attrs.all
    (fun attr hmem => hmem) (schema.start_tracks record)
  have hclean := @validateAttrs_clean_iff catalog _ schema hchecks hjson schema.attrs.all
    (fun attr hmem => hmem) .empty
  unfold validate
  generalize schema.attrs.all.foldl (fun state attr => attr.validateIn catalog state) (.empty, record) =
    state at hattrs hclean ⊢
  obtain ⟨report, after⟩ := state
  obtain ⟨hclean, hleft⟩ := hclean
  have hschemas := (@checkSchemas_tracks _ _ _ schema _ hattrs).sound
  have hresult := @checkResourceType_clean_iff schema _ hschemas after
  have hlisted := @checkSchemas_clean_iff schema _ hattrs.sound after
  dsimp only at hclean hleft
  show (schema.checkResourceType ((schema.checkSchemas (report, after)).1, after)).1.Clean ↔ _
  rw [hresult, hlisted]
  by_cases hfound : report.Clean
  · rw [hleft hfound, hclean]
    simp [Report.clean_empty]
  · refine iff_of_false (fun h => hfound h.1.1) fun h => hfound ?_
    exact hclean.2 ⟨Report.clean_empty, h.1.1⟩

/-- Without checks of a service, validation of a resource that was read from a document finds no violation
exactly if the resource conforms to the schema. -/
theorem validate_clean_iff_conforms (schema : Schema) (catalog : Catalog)
    (hchecks : ∀ attr ∈ schema.attrs.all, attr.EveryCheck Check.BuiltIn)
    (members : List (String × Json)) :
    (schema.validate catalog (Record.ofMembers members)).1.hasViolations [] = false ↔
      schema.Conforms catalog (Record.ofMembers members) := by
  have hjson := Value.fromJson_ofMembers members
  apply (validate_clean_iff hchecks hjson).trans
  constructor
  · rintro ⟨⟨hattributes, hschemas⟩, htype⟩
    exact ⟨hattributes, hschemas, htype⟩
  · rintro ⟨hattributes, hschemas, htype⟩
    exact ⟨⟨hattributes, hschemas⟩, htype⟩

/-- A schema of which one address may be the primary one: a resource with one such address conforms, and one
with two does not. -/
theorem conforms_with_one_primary :
    let email : Kind := .complex [
      Attribute.simple ⟨"value", by decide⟩ .string {},
      Attribute.simple ⟨"primary", by decide⟩ .boolean {}]
    let schema : Schema := {
      name := "User", endpoint := "/Users", description := ""
      attrs := {
        own := {
          schema := ⟨"urn:user", by decide⟩, extension := false, shared := sharedNames.map Text.lower
          declared := sharedAttributes ++ [
            { Attribute.simple ⟨"emails", by decide⟩ email { multiValued := true } with
              hooks := { checks := [.singlePrimary] } }] } } }
    let resource := fun second : Bool => Record.ofMembers [("SCHEMAS", .list [.text "urn:USER"]),
      ("Emails", .list [.object [("primary", .bool true)],
        .object [("VALUE", .text "x"), ("primary", .bool second)]])]
    (∀ attr ∈ schema.attrs.all, attr.EveryCheck Check.BuiltIn) ∧
      schema.Conforms {} (resource false) ∧ ¬ schema.Conforms {} (resource true) := by
  intro email schema resource
  have hchecks : ∀ attr ∈ schema.attrs.all, attr.EveryCheck Check.BuiltIn := by
    have hnone : ∀ check ∈ ([] : List Check), check.BuiltIn := List.forall_mem_nil _
    have hprimary : Check.singlePrimary.BuiltIn := by
      intro identity run hcustom
      cases hcustom
    rw [SchemaAttributes.all, List.flatMap_nil, List.append_nil]
    refine AttributeSet.everyCheck_attrs (List.forall_mem_append.2 ⟨?_, ?_⟩)
    · exact everyCheck_sharedAttributes
    · refine List.forall_mem_singleton.2 ⟨List.forall_mem_singleton.2 hprimary, ?_⟩
      exact ⟨⟨hnone, trivial⟩, ⟨hnone, trivial⟩, trivial⟩
  have hone := schema.validate_clean_iff_conforms {} hchecks [("SCHEMAS", .list [.text "urn:USER"]),
    ("Emails", .list [.object [("primary", .bool true)],
      .object [("VALUE", .text "x"), ("primary", .bool false)]])]
  have htwo := schema.validate_clean_iff_conforms {} hchecks [("SCHEMAS", .list [.text "urn:USER"]),
    ("Emails", .list [.object [("primary", .bool true)],
      .object [("VALUE", .text "x"), ("primary", .bool true)]])]
  refine ⟨hchecks, hone.1 (by decide +kernel), fun hconforms => ?_⟩
  have hclean : (schema.validate {} (resource true)).1.hasViolations [] = false := htwo.2 hconforms
  have hfound : (schema.validate {} (resource true)).1.hasViolations [] = true := by decide +kernel
  rw [hfound] at hclean
  cases hclean

end Schema

end Scim
