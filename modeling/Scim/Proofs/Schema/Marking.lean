import Scim.Schema.Validation
import Scim.Proofs.Attribute.Marking

/-!
# What validation changes of a resource

Validation goes through the attributes of a schema and writes back what it found fault with.  The value of an
own attribute is an entry of the resource, that of an attribute of an extension an entry of the record under
the identifier of the extension; in both cases the value is put back where it was read, and its report is
merged below the location that leads there.  So marks and report stay in step for the resource as a whole,
and the checks that come last, of the listed schemas and of the type, block nothing and mark nothing.

## Main results

* `Attribute.validateIn_tracks`: validating one attribute within a resource.
* `Schema.validate_marks_rejected`: a resource is only changed by marking values, those for which a blocking
  violation is reported at their location, and everything blocked is marked.
-/

namespace Scim

/-! ## Stored values -/

namespace Record

variable {record : Record} {bound : BoundPath}

/-- An attribute that has a value is stored. -/
theorem get?_of_getAttr {rep : LocalPath} (hsub : rep.sub = none)
    (hvalue : (record.getAttr rep).isMissing = false) :
    record.get? rep.attr.text = some (record.getAttr rep) := by
  obtain ⟨name, sub⟩ := rep
  cases hsub
  rw [getAttr_name] at hvalue ⊢
  exact get?_of_stored hvalue

/-- The value of an attribute, where there is one, is stored under the name of the attribute: in the resource,
or else in the record under the identifier of the extension. -/
theorem stored_of_get (hsub : bound.rep.sub = none)
    (hstored : (record.get (Place.ofPath (.bound bound))).isMissing = false) :
    bound.extension = false ∧
        record.get? bound.rep.attr.text = some (record.get (Place.ofPath (.bound bound))) ∨
      bound.extension = true ∧ ∃ inner : Record, record.get? bound.schema.text = some (.record inner) ∧
        inner.get? bound.rep.attr.text = some (record.get (Place.ofPath (.bound bound))) := by
  obtain ⟨schema, extension, rep⟩ := bound
  cases extension with
  | false => exact .inl ⟨rfl, get?_of_getAttr hsub hstored⟩
  | true =>
    refine .inr ⟨rfl, ?_⟩
    have hplace : Place.ofPath (.bound ⟨schema, true, rep⟩) = .extension schema rep := rfl
    rw [hplace] at hstored ⊢
    by_cases hinner : ∃ inner : Record, record.get? schema.text = some (.record inner)
    · obtain ⟨inner, hinner⟩ := hinner
      rw [get_extension rep hinner] at hstored ⊢
      exact ⟨inner, hinner, get?_of_getAttr hsub hstored⟩
    · rw [get_extension_missing rep fun inner h => hinner ⟨inner, h⟩] at hstored
      cases hstored

/-- What the values in a record inherit from it holds of the value of every attribute that has one. -/
theorem inherits_get {P : Value → Prop}
    (hentry : ∀ {entries : Record} {entry : String × Value}, P (.record entries) → entry ∈ entries →
      P entry.2)
    (hsub : bound.rep.sub = none) (hrecord : P (.record record))
    (hstored : (record.get (Place.ofPath (.bound bound))).isMissing = false) :
    P (record.get (Place.ofPath (.bound bound))) := by
  rcases stored_of_get hsub hstored with ⟨-, hget⟩ | ⟨-, inner, hinner, hget⟩
  · obtain ⟨name, hmem, -⟩ := Entries.mem_of_get? hget
    exact hentry hrecord hmem
  · obtain ⟨uri, huri, -⟩ := Entries.mem_of_get? hinner
    obtain ⟨name, hmem, -⟩ := Entries.mem_of_get? hget
    exact hentry (hentry hrecord huri) hmem

/-- A value that was read at a path and is put back there marks the record below the location of the path,
and is what this location leads to. -/
theorem replaceAt_marks (hsub : bound.rep.sub = none) (hkeys : (Value.record record).WellKeyed)
    {value : Value} (hvalue : record.get (Place.ofPath (.bound bound)) = value)
    (hstored : value.isMissing = false) (changed : Value) :
    (∀ allowed : Location → Prop,
      value.Marked (fun location => allowed (bound.location ++ location)) changed →
        (Value.record record).Marked allowed (.record (record.replaceAt (.bound bound) changed))) ∧
    ∀ location, changed.Invalidated location →
      (Value.record (record.replaceAt (.bound bound) changed)).Invalidated (bound.location ++ location) := by
  subst hvalue
  obtain ⟨hdistinct, hvalues⟩ := Value.everywhere_record.1 hkeys
  rcases stored_of_get hsub hstored with ⟨hown, hget⟩ | ⟨hextension, inner, hinner, hget⟩
  · have hlocation : bound.location = [.ofName bound.rep.attr] := by
      simp [BoundPath.location, LocalPath.location, hown, hsub]
    have hreplaced : record.replaceAt (.bound bound) changed =
        Entries.replace record bound.rep.attr.text changed := by
      simp [replaceAt, Path.isExtension, Path.rep, hown]
    rw [hlocation, hreplaced]
    constructor
    · intro allowed hmarked
      exact Value.Marked.record_replace hdistinct hget hmarked
    · intro location hinvalid
      exact .record_replace hget hinvalid
  · have hlocation : bound.location = [.ofUri bound.schema, .ofName bound.rep.attr] := by
      simp [BoundPath.location, LocalPath.location, hextension, hsub]
    have hreplaced : record.replaceAt (.bound bound) changed = Entries.replace record
        bound.schema.text (.record (Entries.replace inner bound.rep.attr.text changed)) := by
      simp [replaceAt, Path.isExtension, Path.schema?, Path.rep, hextension, hinner]
    obtain ⟨uri, huri, -⟩ := Entries.mem_of_get? hinner
    have hinnerKeys := Value.everywhere_record.1 (hvalues _ huri)
    rw [hlocation, hreplaced]
    constructor
    · intro allowed hmarked
      apply Value.Marked.record_replace hdistinct hinner
      exact Value.Marked.record_replace hinnerKeys.1 hget hmarked
    · intro location hinvalid
      exact .record_replace hinner (.record_replace hget hinvalid)

end Record

/-! ## Attributes of a resource -/

variable {catalog : Catalog} {declared : Location → Prop} {before : Value} {report : Report}
  {record : Record}

/-- Validating one attribute within a resource keeps marks and report in step. -/
theorem Attribute.validateIn_tracks {attr : Attribute} {bound : BoundPath} (hpath : attr.path = .bound bound)
    (hsub : bound.rep.sub = none) (hchecks : attr.EveryCheck Check.BlocksRootOnly)
    (hdeclared : ∀ location, attr.Declares location → declared (attr.path.location ++ location))
    (hkeys : before.WellKeyed) (h : Tracks declared before report (.record record)) :
    Tracks declared before (attr.validateIn catalog (report, record)).1
      (.record (attr.validateIn catalog (report, record)).2) := by
  have hrecord := h.wellKeyed hkeys
  have hinherits := @Record.inherits_get record bound Value.WellKeyed
    (fun hkeyed hmem => (Value.everywhere_record.1 hkeyed).2 _ hmem) hsub hrecord
  unfold validateIn
  rw [hpath] at hdeclared ⊢
  dsimp only
  generalize hget : record.get (Place.ofPath (.bound bound)) = value at hinherits ⊢
  split
  · exact h
  · next hstored =>
    have hvalue := hinherits (by simpa using hstored)
    have hattr := @Attribute.validate_tracks catalog attr hchecks _ hvalue
    split
    · obtain ⟨hput, hseen⟩ := Record.replaceAt_marks hsub hrecord hget (by simpa using hstored)
        (marked (attr.validate catalog value).1 (attr.validate catalog value).2)
      exact h.mergeBelow hattr hdeclared hput hseen
    · next hfree =>
      have hnone := hattr.sound.blocks_eq_nil (by simpa using hfree)
      exact h.mergeFree hattr.sound hnone _

namespace Schema

variable (schema : Schema)

/-- The locations in a resource that the schema speaks of: those in the values of its attributes, below the
paths of the attributes. -/
def Declares (location : Location) : Prop :=
  ∃ attr ∈ schema.attrs.all, ∃ rest, attr.Declares rest ∧ location = attr.path.location ++ rest

variable {schema}

/-- Every attribute of a schema goes by a bound path that names no sub-attribute. -/
theorem path_of_mem {attr : Attribute} (h : attr ∈ schema.attrs.all) :
    ∃ bound : BoundPath, attr.path = .bound bound ∧ bound.rep.sub = none := by
  have hset : ∃ set : AttributeSet, attr ∈ set.attrs := by
    rcases List.mem_append.1 h with hown | hextension
    · exact ⟨_, hown⟩
    · obtain ⟨set, -, hmem⟩ := List.mem_flatMap.1 hextension
      exact ⟨set, hmem⟩
  obtain ⟨set, hmem⟩ := hset
  obtain ⟨name, hpath⟩ := AttributeSet.path_of_mem hmem
  exact ⟨set.pathOf name, hpath, rfl⟩

/-- Before anything is validated, nothing is reported and nothing is marked. -/
theorem start_tracks (schema : Schema) (record : Record) :
    Tracks schema.Declares (.record record) .empty (.record record) := by
  refine ⟨.empty, ?_, .kept _, ?_⟩
  · intro block hblock
    cases hblock
  · intro block hblock
    cases hblock

/-- Validating the attributes one after the other keeps marks and report in step. -/
theorem validateAttrs_tracks (hchecks : ∀ attr ∈ schema.attrs.all, attr.EveryCheck Check.BlocksRootOnly)
    (hkeys : before.WellKeyed) {attrs : List Attribute} (hattrs : ∀ attr ∈ attrs, attr ∈ schema.attrs.all)
    (h : Tracks schema.Declares before report (.record record)) :
    Tracks schema.Declares before
      (attrs.foldl (fun state attr => attr.validateIn catalog state) (report, record)).1
      (.record (attrs.foldl (fun state attr => attr.validateIn catalog state) (report, record)).2) := by
  induction attrs generalizing report record with
  | nil => exact h
  | cons attr attrs ih =>
    have hmem := hattrs attr List.mem_cons_self
    obtain ⟨bound, hpath, hsub⟩ := path_of_mem hmem
    have hdeclared : ∀ location, attr.Declares location →
        schema.Declares (attr.path.location ++ location) :=
      fun location hlocation => ⟨attr, hmem, location, hlocation, rfl⟩
    have hstep := @Attribute.validateIn_tracks catalog _ _ _ _ _ _ hpath hsub (hchecks attr hmem)
      hdeclared hkeys h
    rw [List.foldl_cons]
    exact ih (fun later hlater => hattrs later (List.mem_cons_of_mem _ hlater)) hstep

/-! ## The resource as a whole -/

/-- What is wrong with the list of schemas blocks nothing. -/
theorem checkListed_free (record : Record) (listed : List String) :
    (schema.checkListed record listed).Sound ∧ (schema.checkListed record listed).blocks = [] := by
  have hloop : ∀ (violations : List Violation) (report : Report), report.Sound → report.blocks = [] →
      (violations.foldl (fun report v => report.addViolation v true []) report).Sound ∧
        (violations.foldl (fun report v => report.addViolation v true []) report).blocks = [] := by
    intro violations
    induction violations with
    | nil => exact fun report hsound hfree => ⟨hsound, hfree⟩
    | cons violation violations ih =>
      intro report hsound hfree
      exact ih _ (hsound.addViolation violation true []) hfree
  exact hloop _ .empty .empty rfl

theorem checkSchemas_tracks {declared : Location → Prop}
    (h : Tracks declared before report (.record record)) :
    Tracks declared before (schema.checkSchemas (report, record)).1
      (.record (schema.checkSchemas (report, record)).2) := by
  unfold checkSchemas
  dsimp only
  split
  · obtain ⟨hsound, hfree⟩ := schema.checkListed_free record (listed (record.get (.path "schemas")))
    exact h.mergeFree hsound hfree _
  · exact h

theorem checkResourceType_tracks {declared : Location → Prop}
    (h : Tracks declared before report (.record record)) :
    Tracks declared before (schema.checkResourceType (report, record)).1
      (.record (schema.checkResourceType (report, record)).2) := by
  unfold checkResourceType
  dsimp only
  split
  · split
    · exact h
    · exact h.withBlocks (h.sound.addViolation _ true _) rfl
  · exact h

/-- Every declared location in a resource is a way of at least one step. -/
theorem ne_nil_of_declares {location : Location} (h : schema.Declares location) : location ≠ [] := by
  obtain ⟨attr, hmem, rest, -, rfl⟩ := h
  obtain ⟨⟨uri, extension, rep⟩, hpath, -⟩ := path_of_mem hmem
  rw [hpath]
  cases extension with
  | false => exact List.cons_ne_nil _ _
  | true => exact List.cons_ne_nil _ _

/-- Validation changes a resource only by marking values as invalid: each at a declared location for which a
blocking violation is reported.  And of every blocking violation the value at its location, or one around
it, is marked. -/
theorem validate_marks_rejected (schema : Schema) (catalog : Catalog) {record : Record}
    (hkeys : (Value.record record).WellKeyed)
    (hchecks : ∀ attr ∈ schema.attrs.all, attr.EveryCheck Check.BlocksRootOnly) :
    let report := (schema.validate catalog record).1
    let after := (schema.validate catalog record).2
    (Value.record record).Marked (fun location => schema.Declares location ∧ report.Rejects location)
        (.record after) ∧
      ∀ location, report.Rejects location → ∃ spelled : Location, (spelled == location) = true ∧
        schema.Declares spelled ∧ (Value.record after).Invalidated spelled := by
  have hattrs := @validateAttrs_tracks catalog _ _ _ schema hchecks hkeys schema.attrs.all
    (fun attr hmem => hmem) (schema.start_tracks record)
  have hschemas := @checkSchemas_tracks _ _ _ schema _ hattrs
  have hall := @checkResourceType_tracks _ _ _ schema _ hschemas
  intro report after
  have htracks : Tracks schema.Declares (.record record) report (.record after) := hall
  constructor
  · apply htracks.allowed.mono
    intro location hblocked
    exact ⟨hblocked.1, htracks.sound.has_blocks_iff.1 hblocked.2⟩
  · intro location hrejects
    obtain ⟨block, hblock, hloc⟩ := Slots.has_iff.1 (htracks.sound.has_blocks_iff.2 hrejects)
    have hdeclared := htracks.declares block hblock
    refine ⟨block.1, hloc, hdeclared, ?_⟩
    rcases htracks.complete block hblock with hroot | hinvalid
    · exact absurd hroot (ne_nil_of_declares hdeclared)
    · exact hinvalid

/-- A schema whose names a service checks itself, and a resource with a refused name, an element of the
wrong type and a sub-attribute of the wrong type: each of the three is marked. -/
theorem validate_marks_rejected_parts :
    let refuse : Check := .custom 0 fun _ => .ofViolation .badContent false
    let schema : Schema := {
      name := "User", endpoint := "/Users", description := ""
      attrs := {
        own := {
          schema := ⟨"urn:user", by decide⟩, extension := false, shared := sharedNames.map Text.lower
          declared := sharedAttributes ++ [
            { Attribute.simple ⟨"nickName", by decide⟩ .string {} with hooks := { checks := [refuse] } },
            Attribute.simple ⟨"emails", by decide⟩
              (.complex [Attribute.simple ⟨"value", by decide⟩ .string {}]) { multiValued := true }] } } }
    let record := Record.ofMembers [("NickName", .text "x"),
      ("emails", .list [.object [("Value", .bool true)], .text "y"])]
    let after := (schema.validate {} record).2
    ((Value.record record).WellKeyed ∧
        ∀ attr ∈ schema.attrs.all, attr.EveryCheck Check.BlocksRootOnly) ∧
      ∀ location ∈ [[.key "nickName"], [.key "emails", .index 1],
          [.key "emails", .index 0, .key "value"]],
        ∃ spelled : Location, (spelled == location) = true ∧ schema.Declares spelled ∧
          (Value.record after).Invalidated spelled := by
  intro refuse schema record after
  have hkeys : (Value.record record).WellKeyed :=
    Value.wellKeyed_ofMembers _ (Value.everywhere_record.2 ⟨List.Pairwise.nil, by simp⟩)
  have hrefuse : refuse.BlocksRootOnly := fun value =>
    ⟨Report.Reachable.empty.addViolation _ _ _, (RootOnly.ofViolation _ _).root⟩
  have hchecks : ∀ attr ∈ schema.attrs.all, attr.EveryCheck Check.BlocksRootOnly := by
    have hnone : ∀ check ∈ ([] : List Check), check.BlocksRootOnly := List.forall_mem_nil _
    rw [SchemaAttributes.all, List.flatMap_nil, List.append_nil]
    refine AttributeSet.everyCheck_attrs (List.forall_mem_append.2 ⟨?_, ?_⟩)
    · exact everyCheck_sharedAttributes
    · simp only [List.forall_mem_cons]
      exact ⟨⟨List.forall_mem_singleton.2 hrefuse, trivial⟩, ⟨hnone, ⟨hnone, trivial⟩, trivial⟩, List.forall_mem_nil _⟩
  have hrejects : ∀ location ∈ [[.key "nickName"], [.key "emails", .index 1],
      [.key "emails", .index 0, .key "value"]],
      (schema.validate {} record).1.Rejects location := by
    unfold Report.Rejects
    decide +kernel
  refine ⟨⟨hkeys, hchecks⟩, fun location hlocation => ?_⟩
  exact (schema.validate_marks_rejected {} hkeys hchecks).2 location (hrejects location hlocation)

end Schema

end Scim
