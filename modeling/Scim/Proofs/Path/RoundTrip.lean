import Mathlib.Data.List.DropRight
import Scim.Proofs.Path

/-!
# Paths and their texts

A path is written as its names with a full stop between them, behind the identifier of its schema and a colon if it is
bound.  Read again, the text gives the same path in the same casing, and no text gives a path that is written
differently.

The grammar of paths is said here once more, as a whole and without cutting anything: segments that are each ended by a
colon, a name, and perhaps a full stop and a second name.  A segment may hold full stops and a name may not, and neither
holds a colon, so a text has its parts in one way only, and what the grammar takes for an identifier or a name is one.

## Main results

* `Path.split_accepts_iff`: a text is cut exactly if the grammar finds parts in it.
* `Path.Parts.read_eq_split`: the parts that the grammar gives are read without a fault, and as they are by `split`.
* `Path.parse_eq_ok_iff`: a text is read as the one path that spells it, if the catalog knows its schema.
* `Path.reading_inverts_writing`: the whole statement.
-/

namespace Scim

open Text

/-! ## The grammar -/

/-- A name in writing: an ASCII letter and then word characters, dollar signs and hyphens, or else `$ref`. -/
def NameText (cs : List Char) : Prop :=
  (∃ first rest, cs = first :: rest ∧ first.isAlpha = true ∧
    ∀ c ∈ rest, isWordChar c = true ∨ c = '$' ∨ c = '-') ∨ cs = ['$', 'r', 'e', 'f']

/-- A segment of an identifier in writing: one or more word characters, full stops and hyphens. -/
def SegmentText (cs : List Char) : Prop :=
  cs ≠ [] ∧ ∀ c ∈ cs, isWordChar c = true ∨ c = '.' ∨ c = '-'

theorem isAttrName_iff {cs : List Char} : isAttrName cs = true ↔ NameText cs := by
  cases cs with
  | nil => simp [isAttrName, NameText]
  | cons c cs =>
    simp only [isAttrName, NameText, isNameChar, Bool.or_eq_true, Bool.and_eq_true, List.all_eq_true, beq_iff_eq,
      or_assoc]
    grind

theorem SegmentText.colon_not_mem {cs : List Char} (h : SegmentText cs) : ':' ∉ cs := by
  intro hcolon
  exact absurd (h.2 ':' hcolon) (by decide)

/-- Segments are what an identifier is made of. -/
theorem segmentText_iff {cs : List Char} : (!cs.isEmpty && cs.all isUriChar) = true ↔ SegmentText cs := by
  simp [SegmentText, isUriChar, or_assoc]

/-- An identifier is what is left of segments, each ended by a colon, without the last colon. -/
theorem isSchemaUri_iff {cs : List Char} :
    isSchemaUri cs = true ↔
      ∃ segments : List (List Char), segments.flatMap (· ++ [':']) = cs ++ [':'] ∧ ∀ s ∈ segments, SegmentText s := by
  simp only [isSchemaUri, List.all_eq_true, segmentText_iff]
  constructor
  · intro hparts
    exact ⟨_, (splitAll_eq_iff.1 rfl).1, hparts⟩
  · rintro ⟨segments, hspelled, hsegments⟩
    rwa [splitAll_eq_iff.2 ⟨hspelled, fun part hpart => (hsegments part hpart).colon_not_mem⟩]

theorem NameText.exists_name {cs : List Char} (h : NameText cs) : ∃ name : AttrName, name.text = String.ofList cs :=
  ⟨⟨String.ofList cs, by rw [String.toList_ofList]; exact isAttrName_iff.2 h⟩, rfl⟩

namespace Path

/-- What the grammar of paths finds in a text. -/
structure Parts where
  /-- The segments of the identifier, without the colons that end them. -/
  segments : List (List Char)
  attr : List Char
  sub : Option (List Char)

namespace Parts

/-- The segments, each ended by a colon. -/
def qualifier (parts : Parts) : List Char := parts.segments.flatMap (· ++ [':'])

/-- The text that has the parts. -/
def spelled (parts : Parts) : List Char :=
  parts.qualifier ++ parts.attr ++ (parts.sub.map ('.' :: ·)).getD []

/-- The parts are those that the grammar asks for. -/
structure Grammatical (parts : Parts) : Prop where
  segments : ∀ segment ∈ parts.segments, SegmentText segment
  attr : NameText parts.attr
  sub : ∀ sub, parts.sub = some sub → NameText sub

/-- The identifier in the qualifier, without the colon at the end. -/
def schema (parts : Parts) : List Char := parts.qualifier.rdropWhile (· == ':')

/-- Reads each part on its own, with the fault of that part if it is malformed. -/
def read (parts : Parts) : Except Fault (Option SchemaUri × LocalPath) := do
  let rep ← LocalPath.ofTexts (String.ofList parts.attr) (parts.sub.map String.ofList)
  if parts.schema.isEmpty then
    return (none, rep)
  else
    return (some (← SchemaUri.parse (String.ofList parts.schema)), rep)

variable {parts : Parts}

/-- Either there is no qualifier, or it is an identifier and a colon. -/
theorem Grammatical.qualifier_cases (h : parts.Grammatical) :
    (parts.qualifier = [] ∧ parts.schema = []) ∨
      ∃ uri : SchemaUri, parts.schema = uri.text.toList ∧ parts.schema ≠ [] ∧
        parts.qualifier = uri.text.toList ++ [':'] := by
  rcases List.eq_nil_or_concat parts.segments with hnone | ⟨before, last, hsegments⟩
  · have hnil : parts.qualifier = [] := by rw [qualifier, hnone, List.flatMap_nil]
    exact .inl ⟨hnil, by rw [schema, hnil, List.rdropWhile_nil]⟩
  · right
    have hlast : SegmentText last := h.segments last (by simp [hsegments])
    obtain ⟨front, c, rfl⟩ := (List.eq_nil_or_concat last).resolve_left hlast.1
    have hcolon : ¬ (c == ':') = true := by
      rw [beq_iff_eq]
      rintro rfl
      exact hlast.colon_not_mem (by simp)
    have hqualifier : parts.qualifier = before.flatMap (· ++ [':']) ++ front ++ [c] ++ [':'] := by
      simp [qualifier, hsegments]
    have hschema : parts.schema = before.flatMap (· ++ [':']) ++ front ++ [c] := by
      rw [schema, hqualifier, List.rdropWhile_concat_pos _ _ _ (by rfl)]
      exact List.rdropWhile_concat_neg (· == ':') _ c hcolon
    have huri : isSchemaUri parts.schema = true := by
      refine isSchemaUri_iff.2 ⟨parts.segments, ?_, h.segments⟩
      rw [hschema]
      exact hqualifier
    refine ⟨⟨String.ofList parts.schema, by rwa [String.toList_ofList]⟩, by simp, by simp [hschema], ?_⟩
    rw [String.toList_ofList, hschema, hqualifier]

/-- Parts that the grammar asks for are read, and spell the text that has them. -/
theorem Grammatical.exists_read (h : parts.Grammatical) :
    ∃ found, parts.read = .ok found ∧ (spelling found).toList = parts.spelled := by
  obtain ⟨rep, hrep, hspelled⟩ : ∃ rep : LocalPath,
      LocalPath.ofTexts (String.ofList parts.attr) (parts.sub.map String.ofList) = .ok rep ∧
        rep.text.toList = parts.attr ++ (parts.sub.map ('.' :: ·)).getD [] := by
    obtain ⟨attr, hattr⟩ := h.attr.exists_name
    cases hsub : parts.sub with
    | none =>
      have hread := LocalPath.ofTexts_texts ⟨attr, none⟩
      rw [hattr] at hread
      exact ⟨_, hread, by simp [LocalPath.text, hattr]⟩
    | some cs =>
      obtain ⟨sub, hname⟩ := (h.sub cs hsub).exists_name
      have hread := LocalPath.ofTexts_texts ⟨attr, some sub⟩
      rw [hattr, Option.map_some, hname] at hread
      exact ⟨_, hread, by simp [LocalPath.text, hattr, hname]⟩
  unfold read
  rw [hrep]
  rcases h.qualifier_cases with ⟨hnil, hschema⟩ | ⟨uri, hschema, hsome, hqualifier⟩
  · refine ⟨(none, rep), by simp [hschema, bind, Except.bind, pure, Except.pure], ?_⟩
    rw [spelling, hspelled, spelled, hnil, List.nil_append]
  · refine ⟨(some uri, rep), ?_, ?_⟩
    · rw [hschema] at hsome
      simp [hschema, hsome, bind, Except.bind, pure, Except.pure, SchemaUri.parse_text]
    · simp [spelling, hspelled, spelled, hqualifier]

/-- They are read from the text as they are read one by one. -/
theorem Grammatical.read_eq_split (h : parts.Grammatical) {text : String} (hspelled : parts.spelled = text.toList) :
    ∃ found, parts.read = .ok found ∧ split text = .ok found := by
  obtain ⟨found, hread, hfound⟩ := h.exists_read
  exact ⟨found, hread, split_eq_ok_iff.2 (String.toList_injective (hspelled.symm.trans hfound.symm))⟩

/-- Whatever is cut out of a text are parts that the grammar asks for. -/
theorem exists_of_spelling (found : Option SchemaUri × LocalPath) :
    ∃ parts : Parts, parts.Grammatical ∧ parts.spelled = (spelling found).toList := by
  obtain ⟨schema, attr, sub⟩ := found
  have hname : ∀ name : AttrName, NameText name.text.toList := fun name => isAttrName_iff.1 name.wellFormed
  obtain ⟨segments, hsegments, hqualifier⟩ : ∃ segments : List (List Char), (∀ s ∈ segments, SegmentText s) ∧
      segments.flatMap (· ++ [':']) = (schema.map (·.text.toList ++ [':'])).getD [] := by
    cases schema with
    | none => exact ⟨[], by simp, rfl⟩
    | some uri =>
      obtain ⟨segments, hspelled, hsegments⟩ := isSchemaUri_iff.1 uri.wellFormed
      exact ⟨segments, hsegments, hspelled⟩
  refine ⟨⟨segments, attr.text.toList, sub.map (·.text.toList)⟩, ⟨hsegments, hname attr, ?_⟩, ?_⟩
  · rintro cs hsub
    obtain ⟨name, -, rfl⟩ := Option.map_eq_some_iff.1 hsub
    exact hname name
  · rw [spelled, qualifier, hqualifier]
    cases schema <;> cases sub <;> simp [spelling, LocalPath.text]

end Parts

/-! ## Reading a path -/

/-- The paths that can be made: of two names in writing, bound to a schema that the catalog has, and from there to a
sub-attribute or back to the attribute. -/
inductive Built (catalog : Catalog) : Path → Prop
  | named {attr : String} {sub : Option String} {rep : LocalPath} (h : LocalPath.ofTexts attr sub = .ok rep) :
      Built catalog (.unbound rep)
  | bound {schema : SchemaUri} {rep : LocalPath} {path : BoundPath}
      (h : BoundPath.bind catalog schema rep = .ok path) : Built catalog (.bound path)
  | withSub {path : BoundPath} (before : Built catalog (.bound path)) (sub : AttrName) :
      Built catalog (.bound (path.withSub sub))
  | topLevel {path : Path} (before : Built catalog path) : Built catalog path.topLevel

section Parse

variable {catalog : Catalog} {text : String} {path : Path}

theorem parse_of_refused {fault : Fault} (h : split text = .error fault) : parse catalog text = .error fault := by
  simp only [parse, h, bind, Except.bind]

theorem parse_of_unqualified {rep : LocalPath} (h : split text = .ok (none, rep)) :
    parse catalog text = .ok (.unbound rep) := by
  simp only [parse, h, bind, Except.bind]

theorem parse_of_qualified {uri : SchemaUri} {rep : LocalPath} (h : split text = .ok (some uri, rep)) :
    parse catalog text =
      match catalog.isExtension? uri with
      | some extension => .ok (.bound ⟨uri, extension, rep⟩)
      | none => .error (.unknownSchema uri.text) := by
  simp only [parse, h, BoundPath.bind, bind, Except.bind]
  cases catalog.isExtension? uri <;> rfl

/-- The catalog has the schema of the path, if it names one, as what the path says it is. -/
def KnownTo (catalog : Catalog) : Path → Prop
  | .unbound _ => True
  | .bound path => catalog.isExtension? path.schema = some path.extension

/-- A text is read as the one path that spells it, if the catalog knows its schema. -/
theorem parse_eq_ok_iff : parse catalog text = .ok path ↔ text = path.text ∧ path.KnownTo catalog := by
  constructor
  · intro h
    cases hsplit : split text with
    | error fault =>
      rw [parse_of_refused hsplit] at h
      cases h
    | ok found =>
      have htext := split_eq_ok_iff.1 hsplit
      obtain ⟨_ | uri, rep⟩ := found
      · rw [parse_of_unqualified hsplit] at h
        cases h
        exact ⟨htext, trivial⟩
      · rw [parse_of_qualified hsplit] at h
        cases hflag : catalog.isExtension? uri with
        | none =>
          rw [hflag] at h
          cases h
        | some extension =>
          rw [hflag] at h
          cases h
          exact ⟨htext, hflag⟩
  · rintro ⟨rfl, hknown⟩
    cases path with
    | unbound rep => exact parse_of_unqualified (split_eq_ok_iff.2 rfl)
    | bound path =>
      have hsplit : split path.text = .ok (some path.schema, path.rep) := split_eq_ok_iff.2 rfl
      have hflag : catalog.isExtension? path.schema = some path.extension := hknown
      exact (parse_of_qualified hsplit).trans (by rw [hflag])

/-- Reading is refused because the text cannot be cut, or because the catalog does not have the schema. -/
theorem parse_eq_error_iff {fault : Fault} :
    parse catalog text = .error fault ↔
      split text = .error fault ∨ ∃ uri rep, split text = .ok (some uri, rep) ∧ catalog.isExtension? uri = none ∧
        fault = .unknownSchema uri.text := by
  cases hsplit : split text with
  | error other => simp [parse_of_refused hsplit]
  | ok found =>
    obtain ⟨_ | uri, rep⟩ := found
    · simp [parse_of_unqualified hsplit]
    · rw [parse_of_qualified hsplit]
      cases hflag : catalog.isExtension? uri with
      | some extension => simp [hflag]
      | none => simp [hflag, eq_comm]

theorem split_eq_error {fault : Fault} (h : split text = .error fault) : fault = .invalidPath text := by
  unfold split at h
  split at h
  · cases h
  · exact (Except.error.inj h).symm

theorem Built.knownTo (h : Built catalog path) : path.KnownTo catalog := by
  induction h with
  | named => trivial
  | bound h =>
    unfold BoundPath.bind at h
    split at h
    · next found =>
      cases h
      exact found
    · cases h
  | withSub _ _ ih => exact ih
  | @topLevel path _ ih =>
    cases path with
    | unbound rep => trivial
    | bound path => exact ih

/-- A text is cut exactly if the grammar finds parts in it. -/
theorem split_accepts_iff :
    (∃ found, split text = .ok found) ↔ ∃ parts : Parts, parts.Grammatical ∧ parts.spelled = text.toList := by
  constructor
  · rintro ⟨found, hfound⟩
    rw [split_eq_ok_iff.1 hfound]
    exact Parts.exists_of_spelling found
  · rintro ⟨parts, hparts, hspelled⟩
    obtain ⟨found, -, hfound⟩ := hparts.read_eq_split hspelled
    exact ⟨found, hfound⟩

/-- The identifier is what stands before the last colon. -/
theorem before_last_colon_of_split {schema : Option SchemaUri} {rep : LocalPath} (h : split text = .ok (schema, rep)) :
    (schema = none ∧ ':' ∉ text.toList) ∨
      ∃ uri names, schema = some uri ∧ text = uri.text ++ ":" ++ names ∧ ':' ∉ names.toList := by
  have htext := split_eq_ok_iff.1 h
  cases schema with
  | none => exact .inl ⟨rfl, htext ▸ rep.colon_not_mem⟩
  | some uri => exact .inr ⟨uri, rep.text, rfl, htext, rep.colon_not_mem⟩

/-- A text is accepted exactly if the grammar finds parts in it.  These are read without a fault, the identifier is what
stands before the last colon, the only faults are that of the whole text and that of a schema that the catalog does not
have, and what is read spells the text.  And every path that can be made is read from its text as it was. -/
theorem reading_inverts_writing (catalog : Catalog) :
    (∀ text : String,
      ((∃ found, split text = .ok found) ↔ ∃ parts : Parts, parts.Grammatical ∧ parts.spelled = text.toList) ∧
      (∀ parts : Parts, parts.Grammatical → parts.spelled = text.toList →
        ∃ found, parts.read = .ok found ∧ split text = .ok found) ∧
      (∀ schema rep, split text = .ok (schema, rep) → (schema = none ∧ ':' ∉ text.toList) ∨
        ∃ uri names, schema = some uri ∧ text = uri.text ++ ":" ++ names ∧ ':' ∉ names.toList) ∧
      (∀ fault, split text = .error fault → fault = .invalidPath text) ∧
      (∀ fault, parse catalog text = .error fault ↔ split text = .error fault ∨
        ∃ uri rep, split text = .ok (some uri, rep) ∧ catalog.isExtension? uri = none ∧
          fault = .unknownSchema uri.text) ∧
      ∀ path, parse catalog text = .ok path → path.text = text) ∧
    ∀ path, Built catalog path → parse catalog path.text = .ok path := by
  constructor
  · intro text
    refine ⟨split_accepts_iff, fun parts hparts hspelled => hparts.read_eq_split hspelled,
      fun schema rep h => before_last_colon_of_split h, fun fault h => split_eq_error h,
      fun fault => parse_eq_error_iff, ?_⟩
    intro path h
    exact (parse_eq_ok_iff.1 h).1.symm
  · intro path h
    exact parse_eq_ok_iff.2 ⟨rfl, h.knownTo⟩

/-- A catalog of one schema, with a version in its identifier. -/
def versionedCatalog : Catalog := { schemas := [⟨⟨"urn:example:2.0:User", by decide⟩, false⟩] }

/-- The reference to the manager of a user: a segment with a full stop, and the name that begins with no letter. -/
theorem reading_inverts_writing_manager :
    let text := "urn:Example:2.0:User:manager.$ref"
    let parts : Parts :=
      ⟨["urn".toList, "Example".toList, "2.0".toList, "User".toList], "manager".toList, some "$ref".toList⟩
    parts.Grammatical ∧ parts.spelled = text.toList ∧
      (∃ found, parts.read = .ok found ∧ split text = .ok found) ∧
      ∃ path, Built versionedCatalog path ∧ path.text = text ∧ parse versionedCatalog path.text = .ok path := by
  intro text parts
  have hparts : parts.Grammatical := by
    refine ⟨?_, isAttrName_iff.1 (by decide), fun sub hsub => ?_⟩
    · simp only [parts, List.forall_mem_cons, ← segmentText_iff]
      decide
    · cases hsub
      exact isAttrName_iff.1 (by decide)
  have hspelled : parts.spelled = text.toList := by decide
  obtain ⟨htexts, hbuilt⟩ := reading_inverts_writing versionedCatalog
  have hflag : versionedCatalog.isExtension? ⟨"urn:Example:2.0:User", by decide⟩ = some false := by decide +kernel
  have hbind : BoundPath.bind versionedCatalog ⟨"urn:Example:2.0:User", by decide⟩ ⟨⟨"manager", by decide⟩, none⟩ =
      .ok ⟨⟨"urn:Example:2.0:User", by decide⟩, false, ⟨⟨"manager", by decide⟩, none⟩⟩ := by
    simp only [BoundPath.bind, hflag]
  have hpath := Built.withSub (.bound hbind) ⟨"$ref", by decide⟩
  exact ⟨hparts, hspelled, (htexts text).2.1 parts hparts hspelled, _, hpath, by decide +kernel, hbuilt _ hpath⟩

end Parse

end Path

end Scim
