import Scim.Path
import Scim.Proofs.Text.Casing

/-!
# Paths and the texts they are read from

Paths within a schema are compared name by name without regard to case.

Cutting a text loses nothing: the parts that come out spell the text again, and the text of a path is cut where its
parts were joined.  A path with a sub-attribute is therefore longer than the name that it begins with, and the two
are never one key.

The keys of a path are those of the entries that it goes through in a record.  Whether the identifier of the
schema is one of them is not compared by the equality of paths, but a catalog says it alike of every spelling; so
equal paths that were read with the same catalog go through the same keys, each in a casing of its own.

## Main results

* `LocalPath.beq_iff`: equal paths are those whose names have equal lower-case forms.
* `Path.split_eq_ok_iff`: a text is cut into the parts that spell it, and into no others.
* `LocalPath.lower_attr_ne`: a path with a sub-attribute is not the name of its parent, in any casing.
* `Path.isExtension_congr`: equal paths of one catalog agree on whether they lead into an extension.
* `Path.lower_keys_congr`: such paths have the same keys up to case.
-/

namespace Scim

open Text

/-- A catalog does not tell identifiers apart that differ only in case. -/
theorem Catalog.entry?_congr (catalog : Catalog) {uri other : SchemaUri} (h : uri.folded = other.folded) :
    catalog.entry? uri = catalog.entry? other := by
  have hsame : (fun entry : SchemaEntry => entry.uri == uri) = fun entry => entry.uri == other := by
    funext entry
    show (entry.uri.folded == uri.folded) = (entry.uri.folded == other.folded)
    rw [h]
  rw [Catalog.entry?, hsame, Catalog.entry?]

namespace LocalPath

/-- Paths within a schema are equal when their names are, up to case. -/
theorem beq_iff {a b : LocalPath} :
    (a == b) = true ↔
      a.attr.folded = b.attr.folded ∧ a.sub.map AttrName.folded = b.sub.map AttrName.folded := by
  obtain ⟨attr, sub⟩ := a
  obtain ⟨other, otherSub⟩ := b
  show (attr == other && sub == otherSub) = true ↔ _
  rw [Bool.and_eq_true, AttrName.beq_iff]
  cases sub <;> cases otherSub <;> simp [AttrName.beq_iff]

/-- Equal paths within a schema have sub-attributes both, or neither has one. -/
theorem cases_of_beq {a b : LocalPath} (h : (a == b) = true) :
    (∃ attr other : AttrName, a = ⟨attr, none⟩ ∧ b = ⟨other, none⟩ ∧ attr.folded = other.folded) ∨
      ∃ attr other sub otherSub : AttrName, a = ⟨attr, some sub⟩ ∧ b = ⟨other, some otherSub⟩ ∧
        attr.folded = other.folded ∧ sub.folded = otherSub.folded := by
  obtain ⟨hattr, hsub⟩ := beq_iff.1 h
  obtain ⟨attr, sub⟩ := a
  obtain ⟨other, otherSub⟩ := b
  cases sub with
  | none =>
    cases otherSub with
    | none => exact .inl ⟨attr, other, rfl, rfl, hattr⟩
    | some otherSub => cases hsub
  | some sub =>
    cases otherSub with
    | none => cases hsub
    | some otherSub => exact .inr ⟨attr, other, sub, otherSub, rfl, rfl, hattr, Option.some.inj hsub⟩

/-- The texts that a path was made of are those of its names. -/
theorem texts_of_ofTexts {attr : String} {sub : Option String} {rep : LocalPath}
    (h : (ofTexts attr sub).toOption = some rep) :
    attr = rep.attr.text ∧ sub = rep.sub.map (·.text) := by
  cases hattr : AttrName.parse attr with
  | error fault =>
    simp only [ofTexts, hattr, bind, Except.bind] at h
    cases h
  | ok name =>
    simp only [ofTexts, hattr, bind, Except.bind] at h
    have hname := AttrName.parse_eq_ok.1 hattr
    cases sub with
    | none =>
      cases Option.some.inj h
      exact ⟨hname, rfl⟩
    | some sub =>
      cases hsub : AttrName.parse sub with
      | error fault =>
        simp only [hsub] at h
        cases h
      | ok subName =>
        simp only [hsub] at h
        cases Option.some.inj h
        exact ⟨hname, congrArg some (AttrName.parse_eq_ok.1 hsub)⟩

/-- The texts of the names of a path make that path. -/
theorem ofTexts_texts (rep : LocalPath) : ofTexts rep.attr.text (rep.sub.map (·.text)) = .ok rep := by
  obtain ⟨attr, sub⟩ := rep
  cases sub <;> simp [ofTexts, AttrName.parse_text, bind, Except.bind]

/-- As no name has a colon, the names of a path have none. -/
theorem colon_not_mem (rep : LocalPath) : ':' ∉ rep.text.toList := by
  have hname : ∀ name : AttrName, ':' ∉ name.text.toList := fun name =>
    not_mem_of_isAttrName name.wellFormed (by decide) (by decide)
  unfold text
  split <;> simp [hname]

/-- A path with a sub-attribute and the name of its parent are different keys. -/
theorem lower_attr_ne {rep : LocalPath} {sub : AttrName} (h : rep.sub = some sub) :
    lower rep.attr.text ≠ lower rep.text := by
  apply lower_ne_of_longer (List.cons_ne_nil '.' sub.text.toList)
  simp [text, h]

/-- The names of a path, that of the attribute first. -/
def keys (rep : LocalPath) : List String := rep.attr.text :: (rep.sub.map AttrName.text).toList

theorem lower_keys_congr {a b : LocalPath} (h : (a == b) = true) : a.keys.map lower = b.keys.map lower := by
  obtain ⟨attr, other, rfl, rfl, hattr⟩ | ⟨attr, other, sub, otherSub, rfl, rfl, hattr, hsub⟩ := cases_of_beq h
  · show [attr.folded] = [other.folded]
    rw [hattr]
  · show [attr.folded, sub.folded] = [other.folded, otherSub.folded]
    rw [hattr, hsub]

end LocalPath

namespace Path

/-- Equal paths are bound both, or neither is. -/
theorem cases_of_beq {p q : Path} (h : (p == q) = true) :
    (∃ a b : LocalPath, p = .unbound a ∧ q = .unbound b ∧ (a == b) = true) ∨
      ∃ a b : BoundPath, p = .bound a ∧ q = .bound b ∧ a.schema.folded = b.schema.folded ∧
        (a.rep == b.rep) = true := by
  cases p with
  | unbound a =>
    cases q with
    | unbound b => exact .inl ⟨a, b, rfl, rfl, h⟩
    | bound b => cases h
  | bound a =>
    cases q with
    | unbound b => cases h
    | bound b =>
      obtain ⟨hschema, hrep⟩ := BoundPath.beq_iff.1 h
      exact .inr ⟨a, b, rfl, rfl, SchemaUri.beq_iff.1 hschema, hrep⟩

/-- The part of a path that holds the names spells them. -/
theorem text_of_splitLocal {cs : List Char} {rep : LocalPath} (h : splitLocal cs = some rep) :
    rep.text = String.ofList cs := by
  unfold splitLocal at h
  split at h
  · obtain ⟨hattr, hsub⟩ := LocalPath.texts_of_ofTexts h
    have hnone : rep.sub = none := Option.map_eq_none_iff.1 hsub.symm
    simp only [LocalPath.text, hnone, hattr]
  · next attr sub hcut =>
    obtain ⟨hattr, hsub⟩ := LocalPath.texts_of_ofTexts h
    obtain ⟨name, hname, htext⟩ := Option.map_eq_some_iff.1 hsub.symm
    obtain ⟨hwhole, -⟩ := splitFirst_eq_some.1 hcut
    simp only [LocalPath.text, hname, htext, ← hattr, hwhole]
    rw [String.ofList_append, String.ofList_cons, ← String.append_assoc]
    rfl

/-- The parts of a path in writing, of which the first one may be absent. -/
def spelling : Option SchemaUri × LocalPath → String
  | (none, rep) => rep.text
  | (some uri, rep) => uri.text ++ ":" ++ rep.text

/-- The names of a path are cut where they were joined, as the first one has no full stop. -/
theorem splitLocal_text (rep : LocalPath) : splitLocal rep.text.toList = some rep := by
  have hstop : '.' ∉ rep.attr.text.toList := not_mem_of_isAttrName rep.attr.wellFormed (by decide) (by decide)
  have hread := rep.ofTexts_texts
  unfold splitLocal LocalPath.text
  cases hsub : rep.sub with
  | none =>
    rw [hsub] at hread
    dsimp only
    rw [splitFirst_eq_none.2 hstop, String.ofList_toList]
    exact congrArg Except.toOption hread
  | some sub =>
    rw [hsub] at hread
    have hcut : splitFirst '.' (rep.attr.text ++ "." ++ sub.text).toList =
        some (rep.attr.text.toList, sub.text.toList) :=
      splitFirst_eq_some.2 ⟨by simp, hstop⟩
    dsimp only
    rw [hcut]
    simp only [String.ofList_toList]
    exact congrArg Except.toOption hread

/-- So are the identifier and the names. -/
theorem split?_spelling (parts : Option SchemaUri × LocalPath) : split? (spelling parts) = some parts := by
  obtain ⟨_ | uri, rep⟩ := parts
  · simp only [split?, spelling, splitLast_eq_none.2 rep.colon_not_mem, splitLocal_text, Option.map_some]
  · have hcut : splitLast ':' (uri.text ++ ":" ++ rep.text).toList = some (uri.text.toList, rep.text.toList) :=
      splitLast_eq_some.2 ⟨by simp, rep.colon_not_mem⟩
    simp only [split?, spelling, hcut, splitLocal_text, String.ofList_toList, SchemaUri.parse_text]
    rfl

/-- What is cut out of a text spells it. -/
theorem spelling_of_split? {text : String} {parts : Option SchemaUri × LocalPath} (h : split? text = some parts) :
    spelling parts = text := by
  unfold split? at h
  split at h
  · obtain ⟨rep, hrep, rfl⟩ := Option.map_eq_some_iff.1 h
    rw [spelling, text_of_splitLocal hrep, String.ofList_toList]
  · next schema names hcut =>
    obtain ⟨hwhole, -⟩ := splitLast_eq_some.1 hcut
    cases hnames : splitLocal names with
    | none =>
      simp only [hnames, bind, Option.bind] at h
      cases h
    | some rep =>
      cases huri : SchemaUri.parse (String.ofList schema) with
      | error fault =>
        simp only [hnames, huri, bind, Option.bind] at h
        cases h
      | ok uri =>
        simp only [hnames, huri, bind, Option.bind] at h
        cases Option.some.inj h
        rw [spelling, text_of_splitLocal hnames, ← SchemaUri.parse_eq_ok.1 huri]
        apply String.toList_injective
        simp [hwhole]

/-- An unqualified path spells the text that it was read from. -/
theorem text_of_split? {text : String} {rep : LocalPath} (h : split? text = some (none, rep)) :
    rep.text = text :=
  spelling_of_split? h

/-- A text is cut into the parts that spell it, and into no others. -/
theorem split_eq_ok_iff {text : String} {parts : Option SchemaUri × LocalPath} :
    split text = .ok parts ↔ text = spelling parts := by
  unfold split
  constructor
  · intro h
    cases hcut : split? text with
    | none =>
      rw [hcut] at h
      cases h
    | some found =>
      rw [hcut] at h
      cases Except.ok.inj h
      exact (spelling_of_split? hcut).symm
  · rintro rfl
    rw [split?_spelling]

/-! ## Keys -/

/-- The keys on the way to the value of a path, the identifier of an extension first. -/
def keys : Path → List String
  | .unbound rep => rep.keys
  | .bound path => if path.extension then path.schema.text :: path.rep.keys else path.rep.keys

theorem location_eq_keys (path : Path) : path.location = path.keys.map Segment.key := by
  have hlocal : ∀ rep : LocalPath, rep.location = rep.keys.map Segment.key := by
    rintro ⟨attr, sub⟩
    cases sub <;> rfl
  cases path with
  | unbound rep => exact hlocal rep
  | bound path =>
    rw [location, BoundPath.location, hlocal, keys]
    split <;> rfl

/-- A schema by which a path is qualified is what the catalog says of it. -/
theorem isExtension?_of_parse {catalog : Catalog} {s : String} {path : BoundPath}
    (h : parse catalog s = .ok (.bound path)) : catalog.isExtension? path.schema = some path.extension := by
  cases hsplit : split s with
  | error fault =>
    simp only [parse, hsplit, bind, Except.bind] at h
    cases h
  | ok parts =>
    obtain ⟨schema, rep⟩ := parts
    cases schema with
    | none =>
      simp only [parse, hsplit, bind, Except.bind] at h
      cases h
    | some schema =>
      simp only [parse, hsplit, BoundPath.bind, bind, Except.bind] at h
      cases hfound : catalog.isExtension? schema with
      | none =>
        rw [hfound] at h
        cases h
      | some extension =>
        rw [hfound] at h
        cases h
        exact hfound

/-- Equal paths of one catalog agree on whether they lead into an extension. -/
theorem isExtension_congr {catalog : Catalog} {s t : String} {p q : Path} (hp : parse catalog s = .ok p)
    (hq : parse catalog t = .ok q) (h : (p == q) = true) : p.isExtension = q.isExtension := by
  obtain ⟨a, b, rfl, rfl, -⟩ | ⟨a, b, rfl, rfl, hschema, -⟩ := cases_of_beq h
  · rfl
  · have hsame : catalog.isExtension? a.schema = catalog.isExtension? b.schema := by
      rw [Catalog.isExtension?, Catalog.entry?_congr catalog hschema, Catalog.isExtension?]
    rw [isExtension?_of_parse hp, isExtension?_of_parse hq] at hsame
    exact Option.some.inj hsame

/-- Equal paths that agree on whether they lead into an extension have the same keys up to case. -/
theorem lower_keys_congr {p q : Path} (h : (p == q) = true) (hextension : p.isExtension = q.isExtension) :
    p.keys.map lower = q.keys.map lower := by
  obtain ⟨a, b, rfl, rfl, hrep⟩ | ⟨a, b, rfl, rfl, hschema, hrep⟩ := cases_of_beq h
  · exact LocalPath.lower_keys_congr hrep
  · have hflag : a.extension = b.extension := hextension
    rw [keys, keys, hflag]
    split
    · rw [List.map_cons, List.map_cons, LocalPath.lower_keys_congr hrep]
      exact congrArg (· :: _) hschema
    · exact LocalPath.lower_keys_congr hrep

end Path

end Scim
