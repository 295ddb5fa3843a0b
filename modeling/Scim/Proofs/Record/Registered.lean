import Scim.Proofs.Path.RoundTrip
import Scim.Proofs.Record.Lens
import Scim.Proofs.Record.Reachable

/-!
# Texts that mean the same with and without a catalog

A text is read in view of what a record holds, or in view of a catalog.  The one asks whether the text is a key
of the record and whether the record holds a record for the schema that qualifies it, the other whether the text
is a registered identifier and whether that schema is registered, and as what.

The two come to the same place exactly if neither finds the text itself and both take its qualifier, if it has
one, for an extension.  In all other cases the places are of different kinds: a text that the record takes for
one of its keys is none to the catalog, and an attribute of a schema that is no extension is sought at the top
by the one and inside the entry of the schema by the other.

## Main results

* `parse_eq_resolve_iff`: when a text leads to the same place with and without a catalog.
* `catalog_agrees`: then reading, writing and removing by the text do the same.
-/

namespace Scim

namespace Record

variable {record : Record} {catalog : Catalog} {text : String}

/-- Neither the record nor the catalog knows a text as a whole, and if it is qualified, both take its schema for
an extension: it is registered as one, and the record holds a record for it. -/
structure ReadAlike (record : Record) (catalog : Catalog) (text : String) : Prop where
  unstored : record.get? text = none
  unregistered : catalog.find? text = none
  path : ∃ parts, text = Path.spelling parts ∧ ∀ uri, parts.1 = some uri →
    catalog.isExtension? uri = some true ∧ ∃ inner : Record, record.get? uri.text = some (.record inner)

/-- What a catalog makes of the parts of a text that it does not know as a whole. -/
theorem parse_spelling_eq_iff {parts : Option SchemaUri × LocalPath}
    (h : catalog.find? (Path.spelling parts) = none) :
    Place.parse catalog (Path.spelling parts) = .ok (.ofParts parts) ↔
      ∀ uri, parts.1 = some uri → catalog.isExtension? uri = some true := by
  have hsplit : Path.split (Path.spelling parts) = .ok parts := Path.split_eq_ok_iff.2 rfl
  simp only [Place.parse, h]
  obtain ⟨_ | uri, rep⟩ := parts
  · rw [Path.parse_of_unqualified hsplit]
    exact iff_of_true rfl fun uri huri => nomatch huri
  · rw [Path.parse_of_qualified hsplit]
    cases hflag : catalog.isExtension? uri with
    | none => simp [Except.map, hflag]
    | some extension =>
      cases extension <;> simp [Except.map, Place.ofPath, Place.ofBound, Place.ofParts, hflag]

/-- In view of a catalog no text is the key of an entry. -/
theorem parse_ne_entry (catalog : Catalog) (text key : String) : Place.parse catalog text ≠ .ok (.entry key) := by
  unfold Place.parse
  split
  · exact fun h => nomatch h
  · rcases Path.parse catalog text with fault | ⟨rep | path⟩
    · exact fun h => nomatch h
    · exact fun h => nomatch h
    · intro h
      simp only [Except.map, Place.ofPath, Place.ofBound, Except.ok.injEq] at h
      split at h <;> cases h

/-- In view of a record no text is the identifier of a schema. -/
theorem resolve_ne_schema (record : Record) (text : String) (uri : SchemaUri) :
    record.resolve (.path text) ≠ .schema uri := by
  unfold resolve
  dsimp only
  rcases record.resolve? text with _ | ⟨_ | extension, rep⟩ <;> exact fun h => nomatch h

/-- A text leads to the same place in view of a catalog and of a record exactly if neither knows it as a whole and
both take its schema for an extension. -/
theorem parse_eq_resolve_iff :
    Place.parse catalog text = .ok (record.resolve (.path text)) ↔ ReadAlike record catalog text := by
  constructor
  · intro h
    have hunregistered : catalog.find? text = none := by
      cases hfound : catalog.find? text with
      | none => rfl
      | some found =>
        simp only [Place.parse, hfound, Except.ok.injEq] at h
        exact absurd h.symm (resolve_ne_schema record text found.uri)
    cases hparts : record.resolve? text with
    | none =>
      simp only [resolve, hparts] at h
      exact absurd h (parse_ne_entry catalog text text)
    | some parts =>
      obtain ⟨hstored, hsplit, hhosted⟩ := resolve?_eq_some_iff.1 hparts
      obtain rfl := Path.spelling_of_split? hsplit
      rw [resolve_of_resolve? hparts, parse_spelling_eq_iff hunregistered] at h
      exact ⟨hstored, hunregistered, parts, rfl, fun uri huri => ⟨h uri huri, hhosted uri huri⟩⟩
  · intro h
    obtain ⟨parts, rfl, hextension⟩ := h.path
    have hparts : record.resolve? (Path.spelling parts) = some parts :=
      resolve?_eq_some_iff.2 ⟨h.unstored, Path.split?_spelling parts, fun uri huri => (hextension uri huri).2⟩
    rw [resolve_of_resolve? hparts]
    exact (parse_spelling_eq_iff h.unregistered).2 fun uri huri => (hextension uri huri).1

/-- A text that neither the record nor the catalog knows as a whole, and whose schema both take for an extension if
it is qualified, leads to the same place with and without the catalog, and no other text does.  By such a text the
same value is read and taken out and the same record is left; what is written leaves the same record, or is refused
for the same fault.  A store with tables is left the same as well, tables and all. -/
theorem catalog_agrees (record : Record) (catalog : Catalog) (text : String) :
    (Place.parse catalog text = .ok (record.resolve (.path text)) ↔ ReadAlike record catalog text) ∧
    (ReadAlike record catalog text →
      record.getPath catalog text = .ok (record.get (.path text)) ∧
      record.popPath catalog text = .ok (record.pop (.path text)) ∧
      (∀ value, record.setPath catalog text value = record.set (.path text) value) ∧
      ∀ store : Store, store.Sound → store.plain = record →
        (∀ cell, store.apply (.setPath catalog text cell) = store.apply (.set (.path text) cell)) ∧
          store.apply (.popPath catalog text) = store.apply (.pop (.path text))) := by
  refine ⟨parse_eq_resolve_iff, fun h => ?_⟩
  have hparse := parse_eq_resolve_iff.2 h
  refine ⟨?_, ?_, fun value => ?_, ?_⟩
  · rw [getPath, hparse]
    rfl
  · rw [popPath, hparse]
    rfl
  · rw [setPath, hparse]
    rfl
  · rintro store hstore rfl
    rw [Store.resolve_plain hstore] at hparse
    constructor
    · intro cell
      simp only [Store.apply, hparse]
      rfl
    · simp only [Store.apply, hparse]
      rfl

/-- The name in the data of an extension, written in another casing than that of the record and of the catalog, and
a name without a qualifier that the record does not have. -/
theorem catalog_agrees_in_extension :
    ∃ catalog : Catalog,
      catalog.isExtension? ⟨"urn:example:Staff", by decide⟩ = some true ∧
      getPath [("urn:example:Staff", .record [("name", .text "Ada")])] catalog "urn:EXAMPLE:staff:Name" =
        .ok (.text "Ada") ∧
      popPath [("urn:example:Staff", .record [("name", .text "Ada")])] catalog "urn:EXAMPLE:staff:Name" =
        .ok (pop [("urn:example:Staff", .record [("name", .text "Ada")])] (.path "urn:EXAMPLE:staff:Name")) ∧
      setPath [("urn:example:Staff", .record [("name", .text "Ada")])] catalog "name.givenName" (.text "Ada") =
        .ok [("urn:example:Staff", .record [("name", .text "Ada")]),
          ("name", .record [("givenName", .text "Ada")])] := by
  let catalog : Catalog := { schemas := [⟨⟨"urn:example:Staff", by decide⟩, true⟩] }
  have hqualified : ReadAlike [("urn:example:Staff", .record [("name", .text "Ada")])] catalog
      "urn:EXAMPLE:staff:Name" := by
    refine ⟨by rfl, by decide +kernel, (some ⟨"urn:EXAMPLE:staff", by decide⟩, ⟨⟨"Name", by decide⟩, none⟩),
      by decide, ?_⟩
    rintro uri ⟨⟩
    exact ⟨by decide +kernel, _, by rfl⟩
  have hname : ReadAlike [("urn:example:Staff", .record [("name", .text "Ada")])] catalog "name.givenName" := by
    refine ⟨by rfl, by decide +kernel, (none, ⟨⟨"name", by decide⟩, some ⟨"givenName", by decide⟩⟩), by decide, ?_⟩
    rintro uri ⟨⟩
  obtain ⟨hget, hpop, -⟩ := (catalog_agrees _ catalog "urn:EXAMPLE:staff:Name").2 hqualified
  obtain ⟨-, -, hset, -⟩ := (catalog_agrees _ catalog "name.givenName").2 hname
  exact ⟨catalog, by decide +kernel, hget, hpop, hset _⟩

end Record

end Scim
