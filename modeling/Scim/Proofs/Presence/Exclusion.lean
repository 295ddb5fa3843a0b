import Scim.Proofs.Presence.Rules

/-!
# Leaving attributes out

A client can ask for all attributes but certain ones.  What it names need not be in the response, and of all other
attributes one would expect that nothing changes.  But something does: whether an attribute is expected is asked of
the selection as a whole, which answers for the named attributes only if they are asked for.  As soon as a single
attribute is excluded, no attribute is expected any more but those that are always returned, and a request is not
expected to have anything at all.

## Main results

* `mem_issuesAt_check_iff`: what is reported at a location are the breaches of the rules by the values there.
* `breaks_missing_excluding_iff`: what is missing in spite of an exclusion.
* `reports_missing_excluding`: what a check reports missing with an exclusion, and what without one.
* `required_name_not_reported`: a required attribute that is not named and no longer reported.
-/

namespace Scim.Presence

variable {presence : Presence} {message : Message} {attrs : SchemaAttributes} {record : Record} {attr : Attribute}
  {path : BoundPath} {value : Value}

/-- The issues at a location are the breaches of the rules by the values that are judged there. -/
theorem mem_issuesAt_check_iff {location : Location} {violation : Violation} :
    violation ∈ (presence.check message attrs record).violations.issuesAt location ↔
      ∃ attr path value place, Judged attrs record attr path value place ∧ (place == location) = true ∧
        presence.Breaks message attrs attr path value violation := by
  rw [issuesAt_check, List.mem_filterMap]
  constructor
  · rintro ⟨seen, hseen, hfound⟩
    obtain ⟨hmem, hhere⟩ := List.mem_filter.1 hseen
    obtain ⟨hjudged, hscope⟩ := mem_examined_iff.1 hmem
    exact ⟨_, _, _, _, hjudged, hhere, (finding?_eq_some_iff hscope).1 hfound⟩
  · rintro ⟨attr, path, value, place, hjudged, hhere, hbreaks⟩
    obtain ⟨inScope, hscope, hseen⟩ := exists_examined hjudged
    exact ⟨_, List.mem_filter.2 ⟨hseen, hhere⟩, (finding?_eq_some_iff hscope).2 hbreaks⟩

/-- The rules of presence with some attributes excluded. -/
def excluding (paths tolerated : List BoundPath) : Presence := { selection := .allBut paths, tolerated }

/-- The rules of presence with nothing selected. -/
def ofEverything (tolerated : List BoundPath) : Presence := { tolerated }

/-- Once something is excluded, nothing is expected but what a response always has. -/
theorem expected_excluding_iff {first : BoundPath} {others tolerated : List BoundPath} {returned : Returned} :
    (excluding (first :: others) tolerated).Expected message returned path ↔
      message = .response ∧ returned = .always := by
  constructor
  · rintro (hnone | ⟨hasked, -⟩ | ⟨hresponse, halways⟩)
    · cases hnone
    · cases hasked
    · exact ⟨hresponse, halways⟩
  · rintro ⟨hresponse, halways⟩
    exact .always hresponse halways

/-- A value is missing in spite of an exclusion if it is without one, in a response that always has the attribute. -/
theorem breaks_missing_excluding_iff {first : BoundPath} {others tolerated : List BoundPath} :
    (excluding (first :: others) tolerated).Breaks message attrs attr path value .missing ↔
      (ofEverything tolerated).Breaks message attrs attr path value .missing ∧
        message = .response ∧ attr.traits.returned = .always := by
  constructor
  · intro h
    cases h with
    | missing habsent hrequired hscope hgivable hexpected =>
      exact ⟨.missing habsent hrequired hscope hgivable (.unselected rfl), expected_excluding_iff.1 hexpected⟩
  · rintro ⟨h, hreturned⟩
    cases h with
    | missing habsent hrequired hscope hgivable hexpected =>
      exact .missing habsent hrequired hscope hgivable (expected_excluding_iff.2 hreturned)

/-- Without a selection, what is reported missing at a location is what is required there of the message and absent.
With an exclusion it is that of it which a response always has, whether or not the exclusion names it. -/
theorem reports_missing_excluding (first : BoundPath) (others tolerated : List BoundPath) (message : Message)
    (attrs : SchemaAttributes) (record : Record) (location : Location) :
    (.missing ∈ ((ofEverything tolerated).check message attrs record).violations.issuesAt location ↔
      ∃ attr path value place, Judged attrs record attr path value place ∧ (place == location) = true ∧
        (ofEverything tolerated).Breaks message attrs attr path value .missing) ∧
    (.missing ∈ ((excluding (first :: others) tolerated).check message attrs record).violations.issuesAt location ↔
      ∃ attr path value place, Judged attrs record attr path value place ∧ (place == location) = true ∧
        (ofEverything tolerated).Breaks message attrs attr path value .missing ∧
        message = .response ∧ attr.traits.returned = .always) := by
  refine ⟨mem_issuesAt_check_iff, ?_⟩
  simp only [mem_issuesAt_check_iff, breaks_missing_excluding_iff]

/-! ## A name and a nickname -/

/-- The identifier of a schema with names. -/
def profileUri : SchemaUri := ⟨"urn:example:Profile", by decide⟩

/-- The name of a user, which is required. -/
def requiredName : Attribute := .simple ⟨"userName", by decide⟩ .string { required := true }

/-- The schema of the name and of a nickname. -/
def profileAttributes : SchemaAttributes where
  own :=
    { schema := profileUri, extension := false,
      declared := [requiredName, .simple ⟨"nickName", by decide⟩ .string {}] }

/-- The path of an attribute of the schema. -/
def profilePath (name : AttrName) : BoundPath := ⟨profileUri, false, ⟨name, none⟩⟩

/-- An exclusion does not only concern what it names: without the nickname the name is not expected either. -/
theorem required_name_not_reported :
    ¬ ∀ (first : BoundPath) (others tolerated : List BoundPath) (message : Message) (attrs : SchemaAttributes)
        (record : Record) (attr : Attribute) (path : BoundPath) (value : Value) (location : Location),
      Judged attrs record attr path value location →
      (∀ named ∈ first :: others, (path == named) = false ∧ (path.topLevel == named) = false) →
        (.missing ∈ ((excluding (first :: others) tolerated).check message attrs record).violations.issuesAt location ↔
          .missing ∈ ((ofEverything tolerated).check message attrs record).violations.issuesAt location) := by
  intro hall
  have hjudged : Judged profileAttributes [] (requiredName.bindTo (profilePath requiredName.name))
      (profilePath requiredName.name) .missing [.key "userName"] :=
    @Judged.attr profileAttributes [] _ (profilePath requiredName.name) (.head _) rfl
  have hother : ∀ named ∈ [profilePath ⟨"nickName", by decide⟩],
      (profilePath requiredName.name == named) = false ∧
        ((profilePath requiredName.name).topLevel == named) = false := by
    intro named hnamed
    rw [List.mem_singleton.1 hnamed]
    decide +kernel
  have hnone : ((excluding [profilePath ⟨"nickName", by decide⟩] []).check .response profileAttributes
      []).violations.issuesAt [.key "userName"] = [] := by rfl
  have hmissing : ((ofEverything []).check .response profileAttributes []).violations.issuesAt
      [.key "userName"] = [.missing] := by rfl
  have hsame := hall _ _ [] .response profileAttributes [] _ _ _ _ hjudged hother
  rw [hnone, hmissing] at hsame
  exact List.not_mem_nil (hsame.2 (List.mem_singleton_self _))

end Scim.Presence
