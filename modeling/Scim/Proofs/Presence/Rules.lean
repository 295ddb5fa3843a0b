import Scim.Attribute.Declaration
import Scim.Proofs.Presence.Judged

/-!
# The rules of presence

What has to be in a message and what must not be there is said by three rules about a single value.  A request
must not have what only the service gives; a response must not have what may not be returned; and what is
required must not be left out, unless it belongs to an extension that may be, is not for this message to give, or
was not asked for.  The rules are stated here without a program, as conditions on the attribute and the
selection.

A check reports what the rules say of the values it judges, and nothing else: every breach of a rule once, at the
location of the value, and no breach where there is none.  Among the breaches only a missing value ends further
checks, at its location and below.

## Main results

* `finding?_eq_some_iff`: what is found about a value is which rule it breaks.
* `canProceed_check_iff`: checking ends where a value is missing, and nowhere else.
* `reports_breaches`: the whole statement.
-/

namespace Scim.Presence

variable {presence : Presence} {message : Message} {attrs : SchemaAttributes} {record : Record}
  {attr : Attribute} {path : BoundPath}

/-! ## What may be returned -/

/-- Whether a path that is named in a selection is about an attribute: it names the attribute, its parent, or one
of its sub-attributes. -/
inductive Concerns (named path : BoundPath) : Prop
  | itself (same : (path == named) = true)
  | parent (isSub : path.rep.sub.isSome = true) (top : named.rep.sub = none)
      (same : (path.topLevel == named) = true)
  | sub (isTop : path.rep.sub = none) (sub : named.rep.sub.isSome = true)
      (same : (named.topLevel == path) = true)

/-- Whether a response must not have an attribute, by the way in which the attribute is returned. -/
inductive Unreturned (selection : Selection) (path : BoundPath) : Returned → Prop
  /-- What is never returned. -/
  | never : Unreturned selection path .never
  /-- What is not always returned, if it is not among what is asked for. -/
  | unasked {returned : Returned} {paths : List BoundPath}
      (limited : returned = .request ∨ returned = .default) (asked : selection = .only paths)
      (unnamed : ∀ named ∈ paths, ¬Concerns named path) : Unreturned selection path returned
  /-- What is returned by default, if it is excluded. -/
  | excluded {paths : List BoundPath} {named : BoundPath} (excluding : selection = .allBut paths)
      (mem : named ∈ paths) (same : (path == named) = true) : Unreturned selection path .default
  /-- What is returned on request, if nothing is asked for. -/
  | unrequested (unasked : ∀ paths, selection ≠ .only paths) : Unreturned selection path .request

theorem concerns_iff {paths : List BoundPath} :
    (∃ named ∈ paths, Concerns named path) ↔
      (Selection.names (.only paths) path || Selection.namesRelative (.only paths) path) = true := by
  rw [Bool.or_eq_true, Selection.names, Selection.namesRelative, List.any_eq_true, Selection.paths,
    List.contains_iff_exists_mem_beq]
  constructor
  · rintro ⟨named, hmem, hsame | ⟨hsub, htop, hsame⟩ | ⟨htop, hsub, hsame⟩⟩
    · exact .inl ⟨named, hmem, hsame⟩
    · obtain ⟨sub, hsub⟩ := Option.isSome_iff_exists.1 hsub
      exact .inr ⟨named, hmem, by simp [hsub, htop, hsame]⟩
    · exact .inr ⟨named, hmem, by simp [htop, hsub, hsame]⟩
  · rintro (⟨named, hmem, hsame⟩ | ⟨named, hmem, hrelative⟩)
    · exact ⟨named, hmem, .itself hsame⟩
    · refine ⟨named, hmem, ?_⟩
      split at hrelative
      · next htop =>
        obtain ⟨hsub, hsame⟩ := Bool.and_eq_true_iff.1 hrelative
        exact .sub htop hsub hsame
      · next sub hsub =>
        obtain ⟨htop, hsame⟩ := Bool.and_eq_true_iff.1 hrelative
        exact .parent (by rw [hsub]; rfl) (Option.isNone_iff_eq_none.1 htop) hsame

theorem unnamed_iff {paths : List BoundPath} :
    (∀ named ∈ paths, ¬Concerns named path) ↔
      (Selection.names (.only paths) path || Selection.namesRelative (.only paths) path) = false := by
  rw [← Bool.not_eq_true, ← concerns_iff]
  simp

theorem named_iff {paths : List BoundPath} :
    paths.contains path = true ↔ ∃ named ∈ paths, (path == named) = true := by
  rw [List.contains_eq_any_beq, List.any_eq_true]

/-- What may not be returned is what the rules say. -/
theorem mayReturn_eq_false_iff {returned : Returned} :
    presence.mayReturn returned path = false ↔ Unreturned presence.selection path returned := by
  constructor
  · intro h
    cases hselection : presence.selection with
    | everything =>
      cases returned with
      | always => cases h
      | never => exact .never
      | request => exact .unrequested (by simp)
      | default => simp [mayReturn, hselection] at h
    | only paths =>
      cases returned with
      | always => cases h
      | never => exact .never
      | request => exact .unasked (.inl rfl) rfl (unnamed_iff.2 (by simpa [mayReturn, hselection] using h))
      | default => exact .unasked (.inr rfl) rfl (unnamed_iff.2 (by simpa [mayReturn, hselection] using h))
    | allBut paths =>
      cases returned with
      | always => cases h
      | never => exact .never
      | request => exact .unrequested (by simp)
      | default =>
        simp only [mayReturn, hselection, Bool.not_eq_false'] at h
        obtain ⟨named, hmem, hsame⟩ := named_iff.1 h
        exact .excluded rfl hmem hsame
  · intro h
    cases h with
    | never => rfl
    | unasked hlimited hselection hunnamed =>
      rcases hlimited with rfl | rfl
      · simp only [mayReturn, hselection, unnamed_iff.1 hunnamed]
      · simp only [mayReturn, hselection, unnamed_iff.1 hunnamed]
    | excluded hselection hmem hsame =>
      simp only [mayReturn, hselection, Bool.not_eq_false']
      exact named_iff.2 ⟨_, hmem, hsame⟩
    | unrequested hselection =>
      cases hother : presence.selection with
      | only paths => exact absurd hother (hselection paths)
      | _ => simp [mayReturn, hother]

/-! ## What has to be given -/

/-- Whether only the service gives an attribute, and the message is not allowed to have it all the same. -/
def Provided (presence : Presence) (attr : Attribute) (path : BoundPath) : Prop :=
  attr.traits.issuer = .server ∧ ∀ tolerated ∈ presence.tolerated, (path == tolerated) = false

/-- Whether an attribute is expected in a message. -/
inductive Expected (presence : Presence) (message : Message) (returned : Returned) (path : BoundPath) : Prop
  /-- No attributes are named. -/
  | unselected (unnamed : presence.selection.paths = [])
  /-- It is asked for. -/
  | asked {paths : List BoundPath} {named : BoundPath} (asked : presence.selection = .only paths)
      (mem : named ∈ paths) (same : (path == named) = true)
  /-- It is always returned. -/
  | always (response : message = .response) (always : returned = .always)

theorem provided_iff : presence.isProvided attr path = true ↔ presence.Provided attr path := by
  rw [isProvided, Bool.and_eq_true, beq_iff_eq, Bool.not_eq_true', ← Bool.not_eq_true, named_iff, Provided]
  simp

theorem expected_iff :
    presence.isExpected message attr path = true ↔
      presence.Expected message attr.traits.returned path := by
  rw [isExpected, Bool.or_eq_true, Bool.or_eq_true, Bool.and_eq_true, beq_iff_eq, beq_iff_eq,
    List.isEmpty_iff]
  constructor
  · rintro ((hnone | hasked) | ⟨hresponse, halways⟩)
    · exact .unselected hnone
    · split at hasked
      · next paths hselection =>
        obtain ⟨named, hmem, hsame⟩ := named_iff.1 hasked
        exact .asked hselection hmem hsame
      · cases hasked
    · exact .always hresponse halways
  · rintro (hnone | ⟨hselection, hmem, hsame⟩ | ⟨hresponse, halways⟩)
    · exact .inl (.inl hnone)
    · rw [hselection]
      exact .inl (.inr (named_iff.2 ⟨_, hmem, hsame⟩))
    · exact .inr ⟨hresponse, halways⟩

/-! ## The rules -/

/-- The rules that a value can break, each as the violation by which it is reported. -/
inductive Breaks (presence : Presence) (message : Message) (attrs : SchemaAttributes) (attr : Attribute)
    (path : BoundPath) (value : Value) : Violation → Prop
  /-- What only the service gives is in a request; the violation with code 6. -/
  | notForRequest (request : message = .request) (present : isPresent value = true)
      (provided : presence.Provided attr path) : Breaks presence message attrs attr path value .notForRequest
  /-- What may not be returned is in a response; the violation with code 7. -/
  | notForResponse (response : message = .response) (present : isPresent value = true)
      (unreturned : Unreturned presence.selection path attr.traits.returned) :
      Breaks presence message attrs attr path value .notForResponse
  /-- What is required is not there; the violation with code 5. -/
  | missing (notPresent : isPresent value = false) (required : attr.traits.required = true)
      (inScope : InScope attrs path) (givable : message = .request → ¬presence.Provided attr path)
      (expected : presence.Expected message attr.traits.returned path) :
      Breaks presence message attrs attr path value .missing

theorem demands_iff {inScope : Bool} (hscope : inScope = true ↔ InScope attrs path) :
    presence.demands message attr path inScope = true ↔
      attr.traits.required = true ∧ InScope attrs path ∧ (message = .request → ¬presence.Provided attr path) ∧
        presence.Expected message attr.traits.returned path := by
  rw [demands, Bool.and_eq_true, Bool.and_eq_true, Bool.and_eq_true, Bool.not_eq_true', Bool.and_eq_false_imp,
    beq_iff_eq, ← Bool.not_eq_true, provided_iff, hscope, expected_iff, and_assoc, and_assoc]

/-- What is found about a value is which rule it breaks. -/
theorem finding?_eq_some_iff {seen : Examined} (hscope : seen.inScope = true ↔ InScope attrs seen.path)
    {violation : Violation} :
    presence.finding? message seen = some violation ↔
      presence.Breaks message attrs seen.attr seen.path seen.value violation := by
  unfold finding?
  cases hpresent : isPresent seen.value with
  | true =>
    simp only [if_true]
    cases message with
    | request =>
      simp only [refusal?, Option.ite_none_right_eq_some, Option.some.injEq, provided_iff]
      constructor
      · rintro ⟨hprovided, rfl⟩
        exact .notForRequest rfl hpresent hprovided
      · rintro (⟨-, -, hprovided⟩ | ⟨hother, -⟩ | ⟨habsent, -⟩)
        · exact ⟨hprovided, rfl⟩
        · cases hother
        · rw [hpresent] at habsent
          cases habsent
    | response =>
      simp only [refusal?, Option.ite_none_left_eq_some, Option.some.injEq, Bool.not_eq_true,
        mayReturn_eq_false_iff]
      constructor
      · rintro ⟨hunreturned, rfl⟩
        exact .notForResponse rfl hpresent hunreturned
      · rintro (⟨hother, -⟩ | ⟨-, -, hunreturned⟩ | ⟨habsent, -⟩)
        · cases hother
        · exact ⟨hunreturned, rfl⟩
        · rw [hpresent] at habsent
          cases habsent
  | false =>
    simp only [Bool.false_eq_true, if_false, Option.ite_none_right_eq_some, Option.some.injEq,
      demands_iff hscope]
    constructor
    · rintro ⟨⟨hrequired, hin, hgivable, hexpected⟩, rfl⟩
      exact .missing hpresent hrequired hin hgivable hexpected
    · rintro (⟨-, hthere, -⟩ | ⟨-, hthere, -⟩ | ⟨-, hrequired, hin, hgivable, hexpected⟩)
      · rw [hpresent] at hthere
        cases hthere
      · rw [hpresent] at hthere
        cases hthere
      · exact ⟨⟨hrequired, hin, hgivable, hexpected⟩, rfl⟩

/-! ## Where checking ends -/

/-- What is found about a value ends further checks only if the value is missing. -/
theorem canProceed_reportOn (presence : Presence) (message : Message) (seen : Examined) (location : Location) :
    (presence.reportOn message seen).canProceed location = false ↔
      presence.finding? message seen = some .missing := by
  rw [reportOn_eq]
  split
  · next hnone =>
    rw [hnone]
    simp [Report.empty, Report.canProceed]
  · next hmissing =>
    rw [hmissing, Report.ofViolation, Report.canProceed_addViolation_blocking, Location.startsWith_nil]
    simp
  · next violation hother hsome =>
    rw [hsome, Report.ofViolation, Report.canProceed_addViolation_proceeding]
    simp [Report.empty, Report.canProceed]
    exact hother

theorem canProceed_mergeAll (report : Report) (seen : List Examined) (location : Location) :
    (presence.mergeAll message report seen).canProceed location = false ↔
      report.canProceed location = false ∨
        ∃ one ∈ seen, presence.finding? message one = some .missing ∧
          location.startsWith one.location = true := by
  induction seen generalizing report with
  | nil => simp [mergeAll]
  | cons one seen ih =>
    have hstep : (presence.mergeAll message report (one :: seen)) =
      presence.mergeAll message (report.merge (presence.reportOn message one) one.location) seen := rfl
    rw [hstep, ih, Report.canProceed_merge, Bool.and_eq_false_iff, Bool.or_eq_false_iff, Bool.not_eq_false',
      canProceed_reportOn, or_assoc, List.exists_mem_cons_iff, and_comm]

/-- Checking ends at the locations of missing values and below, and nowhere else. -/
theorem canProceed_check_iff {location : Location} :
    (presence.check message attrs record).canProceed location = false ↔
      ∃ attr path value place, Judged attrs record attr path value place ∧
        presence.Breaks message attrs attr path value .missing ∧ location.startsWith place = true := by
  rw [check_eq, canProceed_mergeAll]
  constructor
  · rintro (hempty | ⟨seen, hseen, hfound, hbelow⟩)
    · cases hempty
    · obtain ⟨hjudged, hscope⟩ := mem_examined_iff.1 hseen
      exact ⟨_, _, _, _, hjudged, (finding?_eq_some_iff hscope).1 hfound, hbelow⟩
  · rintro ⟨attr, path, value, place, hjudged, hbreaks, hbelow⟩
    obtain ⟨inScope, hscope, hseen⟩ := exists_examined hjudged
    exact .inr ⟨_, hseen, (finding?_eq_some_iff hscope).2 hbreaks, hbelow⟩

/-! ## The report as a whole -/

theorem advice_reportOn (presence : Presence) (message : Message) (seen : Examined) :
    (presence.reportOn message seen).advice = [] := by
  rw [reportOn_eq]
  split <;> rfl

/-- A check of presence gives no advice. -/
theorem advice_mergeAll (report : Report) (seen : List Examined) :
    (presence.mergeAll message report seen).advice = report.advice := by
  induction seen generalizing report with
  | nil => rfl
  | cons one seen ih =>
    refine (ih (report.merge (presence.reportOn message one) one.location)).trans ?_
    rw [Report.merge, advice_reportOn]
    rfl

theorem sound_mergeAll {report : Report} (h : report.Sound) (seen : List Examined) :
    (presence.mergeAll message report seen).Sound := by
  induction seen generalizing report with
  | nil => exact h
  | cons one seen ih => exact ih (h.merge (sound_reportOn presence message one) one.location)

/-- If no two attributes or sub-attributes have the same location, a check reports the breaches of the rules, each
once and at the location of the value, and nothing else:

* at the location of a value stand the breaches of the rules by this value, of which there is one at most;
* an issue at a location is one of a value that is judged there, and no location is listed twice;
* checking ends where a value is missing, and below;
* there is no advice. -/
theorem reports_breaches (presence : Presence) (message : Message) (attrs : SchemaAttributes) (record : Record)
    (hdistinct : attrs.DistinctLocations) :
    (∀ attr path value location, Judged attrs record attr path value location →
      ((presence.check message attrs record).violations.issuesAt location).length ≤ 1 ∧
        ∀ violation, violation ∈ (presence.check message attrs record).violations.issuesAt location ↔
          presence.Breaks message attrs attr path value violation) ∧
      (∀ location, ∀ violation ∈ (presence.check message attrs record).violations.issuesAt location,
        ∃ attr path value place, Judged attrs record attr path value place ∧ (place == location) = true) ∧
      (presence.check message attrs record).violations.DistinctLocations ∧
      (∀ location, (presence.check message attrs record).canProceed location = false ↔
        ∃ attr path value place, Judged attrs record attr path value place ∧
          presence.Breaks message attrs attr path value .missing ∧ location.startsWith place = true) ∧
      (presence.check message attrs record).advice = [] := by
  refine ⟨?_, ?_, ?_, fun location => canProceed_check_iff, ?_⟩
  · intro attr path value location hjudged
    obtain ⟨inScope, hscope, hseen⟩ := exists_examined hjudged
    have hissues := @issuesAt_check_of_mem presence message attrs record hdistinct _ hseen
    dsimp only at hissues
    rw [hissues]
    refine ⟨Option.length_toList_le, fun violation => ?_⟩
    rw [Option.mem_toList]
    exact finding?_eq_some_iff hscope
  · intro location violation hviolation
    rw [issuesAt_check] at hviolation
    obtain ⟨seen, hseen, -⟩ := List.mem_filterMap.1 hviolation
    obtain ⟨hmem, hhere⟩ := List.mem_filter.1 hseen
    exact ⟨_, _, _, _, (mem_examined_iff.1 hmem).1, hhere⟩
  · rw [check_eq]
    exact (sound_mergeAll Report.Sound.empty _).violations
  · rw [check_eq, advice_mergeAll]
    rfl

/-! ## An address book -/

/-- The identifier of a schema with addresses. -/
def bookUri : SchemaUri := ⟨"urn:example:Book", by decide⟩

/-- The text of an address. -/
def addressText : Attribute := .simple ⟨"address", by decide⟩ .string { required := true }

/-- Addresses, of each of which the text is required and the note is never returned. -/
def addresses : Attribute :=
  .simple ⟨"emails", by decide⟩
    (.complex [addressText, .simple ⟨"note", by decide⟩ .string { returned := .never }])
    { multiValued := true }

/-- The schema of the addresses. -/
def bookAttributes : SchemaAttributes where
  own := { schema := bookUri, extension := false, declared := [addresses] }

/-- The path of the addresses. -/
def addressesPath : BoundPath := ⟨bookUri, false, ⟨addresses.name, none⟩⟩

/-- Two addresses, one with a note and the other one without text. -/
def bookItems : List Value :=
  [.record [("address", .text "ada@example.com"), ("note", .text "old")], .record [("ADDRESS", .text "")]]

/-- A record of the addresses. -/
def book : Record := [("Emails", .list bookItems)]

/-- The second address has no text: this is reported there, and it is reported nowhere else. -/
theorem reports_breaches_of_book :
    bookAttributes.DistinctLocations ∧
      (∀ violation, violation ∈ (check {} .response bookAttributes book).violations.issuesAt
          [.key "emails", .index 1, .key "address"] ↔ violation = .missing) ∧
      (check {} .response bookAttributes book).canProceed [.key "emails", .index 1, .key "address"] = false := by
  have hdistinct : bookAttributes.DistinctLocations := by decide
  obtain ⟨hreports, -, -, hends, -⟩ := reports_breaches {} .response bookAttributes book hdistinct
  have hjudged : Judged bookAttributes book (addressText.bindTo (addressesPath.withSub addressText.name))
      (addressesPath.withSub addressText.name) (.text "") [.key "emails", .index 1, .key "address"] :=
    @Judged.item bookAttributes book (addresses.bindTo addressesPath) _ addressesPath _ bookItems 1
      [("ADDRESS", .text "")] (.head _) rfl rfl rfl (.head _) rfl rfl rfl
  have hbreaks : Breaks {} .response bookAttributes (addressText.bindTo (addressesPath.withSub addressText.name))
      (addressesPath.withSub addressText.name) (.text "") .missing :=
    .missing rfl rfl (.own rfl) nofun (.unselected rfl)
  refine ⟨hdistinct, fun violation => ?_, (hends _).2 ⟨_, _, _, _, hjudged, hbreaks, by rfl⟩⟩
  rw [(hreports _ _ _ _ hjudged).2]
  constructor
  · rintro (⟨hrequest, -⟩ | ⟨-, hpresent, -⟩ | -)
    · cases hrequest
    · cases hpresent
    · rfl
  · rintro rfl
    exact hbreaks

end Scim.Presence
