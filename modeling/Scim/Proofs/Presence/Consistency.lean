import Scim.Attribute.Declaration
import Scim.Proofs.Presence.Examined

/-!
# Attributes that can be neither left out nor sent

Whether an attribute has to be in a message and whether it may be there are decided by two sets of rules.  If
they said no twice about one attribute, every message would be rejected: without a value because it is missing,
with a value because it is there.

In requests that cannot happen, since what a request must not carry is not demanded of it either.  In responses
nothing keeps the two apart: an attribute can be required and never returned, or returned on request only; and
a selection that names no attribute at all demands what a response without a selection would have, but lets
nothing through that is not always returned.  These are the only ways.

## Main results

* `withheld_iff`: which attributes a response has to have if they are required and must not have all the same.
* `contradiction_iff`: when a check rejects an attribute both without a value and with one.
* `required_secret_rejected`: a response that is rejected with a value and without it.
-/

namespace Scim.Presence

variable {presence : Presence} {message : Message} {attr : Attribute} {path : BoundPath} {inScope : Bool}

/-! ## Demanded and refused -/

/-- An attribute that a response is expected to have and must not have, by the way in which it is returned. -/
inductive Withheld (presence : Presence) (path : BoundPath) : Returned → Prop
  /-- It is never returned, and no attributes are named. -/
  | never (unnamed : presence.selection.paths = []) : Withheld presence path .never
  /-- It is never returned, and it is asked for. -/
  | neverAsked {paths : List BoundPath} (asked : presence.selection = .only paths)
      (named : paths.contains path = true) : Withheld presence path .never
  /-- It is returned on request, and no attributes are named. -/
  | unasked (unnamed : presence.selection.paths = []) : Withheld presence path .request
  /-- It is returned by default, and the attributes to be returned are none. -/
  | noneAsked (asked : presence.selection = .only []) : Withheld presence path .default

/-- Nothing is at once demanded of a request and refused in it. -/
theorem refusal?_request (h : presence.demands .request attr path inScope = true) :
    presence.refusal? .request attr path = none := by
  cases hprovided : presence.isProvided attr path with
  | true => simp [demands, hprovided] at h
  | false => simp [refusal?, hprovided]

/-- A response has to have what is required if no attributes are named, if this one is asked for, or if it is
always returned. -/
theorem isExpected_response_iff :
    presence.isExpected .response attr path = true ↔
      presence.selection.paths = [] ∨
        (∃ paths, presence.selection = .only paths ∧ paths.contains path = true) ∨
          attr.traits.returned = .always := by
  unfold isExpected
  cases hselection : presence.selection <;> simp [Selection.paths, or_assoc]

/-- If the attributes to be returned are none, only what is always returned may be. -/
theorem mayReturn_only_nil (hselection : presence.selection = .only []) {returned : Returned}
    (hreturned : returned ≠ .always) : presence.mayReturn returned path = false := by
  cases returned <;>
    simp_all [mayReturn, Selection.names, Selection.namesRelative, Selection.paths]

/-- What is expected of a response and refused in it is what is withheld. -/
theorem withheld_iff :
    presence.isExpected .response attr path = true ∧ presence.mayReturn attr.traits.returned path = false ↔
      presence.Withheld path attr.traits.returned := by
  rw [isExpected_response_iff]
  generalize attr.traits.returned = returned
  constructor
  · rintro ⟨hnone | ⟨paths, hselection, hasked⟩ | rfl, hrefused⟩
    · cases returned with
      | always => cases hrefused
      | never => exact .never hnone
      | request => exact .unasked hnone
      | default =>
        cases hselection : presence.selection with
        | everything => simp [mayReturn, hselection] at hrefused
        | only paths =>
          rw [hselection] at hnone
          cases hnone
          exact .noneAsked hselection
        | allBut paths =>
          rw [hselection] at hnone
          cases hnone
          simp [mayReturn, hselection, Selection.names, Selection.paths] at hrefused
    · -- what was asked for is refused only if it is never returned
      cases returned with
      | never => exact .neverAsked hselection hasked
      | _ =>
        rw [mayReturn_of_asked hselection hasked (by simp)] at hrefused
        cases hrefused
    · cases hrefused
  · intro h
    cases h with
    | never hnone => exact ⟨.inl hnone, rfl⟩
    | neverAsked hselection hasked => exact ⟨.inr (.inl ⟨_, hselection, hasked⟩), rfl⟩
    | unasked hnone =>
      refine ⟨.inl hnone, ?_⟩
      cases hselection : presence.selection with
      | everything => simp [mayReturn, hselection]
      | only paths =>
        rw [hselection] at hnone
        cases hnone
        exact mayReturn_only_nil hselection (by simp)
      | allBut paths => simp [mayReturn, hselection]
    | noneAsked hselection =>
      exact ⟨.inl (by rw [hselection]; rfl), mayReturn_only_nil hselection (by simp)⟩

/-- An attribute is demanded of a message and refused in it exactly if the message is a response and the
attribute is required of it and withheld. -/
theorem demands_and_refuses_iff :
    presence.demands message attr path inScope = true ∧
        (presence.refusal? message attr path).isSome = true ↔
      message = .response ∧ attr.traits.required = true ∧ inScope = true ∧
        presence.Withheld path attr.traits.returned := by
  cases message with
  | request =>
    constructor
    · rintro ⟨hdemands, hrefuses⟩
      rw [refusal?_request hdemands] at hrefuses
      cases hrefuses
    · rintro ⟨hresponse, -⟩
      cases hresponse
  | response =>
    have hrefuses : (presence.refusal? .response attr path).isSome = true ↔
        presence.mayReturn attr.traits.returned path = false := by simp [refusal?]
    rw [hrefuses, ← withheld_iff]
    simp [demands, and_assoc]

/-! ## The findings of a check -/

/-- The issues of a check are the findings on the values that it examines.  An attribute is reported missing
without a value and rejected with one exactly if the message is a response, the attribute is required of it, and
it is withheld; so requests are never contradictory. -/
theorem contradiction_iff (presence : Presence) (message : Message) (attrs : SchemaAttributes) :
    (∀ (record : Record) (location : Location),
      (presence.check message attrs record).violations.issuesAt location =
        ((examined attrs record).filter fun seen => seen.location == location).filterMap
          (presence.finding? message)) ∧
      ∀ absent present : Examined, present.attr = absent.attr → present.path = absent.path →
        isPresent absent.value = false → isPresent present.value = true →
        (presence.finding? message absent = some .missing ∧
            (presence.finding? message present).isSome = true ↔
          message = .response ∧ absent.attr.traits.required = true ∧ absent.inScope = true ∧
            presence.Withheld absent.path absent.attr.traits.returned) := by
  refine ⟨fun record location => issuesAt_check attrs record location, ?_⟩
  intro absent present hattr hpath habsent hpresent
  rw [← demands_and_refuses_iff, finding?, finding?, habsent, hpresent, hattr, hpath]
  simp

/-! ## A secret -/

/-- The identifier of a schema with a secret. -/
def accountUri : SchemaUri := ⟨"urn:example:Account", by decide⟩

/-- A secret that is required and never returned. -/
def secret : Attribute := .simple ⟨"secret", by decide⟩ .string { required := true, returned := .never }

/-- The schema of the secret. -/
def secretAttributes : SchemaAttributes where
  own := { schema := accountUri, extension := false, declared := [secret] }

/-- What is examined of the secret. -/
def secretSeen (value : Value) : Examined where
  attr := secret.bindTo ⟨accountUri, false, ⟨secret.name, none⟩⟩
  path := ⟨accountUri, false, ⟨secret.name, none⟩⟩
  inScope := true
  value
  location := [.key "secret"]

/-- No response is accepted: without the secret it is missing, with it it must not be there. -/
theorem contradiction_of_secret :
    isPresent (secretSeen .missing).value = false ∧ isPresent (secretSeen (.text "xyz")).value = true ∧
      finding? {} .response (secretSeen .missing) = some .missing ∧
      (finding? {} .response (secretSeen (.text "xyz"))).isSome = true := by
  have hiff := (contradiction_iff {} .response secretAttributes).2 (secretSeen .missing)
    (secretSeen (.text "xyz")) rfl rfl rfl rfl
  exact ⟨rfl, rfl, hiff.2 ⟨rfl, rfl, rfl, .never rfl⟩⟩

/-- Not for every attribute one of the two is acceptable, to leave it out or to send it. -/
theorem required_secret_rejected :
    ¬ ∀ (presence : Presence) (message : Message) (attrs : SchemaAttributes) (before after : Record)
        (absent present : Examined),
      absent ∈ examined attrs before → present ∈ examined attrs after →
      present.attr = absent.attr → present.path = absent.path →
      isPresent absent.value = false → isPresent present.value = true →
        ¬ (.missing ∈ (presence.check message attrs before).violations.issuesAt absent.location ∧
          ∃ violation ∈ (presence.check message attrs after).violations.issuesAt present.location,
            violation = .notForRequest ∨ violation = .notForResponse) := by
  intro hall
  have habsent : (check {} .response secretAttributes []).violations.issuesAt [.key "secret"] =
      [.missing] := by rfl
  have hpresent : (check {} .response secretAttributes [("secret", .text "xyz")]).violations.issuesAt
      [.key "secret"] = [.notForResponse] := by rfl
  refine hall {} .response secretAttributes [] [("secret", .text "xyz")] (secretSeen .missing)
    (secretSeen (.text "xyz")) (.head _) (.head _) rfl rfl rfl rfl ⟨?_, .notForResponse, ?_, .inr rfl⟩
  · rw [show (secretSeen .missing).location = [.key "secret"] from rfl, habsent]
    exact List.mem_singleton_self _
  · rw [show (secretSeen (.text "xyz")).location = [.key "secret"] from rfl, hpresent]
    exact List.mem_singleton_self _

end Scim.Presence
