import Scim.Proofs.Attribute.Checks
import Scim.Proofs.Value.RespelledEquality

/-!
# Validation does not see the spelling of keys

Validating two values that are the same up to spelling gives the same report, for all that is asked of a value is its
shape, the texts in it, what certain keys lead to, and whether it is equal to another value.  What is left of the two
values after marking is the same up to spelling again, which is what the checks that come after need.

That is true of the built-in checks.  The check of a service sees the value itself and may tell its spellings apart.

## Main results

* `Check.BuiltIn.ignoresSpelling`: the built-in checks.
* `Attribute.validate_respelled`: an attribute, at every depth.
-/

namespace Scim

/-! ## What is asked of a value -/

section

variable {a b : Value}

theorem Kind.fits_respelled (kind : Kind) (h : a.Respelled b) : kind.fits a = kind.fits b := by
  cases h with
  | list => cases kind <;> rfl
  | record => cases kind <;> rfl
  | _ => rfl

theorem Kind.checkType_respelled (kind : Kind) (h : a.Respelled b) : kind.checkType a = kind.checkType b := by
  rw [checkType, checkType, kind.fits_respelled h]

theorem isCanonical_respelled (caseExact : Bool) (canonical : List Json) (h : a.Respelled b) :
    isCanonical caseExact canonical a = isCanonical caseExact canonical b := by
  have hany : canonical.any a.sameJson = canonical.any b.sameJson := by
    rw [show a.sameJson = b.sameJson from funext h.sameJson]
  unfold isCanonical
  rw [hany]
  cases h <;> rfl

theorem Traits.checkCanonical_respelled (traits : Traits) (h : a.Respelled b) :
    traits.checkCanonical a = traits.checkCanonical b := by
  unfold checkCanonical
  cases traits.canonical with
  | none => rfl
  | some canonical =>
    dsimp only
    rw [isCanonical_respelled _ _ h]

end

/-! ## Checks of multi-valued complex values -/

/-- Pairs of values that are the same up to spelling. -/
def RespelledPair (a b : Value × Value) : Prop := a.1.Respelled b.1 ∧ a.2.Respelled b.2

theorem recordItems_respelled {a b : Value} (h : a.Respelled b) :
    List.Forall₂ Record.Respelled (recordItems a) (recordItems b) := by
  have hitems := h.list?
  unfold recordItems
  generalize a.list? = items at hitems ⊢
  generalize b.list? = others at hitems ⊢
  cases hitems with
  | none => exact .nil
  | some hitems => exact List.rel_filterMap (fun _ _ hitem => hitem.record?) hitems

theorem pair?_respelled {a b : Record} (h : a.Respelled b) : Option.Rel RespelledPair (pair? a) (pair? b) := by
  have hkind := h.get (.path "type")
  have hvalue := h.get (.path "value")
  unfold pair?
  dsimp only
  rw [hkind.truthy, hvalue.truthy]
  split
  · exact .some ⟨hkind, hvalue⟩
  · exact .none

/-- Counts of pairs that are the same up to spelling. -/
def RespelledCounts : List ((Value × Value) × Nat) → List ((Value × Value) × Nat) → Prop :=
  List.Forall₂ fun a b => RespelledPair a.1 b.1 ∧ a.2 = b.2

theorem countPair_respelled {as bs : List ((Value × Value) × Nat)} (h : RespelledCounts as bs) {a b : Value × Value}
    (hab : RespelledPair a b) : RespelledCounts (countPair as a) (countPair bs b) := by
  induction h with
  | nil => exact .cons ⟨hab, rfl⟩ .nil
  | @cons entry respelled _ _ hentry hrest ih =>
    obtain ⟨pair, n⟩ := entry
    obtain ⟨other, m⟩ := respelled
    obtain ⟨hpair, hcount⟩ := hentry
    dsimp only at hpair hcount
    rw [countPair, countPair, hpair.1.same hab.1, hpair.2.same hab.2, hcount]
    split
    · exact .cons ⟨hpair, rfl⟩ hrest
    · exact .cons ⟨hpair, rfl⟩ ih

theorem countPairs_respelled {pairs others : List (Value × Value)} (hpairs : List.Forall₂ RespelledPair pairs others)
    {as bs : List ((Value × Value) × Nat)} (h : RespelledCounts as bs) :
    RespelledCounts (pairs.foldl countPair as) (others.foldl countPair bs) := by
  induction hpairs generalizing as bs with
  | nil => exact h
  | cons hpair _ ih => exact ih (countPair_respelled h hpair)

theorem isPrimary_respelled {a b : Record} (h : a.Respelled b) : isPrimary a = isPrimary b := by
  unfold isPrimary
  rw [(h.get (.path "primary")).bool?]

theorem checkSinglePrimary_respelled {a b : Value} (h : a.Respelled b) :
    checkSinglePrimary a = checkSinglePrimary b := by
  have hprimary := List.rel_filter (R := Record.Respelled) (p := isPrimary) (q := isPrimary)
    (fun _ _ hitem => Bool.eq_iff_iff.1 (isPrimary_respelled hitem)) (recordItems_respelled h)
  rw [checkSinglePrimary, checkSinglePrimary, hprimary.length_eq]

/-- Both lists of elements are counted alike, so the same number of pairs is repeated. -/
theorem checkDistinctPairs_respelled {a b : Value} (h : a.Respelled b) :
    checkDistinctPairs a = checkDistinctPairs b := by
  have hpairs : List.Forall₂ RespelledPair ((recordItems a).filterMap pair?) ((recordItems b).filterMap pair?) :=
    List.rel_filterMap (fun _ _ hitem => pair?_respelled hitem) (recordItems_respelled h)
  have hrepeated := List.rel_filter (p := fun entry => decide (1 < entry.2)) (q := fun entry => decide (1 < entry.2))
    (fun _ _ hentry => iff_of_eq (congrArg (fun n => decide (1 < n) = true) hentry.2))
    (countPairs_respelled hpairs .nil)
  unfold checkDistinctPairs
  dsimp only
  refine foldl_congr_of_forall₂ hrepeated ?_ _
  exact fun _ _ _ _ => rfl

/-! ## Checks -/

/-- A check that reports the same of values that are the same up to spelling. -/
def Check.IgnoresSpelling (check : Check) : Prop := ∀ a b : Value, a.Respelled b → check.run a = check.run b

theorem Check.BuiltIn.ignoresSpelling {check : Check} (h : check.BuiltIn) : check.IgnoresSpelling := by
  intro a b hab
  cases check with
  | singlePrimary => exact checkSinglePrimary_respelled hab
  | distinctPairs => exact checkDistinctPairs_respelled hab
  | custom identity run => exact absurd rfl (h identity run)

theorem runChecks_respelled {checks : List Check} (hchecks : ∀ check ∈ checks, check.IgnoresSpelling) {a b : Value}
    (h : a.Respelled b) (report : Report) : runChecks checks a report = runChecks checks b report := by
  unfold runChecks
  refine List.foldl_ext _ _ report fun report check hcheck => ?_
  rw [hchecks check hcheck a b h]

/-! ## Steps of validation -/

/-- What validation gives for one value and for another: the same report, and values that are the same up to
spelling. -/
def RespelledOutcome (a b : Report × Value) : Prop := a.1 = b.1 ∧ a.2.Respelled b.2

theorem marked_respelled (report : Report) {a b : Value} (h : a.Respelled b) :
    (marked report a).Respelled (marked report b) := by
  unfold marked
  split
  · exact h
  · exact .invalid

theorem unlessInvalid_respelled {check : Value → Report × Value}
    (hcheck : ∀ {a b : Value}, a.Respelled b → RespelledOutcome (check a) (check b)) {a b : Value}
    (h : a.Respelled b) : RespelledOutcome (unlessInvalid check a) (unlessInvalid check b) := by
  unfold unlessInvalid
  rw [h.isInvalid]
  split
  · exact ⟨rfl, h⟩
  · exact hcheck h

/-- Items are checked alike, one by one. -/
theorem checkItems_respelled (check : Value → Report × Value)
    (hcheck : ∀ {a b : Value}, a.Respelled b → RespelledOutcome (check a) (check b)) {as bs : List Value}
    (h : List.Forall₂ Value.Respelled as bs) (report : Report) (index : Nat) :
    (checkItems check report index as).1 = (checkItems check report index bs).1 ∧
      List.Forall₂ Value.Respelled (checkItems check report index as).2 (checkItems check report index bs).2 := by
  induction h generalizing report index with
  | nil => exact ⟨rfl, .nil⟩
  | @cons a b _ _ hitem _ ih =>
    obtain ⟨hreport, hchanged⟩ := hcheck hitem
    obtain ⟨hrest, hitems⟩ := ih (report.merge (check a).1 [.index index]) (index + 1)
    rw [checkItems, checkItems]
    dsimp only
    rw [← hreport]
    exact ⟨hrest, .cons (marked_respelled _ hchanged) hitems⟩

/-! ## Attributes -/

section

variable {catalog : Catalog}

section

variable {attr : Attribute} (hchecks : ∀ check ∈ attr.hooks.checks, check.IgnoresSpelling)
  (hitems : ∀ {a b : Value}, a.Respelled b →
    RespelledOutcome (attr.kind.validateItem catalog attr.traits a) (attr.kind.validateItem catalog attr.traits b))

include hchecks hitems

private theorem Attribute.validate_respelled_of_single (hsingle : attr.traits.multiValued = false) {a b : Value}
    (h : a.Respelled b) (ha : a.isAbsent = false) :
    RespelledOutcome (attr.validate catalog a) (attr.validate catalog b) := by
  have hb : b.isAbsent = false := h.isAbsent ▸ ha
  obtain ⟨hreport, hchanged⟩ := hitems h
  rw [attr.validate_single hsingle ha, attr.validate_single hsingle hb, ← attr.kind.checkType_respelled h]
  split
  · refine ⟨?_, hchanged⟩
    dsimp only
    rw [hreport, runChecks_respelled hchecks hchanged]
  · exact ⟨rfl, h⟩

private theorem Attribute.validate_respelled_of_list (hmulti : attr.traits.multiValued = true) {as bs : List Value}
    (h : List.Forall₂ Value.Respelled as bs) :
    RespelledOutcome (attr.validate catalog (.list as)) (attr.validate catalog (.list bs)) := by
  obtain ⟨htypes, htyped⟩ := checkItems_respelled (fun item => (attr.kind.checkType item, item))
    (fun hitem => ⟨attr.kind.checkType_respelled hitem, hitem⟩) h .empty 0
  rw [attr.validate_list hmulti, attr.validate_list hmulti]
  dsimp only
  rw [← htypes]
  split
  · obtain ⟨hreport, hchanged⟩ := checkItems_respelled _ (unlessInvalid_respelled hitems) htyped _ 0
    refine ⟨?_, .list hchanged⟩
    dsimp only
    rw [hreport, runChecks_respelled hchecks (.list hchanged)]
  · exact ⟨rfl, .list htyped⟩

/-- If its items are validated alike, so is the value of an attribute. -/
theorem Attribute.validate_respelled_of_items {a b : Value} (h : a.Respelled b) :
    RespelledOutcome (attr.validate catalog a) (attr.validate catalog b) := by
  cases ha : a.isAbsent with
  | true =>
    rw [attr.validate_absent ha, attr.validate_absent (h.isAbsent ▸ ha)]
    exact ⟨rfl, h⟩
  | false =>
    cases hmulti : attr.traits.multiValued with
    | false => exact Attribute.validate_respelled_of_single hchecks hitems hmulti h ha
    | true =>
      have hb : b.isAbsent = false := h.isAbsent ▸ ha
      cases hlist : a.list? with
      | none =>
        rw [attr.validate_not_list hmulti ha hlist, attr.validate_not_list hmulti hb (h.list?_eq_none hlist)]
        exact ⟨rfl, h⟩
      | some items =>
        obtain rfl := Value.list?_eq_some.1 hlist
        cases h with
        | list hlists => exact Attribute.validate_respelled_of_list hchecks hitems hmulti hlists

end

theorem Kind.validateItem_respelled_of_simple {kind : Kind} (traits : Traits) (hsimple : ∀ subs, kind ≠ .complex subs)
    {a b : Value} (h : a.Respelled b) :
    RespelledOutcome (kind.validateItem catalog traits a) (kind.validateItem catalog traits b) := by
  rw [Kind.validateItem, Kind.validateItem, ← traits.checkCanonical_respelled h]
  · generalize traits.checkCanonical a = checked
    obtain ⟨report, final⟩ := checked
    have hall := h
    cases h <;> cases final <;> exact ⟨rfl, hall⟩
  · exact hsimple
  · exact hsimple

mutual

/-- Values that are the same up to spelling are validated alike. -/
theorem Attribute.validate_respelled : ∀ (attr : Attribute), attr.EveryCheck Check.IgnoresSpelling →
    ∀ {a b : Value}, a.Respelled b → RespelledOutcome (attr.validate catalog a) (attr.validate catalog b)
  | ⟨_, kind, traits, _⟩, hchecks, _, _, h =>
    Attribute.validate_respelled_of_items hchecks.1
      (fun hitem => Kind.validateItem_respelled kind hchecks.2 traits hitem) h

theorem Kind.validateItem_respelled : ∀ (kind : Kind), kind.EveryCheck Check.IgnoresSpelling →
    ∀ (traits : Traits) {a b : Value}, a.Respelled b →
      RespelledOutcome (kind.validateItem catalog traits a) (kind.validateItem catalog traits b)
  | .complex subs, hchecks, traits, a, b, h => by
    rw [Kind.validateItem, Kind.validateItem, ← traits.checkCanonical_respelled h]
    generalize traits.checkCanonical a = checked
    obtain ⟨report, final⟩ := checked
    cases final with
    | true => exact ⟨rfl, h⟩
    | false =>
      have hall := h
      cases h with
      | record => exact validateSubs_respelled subs hchecks hall report
      | _ => exact ⟨rfl, hall⟩
  | .unknown, _, traits, _, _, h => Kind.validateItem_respelled_of_simple traits (by simp) h
  | .boolean, _, traits, _, _, h => Kind.validateItem_respelled_of_simple traits (by simp) h
  | .integer, _, traits, _, _, h => Kind.validateItem_respelled_of_simple traits (by simp) h
  | .decimal, _, traits, _, _, h => Kind.validateItem_respelled_of_simple traits (by simp) h
  | .string, _, traits, _, _, h => Kind.validateItem_respelled_of_simple traits (by simp) h
  | .binary, _, traits, _, _, h => Kind.validateItem_respelled_of_simple traits (by simp) h
  | .dateTime, _, traits, _, _, h => Kind.validateItem_respelled_of_simple traits (by simp) h
  | .reference _, _, traits, _, _, h => Kind.validateItem_respelled_of_simple traits (by simp) h

/-- The sub-attributes of a record are found under keys that are spelled alike, and marked there. -/
theorem validateSubs_respelled : ∀ (subs : List Attribute), everyCheck Check.IgnoresSpelling subs →
    ∀ {as bs : Record}, as.Respelled bs → ∀ report : Report,
      (validateSubs catalog subs as report).1 = (validateSubs catalog subs bs report).1 ∧
        (validateSubs catalog subs as report).2.Respelled (validateSubs catalog subs bs report).2
  | [], _, _, _, h, _ => ⟨rfl, h⟩
  | sub :: subs, hchecks, as, bs, h, report => by
    have hfound := h.get? (rfl : sub.name.folded = sub.name.folded)
    rw [validateSubs, validateSubs]
    dsimp only
    generalize as.get? sub.name.text = found at hfound ⊢
    generalize bs.get? sub.name.text = respelled at hfound ⊢
    cases hfound with
    | none => exact validateSubs_respelled subs hchecks.2 h report
    | some hvalue =>
      obtain ⟨hreport, hchanged⟩ := Attribute.validate_respelled sub hchecks.1 hvalue
      dsimp only
      rw [hvalue.isMissing, hreport]
      split
      · exact validateSubs_respelled subs hchecks.2 h report
      · exact validateSubs_respelled subs hchecks.2 (h.replace rfl (marked_respelled _ hchanged)) _

end

end

end Scim
