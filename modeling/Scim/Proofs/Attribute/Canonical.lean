import Scim.Attribute.Draft
import Scim.Proofs.Attribute.Findings
import Scim.Proofs.Report.Advised
import Scim.Proofs.Text.Lowered

/-!
# Canonical values

A text is compared with the canonical values of its attribute as it is, and if it need not be exact once more in lower
case.  The canonical texts themselves were brought to lower case when the attribute was declared, after all settings
were made.  The two foldings and the comparison without any of them come to one thing because lower-casing is done
once and for all: a text that need not be exact is canonical if and only if some declared text has the same lower-case
form, and a text that has to be exact if and only if it was declared.

A value that is not canonical is either refused, and nothing else is checked of it, or advised against.  In the second
case everything goes on as for an attribute without canonical values: the same parts are marked, the same is blocked,
and the report is the same but for one advice at the place of each value that is not canonical, which comes first
there.  What the other rules and the checks of the attribute find is listed one by one, and the report tells just that.

## Main results

* `isCanonical_text_iff`: which texts are canonical.
* `Attribute.validate_of_accepted`, `Attribute.validate_alsoAdvises`: values that are canonical, and what is advised
  against others, beside an attribute without canonical values.
* `Attribute.validate_tells_rules`: all that is reported.
* `Draft.canonical_matching`: the whole statement, for every draft.
-/

namespace Scim

open Text

/-! ## Canonical texts -/

namespace Attribute

/-- The text is expected: it is one of the values given, or, if it need not be exact, one of them has the same
lower-case form. -/
def Expects (caseExact : Bool) (values : List Json) (text : String) : Prop :=
  if caseExact then .text text ∈ values else ∃ other, .text other ∈ values ∧ lower other = lower text

theorem mem_map_keptCanonical_iff {caseExact : Bool} {values : List Json} {text : String} :
    .text text ∈ values.map (keptCanonical caseExact) ↔
      ∃ other, .text other ∈ values ∧ (if caseExact then other else lower other) = text := by
  rw [List.mem_map]
  constructor
  · rintro ⟨json, hjson, hkept⟩
    cases json with
    | text other => exact ⟨other, hjson, Json.text.inj hkept⟩
    | _ => cases hkept
  · rintro ⟨other, hother, rfl⟩
    exact ⟨.text other, hother, rfl⟩

/-- A text equals a document that is the same text, and no other. -/
theorem any_sameJson_text_iff {values : List Json} {text : String} :
    values.any (Value.sameJson (.text text)) = true ↔ .text text ∈ values := by
  rw [List.any_eq_true]
  constructor
  · rintro ⟨json, hjson, hsame⟩
    cases json with
    | text other =>
      rw [Value.sameJson, beq_iff_eq] at hsame
      exact hsame ▸ hjson
    | _ => cases hsame
  · exact fun hmem => ⟨_, hmem, by rw [Value.sameJson, beq_iff_eq]⟩

/-- A text that need not be exact is compared once more in lower case. -/
theorem isCanonical_text (caseExact : Bool) (values : List Json) (text : String) :
    isCanonical caseExact values (.text text) =
      (values.any (Value.sameJson (.text text)) ||
        !caseExact && values.any (Value.sameJson (.text (lower text)))) := by
  unfold isCanonical
  dsimp only
  congr 2
  refine congrArg values.any (funext fun json => ?_)
  cases json with
  | text other =>
    show (other == lower text) = (lower text == other)
    rw [Bool.eq_iff_iff, beq_iff_eq, beq_iff_eq, eq_comm]
  | _ => rfl

/-- Against canonical texts as they are kept, a text is canonical exactly if it is expected. -/
theorem isCanonical_text_iff {caseExact : Bool} {values : List Json} {text : String} :
    isCanonical caseExact (values.map (keptCanonical caseExact)) (.text text) = true ↔
      Expects caseExact values text := by
  rw [isCanonical_text, Bool.or_eq_true, any_sameJson_text_iff, Bool.and_eq_true, any_sameJson_text_iff,
    mem_map_keptCanonical_iff, mem_map_keptCanonical_iff, Expects]
  cases caseExact with
  | true => simp
  | false =>
    -- a text that equals a kept one is in lower case, so that its own form is the kept one too
    simp only [Bool.not_false, true_and, Bool.false_eq_true, if_false]
    refine ⟨?_, .inr⟩
    rintro (⟨other, hother, rfl⟩ | hsame)
    · exact ⟨other, hother, (lower_lower other).symm⟩
    · exact hsame

/-- The value is one of the canonical ones, if there are any. -/
def Accepts (attr : Attribute) (value : Value) : Prop :=
  ∀ canonical, attr.traits.canonical = some canonical →
    isCanonical attr.traits.caseExact canonical.values value = true

instance (attr : Attribute) (value : Value) : Decidable (attr.Accepts value) :=
  inferInstanceAs (Decidable (∀ canonical ∈ attr.traits.canonical,
    isCanonical attr.traits.caseExact canonical.values value = true))

/-- The attribute without canonical values. -/
def uncanonical (attr : Attribute) : Attribute := { attr with traits := { attr.traits with canonical := none } }

end Attribute

/-! ## Items -/

section

variable {catalog : Catalog} {traits other : Traits} {kind : Kind} {value : Value}

/-- Of the characteristics nothing but the canonical values matters for an item. -/
theorem Kind.validateItem_congr (h : traits.checkCanonical value = other.checkCanonical value) :
    kind.validateItem catalog traits value = kind.validateItem catalog other value := by
  cases kind <;> simp only [validateItem, h]

/-- After a record of different advice the same violations are found in the sub-attributes, and the same is marked. -/
theorem validateSubs_sameViolations {a b : Report} (h : a.SameViolations b) (subs : List Attribute)
    (entries : Record) :
    (validateSubs catalog subs entries a).1.SameViolations (validateSubs catalog subs entries b).1 ∧
      (validateSubs catalog subs entries a).2 = (validateSubs catalog subs entries b).2 := by
  induction subs generalizing entries a b with
  | nil => exact ⟨h, rfl⟩
  | cons sub subs ih =>
    rw [validateSubs, validateSubs]
    dsimp only
    split
    · exact ih h entries
    · split
      · exact ih h entries
      · exact ih (h.merge (.refl _) _) _

/-- What is checked of an item beside its canonical values does not depend on them. -/
theorem Kind.validateItem_sameViolations {a b : Report} (ha : traits.checkCanonical value = (a, false))
    (hb : other.checkCanonical value = (b, false)) (h : a.SameViolations b) :
    (kind.validateItem catalog traits value).1.SameViolations (kind.validateItem catalog other value).1 ∧
      (kind.validateItem catalog traits value).2 = (kind.validateItem catalog other value).2 := by
  by_cases hsimple : ∀ subs, kind ≠ .complex subs
  · rw [validateItem, validateItem, ha, hb]
    · dsimp only
      split
      · exact ⟨h.merge (.refl _) [], rfl⟩
      · exact ⟨h, rfl⟩
    · exact hsimple
    · exact hsimple
  · obtain ⟨subs, rfl⟩ := not_forall_not.1 hsimple
    rw [validateItem, validateItem, ha, hb]
    dsimp only
    split
    · next entries _ =>
      obtain ⟨hreport, hentries⟩ := validateSubs_sameViolations h subs entries
      exact ⟨hreport, congrArg Value.record hentries⟩
    · exact ⟨h, rfl⟩

/-- If the canonical values are all there is to report of an item, it is not checked any further. -/
theorem Kind.validateItem_of_refused {report : Report} (hchecked : traits.checkCanonical value = (report, true)) :
    kind.validateItem catalog traits value = (report, value) := by
  cases kind <;> simp [validateItem, hchecked]

/-- After an advice further checks go on as they would have gone on without it. -/
theorem runChecks_sameViolations {a b : Report} (h : a.SameViolations b) (checks : List Check) (value : Value) :
    (runChecks checks value a).SameViolations (runChecks checks value b) := by
  unfold runChecks
  induction checks generalizing a b with
  | nil => exact h
  | cons check checks ih =>
    rw [List.foldl_cons, List.foldl_cons, h.canProceed_eq]
    split
    · exact ih (h.merge (.refl _) [])
    · exact ih h

end

/-! ## Values -/

namespace Attribute

variable {catalog : Catalog} {attr : Attribute} {value item : Value} {items : List Value} {canonical : Canonical}

/-- The items to which the rules of the kind are applied: those of the right type, but for the invalid ones in a
list. -/
inductive Examines (attr : Attribute) : Value → Value → Prop
  | single {value : Value} (hsingle : attr.traits.multiValued = false) (hpresent : value.isAbsent = false)
      (hfits : attr.kind.fits value = true) : Examines attr value value
  | element {items : List Value} {item : Value} (hmulti : attr.traits.multiValued = true) (hmem : item ∈ items)
      (hvalid : item.isInvalid = false) (hfits : attr.kind.fits item = true) : Examines attr (.list items) item

theorem examines_self (hsingle : attr.traits.multiValued = false) (h : attr.Examines value value) :
    value.isAbsent = false ∧ attr.kind.fits value = true := by
  cases h with
  | single _ hpresent hfits => exact ⟨hpresent, hfits⟩
  | element hmulti => cases hsingle.symm.trans hmulti

theorem examines_element (hmulti : attr.traits.multiValued = true) (h : attr.Examines (.list items) item) :
    item.isInvalid = false ∧ attr.kind.fits item = true := by
  cases h with
  | single hsingle => cases hsingle.symm.trans hmulti
  | element _ _ hvalid hfits => exact ⟨hvalid, hfits⟩

theorem Accepts.checkCanonical_eq (h : attr.Accepts item) :
    attr.traits.checkCanonical item = attr.uncanonical.traits.checkCanonical item := by
  rw [Traits.checkCanonical]
  cases hcanonical : attr.traits.canonical with
  | none => rfl
  | some canonical =>
    simp only [h canonical hcanonical, if_true]
    rfl

theorem Accepts.validateItem_eq (h : attr.Accepts item) :
    attr.kind.validateItem catalog attr.traits item =
      attr.uncanonical.kind.validateItem catalog attr.uncanonical.traits item :=
  Kind.validateItem_congr h.checkCanonical_eq

section Canonical

variable (hcanonical : attr.traits.canonical = some canonical)

include hcanonical

theorem accepts_iff : attr.Accepts item ↔ isCanonical attr.traits.caseExact canonical.values item = true := by
  refine ⟨fun h => h canonical hcanonical, fun h other hother => ?_⟩
  cases Option.some.inj (hcanonical.symm.trans hother)
  exact h

theorem checkCanonical_eq (item : Value) :
    attr.traits.checkCanonical item =
      if attr.Accepts item then (.empty, false)
      else if canonical.restricted then (.ofViolation (.mustBeOneOf canonical.values) false, true)
      else (.addAdvice .empty (.shouldBeOneOf canonical.values) [], false) := by
  rw [Traits.checkCanonical, hcanonical]
  simp only [accepts_iff hcanonical]

theorem validateItem_of_not_accepts (hrestricted : canonical.restricted = true) (hother : ¬ attr.Accepts item) :
    attr.kind.validateItem catalog attr.traits item = (.ofViolation (.mustBeOneOf canonical.values) false, item) := by
  refine Kind.validateItem_of_refused ?_
  rw [checkCanonical_eq hcanonical item, if_neg hother, if_pos hrestricted]

/-- Where the canonical values are not restricted, at most an advice is recorded and the checks go on. -/
theorem validateItem_sameViolations (hfree : canonical.restricted = false) (item : Value) :
    (attr.kind.validateItem catalog attr.traits item).1.SameViolations
        (attr.uncanonical.kind.validateItem catalog attr.uncanonical.traits item).1 ∧
      (attr.kind.validateItem catalog attr.traits item).2 =
        (attr.uncanonical.kind.validateItem catalog attr.uncanonical.traits item).2 := by
  have hchecked := checkCanonical_eq hcanonical item
  rw [hfree, if_neg Bool.false_ne_true] at hchecked
  split at hchecked
  · exact Kind.validateItem_sameViolations hchecked rfl (.refl _)
  · exact Kind.validateItem_sameViolations hchecked rfl (Report.sameViolations_addAdvice _ _ _)

end Canonical

/-! ### Rounds over a list -/

/-- An item that is accepted, or not examined at all, fares as without canonical values. -/
theorem secondRound_eq_uncanonical
    (h : item.isInvalid = false → attr.kind.fits item = true → attr.Accepts item) :
    attr.secondRound catalog item = attr.uncanonical.secondRound catalog item := by
  by_cases hexamined : item.isInvalid = false ∧ attr.kind.fits item = true
  · obtain ⟨hvalid, hfits⟩ := hexamined
    have huncanonical : attr.uncanonical.secondRound catalog item = _ := secondRound_of_fits hvalid hfits
    rw [secondRound_of_fits hvalid hfits, huncanonical, (h hvalid hfits).validateItem_eq]
  · have huncanonical : attr.uncanonical.secondRound catalog item = _ := secondRound_of_unfit hexamined
    rw [secondRound_of_unfit hexamined, huncanonical]

theorem secondRound_sameViolations (hcanonical : attr.traits.canonical = some canonical)
    (hfree : canonical.restricted = false) (item : Value) :
    (attr.secondRound catalog item).1.SameViolations (attr.uncanonical.secondRound catalog item).1 ∧
      (attr.secondRound catalog item).2 = (attr.uncanonical.secondRound catalog item).2 := by
  by_cases hexamined : item.isInvalid = false ∧ attr.kind.fits item = true
  · obtain ⟨hvalid, hfits⟩ := hexamined
    have huncanonical : attr.uncanonical.secondRound catalog item = _ := secondRound_of_fits hvalid hfits
    obtain ⟨hreport, hvalue⟩ := @validateItem_sameViolations catalog attr canonical hcanonical hfree item
    rw [secondRound_of_fits hvalid hfits, huncanonical, hvalue, marked, marked, hreport.canProceed_eq]
    exact ⟨hreport, rfl⟩
  · have huncanonical : attr.uncanonical.secondRound catalog item = _ := secondRound_of_unfit hexamined
    rw [secondRound_of_unfit hexamined, huncanonical]
    exact ⟨.refl _, rfl⟩

/-! ### The whole value -/

/-- A single value of the right type is handed to the rules of the kind, after which the checks of the attribute
run. -/
theorem validate_single_of_fits (hsingle : attr.traits.multiValued = false) (hpresent : value.isAbsent = false)
    (hfits : attr.kind.fits value = true) :
    attr.validate catalog value =
      (runChecks attr.hooks.checks (attr.kind.validateItem catalog attr.traits value).2
          (Report.empty.merge (attr.kind.validateItem catalog attr.traits value).1 []),
        (attr.kind.validateItem catalog attr.traits value).2) := by
  have hempty : attr.kind.checkType value = .empty := if_pos hfits
  rw [validate_single hsingle hpresent, hempty]
  rfl

/-- If everything that is examined is canonical, the value is validated as without canonical values. -/
theorem validate_of_accepted (h : ∀ item, attr.Examines value item → attr.Accepts item) :
    attr.validate catalog value = attr.uncanonical.validate catalog value := by
  cases habsent : value.isAbsent with
  | true => rw [validate_absent habsent, validate_absent habsent]
  | false =>
    cases hmulti : attr.traits.multiValued with
    | false =>
      have huncanonical : attr.uncanonical.validate catalog value = _ := validate_single hmulti habsent
      have hkind : attr.uncanonical.kind = attr.kind := rfl
      rw [validate_single hmulti habsent, huncanonical, hkind, Kind.canProceed_checkType]
      split
      · next hfits => rw [(h value (.single hmulti habsent hfits)).validateItem_eq]; rfl
      · rfl
    | true =>
      cases hlist : value.list? with
      | none =>
        have huncanonical : attr.uncanonical.validate catalog value = _ := validate_not_list hmulti habsent hlist
        rw [validate_not_list hmulti habsent hlist, huncanonical]
      | some items =>
        rw [Value.list?_eq_some.1 hlist] at h ⊢
        have hround : ∀ item ∈ items, attr.secondRound catalog item = attr.uncanonical.secondRound catalog item :=
          fun item hmem => secondRound_eq_uncanonical fun hvalid hfits => h item (.element hmulti hmem hvalid hfits)
        have huncanonical := @validate_rounds catalog attr.uncanonical hmulti items
        have hreports : items.map (fun item => (attr.secondRound catalog item).1) =
            items.map fun item => (attr.uncanonical.secondRound catalog item).1 :=
          List.map_congr_left fun item hmem => congrArg Prod.fst (hround item hmem)
        have hvalues : items.map (fun item => (attr.secondRound catalog item).2) =
            items.map fun item => (attr.uncanonical.secondRound catalog item).2 :=
          List.map_congr_left fun item hmem => congrArg Prod.snd (hround item hmem)
        rw [validate_rounds hmulti, huncanonical, hreports, hvalues]
        rfl

/-- Where the canonical values are not restricted, every value is marked as without them, and the same violations are
found and the same is blocked. -/
theorem validate_sameViolations (hcanonical : attr.traits.canonical = some canonical)
    (hfree : canonical.restricted = false) (value : Value) :
    (attr.validate catalog value).1.SameViolations (attr.uncanonical.validate catalog value).1 ∧
      (attr.validate catalog value).2 = (attr.uncanonical.validate catalog value).2 := by
  cases habsent : value.isAbsent with
  | true =>
    rw [validate_absent habsent, validate_absent habsent]
    exact ⟨.refl _, rfl⟩
  | false =>
    cases hmulti : attr.traits.multiValued with
    | false =>
      have huncanonical : attr.uncanonical.validate catalog value = _ := validate_single hmulti habsent
      have hkind : attr.uncanonical.kind = attr.kind := rfl
      obtain ⟨hreport, hvalue⟩ := @validateItem_sameViolations catalog attr canonical hcanonical hfree value
      rw [validate_single hmulti habsent, huncanonical, hkind]
      split
      · dsimp only
        rw [hvalue]
        exact ⟨runChecks_sameViolations (.merge (.refl _) hreport []) _ _, rfl⟩
      · exact ⟨.refl _, rfl⟩
    | true =>
      cases hlist : value.list? with
      | none =>
        have huncanonical : attr.uncanonical.validate catalog value = _ := validate_not_list hmulti habsent hlist
        rw [validate_not_list hmulti habsent hlist, huncanonical]
        exact ⟨.refl _, rfl⟩
      | some items =>
        have hround : ∀ item, _ := @secondRound_sameViolations catalog attr canonical hcanonical hfree
        have huncanonical := @validate_rounds catalog attr.uncanonical hmulti items
        have hreports : List.Forall₂ Report.SameViolations
            (items.map fun item => (attr.secondRound catalog item).1)
            (items.map fun item => (attr.uncanonical.secondRound catalog item).1) := by
          rw [List.forall₂_map_left_iff, List.forall₂_map_right_iff]
          exact List.forall₂_same.2 fun item _ => (hround item).1
        have hvalues : items.map (fun item => (attr.secondRound catalog item).2) =
            items.map fun item => (attr.uncanonical.secondRound catalog item).2 :=
          List.map_congr_left fun item _ => (hround item).2
        rw [Value.list?_eq_some.1 hlist, validate_rounds hmulti, huncanonical]
        dsimp only
        rw [hvalues]
        exact ⟨runChecks_sameViolations (.mergeEach (.refl _) hreports 0) _ _, rfl⟩

/-! ### What is found -/

/-- What the rules of the kind find in an item.  One that is not canonical is refused, and then nothing else is looked
at, or it is advised against, and then all is looked at as in a canonical one. -/
def ruleFindings (catalog : Catalog) (attr : Attribute) (canonical : Canonical) (item : Value) : Findings :=
  if attr.Accepts item then attr.kind.furtherFindings catalog item
  else if canonical.restricted then [([], .ofViolation (.mustBeOneOf canonical.values) false)]
  else ([], .addAdvice .empty (.shouldBeOneOf canonical.values) []) :: attr.kind.furtherFindings catalog item

theorem validateItem_tells (hcanonical : attr.traits.canonical = some canonical) (item : Value) :
    (attr.kind.validateItem catalog attr.traits item).1.Tells (attr.ruleFindings catalog canonical item) := by
  have hchecked := checkCanonical_eq hcanonical item
  unfold ruleFindings
  by_cases haccepted : attr.Accepts item
  · rw [if_pos haccepted] at hchecked ⊢
    exact Kind.validateItem_tells hchecked .empty
  · rw [if_neg haccepted] at hchecked ⊢
    cases hrestricted : canonical.restricted with
    | true =>
      rw [hrestricted, if_pos rfl] at hchecked
      rw [Kind.validateItem_of_refused hchecked]
      exact .ofViolation _ _
    | false =>
      rw [hrestricted, if_neg Bool.false_ne_true] at hchecked
      exact Kind.validateItem_tells hchecked (.ofAdvice _)

theorem validate_tells_rules (catalog : Catalog) (hcanonical : attr.traits.canonical = some canonical)
    (value : Value) :
    (attr.validate catalog value).1.Tells (attr.findings catalog (attr.ruleFindings catalog canonical) value) :=
  validate_tells (validateItem_tells hcanonical) value

theorem itemFindings_of_accepts {examined : Bool} (h : examined = true → attr.Accepts item) :
    attr.itemFindings (attr.ruleFindings catalog canonical) examined item =
      attr.itemFindings (attr.kind.furtherFindings catalog) examined item := by
  cases examined with
  | false => rfl
  | true => rw [itemFindings, itemFindings, ruleFindings, if_pos (h rfl)]

/-- The places of the items that are examined and are not canonical. -/
inductive DeviatesAt (attr : Attribute) : Value → Location → Prop
  | single {value : Value} (hsingle : attr.traits.multiValued = false) (hexamined : attr.Examines value value)
      (hother : ¬ attr.Accepts value) : DeviatesAt attr value []
  | element {items : List Value} {index : Nat} {item : Value} (hmulti : attr.traits.multiValued = true)
      (hat : items[index]? = some item) (hexamined : attr.Examines (.list items) item)
      (hother : ¬ attr.Accepts item) : DeviatesAt attr (.list items) [.index index]

section Free

variable (hfree : canonical.restricted = false)

include hfree

/-- Where other values are not refused, all that canonical values change in an item is an advice that comes first. -/
theorem itemFindings_of_free (examined : Bool) (item : Value) (asked : Location) :
    (attr.itemFindings (attr.ruleFindings catalog canonical) examined item).issuesAt Report.advice asked =
        (if examined = true ∧ ¬ attr.Accepts item ∧ asked.isEmpty then [.shouldBeOneOf canonical.values] else []) ++
          (attr.itemFindings (attr.kind.furtherFindings catalog) examined item).issuesAt Report.advice asked ∧
      (attr.itemFindings (attr.ruleFindings catalog canonical) examined item).canProceed asked =
        (attr.itemFindings (attr.kind.furtherFindings catalog) examined item).canProceed asked := by
  by_cases h : examined = true → attr.Accepts item
  · rw [itemFindings_of_accepts h, if_neg fun hdeviates => hdeviates.2.1 (h hdeviates.1)]
    exact ⟨rfl, rfl⟩
  · obtain ⟨rfl, hother⟩ := Classical.not_imp.1 h
    have hitem : attr.itemFindings (attr.ruleFindings catalog canonical) true item =
        [([], attr.kind.checkType item)] ++
          ([([], .addAdvice .empty (.shouldBeOneOf canonical.values) [])] ++ attr.kind.furtherFindings catalog item) := by
      rw [itemFindings, ruleFindings, if_neg hother, hfree]
      rfl
    have hplain : attr.itemFindings (attr.kind.furtherFindings catalog) true item =
        [([], attr.kind.checkType item)] ++ attr.kind.furtherFindings catalog item := rfl
    have hadvised := Report.Tells.ofAdvice (.shouldBeOneOf canonical.values)
    rw [hitem, hplain]
    constructor
    · simp only [Findings.issuesAt_append]
      rw [← (attr.kind.checkType_tells item).advice, attr.kind.advice_checkType, ← hadvised.advice]
      cases asked <;> simp [hother] <;> rfl
    · simp only [Findings.canProceed_append]
      rw [← hadvised.proceeds]
      rfl

/-- At the place of an item that is not canonical the advice comes before all else that is found there. -/
theorem advice_valueFindings_of_deviates {asked : Location} (h : attr.DeviatesAt value asked) :
    (attr.valueFindings (attr.ruleFindings catalog canonical) value).issuesAt Report.advice asked =
      .shouldBeOneOf canonical.values ::
        (attr.valueFindings (attr.kind.furtherFindings catalog) value).issuesAt Report.advice asked := by
  cases h with
  | single hsingle hexamined hother =>
    obtain ⟨-, hfits⟩ := examines_self hsingle hexamined
    rw [valueFindings_of_single hsingle, valueFindings_of_single hsingle, (itemFindings_of_free hfree _ _ _).1,
      if_pos ⟨hfits, hother, rfl⟩]
    rfl
  | @element items index item hmulti hat hexamined hother =>
    obtain ⟨hvalid, hfits⟩ := examines_element hmulti hexamined
    have hexamined : (!item.isInvalid && attr.kind.fits item) = true := by rw [hvalid, hfits]; rfl
    rw [issuesAt_valueFindings_element hmulti hat, issuesAt_valueFindings_element hmulti hat,
      (itemFindings_of_free hfree _ _ _).1, if_pos ⟨hexamined, hother, rfl⟩]
    rfl

/-- Elsewhere nothing is added. -/
theorem advice_valueFindings_of_not_deviates (hpresent : value.isAbsent = false) {asked : Location}
    (h : ¬ attr.DeviatesAt value asked) :
    (attr.valueFindings (attr.ruleFindings catalog canonical) value).issuesAt Report.advice asked =
      (attr.valueFindings (attr.kind.furtherFindings catalog) value).issuesAt Report.advice asked := by
  cases hmulti : attr.traits.multiValued with
  | false =>
    rw [valueFindings_of_single hmulti, valueFindings_of_single hmulti, (itemFindings_of_free hfree _ _ _).1, if_neg]
    · rfl
    · rintro ⟨hfits, hother, hroot⟩
      rw [List.isEmpty_iff.1 hroot] at h
      exact h (.single hmulti (.single hmulti hpresent hfits) hother)
  | true =>
    cases hlist : value.list? with
    | none => rw [valueFindings, valueFindings, if_pos hmulti, if_pos hmulti, hlist]
    | some items =>
      rw [Value.list?_eq_some.1 hlist] at h ⊢
      rcases asked with _ | ⟨key | index, rest⟩
      · simp only [Findings.issuesAt, seenAt_valueFindings_list hmulti]
      · simp only [Findings.issuesAt, seenAt_valueFindings_list hmulti]
      · cases hat : items[index]? with
        | none => simp only [Findings.issuesAt, seenAt_valueFindings_list hmulti, hat]
        | some item =>
          rw [issuesAt_valueFindings_element hmulti hat, issuesAt_valueFindings_element hmulti hat,
            (itemFindings_of_free hfree _ _ _).1, if_neg]
          · rfl
          · rintro ⟨hexamined, hother, hroot⟩
            rw [Bool.and_eq_true, Bool.not_eq_true'] at hexamined
            rw [List.isEmpty_iff.1 hroot] at h
            exact h (.element hmulti hat (.element hmulti (List.mem_of_getElem? hat) hexamined.1 hexamined.2) hother)

theorem canProceed_valueFindings (value : Value) :
    (attr.valueFindings (attr.ruleFindings catalog canonical) value).canProceed [] =
      (attr.valueFindings (attr.kind.furtherFindings catalog) value).canProceed [] := by
  cases hmulti : attr.traits.multiValued with
  | false =>
    rw [valueFindings_of_single hmulti, valueFindings_of_single hmulti, (itemFindings_of_free hfree _ _ _).2]
  | true =>
    cases hlist : value.list? with
    | none => rw [valueFindings, valueFindings, if_pos hmulti, if_pos hmulti, hlist]
    | some items =>
      rw [Value.list?_eq_some.1 hlist, valueFindings_list hmulti, valueFindings_list hmulti,
        Findings.canProceed_eachBelow, Findings.canProceed_eachBelow]

end Free

theorem not_deviatesAt_of_absent (habsent : value.isAbsent = true) (asked : Location) :
    ¬ attr.DeviatesAt value asked := by
  intro h
  cases h with
  | single hsingle hexamined =>
    rw [(examines_self hsingle hexamined).1] at habsent
    cases habsent
  | element => cases habsent

/-- Where the canonical values are not restricted, the report is the one that there is without canonical values, but
that each item which is not canonical is advised against before all else that is found in it. -/
theorem validate_alsoAdvises (hcanonical : attr.traits.canonical = some canonical)
    (hfree : canonical.restricted = false) (value : Value) :
    (attr.validate catalog value).1.AlsoAdvises (attr.uncanonical.validate catalog value).1
      (.shouldBeOneOf canonical.values) (attr.DeviatesAt value) := by
  obtain ⟨hsame, hvalue⟩ := @validate_sameViolations catalog attr canonical hcanonical hfree value
  cases hpresent : value.isAbsent with
  | true =>
    refine ⟨hsame, fun h => absurd h (not_deviatesAt_of_absent hpresent _), fun _ => ?_⟩
    rw [validate_absent hpresent, validate_absent hpresent]
  | false =>
    have htells := validate_tells_rules catalog hcanonical value
    have hplain : (attr.uncanonical.validate catalog value).1.Tells
        (attr.uncanonical.findings catalog (attr.kind.furtherFindings catalog) value) :=
      validate_tells (fun _ => Kind.validateItem_tells rfl .empty) value
    -- the same checks run on the same value
    have hchecked : attr.uncanonical.findings catalog (attr.kind.furtherFindings catalog) value =
        attr.valueFindings (attr.kind.furtherFindings catalog) value ++
          if (attr.valueFindings (attr.ruleFindings catalog canonical) value).canProceed [] then
            checkFindings (attr.validate catalog value).2 attr.hooks.checks
          else [] := by
      rw [findings_of_present hpresent, canProceed_valueFindings hfree, hvalue]
      rfl
    rw [findings_of_present hpresent] at htells
    rw [hchecked] at hplain
    refine ⟨hsame, fun h => ?_, fun h => ?_⟩
    · rw [htells.advice, hplain.advice, Findings.issuesAt_append, Findings.issuesAt_append,
        advice_valueFindings_of_deviates hfree h]
      rfl
    · rw [htells.advice, hplain.advice, Findings.issuesAt_append, Findings.issuesAt_append,
        advice_valueFindings_of_not_deviates hfree hpresent h]

/-- What validation makes of the canonical values of an attribute. -/
structure CanonicalRule (catalog : Catalog) (attr : Attribute) (canonical : Canonical) : Prop where
  /-- Canonical values are validated as if there were no canonical values. -/
  accepted {value : Value} (h : ∀ item, attr.Examines value item → attr.Accepts item) :
    attr.validate catalog value = attr.uncanonical.validate catalog value
  /-- So are the canonical elements of a list, whatever stands beside them. -/
  acceptedElement (hmulti : attr.traits.multiValued = true) {items : List Value} {index : Nat} {item : Value}
      (hat : items[index]? = some item) (h : attr.Examines (.list items) item → attr.Accepts item) :
    ∃ after others, (attr.validate catalog (.list items)).2 = .list after ∧
      (attr.uncanonical.validate catalog (.list items)).2 = .list others ∧ after[index]? = others[index]?
  /-- Nothing is reported of them but what all other rules find in them, and what the checks of the attribute add. -/
  acceptedElementReport (hmulti : attr.traits.multiValued = true) {items : List Value} {index : Nat} {item : Value}
      (hat : items[index]? = some item) (h : attr.Examines (.list items) item → attr.Accepts item) (rest : Location) :
    let own := attr.itemFindings (attr.kind.furtherFindings catalog) (!item.isInvalid && attr.kind.fits item) item
    let added := checkFindings (attr.validate catalog (.list items)).2 attr.hooks.checks
    (attr.validate catalog (.list items)).1.violations.issuesAt (.index index :: rest) =
        own.issuesAt Report.violations rest ++ added.issuesAt Report.violations (.index index :: rest) ∧
      (attr.validate catalog (.list items)).1.advice.issuesAt (.index index :: rest) =
        own.issuesAt Report.advice rest ++ added.issuesAt Report.advice (.index index :: rest)
  /-- Another value is refused and blocked, and nothing else is checked of it. -/
  refused (hrestricted : canonical.restricted = true) (hsingle : attr.traits.multiValued = false) {value : Value}
      (hexamined : attr.Examines value value) (hother : ¬ attr.Accepts value) :
    attr.validate catalog value = (.ofViolation (.mustBeOneOf canonical.values) false, value)
  /-- Another element of a list is refused and blocked at its index and becomes invalid. -/
  refusedElement (hrestricted : canonical.restricted = true) (hmulti : attr.traits.multiValued = true)
      {items : List Value} {index : Nat} {item : Value} (hat : items[index]? = some item)
      (hexamined : attr.Examines (.list items) item) (hother : ¬ attr.Accepts item) :
    ∃ report after, attr.validate catalog (.list items) = (report, .list after) ∧ after[index]? = some .invalid ∧
      .mustBeOneOf canonical.values ∈ report.violations.issuesAt [.index index] ∧
      report.canProceed [.index index] = false
  /-- Where other values are not refused, every value is left as if there were no canonical values, and the report is
  the one there would be then, but that all other values are advised against, once and at their place. -/
  advised (hfree : canonical.restricted = false) (value : Value) :
    (attr.validate catalog value).1.AlsoAdvises (attr.uncanonical.validate catalog value).1
        (.shouldBeOneOf canonical.values) (attr.DeviatesAt value) ∧
      (attr.validate catalog value).2 = (attr.uncanonical.validate catalog value).2
  /-- The report tells at every location what each rule and each check found there, in the order in which they ran:
  the type of every item, its canonical values, all other rules unless the item is refused, and at last the checks of
  the attribute, one after the other, for as long as nothing blocks the value. -/
  reported (value : Value) :
    (attr.validate catalog value).1.Tells (attr.findings catalog (attr.ruleFindings catalog canonical) value)

theorem canonicalRule (catalog : Catalog) (hcanonical : attr.traits.canonical = some canonical) :
    attr.CanonicalRule catalog canonical where
  accepted := validate_of_accepted
  acceptedElement := by
    intro hmulti items index item hat h
    have huncanonical := @validate_rounds catalog attr.uncanonical hmulti items
    have hround : attr.secondRound catalog item = attr.uncanonical.secondRound catalog item :=
      secondRound_eq_uncanonical fun hvalid hfits =>
        h (.element hmulti (List.mem_of_getElem? hat) hvalid hfits)
    refine ⟨_, _, congrArg Prod.snd (validate_rounds hmulti items), congrArg Prod.snd huncanonical, ?_⟩
    rw [List.getElem?_map, List.getElem?_map, hat, Option.map_some, Option.map_some, hround]
  acceptedElementReport := by
    intro hmulti items index item hat h rest
    have htells := validate_tells_rules catalog hcanonical (.list items)
    have haccepted : (!item.isInvalid && attr.kind.fits item) = true → attr.Accepts item := by
      intro hexamined
      rw [Bool.and_eq_true, Bool.not_eq_true'] at hexamined
      exact h (.element hmulti (List.mem_of_getElem? hat) hexamined.1 hexamined.2)
    rw [htells.violations, htells.advice, findings_list hmulti, Findings.issuesAt_append, Findings.issuesAt_append,
      issuesAt_valueFindings_element hmulti hat, issuesAt_valueFindings_element hmulti hat,
      itemFindings_of_accepts haccepted]
    exact ⟨rfl, rfl⟩
  refused := by
    intro hrestricted hsingle value hexamined hother
    obtain ⟨hpresent, hfits⟩ := examines_self hsingle hexamined
    rw [validate_single_of_fits hsingle hpresent hfits, validateItem_of_not_accepts hcanonical hrestricted hother,
      runChecks_of_blocked rfl]
    rfl
  refusedElement := by
    intro hrestricted hmulti items index item hat hexamined hother
    obtain ⟨hvalid, hfits⟩ := examines_element hmulti hexamined
    have hround : attr.secondRound catalog item = (.ofViolation (.mustBeOneOf canonical.values) false, .invalid) := by
      rw [secondRound_of_fits hvalid hfits, validateItem_of_not_accepts hcanonical hrestricted hother]
      rfl
    have htells := validate_tells_rules catalog hcanonical (.list items)
    have hfound : attr.itemFindings (attr.ruleFindings catalog canonical) (!item.isInvalid && attr.kind.fits item) item =
        [([], .empty), ([], .ofViolation (.mustBeOneOf canonical.values) false)] := by
      rw [hvalid, hfits, itemFindings, ruleFindings, if_neg hother, hrestricted, Kind.checkType, hfits]
      rfl
    have hvalue : (attr.validate catalog (.list items)).2 = _ := congrArg Prod.snd (validate_rounds hmulti items)
    refine ⟨_, _, Prod.ext rfl hvalue, ?_, ?_, ?_⟩
    · rw [List.getElem?_map, hat, Option.map_some, hround]
    · rw [htells.violations, findings_list hmulti, Findings.issuesAt_append,
        issuesAt_valueFindings_element hmulti hat, hfound]
      exact List.mem_append_left _ (List.mem_singleton.2 rfl)
    · rw [htells.proceeds, findings_list hmulti, Findings.canProceed_append,
        canProceed_valueFindings_element hmulti hat, hfound]
      rfl
  advised := fun hfree value =>
    ⟨validate_alsoAdvises hcanonical hfree value, (validate_sameViolations hcanonical hfree value).2⟩
  reported := validate_tells_rules catalog hcanonical

end Attribute

/-! ## Declared attributes -/

namespace Draft

open Attribute

/-- Whether a kind is always exact does not depend on its sub-attributes. -/
theorem isAlwaysExact_declaredKind (multiValued : Bool) (kind : Kind) :
    isAlwaysExact (declaredKind multiValued kind) = isAlwaysExact kind := by
  unfold declaredKind
  split <;> rfl

/-- What a draft is built with: the canonical values in the form in which they are kept. -/
theorem traits_of_build {draft : Draft} {attr : Attribute} (h : draft.build = .ok attr) :
    attr.traits.caseExact = (draft.traits.caseExact || isAlwaysExact draft.kind) ∧
      attr.traits.canonical = draft.traits.canonical.map fun canonical =>
        { canonical with values := canonical.values.map (keptCanonical attr.traits.caseExact) } := by
  unfold build declare at h
  cases hname : AttrName.parse draft.name with
  | error fault =>
    simp only [hname, bind, Except.bind] at h
    cases h
  | ok parsed =>
    simp only [hname, bind, Except.bind] at h
    cases h
    rw [← isAlwaysExact_declaredKind draft.traits.multiValued draft.kind]
    exact ⟨rfl, rfl⟩

/-- Whatever settings are made of a draft, in whatever order, as long as canonical values are among them: texts have
to be exact if that was set last, and always for binary data and references; the canonical values that were set last
are matched accordingly, exactly or up to lower-case forms; and every value is validated as canonical values ask, those
that are canonical as if there were none, and all others refused or advised against, as it was set. -/
theorem canonical_matching (catalog : Catalog) (name : String) (kind : Kind) (settings : List Setting)
    (canonical : Canonical) (attr : Attribute)
    (hlast : (settings.filterMap Setting.canonical?).getLast? = some canonical)
    (h : (setAll { name, kind } settings).build = .ok attr) :
    attr.traits.caseExact = ((settings.filterMap Setting.exactness?).getLast?.getD false || isAlwaysExact kind) ∧
    ∃ kept : Canonical, attr.traits.canonical = some kept ∧ kept.restricted = canonical.restricted ∧
      kept.values = canonical.values.map (keptCanonical attr.traits.caseExact) ∧
      (∀ text, attr.Accepts (.text text) ↔ Expects attr.traits.caseExact canonical.values text) ∧
      attr.CanonicalRule catalog kept := by
  obtain ⟨hexact, hcanonical⟩ := traits_of_build h
  rw [caseExact_setAll, kind_setAll] at hexact
  rw [canonical_setAll, hlast, Option.some_or, Option.map_some] at hcanonical
  refine ⟨hexact, _, hcanonical, rfl, rfl, fun text => ?_, canonicalRule catalog hcanonical⟩
  rw [accepts_iff hcanonical]
  exact isCanonical_text_iff

/-- The kinds of addresses, set before it was known that they need not be exact and that there are several. -/
def addressKinds : List Setting :=
  [.canonicalValues [.text "Work", .text "ΟΔΟΣ"] true, .caseExact true, .multiValued true, .caseExact false]

/-- The usual kinds of addresses, of which others are possible; a service has an advice about all of them. -/
def usualKinds : List Setting :=
  [.check (.custom 0 fun _ => .addAdvice .empty .repeatedPair []), .canonicalValues [.text "Work"] false,
    .multiValued true]

/-- Of two kinds of addresses the one is canonical in another casing, and the other is refused.  Of two usual kinds
the one is advised against, and then the service looks at both. -/
theorem canonical_matching_addressKinds :
    (∃ attr, (addressKinds.filterMap Setting.canonical?).getLast? =
        some ⟨[.text "Work", .text "ΟΔΟΣ"], true⟩ ∧
      (setAll { name := "kind", kind := .string } addressKinds).build = .ok attr ∧
      attr.Accepts (.text "Οδος") ∧ ¬ attr.Accepts (.text "home") ∧
      ∃ report after, attr.validate {} (.list [.text "Οδος", .text "home"]) = (report, .list after) ∧
        after[1]? = some .invalid ∧ report.canProceed [.index 1] = false) ∧
    ∃ attr, (usualKinds.filterMap Setting.canonical?).getLast? = some ⟨[.text "Work"], false⟩ ∧
      (setAll { name := "kind", kind := .string } usualKinds).build = .ok attr ∧
      let report := (attr.validate {} (.list [.text "Work", .text "home"])).1
      report.advice.issuesAt [.index 0] = [] ∧
        report.advice.issuesAt [.index 1] = [.shouldBeOneOf [.text (lower "Work")]] ∧
        report.advice.issuesAt [] = [.repeatedPair] := by
  constructor
  case left =>
    have hlast : (addressKinds.filterMap Setting.canonical?).getLast? =
        some ⟨[.text "Work", .text "ΟΔΟΣ"], true⟩ := by rfl
    have hbuild : ∃ attr, (setAll { name := "kind", kind := .string } addressKinds).build = .ok attr ∧
        attr.kind = .string ∧ attr.traits.multiValued = true := ⟨_, by rfl, by rfl, by rfl⟩
    obtain ⟨attr, hattr, hkind, hmulti⟩ := hbuild
    obtain ⟨hexact, kept, hkept, hrestricted, -, haccepts, hrule⟩ := canonical_matching {} "kind" .string addressKinds
      ⟨[.text "Work", .text "ΟΔΟΣ"], true⟩ attr hlast hattr
    have hfolded : attr.traits.caseExact = false := hexact
    have hroad : attr.Accepts (.text "Οδος") := by
      rw [haccepts, Expects, hfolded, if_neg Bool.false_ne_true]
      exact ⟨"ΟΔΟΣ", by simp, by decide +kernel⟩
    have hhome : ¬ attr.Accepts (.text "home") := by
      rw [haccepts, Expects, hfolded, if_neg Bool.false_ne_true]
      rintro ⟨other, hother, hsame⟩
      simp only [List.mem_cons, List.not_mem_nil, or_false, Json.text.injEq] at hother
      rcases hother with rfl | rfl <;> revert hsame <;> decide +kernel
    obtain ⟨report, after, hvalidate, hafter, -, hblocked⟩ := @CanonicalRule.refusedElement _ _ _ hrule hrestricted hmulti
      [.text "Οδος", .text "home"] 1 (.text "home") rfl
      (.element hmulti (by simp) rfl (by rw [hkind]; rfl)) hhome
    exact ⟨attr, hlast, hattr, hroad, hhome, report, after, hvalidate, hafter, hblocked⟩
  case right =>
    have hlast : (usualKinds.filterMap Setting.canonical?).getLast? = some ⟨[.text "Work"], false⟩ := by rfl
    have hbuild : ∃ attr, (setAll { name := "kind", kind := .string } usualKinds).build = .ok attr ∧
        attr.kind = .string ∧ attr.traits.multiValued = true ∧
        let plain := (attr.uncanonical.validate {} (.list [.text "Work", .text "home"])).1
        plain.advice = [([], [.repeatedPair])] := ⟨_, by rfl, by rfl, by rfl, by rfl⟩
    obtain ⟨attr, hattr, hkind, hmulti, hplain⟩ := hbuild
    obtain ⟨hexact, kept, hkept, hfree, hvalues, haccepts, hrule⟩ := canonical_matching {} "kind" .string usualKinds
      ⟨[.text "Work"], false⟩ attr hlast hattr
    have hfolded : attr.traits.caseExact = false := hexact
    have hwork : attr.Accepts (.text "Work") := by
      rw [haccepts, Expects, hfolded, if_neg Bool.false_ne_true]
      exact ⟨"Work", List.mem_singleton.2 rfl, rfl⟩
    have hhome : ¬ attr.Accepts (.text "home") := by
      rw [haccepts, Expects, hfolded, if_neg Bool.false_ne_true]
      rintro ⟨other, hother, hsame⟩
      cases List.mem_singleton.1 hother
      revert hsame
      decide +kernel
    have hadvised := (hrule.advised hfree (.list [.text "Work", .text "home"])).1
    have hdeviates : attr.DeviatesAt (.list [.text "Work", .text "home"]) [.index 1] :=
      .element hmulti rfl (.element hmulti (by simp) rfl (by rw [hkind]; rfl)) hhome
    have hcanonical : ¬ attr.DeviatesAt (.list [.text "Work", .text "home"]) [.index 0] := by
      rintro (_ | ⟨-, hat, -, hother⟩)
      cases hat
      exact hother hwork
    have hlist : ¬ attr.DeviatesAt (.list [.text "Work", .text "home"]) [] := by
      rintro (⟨hsingle⟩ | _)
      rw [hmulti] at hsingle
      cases hsingle
    refine ⟨attr, hlast, hattr, ?_, ?_, ?_⟩
    · rw [hadvised.otherwise hcanonical, hplain]
      rfl
    · rw [hadvised.advised hdeviates, hplain, hvalues, hfolded]
      rfl
    · rw [hadvised.otherwise hlist, hplain]
      rfl

end Draft

end Scim
