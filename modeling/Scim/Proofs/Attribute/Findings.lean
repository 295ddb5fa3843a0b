import Scim.Proofs.Attribute.Elementwise
import Scim.Proofs.Report.Findings

/-!
# What validation finds

The report on a value tells the findings of single checks, each at its place: the type of each item; then what the
rules of the kind find in an item that has the type; and then, if none of that blocks the value, what the checks of
the attribute find, one after the other up to the first that blocks it.  Beside its canonical values the rules of a
kind look at the syntax of a text, and in a record at each sub-attribute that is there.

A check may report anything: what it finds is a finding as it stands.

## Main results

* `runChecks_tells`, `validateSubs_tells`: what is added by checks and by sub-attributes.
* `Kind.validateItem_tells`: what the rules of a kind find in an item, after what the canonical values give.
* `Attribute.validate_tells`: what is found in any value.
-/

namespace Scim

variable {catalog : Catalog} {report : Report} {found : Findings}

/-! ## Checks of an attribute -/

/-- What checks find in a value, up to the first whose own report blocks it. -/
def checkFindings (value : Value) : List Check → Findings
  | [] => []
  | check :: checks =>
    ([], check.run value) :: if (check.run value).canProceed [] then checkFindings value checks else []

/-- Checks add what they find, unless the value is blocked already. -/
theorem runChecks_tells (h : report.Tells found) (checks : List Check) (value : Value) :
    (runChecks checks value report).Tells
      (found ++ if found.canProceed [] then checkFindings value checks else []) := by
  unfold runChecks
  induction checks generalizing report found with
  | nil => simpa [checkFindings] using h
  | cons check checks ih =>
    rw [List.foldl_cons, h.proceeds]
    cases hproceed : found.canProceed [] with
    | false =>
      have hrest := ih h
      rw [hproceed] at hrest
      exact hrest
    | true =>
      have hrest := ih (h.merge_found (check.run value) [])
      rw [Findings.canProceed_append, Findings.canProceed_singleton, hproceed, List.append_assoc] at hrest
      exact hrest

/-- Nothing is checked any more once the value as a whole is blocked. -/
theorem runChecks_of_blocked (h : report.canProceed [] = false) (checks : List Check) (value : Value) :
    runChecks checks value report = report := by
  unfold runChecks
  refine List.foldlRecOn (motive := fun found => found = report) checks _ rfl fun found hfound check _ => ?_
  rw [hfound, h]
  rfl

/-! ## Rules of a kind -/

/-- What sub-attributes find in a record, one after the other, each in the value that those before it left. -/
def subFindings (catalog : Catalog) : List Attribute → Record → Findings
  | [], _ => []
  | sub :: subs, entries =>
    let value := entries.value sub.name.text
    if value.isMissing then subFindings catalog subs entries
    else
      let (report, value) := sub.validate catalog value
      ([.ofName sub.name], report) :: subFindings catalog subs (entries.replace sub.name.text (marked report value))

/-- Sub-attributes add what they find below their names. -/
theorem validateSubs_tells (h : report.Tells found) (subs : List Attribute) (entries : Record) :
    (validateSubs catalog subs entries report).1.Tells (found ++ subFindings catalog subs entries) := by
  induction subs generalizing report found entries with
  | nil => exact (List.append_nil found).symm ▸ h
  | cons sub subs ih =>
    rw [validateSubs, subFindings, Record.value]
    dsimp only
    cases entries.get? sub.name.text with
    | none => exact ih h entries
    | some value =>
      dsimp only [Option.getD_some]
      split
      · exact ih h entries
      · have hrest := ih (h.merge_found (sub.validate catalog value).1 [.ofName sub.name])
          (entries.replace sub.name.text (marked (sub.validate catalog value).1 (sub.validate catalog value).2))
        rwa [List.append_assoc] at hrest

/-- What the rules of a kind find in an item beside its canonical values. -/
def Kind.furtherFindings (catalog : Catalog) : Kind → Value → Findings
  | .complex subs, .record entries => subFindings catalog subs entries
  | .complex _, _ => []
  | kind, .text text => [([], kind.checkText catalog text)]
  | _, _ => []

/-- Unless the canonical values are all there is to report of an item, the rest of the rules add what they find. -/
theorem Kind.validateItem_tells {traits : Traits} {kind : Kind} {item : Value}
    (hchecked : traits.checkCanonical item = (report, false)) (h : report.Tells found) :
    (kind.validateItem catalog traits item).1.Tells (found ++ kind.furtherFindings catalog item) := by
  by_cases hsimple : ∀ subs, kind ≠ .complex subs
  · rw [validateItem, hchecked]
    · cases item with
      | text text =>
        have hfurther : kind.furtherFindings catalog (.text text) = [([], kind.checkText catalog text)] := by
          rw [furtherFindings]
          exact hsimple
        rw [hfurther]
        exact h.merge_found _ []
      | _ =>
        rw [furtherFindings]
        · exact (List.append_nil found).symm ▸ h
        all_goals simp [hsimple]
    · exact hsimple
  · obtain ⟨subs, rfl⟩ := not_forall_not.1 hsimple
    rw [validateItem, hchecked]
    cases item with
    | record entries => exact validateSubs_tells h subs entries
    | _ => exact (List.append_nil found).symm ▸ h

/-! ## Values -/

theorem Kind.checkType_tells (kind : Kind) (item : Value) :
    (kind.checkType item).Tells [([], kind.checkType item)] :=
  .self (kind.checkType_regular item).sound.violations (kind.checkType_regular item).sound.advice

/-- A value of another type is a violation and no reason for advice. -/
theorem Kind.advice_checkType (kind : Kind) (item : Value) : (kind.checkType item).advice = [] := by
  unfold checkType
  split <;> rfl

namespace Attribute

variable {attr : Attribute} {rules : Value → Findings}

/-- What is found in an item: whether it has the type, and what the rules find if it is examined any further. -/
def itemFindings (attr : Attribute) (rules : Value → Findings) (examined : Bool) (item : Value) : Findings :=
  ([], attr.kind.checkType item) :: if examined then rules item else []

/-- What is found in a value before the checks of the attribute run.  Items of the wrong type are not examined any
further, nor are those of a list that are invalid. -/
def valueFindings (attr : Attribute) (rules : Value → Findings) (value : Value) : Findings :=
  if attr.traits.multiValued then
    match value.list? with
    | none => [([], .ofViolation (.wrongType "list") false)]
    | some items =>
      .eachBelow 0 (items.map fun item => attr.itemFindings rules (!item.isInvalid && attr.kind.fits item) item)
  else attr.itemFindings rules (attr.kind.fits value) value

/-- All that is found in a value, if something is there. -/
def findings (catalog : Catalog) (attr : Attribute) (rules : Value → Findings) (value : Value) : Findings :=
  if value.isAbsent then []
  else
    let found := attr.valueFindings rules value
    found ++ if found.canProceed [] then checkFindings (attr.validate catalog value).2 attr.hooks.checks else []

theorem findings_of_present {value : Value} (hpresent : value.isAbsent = false) :
    attr.findings catalog rules value =
      attr.valueFindings rules value ++
        if (attr.valueFindings rules value).canProceed [] then
          checkFindings (attr.validate catalog value).2 attr.hooks.checks
        else [] := by
  rw [findings, hpresent]
  rfl

theorem valueFindings_of_single (hsingle : attr.traits.multiValued = false) (value : Value) :
    attr.valueFindings rules value = attr.itemFindings rules (attr.kind.fits value) value := by
  rw [valueFindings, hsingle]
  rfl

theorem valueFindings_list (hmulti : attr.traits.multiValued = true) (items : List Value) :
    attr.valueFindings rules (.list items) =
      .eachBelow 0 (items.map fun item => attr.itemFindings rules (!item.isInvalid && attr.kind.fits item) item) := by
  rw [valueFindings, hmulti]
  rfl

/-- The checks of the attribute are always given a list, whatever was found in its elements. -/
theorem findings_list (hmulti : attr.traits.multiValued = true) (items : List Value) :
    attr.findings catalog rules (.list items) =
      attr.valueFindings rules (.list items) ++
        checkFindings (attr.validate catalog (.list items)).2 attr.hooks.checks := by
  have hproceed : (attr.valueFindings rules (.list items)).canProceed [] = true := by
    rw [valueFindings_list hmulti]
    exact Findings.canProceed_eachBelow _
  rw [findings_of_present rfl, if_pos hproceed]

/-- What is seen at a location below the index of an element was found in that element. -/
theorem seenAt_valueFindings_list (hmulti : attr.traits.multiValued = true) (items : List Value) (asked : Location) :
    (attr.valueFindings rules (.list items)).seenAt asked =
      match asked with
      | .index index :: rest =>
        match items[index]? with
        | some item => (attr.itemFindings rules (!item.isInvalid && attr.kind.fits item) item).seenAt rest
        | none => []
      | _ => [] := by
  rw [valueFindings_list hmulti, Findings.seenAt_eachBelow]
  match asked with
  | [] => rfl
  | .key _ :: _ => rfl
  | .index index :: rest =>
    dsimp only
    rw [List.getElem?_map]
    cases items[index]? <;> rfl

section Element

variable (hmulti : attr.traits.multiValued = true) {items : List Value} {index : Nat} {item : Value}
  (hat : items[index]? = some item) (rest : Location)

include hmulti hat

theorem seenAt_valueFindings_element :
    (attr.valueFindings rules (.list items)).seenAt (.index index :: rest) =
      (attr.itemFindings rules (!item.isInvalid && attr.kind.fits item) item).seenAt rest := by
  rw [seenAt_valueFindings_list hmulti]
  dsimp only
  rw [hat]

theorem issuesAt_valueFindings_element {α : Type} (sort : Report → Slots α) :
    (attr.valueFindings rules (.list items)).issuesAt sort (.index index :: rest) =
      (attr.itemFindings rules (!item.isInvalid && attr.kind.fits item) item).issuesAt sort rest := by
  rw [Findings.issuesAt, seenAt_valueFindings_element hmulti hat, Findings.issuesAt]

theorem canProceed_valueFindings_element :
    (attr.valueFindings rules (.list items)).canProceed (.index index :: rest) =
      (attr.itemFindings rules (!item.isInvalid && attr.kind.fits item) item).canProceed rest := by
  rw [Findings.canProceed, seenAt_valueFindings_element hmulti hat, Findings.canProceed]

end Element

theorem secondRound_tells
    (hrules : ∀ item, (attr.kind.validateItem catalog attr.traits item).1.Tells (rules item)) (item : Value) :
    (attr.secondRound catalog item).1.Tells (if !item.isInvalid && attr.kind.fits item then rules item else []) := by
  by_cases hexamined : item.isInvalid = false ∧ attr.kind.fits item = true
  · rw [secondRound_of_fits hexamined.1 hexamined.2, hexamined.1, hexamined.2]
    exact hrules item
  · have hnot : (!item.isInvalid && attr.kind.fits item) = false := by simpa using hexamined
    rw [secondRound_of_unfit hexamined, hnot]
    exact .empty

/-- The report on a value is what was found before the checks of the attribute ran, and what these add to it. -/
private theorem exists_report_before_checks
    (hrules : ∀ item, (attr.kind.validateItem catalog attr.traits item).1.Tells (rules item)) {value : Value}
    (hpresent : value.isAbsent = false) :
    ∃ before : Report, before.Tells (attr.valueFindings rules value) ∧
      (attr.validate catalog value).1 = runChecks attr.hooks.checks (attr.validate catalog value).2 before := by
  unfold valueFindings
  cases hmulti : attr.traits.multiValued with
  | false =>
    have htype := attr.kind.checkType_tells value
    rw [validate_single hmulti hpresent, Kind.canProceed_checkType]
    cases hfits : attr.kind.fits value with
    | false =>
      have hblocked : (attr.kind.checkType value).canProceed [] = false := by rw [Kind.canProceed_checkType, hfits]
      exact ⟨_, htype, (runChecks_of_blocked hblocked _ _).symm⟩
    | true =>
      have hitem := htype.merge (hrules value) []
      rw [Findings.moved_nil] at hitem
      exact ⟨_, hitem, rfl⟩
  | true =>
    cases hlist : value.list? with
    | none =>
      rw [validate_not_list hmulti hpresent hlist]
      exact ⟨_, .ofViolation _ _, (runChecks_of_blocked rfl _ _).symm⟩
    | some items =>
      have htypes := Report.Tells.empty.mergeEach items (fun item _ => attr.kind.checkType_tells item) 0
      have hrounds := htypes.mergeEach items (fun item _ => secondRound_tells hrules item) 0
      rw [Value.list?_eq_some.1 hlist, validate_rounds hmulti]
      exact ⟨_, hrounds.congr (Findings.seenAt_eachBelow_append _ _ items), rfl⟩

/-- The report on a value tells what is found in it, where `rules` gives what the rules of the kind find in an item. -/
theorem validate_tells
    (hrules : ∀ item, (attr.kind.validateItem catalog attr.traits item).1.Tells (rules item)) (value : Value) :
    (attr.validate catalog value).1.Tells (attr.findings catalog rules value) := by
  cases hpresent : value.isAbsent with
  | true =>
    rw [validate_absent hpresent, findings, hpresent]
    exact .empty
  | false =>
    obtain ⟨before, hbefore, hreport⟩ := exists_report_before_checks hrules hpresent
    rw [hreport, findings_of_present hpresent]
    exact runChecks_tells hbefore attr.hooks.checks _

end Attribute

end Scim
