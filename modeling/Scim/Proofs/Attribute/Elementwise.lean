import Mathlib.Data.List.OfFn
import Scim.Proofs.Attribute.Equality
import Scim.Proofs.Report.Elementwise

/-!
# The elements of a list are validated one by one

The list of a multi-valued attribute is gone through twice: first the types of all elements are checked, then the
rules of the kind.  The second round starts from the merged report of the first, and of what the first one found
in an element it only sees the mark that was left in its place.

Each element fares as if it were the value of an attribute that is declared the same but for not being
multi-valued, its *twin*.  An element of the wrong type is marked, and the second round passes over it as the twin
does over a value that it blocks; what the first round finds stands below the indexes, so it never blocks the
list.  And what is found in different elements does not meet.  So a list is validated as its elements are: the
report is that of the elements below their indexes, and whatever is done to the order of the elements is done to
the report and to the marked list.

Checks of the attribute itself see the whole list, and there are to be none.  Those of sub-attributes may come
from a service, as long as they report what a report can hold.

## Main results

* `Kind.validateItem_cases`: all that the rules of a kind can do with an item.
* `Attribute.validate_regular`: what validation reports.
* `Attribute.rounds_eq_single`: both rounds on one element are what its twin does.
* `Attribute.validate_elementwise`: the report and the marked list of a list of elements.
* `Attribute.elements_validated_alone`: equality with the reports of the elements, in whatever order they are.
-/

namespace Scim

/-! ## Regular reports -/

/-- Only allowed values are documents that could repeat a key. -/
theorem Violation.uniqueKeys {violation : Violation}
    (h : ∀ values, violation = .mustBeOneOf values → Json.uniqueItems values) : violation.UniqueKeys := by
  cases violation with
  | mustBeOneOf values => exact ⟨List.nodup_singleton _, h values rfl, trivial⟩
  | badReference resources =>
    have htexts : ∀ json ∈ resources.map Json.text, json.UniqueKeys := List.forall_mem_map.2 fun _ _ => trivial
    exact ⟨List.nodup_singleton _, Json.uniqueItems_iff.2 htexts, trivial⟩
  | wrongType => exact ⟨List.nodup_singleton _, trivial, trivial⟩
  | wrongEncoding => exact ⟨List.nodup_singleton _, trivial, trivial⟩
  | missingExtension => exact ⟨List.nodup_singleton _, trivial, trivial⟩
  | badName => exact ⟨List.nodup_singleton _, trivial, trivial⟩
  | wrongResource => exact ⟨by simp [context], trivial, trivial, trivial⟩
  | _ => exact ⟨List.nodup_nil, trivial⟩

namespace Report

/-- A report that can be reached, and in which no object in the context of an issue repeats a key. -/
structure Regular (report : Report) : Prop where
  reachable : report.Reachable
  keys : report.UniqueKeys

namespace Regular

variable {report found : Report}

theorem sound (h : Regular report) : Sound report := h.reachable.sound

theorem empty : Regular .empty := ⟨.empty, .empty⟩

theorem ofViolation {violation : Violation} (h : violation.UniqueKeys) (proceed : Bool) :
    Regular (.ofViolation violation proceed) :=
  ⟨.addViolation .empty _ _ _, UniqueKeys.empty.addViolation h _ _⟩

theorem require {violation : Violation} (h : violation.UniqueKeys) (fine : Bool) :
    Regular (if fine then .empty else .ofViolation violation false) := by
  split
  · exact .empty
  · exact .ofViolation h false

theorem addAdvice (h : Regular report) {advice : Advice} (hadvice : advice.UniqueKeys) (location : Location) :
    Regular (report.addAdvice advice location) :=
  ⟨h.reachable.addAdvice _ _, h.keys.addAdvice hadvice _⟩

theorem merge (h : Regular report) (hfound : Regular found) (start : Location) : Regular (report.merge found start) :=
  ⟨h.reachable.merge hfound.reachable _, h.keys.merge hfound.keys hfound.sound _⟩

theorem mergeEach {reports : List Report} (h : Regular report) (hall : ∀ found ∈ reports, Regular found)
    (index : Nat) : Regular (report.mergeEach index reports) := by
  induction reports generalizing report index with
  | nil => exact h
  | cons found reports ih =>
    obtain ⟨hfound, hrest⟩ := List.forall_mem_cons.1 hall
    exact ih (h.merge hfound _) hrest _

end Regular

end Report

/-! ## What validation reports -/

/-- What is asked of the check of a service: its reports are regular. -/
def Check.Regular : Check → Prop
  | .custom _ run => ∀ value, (run value).Regular
  | _ => True

/-- The checks of the attribute itself, and its canonical values, are regular. -/
structure Attribute.Regular (attr : Attribute) : Prop where
  checks : ∀ check ∈ attr.hooks.checks, check.Regular
  canonical : attr.PlainCanonical

section

variable {catalog : Catalog} {attr : Attribute} {kind : Kind} {traits : Traits}

theorem Traits.PlainCanonical.of_none (h : traits.canonical = none) : traits.PlainCanonical := by
  intro canonical hsome
  rw [h] at hsome
  cases hsome

theorem Attribute.Regular.of_no_checks (hchecks : attr.hooks.checks = []) (hcanonical : attr.traits.PlainCanonical) :
    attr.Regular := by
  refine ⟨fun check hcheck => ?_, hcanonical⟩
  rw [hchecks] at hcheck
  cases hcheck

theorem Check.run_regular {check : Check} (h : check.Regular) (value : Value) : (check.run value).Regular := by
  cases check with
  | singlePrimary =>
    show (checkSinglePrimary value).Regular
    unfold checkSinglePrimary
    split
    · exact .ofViolation (Violation.uniqueKeys (by nofun)) true
    · exact .empty
  | distinctPairs =>
    have hpair : Advice.repeatedPair.UniqueKeys := ⟨List.nodup_nil, trivial⟩
    exact List.foldlRecOn _ _ Report.Regular.empty fun _ hreport _ _ => hreport.addAdvice hpair []
  | custom identity run => exact h value

theorem runChecks_regular {checks : List Check} (hchecks : ∀ check ∈ checks, check.Regular) (value : Value)
    {report : Report} (h : report.Regular) : (runChecks checks value report).Regular := by
  refine List.foldlRecOn checks _ h fun report hreport check hcheck => ?_
  split
  · exact hreport.merge (check.run_regular (hchecks check hcheck) value) []
  · exact hreport

theorem Kind.checkType_regular (kind : Kind) (value : Value) : (kind.checkType value).Regular :=
  .require (Violation.uniqueKeys (by nofun)) _

theorem Traits.checkCanonical_regular (h : traits.PlainCanonical) (value : Value) :
    (traits.checkCanonical value).1.Regular := by
  unfold checkCanonical
  split
  · exact .empty
  · next canonical hcanonical =>
    have hvalues := Json.uniqueItems_iff.2 (h canonical hcanonical)
    split
    · exact .empty
    · split
      · refine .ofViolation (Violation.uniqueKeys fun values hsame => ?_) false
        cases hsame
        exact hvalues
      · have hadvice : (Advice.shouldBeOneOf canonical.values).UniqueKeys :=
          ⟨List.nodup_singleton _, hvalues, trivial⟩
        exact Report.Regular.empty.addAdvice hadvice []

theorem Kind.checkText_regular (kind : Kind) (text : String) : (kind.checkText catalog text).Regular := by
  unfold checkText
  split
  · exact .require (Violation.uniqueKeys (by nofun)) _
  · exact .require (Violation.uniqueKeys (by nofun)) _
  · exact .require (Violation.uniqueKeys (by nofun)) _
  · exact .require (Violation.uniqueKeys (by nofun)) _
  · exact .empty

theorem validateSubs_regular {subs : List Attribute}
    (hsubs : ∀ sub ∈ subs, ∀ value, (sub.validate catalog value).1.Regular) (entries : Record) {report : Report}
    (h : report.Regular) : (validateSubs catalog subs entries report).1.Regular := by
  induction subs generalizing entries report with
  | nil => exact h
  | cons sub subs ih =>
    obtain ⟨hsub, hrest⟩ := List.forall_mem_cons.1 hsubs
    rw [validateSubs]
    dsimp only
    split
    · exact ih hrest entries h
    · next value _ =>
      split
      · exact ih hrest entries h
      · exact ih hrest _ (h.merge (hsub value) _)

/-- All that the rules of a kind can do with an item: stop at the canonical values, check a text, or go through the
sub-attributes of a record. -/
theorem Kind.validateItem_cases (catalog : Catalog) (kind : Kind) (traits : Traits) (value : Value) :
    kind.validateItem catalog traits value = ((traits.checkCanonical value).1, value) ∨
      (∃ text, kind.validateItem catalog traits value =
        ((traits.checkCanonical value).1.merge (kind.checkText catalog text) [], value)) ∨
      ∃ subs entries, kind = .complex subs ∧ kind.validateItem catalog traits value =
        ((validateSubs catalog subs entries (traits.checkCanonical value).1).1,
          .record (validateSubs catalog subs entries (traits.checkCanonical value).1).2) := by
  by_cases hsimple : ∀ subs, kind ≠ .complex subs
  · rw [validateItem]
    · dsimp only
      split
      · exact .inr (.inl ⟨_, rfl⟩)
      · exact .inl rfl
    · exact hsimple
  · obtain ⟨subs, rfl⟩ := not_forall_not.1 hsimple
    rw [validateItem]
    dsimp only
    split
    · exact .inr (.inr ⟨subs, _, rfl, rfl⟩)
    · exact .inl rfl

theorem Kind.validateItem_regular (hcanonical : traits.PlainCanonical)
    (hsubs : ∀ subs, kind = .complex subs → ∀ sub ∈ subs, ∀ value, (sub.validate catalog value).1.Regular)
    (value : Value) : (kind.validateItem catalog traits value).1.Regular := by
  have hchecked := traits.checkCanonical_regular hcanonical value
  rcases kind.validateItem_cases catalog traits value with hitem | ⟨text, hitem⟩ | ⟨subs, entries, hkind, hitem⟩
  · rw [hitem]
    exact hchecked
  · rw [hitem]
    exact hchecked.merge (kind.checkText_regular text) []
  · rw [hitem]
    exact validateSubs_regular (hsubs subs hkind) entries hchecked

/-! ## Items one by one -/

/-- Checking the items of a list merges their reports below their indexes, and marks each as its report says. -/
theorem checkItems_eq (check : Value → Report × Value) (report : Report) (index : Nat) (items : List Value) :
    checkItems check report index items =
      (report.mergeEach index (items.map fun item => (check item).1),
        items.map fun item => marked (check item).1 (check item).2) := by
  induction items generalizing report index with
  | nil => rfl
  | cons item items ih =>
    rw [checkItems]
    dsimp only
    rw [ih]
    rfl

theorem marked_empty_merge (report : Report) (value : Value) :
    marked (Report.empty.merge report []) value = marked report value := by
  have hsame : (Report.empty.merge report []).canProceed [] = report.canProceed [] := by
    rw [Report.canProceed_merge_root]
    rfl
  rw [marked, hsame, marked]

/-- A value that was not invalid is marked exactly if its report blocks it. -/
theorem isInvalid_marked_iff {report : Report} {value : Value} (hvalid : value.isInvalid = false) :
    (marked report value).isInvalid = true ↔ report.canProceed [] = false := by
  unfold marked
  cases report.canProceed [] with
  | true => simp [hvalid]
  | false => exact iff_of_true rfl rfl

theorem unlessInvalid_regular {check : Value → Report × Value} {item : Value} (h : (check item).1.Regular) :
    (unlessInvalid check item).1.Regular := by
  unfold unlessInvalid
  split
  · exact .empty
  · exact h

namespace Attribute

/-- What the first round over a list finds in an item, and what it leaves of it. -/
def firstRound (attr : Attribute) (item : Value) : Report × Value :=
  (attr.kind.checkType item, marked (attr.kind.checkType item) item)

/-- What the second round finds in an item that the first one left, and what it leaves. -/
def secondRound (catalog : Catalog) (attr : Attribute) (item : Value) : Report × Value :=
  let (report, value) := unlessInvalid (attr.kind.validateItem catalog attr.traits) (attr.firstRound item).2
  (report, marked report value)

/-- A multi-valued attribute validates a list in two rounds over its items, after which its own checks run. -/
theorem validate_rounds (hmulti : attr.traits.multiValued = true) (items : List Value) :
    let changed := Value.list (items.map fun item => (attr.secondRound catalog item).2)
    attr.validate catalog (.list items) =
      (runChecks attr.hooks.checks changed
          ((Report.empty.mergeEach 0 (items.map fun item => (attr.firstRound item).1)).mergeEach 0
            (items.map fun item => (attr.secondRound catalog item).1)),
        changed) := by
  -- what the first round finds in elements does not block the list
  have hproceed : (Report.empty.mergeEach 0 (items.map attr.kind.checkType)).canProceed [] = true :=
    Report.canProceed_mergeEach _ _ _
  rw [validate_list hmulti, checkItems_eq]
  dsimp only
  rw [if_pos hproceed, checkItems_eq, List.map_map, List.map_map]
  rfl

/-- What is reported of any value is regular, if the rules of the kind report nothing else of an item. -/
private theorem validate_regular_of_rules (h : attr.Regular)
    (hrules : ∀ item, (attr.kind.validateItem catalog attr.traits item).1.Regular) (value : Value) :
    (attr.validate catalog value).1.Regular := by
  cases habsent : value.isAbsent with
  | true =>
    rw [validate_absent habsent]
    exact .empty
  | false =>
    cases hmulti : attr.traits.multiValued with
    | false =>
      have htype := attr.kind.checkType_regular value
      rw [validate_single hmulti habsent]
      split
      · exact runChecks_regular h.checks _ (htype.merge (hrules value) [])
      · exact htype
    | true =>
      cases hlist : value.list? with
      | none =>
        rw [validate_not_list hmulti habsent hlist]
        exact .ofViolation (Violation.uniqueKeys (by nofun)) false
      | some items =>
        have htypes : (Report.empty.mergeEach 0 (items.map attr.kind.checkType)).Regular :=
          .mergeEach .empty (List.forall_mem_map.2 fun item _ => attr.kind.checkType_regular item) 0
        rw [Value.list?_eq_some.1 hlist, validate_list hmulti, checkItems_eq]
        dsimp only
        split
        · rw [checkItems_eq]
          refine runChecks_regular h.checks _ (htypes.mergeEach (List.forall_mem_map.2 fun item _ => ?_) 0)
          exact unlessInvalid_regular (hrules item)
        · exact htypes

/-- Validation reports what can be reached, without repeated keys, as long as hooks and canonical values at every
depth give no other. -/
theorem validate_regular (h : attr.Throughout Regular) (value : Value) :
    (attr.validate catalog value).1.Regular := by
  induction h generalizing value with
  | intro here _ ih => exact validate_regular_of_rules here (Kind.validateItem_regular here.canonical ih) value

/-! ## The twin -/

/-- The attribute that is declared the same, but for a single value. -/
def single (attr : Attribute) : Attribute := { attr with traits := { attr.traits with multiValued := false } }

theorem Throughout.single (h : attr.Throughout Regular) : attr.single.Throughout Regular := by
  obtain ⟨here, below⟩ := throughout_iff.1 h
  exact throughout_iff.2 ⟨⟨here.checks, here.canonical⟩, below⟩

/-- The rules of a kind do not ask whether there are more items. -/
theorem validateItem_single (attr : Attribute) (item : Value) :
    attr.single.kind.validateItem catalog attr.single.traits item =
      attr.kind.validateItem catalog attr.traits item := by
  obtain ⟨path, kind, traits, hooks⟩ := attr
  cases kind <;> rfl

/-- An item that comes back from the rules of its kind is not marked as a whole. -/
theorem isInvalid_validateItem (kind : Kind) (traits : Traits) {item : Value} (hvalid : item.isInvalid = false) :
    (kind.validateItem catalog traits item).2.isInvalid = false := by
  rcases kind.validateItem_cases catalog traits item with hitem | ⟨text, hitem⟩ | ⟨subs, entries, -, hitem⟩
  · rw [hitem]
    exact hvalid
  · rw [hitem]
    exact hvalid
  · rw [hitem]
    rfl

variable {item : Value}

/-- The twin of an attribute without checks of its own checks the type and then the rules of the kind. -/
theorem validate_of_single (hchecks : attr.hooks.checks = []) (hpresent : item.isAbsent = false) :
    attr.single.validate catalog item =
      if attr.kind.fits item then
        (Report.empty.merge (attr.kind.validateItem catalog attr.traits item).1 [],
          (attr.kind.validateItem catalog attr.traits item).2)
      else (attr.kind.checkType item, item) := by
  have hsingle : attr.single.validate catalog item = _ := validate_single rfl hpresent
  have hhooks : attr.single.hooks.checks = [] := hchecks
  have hkind : attr.single.kind = attr.kind := rfl
  rw [hsingle, validateItem_single, hhooks, hkind, Kind.canProceed_checkType]
  split
  · next hfits =>
    have hfree : attr.kind.checkType item = .empty := if_pos hfits
    rw [hfree]
    rfl
  · rfl

/-- An item of the right type is handed to the rules of the kind as it is, unless it is invalid. -/
theorem secondRound_of_fits (hvalid : item.isInvalid = false) (hfits : attr.kind.fits item = true) :
    attr.secondRound catalog item =
      ((attr.kind.validateItem catalog attr.traits item).1,
        marked (attr.kind.validateItem catalog attr.traits item).1
          (attr.kind.validateItem catalog attr.traits item).2) := by
  have hfree : attr.kind.checkType item = .empty := if_pos hfits
  have hkept : (attr.firstRound item).2 = item := by
    rw [firstRound, hfree]
    rfl
  rw [secondRound, hkept, unlessInvalid_of_valid hvalid]

/-- All other items come out of it invalid, and nothing more is found in them. -/
theorem secondRound_of_unfit (h : ¬ (item.isInvalid = false ∧ attr.kind.fits item = true)) :
    attr.secondRound catalog item = (.empty, .invalid) := by
  have hmarked : (attr.firstRound item).2.isInvalid = true := by
    rw [firstRound, marked, Kind.canProceed_checkType]
    cases hfits : attr.kind.fits item with
    | false => rfl
    | true =>
      cases hvalid : item.isInvalid with
      | false => exact absurd ⟨hvalid, hfits⟩ h
      | true => exact hvalid
  have hinvalid : (attr.firstRound item).2 = .invalid := by
    cases hleft : (attr.firstRound item).2 with
    | invalid => rfl
    | _ =>
      rw [hleft] at hmarked
      cases hmarked
  rw [secondRound, hinvalid]
  rfl

/-- Both rounds on an item, one merged into the other, are what the twin does. -/
theorem rounds_eq_single (hchecks : attr.hooks.checks = []) (hpresent : item.isAbsent = false)
    (hvalid : item.isInvalid = false) :
    (attr.firstRound item).1.merge (attr.secondRound catalog item).1 [] = (attr.single.validate catalog item).1 ∧
      (attr.secondRound catalog item).2 =
        marked (attr.single.validate catalog item).1 (attr.single.validate catalog item).2 := by
  rw [validate_of_single hchecks hpresent]
  cases hfits : attr.kind.fits item with
  | true =>
    have hfree : attr.kind.checkType item = .empty := if_pos hfits
    rw [secondRound_of_fits hvalid hfits, firstRound, hfree]
    exact ⟨rfl, (marked_empty_merge _ _).symm⟩
  | false =>
    have hblocked : (attr.kind.checkType item).canProceed [] = false := by
      rw [Kind.canProceed_checkType, hfits]
    have hpassed : attr.secondRound catalog item = (.empty, .invalid) := secondRound_of_unfit (by simp [hfits])
    rw [hpassed, marked]
    dsimp only
    rw [if_neg (by simp), hblocked]
    exact ⟨rfl, rfl⟩

/-- The twin leaves no value invalid as a whole: that is for its caller to do. -/
theorem isInvalid_validate_single (hchecks : attr.hooks.checks = []) (hpresent : item.isAbsent = false)
    (hvalid : item.isInvalid = false) : (attr.single.validate catalog item).2.isInvalid = false := by
  rw [validate_of_single hchecks hpresent]
  split
  · exact isInvalid_validateItem attr.kind attr.traits hvalid
  · exact hvalid

/-! ## Lists -/

/-- A list of values that are there and not invalid is validated as its elements are: what is found in each stands
below its index, and each is marked as its own report says. -/
theorem validate_elementwise (hmulti : attr.traits.multiValued = true) (hchecks : attr.hooks.checks = [])
    (hregular : attr.Throughout Regular) {items : List Value}
    (hitems : ∀ item ∈ items, item.isAbsent = false ∧ item.isInvalid = false) :
    Report.Agrees (attr.validate catalog (.list items)).1
        (Report.empty.mergeEach 0 (items.map fun item => (attr.single.validate catalog item).1)) ∧
      (attr.validate catalog (.list items)).2 =
        .list (items.map fun item =>
          marked (attr.single.validate catalog item).1 (attr.single.validate catalog item).2) := by
  obtain ⟨here, below⟩ := throughout_iff.1 hregular
  have hrules : ∀ item, (attr.kind.validateItem catalog attr.traits item).1.Regular :=
    Kind.validateItem_regular here.canonical fun subs hkind sub hsub => validate_regular (below subs hkind sub hsub)
  have hrounds : ∀ item ∈ items,
      (attr.firstRound item).1.merge (attr.secondRound catalog item).1 [] = (attr.single.validate catalog item).1 ∧
        (attr.secondRound catalog item).2 =
          marked (attr.single.validate catalog item).1 (attr.single.validate catalog item).2 :=
    fun item hitem => rounds_eq_single hchecks (hitems item hitem).1 (hitems item hitem).2
  have hreports : items.map (fun item => (attr.firstRound item).1.merge (attr.secondRound catalog item).1 []) =
      items.map fun item => (attr.single.validate catalog item).1 :=
    List.map_congr_left fun item hitem => (hrounds item hitem).1
  have hvalues : items.map (fun item => (attr.secondRound catalog item).2) =
      items.map fun item => marked (attr.single.validate catalog item).1 (attr.single.validate catalog item).2 :=
    List.map_congr_left fun item hitem => (hrounds item hitem).2
  rw [validate_rounds hmulti, hvalues, ← hreports, hchecks]
  refine ⟨.mergeEach_mergeEach items (fun item _ => ?_) (fun item _ => ?_), rfl⟩
  · exact (attr.kind.checkType_regular item).sound
  · exact (unlessInvalid_regular (hrules _)).sound

end Attribute

end

/-! ## Elements alone and in any order -/

namespace Attribute

/-- A multi-valued attribute without checks of its own validates the elements of a list, none of which is absent or
invalid, as its twin validates each alone.  The report equals that of the elements below their indexes; an element
becomes invalid exactly if its own report blocks it as a whole, and otherwise what the twin leaves of it.  So with
the elements in another order, permuted or even repeated or left out, the report is that of the old list with the
parts of the elements in that order, and so is the marked list.  Checks of a service on sub-attributes are to give
reports that can be reached, and contexts of issues are to repeat no key, without which no report equals itself. -/
theorem elements_validated_alone (catalog : Catalog) (attr : Attribute) (hmulti : attr.traits.multiValued = true)
    (hchecks : attr.hooks.checks = []) (hregular : attr.Throughout Regular) (items : List Value)
    (hitems : ∀ item ∈ items, item.isAbsent = false ∧ item.isInvalid = false) :
    let report := (attr.validate catalog (.list items)).1
    let alone := fun item => attr.single.validate catalog item
    report.same (Report.empty.mergeEach 0 (items.map fun item => (alone item).1)) = true ∧
      ∃ after : Fin items.length → Value,
        (attr.validate catalog (.list items)).2 = .list (List.ofFn after) ∧
        (∀ index, ((after index).isInvalid = true ↔ (alone (items.get index)).1.canProceed [] = false) ∧
          ((alone (items.get index)).1.canProceed [] = true → after index = (alone (items.get index)).2)) ∧
        ∀ order : List (Fin items.length),
          (attr.validate catalog (.list (order.map items.get))).1.same
              (Report.empty.mergeEach 0 (order.map fun i : Fin items.length => report.partAt i.val)) = true ∧
            (attr.validate catalog (.list (order.map items.get))).2 = .list (order.map after) := by
  intro report alone
  obtain ⟨hagrees, hvalue⟩ := validate_elementwise hmulti hchecks hregular hitems
  have halone : ∀ item, (alone item).1.Sound := fun item => (validate_regular hregular.single item).sound
  have hsound : report.Sound := (validate_regular hregular _).sound
  have hmerged : (Report.empty.mergeEach 0 (items.map fun item => (alone item).1)).Sound :=
    .mergeEach .empty (List.forall_mem_map.2 fun item _ => halone item) 0
  refine ⟨hagrees.same hsound hmerged (validate_regular hregular _).keys,
    fun index => marked (alone (items.get index)).1 (alone (items.get index)).2, ?_, fun index => ?_, fun order => ?_⟩
  case refine_1 =>
    rw [hvalue, ← List.ofFn_getElem_eq_map]
    rfl
  case refine_2 =>
    obtain ⟨hpresent, hvalid⟩ := hitems _ (items.get_mem index)
    exact ⟨isInvalid_marked_iff (isInvalid_validate_single hchecks hpresent hvalid), fun hfree => if_pos hfree⟩
  case refine_3 =>
    have horder : ∀ item ∈ order.map items.get, item.isAbsent = false ∧ item.isInvalid = false :=
      List.forall_mem_map.2 fun index _ => hitems _ (items.get_mem index)
    obtain ⟨hagrees', hvalue'⟩ := validate_elementwise hmulti hchecks hregular horder
    have hparts := hagrees'.trans (hagrees.mergeEach_parts hsound halone order)
    have hregular' : (attr.validate catalog (.list (order.map items.get))).1.Regular := validate_regular hregular _
    refine ⟨hparts.same hregular'.sound ?_ hregular'.keys, ?_⟩
    · exact .mergeEach .empty (List.forall_mem_map.2 fun i _ => hsound.select none none _) 0
    · rw [hvalue', List.map_map]
      rfl

/-- Devices with a tension and a state, of which there are two. -/
def devices : Attribute :=
  .simple ⟨"devices", by decide⟩
    (.complex [.simple ⟨"volts", by decide⟩ .integer {},
      .simple ⟨"state", by decide⟩ .string { canonical := some ⟨[.text "on", .text "off"], true⟩ }])
    { multiValued := true }

theorem devices_regular : devices.Throughout Regular := by
  have hvolts : (Attribute.simple ⟨"volts", by decide⟩ .integer {}).Throughout Regular :=
    .of_simple (fun subs hkind => by cases hkind) (.of_no_checks rfl (.of_none rfl))
  have hstate : (Attribute.simple ⟨"state", by decide⟩ .string
      { canonical := some ⟨[.text "on", .text "off"], true⟩ }).Throughout Regular := by
    refine .of_simple (fun subs hkind => by cases hkind) (.of_no_checks rfl fun canonical hsome => ?_)
    cases hsome
    simp [Json.UniqueKeys]
  refine .intro (.of_no_checks rfl (.of_none rfl)) fun subs hkind => ?_
  cases hkind
  exact List.forall_mem_cons.2 ⟨hvolts, List.forall_mem_singleton.2 hstate⟩

/-- A device with a bad tension, something that is no device, and a device in order, in this order and another. -/
theorem elements_validated_alone_of_devices :
    let items : List Value :=
      [.record [("volts", .text "x")], .text "off", .record [("volts", .number (.int 7)), ("state", .text "on")]]
    let report := (devices.validate {} (.list items)).1
    let order : List (Fin items.length) := [⟨2, by decide⟩, ⟨0, by decide⟩, ⟨1, by decide⟩]
    (devices.traits.multiValued = true ∧ devices.hooks.checks = [] ∧ devices.Throughout Regular ∧
        ∀ item ∈ items, item.isAbsent = false ∧ item.isInvalid = false) ∧
      report.same (Report.empty.mergeEach 0 (items.map fun item => (devices.single.validate {} item).1)) = true ∧
      (∃ after : Fin items.length → Value, (devices.validate {} (.list items)).2 = .list (List.ofFn after) ∧
        (after ⟨1, by decide⟩).isInvalid = true) ∧
      (devices.validate {} (.list (order.map items.get))).1.same
        (Report.empty.mergeEach 0 (order.map fun i : Fin items.length => report.partAt i.val)) = true := by
  intro items report order
  have hitems : ∀ item ∈ items, item.isAbsent = false ∧ item.isInvalid = false := by
    simp [items, Value.isAbsent, Value.isInvalid]
  obtain ⟨hsame, after, hvalue, heach, horder⟩ :=
    elements_validated_alone {} devices rfl rfl devices_regular items hitems
  have hblocked : (devices.single.validate {} (.text "off")).1.canProceed [] = false := by decide +kernel
  exact ⟨⟨rfl, rfl, devices_regular, hitems⟩, hsame, ⟨after, hvalue, (heach ⟨1, by decide⟩).1.2 hblocked⟩,
    (horder order).1⟩

end Attribute

end Scim
