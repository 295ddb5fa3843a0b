import Scim.Proofs.Attribute.Accepted
import Scim.Proofs.Attribute.Made

/-!
# Keys that no sub-attribute declares

A value may hold entries under keys that name no sub-attribute.  Validation goes through the sub-attributes and
asks the record for each of them, so what stands under other keys is neither reported nor marked.  The checks that
come with the shape of an attribute are different: they run over the records and read certain keys there, declared
or not.

So the report on a value depends on the declared keys and on those that its checks read, and on no others.  A check
comes with an attribute when the sub-attributes for its keys are declared, and then the declared keys are all.  But
the checks are chosen once.  A copy that leaves sub-attributes out keeps the checks that were chosen for them, and
then keys that are not declared any more are still looked at.

## Main results

* `Check.run_only`: a built-in check depends on the keys that it reads.
* `Attribute.validate_only`: validation depends on the declared keys and those that checks read.
* `Attribute.ChecksFit.bindTo`, `Attribute.checksFit_copy_iff`: what keeps checks and sub-attributes together.
* `Attribute.checksFit_of_ignored`: checks that do not fit look at what is not declared.
* `Attribute.undeclared_ignored`: validation of an attribute whose checks fit ignores what is not declared.
-/

namespace Scim

open Text

/-! ## Records and values with certain keys only -/

/-- A choice of keys that does not tell casings apart. -/
def IgnoresCase (kept : String → Bool) : Prop := ∀ key other, lower key = lower other → kept key = kept other

/-- The entries under certain keys. -/
def Record.only (kept : String → Bool) (record : Record) : Record := record.filter fun entry => kept entry.1

/-- A value that, if it is a record, has the entries under certain keys only. -/
def Value.itemOnly (kept : String → Bool) : Value → Value
  | .record entries => .record (Record.only kept entries)
  | value => value

/-- A value of which a record, alone or in a list, has the entries under certain keys only. -/
def Value.only (kept : String → Bool) : Value → Value
  | .list items => .list (items.map (Value.itemOnly kept))
  | value => value.itemOnly kept

section

variable {kept : String → Bool}

namespace Record

theorem get?_only (h : IgnoresCase kept) (record : Record) (key : String) :
    (record.only kept).get? key = if kept key = true then record.get? key else none := by
  induction record with
  | nil => simp [only, Entries.get?]
  | cons entry record ih =>
    unfold only at ih ⊢
    rw [List.filter_cons]
    by_cases hkey : lower entry.1 = lower key
    · rw [h entry.1 key hkey]
      split
      · rw [Entries.get?_cons, Entries.get?_cons, if_pos hkey, if_pos hkey]
      · next hout => rw [ih, if_neg hout]
    · split
      · rw [Entries.get?_cons, Entries.get?_cons, if_neg hkey, if_neg hkey, ih]
      · rw [Entries.get?_cons, if_neg hkey, ih]

theorem value_only (h : IgnoresCase kept) (record : Record) {key : String} (hkey : kept key = true) :
    (record.only kept).value key = record.value key := by
  rw [value, value, get?_only h, if_pos hkey]

/-- Replacing a value changes no key. -/
theorem only_replace (record : Record) (key : String) (value : Value) :
    Record.only kept (record.replace key value) = (Record.only kept record).replace key value := by
  rw [only, only, Entries.replace, Entries.replace, List.filter_map]
  refine congrArg _ (List.filter_congr fun entry _ => ?_)
  dsimp only [Function.comp]
  split <;> rfl

end Record

namespace Value

@[simp] theorem isInvalid_itemOnly (value : Value) : (value.itemOnly kept).isInvalid = value.isInvalid := by
  cases value <;> rfl

@[simp] theorem isAbsent_only (value : Value) : (value.only kept).isAbsent = value.isAbsent := by
  cases value <;> rfl

@[simp] theorem record?_itemOnly (value : Value) :
    (value.itemOnly kept).record? = value.record?.map (Record.only kept) := by
  cases value <;> rfl

end Value

theorem marked_itemOnly (report : Report) (value : Value) :
    marked report (value.itemOnly kept) = (marked report value).itemOnly kept := by
  unfold marked
  split <;> rfl

theorem Kind.checkType_itemOnly (kind : Kind) (value : Value) :
    kind.checkType (value.itemOnly kept) = kind.checkType value := by
  have hfits : kind.fits (value.itemOnly kept) = kind.fits value := by cases kind <;> cases value <;> rfl
  rw [checkType, checkType, hfits]

/-! ## Steps of validation -/

/-- The outcome of a check in which records have the entries under certain keys only. -/
def onlyOutcome (kept : String → Bool) (outcome : Report × Value) : Report × Value :=
  (outcome.1, outcome.2.itemOnly kept)

theorem unlessInvalid_itemOnly {check : Value → Report × Value}
    (hcheck : ∀ item, check (item.itemOnly kept) = onlyOutcome kept (check item)) (item : Value) :
    unlessInvalid check (item.itemOnly kept) = onlyOutcome kept (unlessInvalid check item) := by
  unfold unlessInvalid
  rw [Value.isInvalid_itemOnly]
  split
  · rfl
  · exact hcheck item

/-- A check that works item by item works through a list. -/
theorem checkItems_itemOnly {check : Value → Report × Value}
    (hcheck : ∀ item, check (item.itemOnly kept) = onlyOutcome kept (check item)) (report : Report) (index : Nat)
    (items : List Value) :
    checkItems check report index (items.map (Value.itemOnly kept)) =
      ((checkItems check report index items).1, (checkItems check report index items).2.map (Value.itemOnly kept)) := by
  induction items generalizing report index with
  | nil => rfl
  | cons item items ih =>
    rw [List.map_cons, checkItems, checkItems, hcheck item]
    dsimp only [onlyOutcome]
    rw [ih, List.map_cons, marked_itemOnly]

/-- The sub-attributes are asked for one by one, so other keys do not matter as long as theirs are kept. -/
theorem validateSubs_only {catalog : Catalog} (h : IgnoresCase kept) {subs : List Attribute}
    (hsubs : ∀ sub ∈ subs, kept sub.name.text = true) (entries : Record) (report : Report) :
    validateSubs catalog subs (Record.only kept entries) report =
      ((validateSubs catalog subs entries report).1,
        Record.only kept (validateSubs catalog subs entries report).2) := by
  induction subs generalizing entries report with
  | nil => rfl
  | cons sub subs ih =>
    obtain ⟨hsub, hsubs⟩ := List.forall_mem_cons.1 hsubs
    rw [validateSubs, validateSubs]
    dsimp only
    rw [Record.get?_only h, if_pos hsub]
    split
    · exact ih hsubs entries report
    · next value _ =>
      split
      · exact ih hsubs entries report
      · rw [← Record.only_replace]
        exact ih hsubs _ _

theorem Kind.validateItem_itemOnly {catalog : Catalog} (h : IgnoresCase kept) {traits : Traits}
    (hcanonical : traits.canonical = none) {subs : List Attribute}
    (hsubs : ∀ sub ∈ subs, kept sub.name.text = true) (value : Value) :
    Kind.validateItem catalog traits (.complex subs) (value.itemOnly kept) =
      onlyOutcome kept (Kind.validateItem catalog traits (.complex subs) value) := by
  have hfree : ∀ value, traits.checkCanonical value = (.empty, false) := fun value => by
    rw [Traits.checkCanonical, hcanonical]
  rw [validateItem, validateItem, hfree, hfree]
  cases value with
  | record entries =>
    dsimp only [Value.itemOnly, onlyOutcome]
    rw [validateSubs_only h hsubs]
  | _ => rfl

/-! ## What checks read -/

/-- The keys that a check that comes with the shape reads in the records of a list. -/
def Check.reads : Check → List String
  | .singlePrimary => ["primary"]
  | .distinctPairs => ["type", "value"]
  | .custom _ _ => []

theorem recordItems_only (value : Value) :
    recordItems (value.only kept) = (recordItems value).map (Record.only kept) := by
  cases value with
  | list items =>
    show (items.map (Value.itemOnly kept)).filterMap Value.record? = (items.filterMap Value.record?).map _
    rw [List.filterMap_map, List.map_filterMap]
    exact List.filterMap_congr fun item _ => Value.record?_itemOnly item
  | _ => rfl

theorem isPrimary_only (h : IgnoresCase kept) (hprimary : kept "primary" = true) (item : Record) :
    isPrimary (item.only kept) = isPrimary item := by
  rw [Bool.eq_iff_iff, isPrimary_iff, isPrimary_iff, Record.get?_only h, if_pos hprimary]

/-- The two keys are plain, so the type and the value of an element are what stands under them. -/
theorem pair?_eq (item : Record) :
    pair? item = if (item.value "type").truthy && (item.value "value").truthy then
      some (item.value "type", item.value "value") else none := by
  have htype : item.get (.path "type") = item.value "type" := Record.get_name item ⟨"type", by decide⟩ (by rfl)
  have hvalue : item.get (.path "value") = item.value "value" := Record.get_name item ⟨"value", by decide⟩ (by rfl)
  rw [pair?, htype, hvalue]

theorem pair?_only (h : IgnoresCase kept) (htype : kept "type" = true) (hvalue : kept "value" = true)
    (item : Record) : pair? (item.only kept) = pair? item := by
  rw [pair?_eq, pair?_eq, Record.value_only h item htype, Record.value_only h item hvalue]

/-- A built-in check reports the same whatever stands under keys that it does not read. -/
theorem Check.run_only {check : Check} (hcheck : check.BuiltIn) (h : IgnoresCase kept)
    (hreads : ∀ key ∈ check.reads, kept key = true) (value : Value) :
    check.run (value.only kept) = check.run value := by
  cases check with
  | singlePrimary =>
    show checkSinglePrimary _ = checkSinglePrimary _
    have hprimary := hreads "primary" List.mem_cons_self
    rw [checkSinglePrimary, checkSinglePrimary, recordItems_only, List.filter_map, List.length_map,
      show isPrimary ∘ Record.only kept = isPrimary from funext (isPrimary_only h hprimary)]
  | distinctPairs =>
    show checkDistinctPairs _ = checkDistinctPairs _
    have hpair := pair?_only h (hreads "type" (by simp [reads])) (hreads "value" (by simp [reads]))
    rw [checkDistinctPairs, checkDistinctPairs, recordItems_only, List.filterMap_map,
      show pair? ∘ Record.only kept = pair? from funext hpair]
  | custom identity run => exact absurd rfl (hcheck identity run)

theorem runChecks_only {checks : List Check} (hchecks : ∀ check ∈ checks, check.BuiltIn) (h : IgnoresCase kept)
    (hreads : ∀ check ∈ checks, ∀ key ∈ check.reads, kept key = true) (value : Value) (report : Report) :
    runChecks checks (value.only kept) report = runChecks checks value report := by
  unfold runChecks
  refine List.foldl_ext _ _ report fun report check hcheck => ?_
  rw [Check.run_only (hchecks check hcheck) h (hreads check hcheck)]

end

/-! ## Declared keys -/

/-- Whether a text names one of the attributes, in any casing. -/
def Attributes.declares (attrs : Attributes) (key : String) : Bool := (attrs.spelled? key).isSome

namespace Attributes

variable {attrs : Attributes}

theorem declares_iff {key : String} : attrs.declares key = true ↔ ∃ attr ∈ attrs, attr.name.spells key = true := by
  rw [declares, spelled?, List.find?_isSome]

theorem declares_map {f : Attribute → Attribute} (hname : ∀ attr, (f attr).name = attr.name) (key : String) :
    declares (attrs.map f) key = attrs.declares key := by
  rw [Bool.eq_iff_iff, declares_iff, declares_iff]
  simp only [List.mem_map, exists_exists_and_eq_and, hname]

theorem declares_restrictAll (keep : Keep) (key : String) :
    declares (restrictAll keep attrs) key = declares (attrs.filter keep) key := by
  rw [restrictAll_eq, declares_map fun attr => by rw [Attribute.name, Attribute.path_restrict, Attribute.name]]

theorem declares_name {attr : Attribute} (h : attr ∈ attrs) : attrs.declares attr.name.text = true :=
  declares_iff.2 ⟨attr, h, by simp [AttrName.spells, AttrName.folded]⟩

theorem ignoresCase_declares (attrs : Attributes) : IgnoresCase attrs.declares := by
  intro key other hkey
  rw [Bool.eq_iff_iff, declares_iff, declares_iff]
  simp only [AttrName.spells, hkey]

end Attributes

/-! ## Attributes -/

section

variable {catalog : Catalog} {attr next : Attribute} {subs : Attributes}

/-- Validation gives the same report, and the same value but for them, whatever stands under other keys. -/
def Attribute.LooksOnlyAt (catalog : Catalog) (attr : Attribute) (kept : String → Bool) : Prop :=
  ∀ value : Value, attr.validate catalog (value.only kept) =
    ((attr.validate catalog value).1, (attr.validate catalog value).2.only kept)

/-- Validating a list, item by item and then as a whole. -/
private theorem Attribute.validate_only_of_list {kept : String → Bool} (hmulti : attr.traits.multiValued = true)
    (hitem : ∀ value : Value, attr.kind.validateItem catalog attr.traits (value.itemOnly kept) =
      onlyOutcome kept (attr.kind.validateItem catalog attr.traits value))
    (hrun : ∀ (value : Value) (report : Report),
      runChecks attr.hooks.checks (value.only kept) report = runChecks attr.hooks.checks value report)
    (items : List Value) :
    attr.validate catalog ((Value.list items).only kept) =
      ((attr.validate catalog (.list items)).1, (attr.validate catalog (.list items)).2.only kept) := by
  have htypes : checkItems (fun item => (attr.kind.checkType item, item)) .empty 0
      (items.map (Value.itemOnly kept)) = _ :=
    checkItems_itemOnly (fun item => by rw [onlyOutcome, Kind.checkType_itemOnly]) .empty 0 items
  show attr.validate catalog (.list (items.map (Value.itemOnly kept))) = _
  rw [validate_list hmulti, validate_list hmulti, htypes]
  dsimp only
  split
  · rw [checkItems_itemOnly (unlessInvalid_itemOnly hitem)]
    exact Prod.ext (hrun (.list _) _) rfl
  · rfl

/-- Validating a record that is the value itself. -/
private theorem Attribute.validate_only_of_record {kept : String → Bool}
    (hsingle : attr.traits.multiValued = false) (hkind : attr.kind = .complex subs)
    (hitem : ∀ value : Value, attr.kind.validateItem catalog attr.traits (value.itemOnly kept) =
      onlyOutcome kept (attr.kind.validateItem catalog attr.traits value))
    (hrun : ∀ (value : Value) (report : Report),
      runChecks attr.hooks.checks (value.only kept) report = runChecks attr.hooks.checks value report)
    (entries : Record) :
    attr.validate catalog ((Value.record entries).only kept) =
      ((attr.validate catalog (.record entries)).1, (attr.validate catalog (.record entries)).2.only kept) := by
  have hchanged : ∃ changed, (attr.kind.validateItem catalog attr.traits (.record entries)).2 = .record changed := by
    rw [hkind, Kind.validateItem]
    dsimp only
    split <;> exact ⟨_, rfl⟩
  obtain ⟨changed, hchanged⟩ := hchanged
  have htype : ∀ entries, attr.kind.checkType (.record entries) = .empty := fun entries => by
    rw [hkind]
    rfl
  have honly := hitem (.record entries)
  show attr.validate catalog (.record (Record.only kept entries)) = _
  rw [validate_single hsingle rfl, validate_single hsingle rfl, htype, htype]
  dsimp only [Value.itemOnly, onlyOutcome] at honly ⊢
  rw [honly, hchanged]
  exact Prod.ext (hrun (.record changed) _) rfl

/-- Validation looks at the keys that are declared and at those that checks read. -/
theorem Attribute.validate_only {kept : String → Bool} (h : IgnoresCase kept) (hkind : attr.kind = .complex subs)
    (hcanonical : attr.traits.canonical = none) (hchecks : ∀ check ∈ attr.hooks.checks, check.BuiltIn)
    (hsubs : ∀ sub ∈ subs, kept sub.name.text = true)
    (hreads : ∀ check ∈ attr.hooks.checks, ∀ key ∈ check.reads, kept key = true) :
    attr.LooksOnlyAt catalog kept := by
  intro value
  have hitem : ∀ value : Value, attr.kind.validateItem catalog attr.traits (value.itemOnly kept) =
      onlyOutcome kept (attr.kind.validateItem catalog attr.traits value) := by
    rw [hkind]
    exact Kind.validateItem_itemOnly h hcanonical hsubs
  have hrun := runChecks_only hchecks h hreads
  cases habsent : value.isAbsent with
  | true => rw [validate_absent (by rwa [Value.isAbsent_only]), validate_absent habsent]
  | false =>
    cases hmulti : attr.traits.multiValued with
    | false =>
      cases value with
      | record entries => exact validate_only_of_record hmulti hkind hitem hrun entries
      | _ =>
        rw [validate_single hmulti (by rwa [Value.isAbsent_only]), validate_single hmulti habsent, hkind]
        rfl
    | true =>
      cases value with
      | list items => exact validate_only_of_list hmulti hitem hrun items
      | _ =>
        rw [validate_not_list hmulti habsent rfl]
        exact validate_not_list hmulti habsent rfl

/-! ## Checks and shapes -/

namespace Attribute

/-- Every check of an attribute with sub-attributes is one that they allow. -/
def ChecksFit (attr : Attribute) : Prop :=
  ∀ subs, attr.kind = .complex subs → ∀ check ∈ attr.hooks.checks, check ∈ shapeChecks subs

/-- A check is allowed by sub-attributes that declare what it reads. -/
theorem mem_shapeChecks {check : Check} :
    check ∈ shapeChecks subs ↔ check.BuiltIn ∧ ∀ key ∈ check.reads, subs.declares key = true := by
  unfold shapeChecks Attributes.declares
  cases check with
  | singlePrimary => simp [Check.BuiltIn, Check.reads]
  | distinctPairs => simp [Check.BuiltIn, Check.reads]
  | custom identity run => simp [Check.BuiltIn]

theorem shapeChecks_congr {others : Attributes} (h : ∀ key, others.declares key = subs.declares key) (check : Check) :
    check ∈ shapeChecks others ↔ check ∈ shapeChecks subs := by
  rw [mem_shapeChecks, mem_shapeChecks]
  simp only [h]

theorem checksFit_iff (hkind : attr.kind = .complex subs) :
    attr.ChecksFit ↔ ∀ check ∈ attr.hooks.checks, check ∈ shapeChecks subs := by
  refine ⟨fun h => h subs hkind, fun h others hothers => ?_⟩
  rw [hkind] at hothers
  cases hothers
  exact h

/-- The checks of an attribute that was declared without checks of a service are those of its shape. -/
theorem ChecksFit.declare {name : String} {kind : Kind} {traits : Traits} {hooks : Hooks}
    (h : declare name kind traits hooks = .ok attr) (hhooks : hooks.checks = []) : attr.ChecksFit := by
  unfold Attribute.declare at h
  cases hname : AttrName.parse name with
  | error fault =>
    rw [hname] at h
    cases h
  | ok parsed =>
    rw [hname] at h
    cases h
    rintro subs (hkind : declaredKind traits.multiValued kind = _) check hcheck
    dsimp only at hcheck
    rw [hkind, hhooks] at hcheck
    split at hcheck
    · next heq => cases heq; exact hcheck
    · exact absurd hcheck List.not_mem_nil

/-- Binding changes no name of a sub-attribute. -/
theorem ChecksFit.bindTo (h : attr.ChecksFit) (path : BoundPath) : (attr.bindTo path).ChecksFit := by
  obtain ⟨_, kind, traits, hooks⟩ := attr
  cases kind with
  | complex subs =>
    refine (checksFit_iff rfl).2 fun check hcheck => ?_
    have hnames : ∀ key, Attributes.declares
        (subs.map fun sub => { sub with path := .bound (path.withSub sub.name) }) key =
          Attributes.declares subs key :=
      Attributes.declares_map fun _ => rfl
    exact (shapeChecks_congr hnames check).2 (h subs rfl check hcheck)
  | _ =>
    rintro subs hkind
    cases hkind

theorem ChecksFit.copy_all {path : Option Path} (h : attr.ChecksFit) (hcopy : attr.copy path none = .ok next) :
    next.ChecksFit := by
  cases hcopy
  exact h

/-- A copy of some sub-attributes keeps all checks, so these fit if what they read was kept. -/
theorem checksFit_copy_iff {path : Option Path} {keep : Keep} (hkind : attr.kind = .complex subs)
    (hcopy : attr.copy path (some keep) = .ok next) :
    next.ChecksFit ↔ ∀ check ∈ attr.hooks.checks, check ∈ shapeChecks (subs.filter keep) := by
  obtain ⟨_, kind, traits, hooks⟩ := attr
  cases hkind
  have hnext : next.kind = .complex (restrictAll keep subs) ∧ next.hooks = hooks := by
    rw [Attribute.copy] at hcopy
    split at hcopy
    · cases hcopy
      rw [Attribute.restrict, Kind.restrict]
      exact ⟨rfl, rfl⟩
    · cases hcopy
  rw [checksFit_iff hnext.1, hnext.2]
  simp only [shapeChecks_congr (Attributes.declares_restrictAll keep)]

end Attribute

/-! ## Keys that are looked at -/

theorem Attributes.Accept.only {kept : String → Bool} {entries : Record} (h : Attributes.Accept catalog subs entries)
    (hkept : IgnoresCase kept) : Attributes.Accept catalog subs (entries.only kept) where
  distinct := h.distinct.filter _
  accepted sub hsub value hvalue := by
    rw [Record.get?_only hkept] at hvalue
    split at hvalue
    · exact h.accepted sub hsub value hvalue
    · cases hvalue

/-- A list of one record twice. -/
def Record.twice (record : Record) : Value := .list [.record record, .record record]

/-- A list of accepted records is only checked as a whole. -/
theorem Attribute.validate_twice {entries : Record} (hkind : attr.kind = .complex subs)
    (hmulti : attr.traits.multiValued = true) (hcanonical : attr.traits.canonical = none)
    (h : Attributes.Accept catalog subs entries) :
    (attr.validate catalog entries.twice).1 = runChecks attr.hooks.checks entries.twice .empty := by
  have hpasses : ∀ item ∈ [Value.record entries, .record entries], attr.Passes catalog item := by
    simpa using passes_record hkind hcanonical h
  exact congrArg (·.1) (validate_of_passes hmulti hpasses)

namespace Check

variable {check other : Check} {values : String → Value}

/-- What a check counts, where it stands under the keys that the check reads. -/
def Heeds : Check → Value → Prop
  | .singlePrimary, value => value = .bool true
  | .distinctPairs, value => value.truthy = true ∧ value.same value = true
  | .custom _ _, _ => False

/-- The record with certain values under the keys that a check reads. -/
def record (check : Check) (values : String → Value) : Record := check.reads.map fun key => (key, values key)

theorem distinctKeys_record (check : Check) (values : String → Value) : (check.record values).DistinctKeys := by
  have hkeys : lower "type" ≠ lower "value" := by decide +kernel
  cases check with
  | singlePrimary => exact List.pairwise_singleton _ _
  | distinctPairs => exact List.pairwise_pair.2 hkeys
  | custom identity run => exact .nil

theorem get?_record {key : String} (hkey : key ∈ check.reads) : (check.record values).get? key = some (values key) :=
  Entries.get?_of_mem (check.distinctKeys_record values) (List.mem_map_of_mem hkey)

/-- A built-in check finds something in a record that stands twice in a list, if it heeds what it reads there. -/
theorem run_twice_of_heeded (hcheck : check.BuiltIn) (h : ∀ key ∈ check.reads, check.Heeds (values key)) :
    (check.run (check.record values).twice).isEmpty = false := by
  cases check with
  | singlePrimary =>
    have hprimary : values "primary" = .bool true := h "primary" List.mem_cons_self
    show (checkSinglePrimary (Record.twice [("primary", values "primary")])).isEmpty = false
    rw [hprimary]
    rfl
  | distinctPairs =>
    obtain ⟨htype, htypeSame⟩ : Heeds .distinctPairs (values "type") := h "type" (by simp [reads])
    obtain ⟨hvalue, hvalueSame⟩ : Heeds .distinctPairs (values "value") := h "value" (by simp [reads])
    have hreads : ∀ key ∈ reads .distinctPairs, (record .distinctPairs values).value key = values key :=
      fun key hkey => by rw [Record.value, get?_record hkey]; rfl
    have hpair : pair? (record .distinctPairs values) = some (values "type", values "value") := by
      rw [pair?_eq, hreads "type" (by simp [reads]), hreads "value" (by simp [reads]), htype, hvalue]
      rfl
    have hpairs : (recordItems (record .distinctPairs values).twice).filterMap pair? =
        [(values "type", values "value"), (values "type", values "value")] := by
      show [record .distinctPairs values, record .distinctPairs values].filterMap pair? = _
      simp [hpair]
    have hcounts : [(values "type", values "value"), (values "type", values "value")].foldl countPair [] =
        [((values "type", values "value"), 2)] := by
      simp [countPair, htypeSame, hvalueSame]
    show (checkDistinctPairs _).isEmpty = false
    rw [checkDistinctPairs, hpairs, hcounts]
    rfl
  | custom identity run => exact absurd rfl (hcheck identity run)

/-- It finds nothing if one of the keys that it reads is not there. -/
theorem run_twice_of_unread (hcheck : check.BuiltIn) {record : Record} {key : String} (hkey : key ∈ check.reads)
    (h : record.get? key = none) : check.run record.twice = .empty := by
  cases check with
  | singlePrimary =>
    have hprimary : isPrimary record = false := by
      rw [Bool.eq_false_iff, Ne, isPrimary_iff, ← List.mem_singleton.1 hkey, h]
      simp
    have hnone : (recordItems record.twice).filter isPrimary = [] := by
      show [record, record].filter isPrimary = []
      simp [hprimary]
    show checkSinglePrimary _ = .empty
    rw [checkSinglePrimary, hnone]
    rfl
  | distinctPairs =>
    have habsent : record.value key = .missing := by rw [Record.value, h]; rfl
    have hpair : pair? record = none := by
      rw [pair?_eq]
      have hkeys : key = "type" ∨ key = "value" := by simpa [reads] using hkey
      rcases hkeys with rfl | rfl
      · rw [habsent]; rfl
      · rw [habsent, show Value.missing.truthy = false from rfl, Bool.and_false]; rfl
    have hnone : (recordItems record.twice).filterMap pair? = [] := by
      show [record, record].filterMap pair? = []
      simp [hpair]
    show checkDistinctPairs _ = .empty
    rw [checkDistinctPairs, hnone]
    rfl
  | custom identity run => exact absurd rfl (hcheck identity run)

/-- Different checks read different keys. -/
theorem exists_unread (hother : other.BuiltIn) (hne : other ≠ check) :
    ∃ key ∈ other.reads, ∀ read ∈ check.reads, lower read ≠ lower key := by
  cases other with
  | singlePrimary =>
    refine ⟨"primary", List.mem_cons_self, ?_⟩
    cases check with
    | singlePrimary => exact absurd rfl hne
    | distinctPairs => decide +kernel
    | custom identity run => nofun
  | distinctPairs =>
    refine ⟨"type", List.mem_cons_self, ?_⟩
    cases check with
    | singlePrimary => decide +kernel
    | distinctPairs => exact absurd rfl hne
    | custom identity run => nofun
  | custom identity run => exact absurd rfl (hother identity run)

theorem get?_record_eq_none {key : String} (h : ∀ read ∈ check.reads, lower read ≠ lower key) :
    (check.record values).get? key = none :=
  Entries.get?_eq_none_iff.2 (List.forall_mem_map.2 h)

/-- No built-in check finds anything in the record of one of them, twice in a list, once a key is left out. -/
theorem run_record_only {kept : String → Bool} (hkept : IgnoresCase kept) (hother : other.BuiltIn) {key : String}
    (hkey : key ∈ check.reads) (hout : kept key = false) :
    other.run (Record.twice ((check.record values).only kept)) = .empty := by
  by_cases hsame : other = check
  · refine run_twice_of_unread hother (hsame ▸ hkey) ?_
    rw [Record.get?_only hkept, hout]
    rfl
  · obtain ⟨read, hread, hdiffer⟩ := exists_unread hother hsame
    refine run_twice_of_unread hother hread ?_
    rw [Record.get?_only hkept, get?_record_eq_none hdiffer, ite_self]

/-- The record of a check is accepted if the value under each key is, by the sub-attributes of that name. -/
theorem accept_record (h : ∀ key ∈ check.reads, ∀ sub ∈ subs, sub.name.spells key = true →
    sub.validate catalog (values key) = (.empty, values key)) : subs.Accept catalog (check.record values) := by
  refine ⟨check.distinctKeys_record values, fun sub hsub value hvalue => ?_⟩
  obtain ⟨stored, hmem, hstored⟩ := (Entries.get?_eq_some_iff (check.distinctKeys_record values)).1 hvalue
  obtain ⟨read, hread, hentry⟩ := List.mem_map.1 hmem
  cases hentry
  have hspells : sub.name.spells stored = true := beq_iff_eq.2 hstored.symm
  exact h stored hread sub hsub hspells

end Check

namespace Attribute

/-- A check with a key that is not declared does not ignore it, if the sub-attributes for its other keys accept values
that it heeds. -/
theorem validate_only_ne (hkind : attr.kind = .complex subs) (hmulti : attr.traits.multiValued = true)
    (hcanonical : attr.traits.canonical = none) (hchecks : ∀ check ∈ attr.hooks.checks, check.BuiltIn)
    {check : Check} (hcheck : check ∈ attr.hooks.checks) {values : String → Value}
    (hheeds : ∀ key ∈ check.reads, check.Heeds (values key))
    (haccept : ∀ key ∈ check.reads, ∀ sub ∈ subs, sub.name.spells key = true →
      sub.validate catalog (values key) = (.empty, values key))
    {key : String} (hkey : key ∈ check.reads) (hundeclared : subs.declares key = false) :
    (attr.validate catalog ((check.record values).twice.only subs.declares)).1 ≠
      (attr.validate catalog (check.record values).twice).1 := by
  have hroot : ∀ check ∈ attr.hooks.checks, check.BlocksRootOnly := fun check hin => (hchecks check hin).blocksRootOnly
  have haccepted : subs.Accept catalog (check.record values) := Check.accept_record haccept
  have hpruned : (check.record values).twice.only subs.declares =
      ((check.record values).only subs.declares).twice := rfl
  have hquiet : ∀ other ∈ attr.hooks.checks,
      other.run ((check.record values).only subs.declares).twice = .empty := fun other hother =>
    Check.run_record_only subs.ignoresCase_declares (hchecks other hother) hkey hundeclared
  rw [hpruned, validate_twice hkind hmulti hcanonical (haccepted.only subs.ignoresCase_declares),
    validate_twice hkind hmulti hcanonical haccepted, runChecks_of_idle hquiet]
  intro hreports
  have hreported := ((runChecks_isEmpty_iff hroot .empty).1 (congrArg Report.isEmpty hreports).symm).2 check hcheck
  rw [Check.run_twice_of_heeded (hchecks check hcheck) hheeds] at hreported
  cases hreported

/-- If validation ignores what is not declared, the checks fit: under each key that a check reads something can stand
that the check heeds. -/
theorem checksFit_of_ignored (hkind : attr.kind = .complex subs) (hmulti : attr.traits.multiValued = true)
    (hcanonical : attr.traits.canonical = none) (hchecks : ∀ check ∈ attr.hooks.checks, check.BuiltIn)
    (hnames : subs.DistinctNames)
    (hopen : ∀ key ∈ ["type", "value"], ∀ sub ∈ subs, sub.name.spells key = true → sub.Open catalog)
    (h : ∀ value : Value, (attr.validate catalog (value.only subs.declares)).1 = (attr.validate catalog value).1) :
    attr.ChecksFit := by
  refine (checksFit_iff hkind).2 fun check hcheck => mem_shapeChecks.2 ⟨hchecks check hcheck, fun key hkey => ?_⟩
  by_contra hnot
  have hundeclared : subs.declares key = false := eq_false_of_ne_true hnot
  obtain ⟨values, hheeds, haccept⟩ : ∃ values : String → Value, (∀ key ∈ check.reads, check.Heeds (values key)) ∧
      ∀ key ∈ check.reads, ∀ sub ∈ subs, sub.name.spells key = true →
        sub.validate catalog (values key) = (.empty, values key) := by
    cases check with
    | singlePrimary =>
      refine ⟨fun _ => .bool true, fun _ _ => rfl, fun read hread sub hsub hspells => ?_⟩
      rw [List.mem_singleton.1 hkey, ← List.mem_singleton.1 hread] at hnot
      exact absurd (Attributes.declares_iff.2 ⟨sub, hsub, hspells⟩) hnot
    | distinctPairs =>
      have hvalues : ∀ key, ∃ value : Value, key ∈ Check.distinctPairs.reads →
          Check.distinctPairs.Heeds value ∧
            ∀ sub ∈ subs, sub.name.spells key = true → sub.validate catalog value = (.empty, value) := by
        intro key
        by_cases hread : key ∈ Check.distinctPairs.reads
        · obtain ⟨value, htruthy, hsame, haccepted⟩ := Attributes.exists_accepted hnames (hopen key hread)
          exact ⟨value, fun _ => ⟨⟨htruthy, hsame⟩, haccepted⟩⟩
        · exact ⟨.null, fun hin => absurd hin hread⟩
      choose values hvalues using hvalues
      exact ⟨values, fun key hread => (hvalues key hread).1, fun key hread => (hvalues key hread).2⟩
    | custom identity run => exact absurd rfl (hchecks _ hcheck identity run)
  exact validate_only_ne hkind hmulti hcanonical hchecks hcheck hheeds haccept hkey hundeclared (h _)

/-! ## Derived attributes -/

/-- The attributes that come from a declaration without checks of a service by binding and by copies that keep the
sub-attributes whose keys are read by the checks. -/
inductive Attuned : Attribute → Prop
  | declared {name : String} {kind : Kind} {traits : Traits} {hooks : Hooks} {attr : Attribute}
      (h : declare name kind traits hooks = .ok attr) (hhooks : hooks.checks = []) : Attuned attr
  | bound {attr : Attribute} (before : Attuned attr) (path : BoundPath) : Attuned (attr.bindTo path)
  | copied {attr next : Attribute} {path : Option Path} (before : Attuned attr)
      (h : attr.copy path none = .ok next) : Attuned next
  | restricted {attr next : Attribute} {path : Option Path} {keep : Keep} {subs : Attributes} (before : Attuned attr)
      (h : attr.copy path (some keep) = .ok next) (hkind : attr.kind = .complex subs)
      (hkeep : ∀ check ∈ attr.hooks.checks, check ∈ shapeChecks (subs.filter keep)) : Attuned next

theorem Attuned.checksFit (h : attr.Attuned) : attr.ChecksFit := by
  induction h with
  | declared h hhooks => exact .declare h hhooks
  | bound _ path ih => exact ih.bindTo path
  | copied _ h ih => exact ih.copy_all h
  | restricted _ h hkind hkeep _ => exact (checksFit_copy_iff hkind h).2 hkeep

/-- Of an attribute with sub-attributes, without canonical values and without checks of a service, validation looks
only at the declared keys and those that its checks read.  So if the checks fit the sub-attributes it looks only at
the declared keys; this is the case however the attribute was declared, bound and copied, as long as each copy kept
what the checks read.  A copy that did not has checks that do not fit, and where the types and values of elements may
be given at all, checks that do not fit do not ignore what is not declared. -/
theorem undeclared_ignored (catalog : Catalog) (hkind : attr.kind = .complex subs)
    (hcanonical : attr.traits.canonical = none) (hchecks : ∀ check ∈ attr.hooks.checks, check.BuiltIn) :
    (attr.LooksOnlyAt catalog fun key => subs.declares key ||
        attr.hooks.checks.any fun check => check.reads.any fun read => lower read == lower key) ∧
      (attr.ChecksFit → attr.LooksOnlyAt catalog subs.declares) ∧
      (attr.Attuned → attr.ChecksFit) ∧
      (∀ path keep next, attr.copy path (some keep) = .ok next →
        (next.ChecksFit ↔ ∀ check ∈ attr.hooks.checks, check ∈ shapeChecks (subs.filter keep))) ∧
      (attr.traits.multiValued = true → subs.DistinctNames →
        (∀ key ∈ ["type", "value"], ∀ sub ∈ subs, sub.name.spells key = true → sub.Open catalog) →
        ((∀ value : Value, (attr.validate catalog (value.only subs.declares)).1 = (attr.validate catalog value).1) ↔
          attr.ChecksFit)) := by
  have hignored : attr.ChecksFit → attr.LooksOnlyAt catalog subs.declares := by
    intro hfit
    refine validate_only subs.ignoresCase_declares hkind hcanonical hchecks
      (fun sub => Attributes.declares_name) fun check hcheck => ?_
    exact (mem_shapeChecks.1 (hfit subs hkind check hcheck)).2
  refine ⟨?_, hignored, Attuned.checksFit, fun path keep next => checksFit_copy_iff hkind,
    fun hmulti hnames hopen => ⟨checksFit_of_ignored hkind hmulti hcanonical hchecks hnames hopen,
      fun hfit value => congrArg (·.1) (hignored hfit value)⟩⟩
  refine validate_only ?_ hkind hcanonical hchecks (fun sub hsub => ?_) fun check hcheck key hkey => ?_
  · intro key other hkey
    dsimp only
    rw [subs.ignoresCase_declares key other hkey, hkey]
  · rw [Attributes.declares_name hsub, Bool.true_or]
  · rw [Bool.or_eq_true, List.any_eq_true]
    exact .inr ⟨check, hcheck, List.any_eq_true.2 ⟨key, hkey, by simp⟩⟩

/-- Phone numbers, with the sub-attributes of convention. -/
def phones : Attribute where
  path := .unbound ⟨⟨"phoneNumbers", by decide⟩, none⟩
  kind := .complex conventionalSubs
  traits := { multiValued := true }
  hooks := { checks := [.singlePrimary, .distinctPairs] }

theorem declare_phones : declare "phoneNumbers" (.complex []) { multiValued := true } = .ok phones := by
  rfl

/-- What leaves out the sub-attribute of one name. -/
def without (key : String) : Keep := fun attr => !attr.name.spells key

/-- The copy of the phone numbers without one of the sub-attributes. -/
def phonesWithout (key : String) : Attribute := { phones.restrict (without key) with path := phones.path }

theorem copy_phones {key : String} (h : without key phones = true) :
    phones.copy none (some (without key)) = .ok (phonesWithout key) := by
  rw [copy, if_pos h]
  rfl

theorem kind_phonesWithout (key : String) :
    (phonesWithout key).kind = .complex (restrictAll (without key) conventionalSubs) := by
  rw [phonesWithout, phones, restrict, Kind.restrict]

theorem checks_phonesWithout (key : String) : (phonesWithout key).hooks.checks = [.singlePrimary, .distinctPairs] := by
  rw [phonesWithout, phones, restrict]

theorem builtIn_phonesWithout (key : String) : ∀ check ∈ (phonesWithout key).hooks.checks, check.BuiltIn := by
  rw [checks_phonesWithout]
  intro check hcheck identity run hcustom
  cases hcustom
  simp at hcheck

theorem open_phonesWithout {key : String} {sub : Attribute} (h : sub ∈ restrictAll (without key) conventionalSubs) :
    sub.Open {} := by
  rw [restrictAll_eq] at h
  obtain ⟨kept, hkept, rfl⟩ := List.mem_map.1 h
  have hconventional : kept ∈ conventionalSubs := List.mem_of_mem_filter hkept
  simp only [conventionalSubs, List.mem_cons, List.not_mem_nil, or_false] at hconventional
  rcases hconventional with rfl | rfl | rfl | rfl | rfl <;>
    exact ⟨rfl, fun _ hcheck => absurd hcheck List.not_mem_nil, fun _ hkind => by cases hkind⟩

/-- A copy without `display` keeps what its checks read.  What is still written under that key changes nothing, and
two primary numbers are reported.  A copy without `value` does not keep that, and does not ignore all values. -/
theorem undeclared_ignored_of_phones :
    let numbers : Value := .list [.record [("display", .bool true), ("primary", .bool true)],
      .record [("Display", .null), ("PRIMARY", .bool true)]]
    let pruned : Value := .list [.record [("primary", .bool true)], .record [("PRIMARY", .bool true)]]
    phones.copy none (some (without "display")) = .ok (phonesWithout "display") ∧
      (phonesWithout "display").Attuned ∧
      ((phonesWithout "display").validate {} pruned).1 = ((phonesWithout "display").validate {} numbers).1 ∧
      (((phonesWithout "display").validate {} numbers).1.violations.issuesAt []).map Violation.code = [15] ∧
      ¬ ∀ value : Value, ((phonesWithout "value").validate {}
          (value.only (Attributes.declares (restrictAll (without "value") conventionalSubs)))).1 =
        ((phonesWithout "value").validate {} value).1 := by
  intro numbers pruned
  have hcopy : phones.copy none (some (without "display")) = .ok (phonesWithout "display") :=
    copy_phones (by decide +kernel)
  have hreads : ∀ key ∈ ["primary", "type", "value"],
      Attributes.declares (conventionalSubs.filter (without "display")) key = true := by decide +kernel
  have hkeep : ∀ check ∈ phones.hooks.checks, check ∈ shapeChecks (conventionalSubs.filter (without "display")) := by
    intro check hcheck
    refine mem_shapeChecks.2 ⟨builtIn_phonesWithout "display" check ((checks_phonesWithout _).symm ▸ hcheck),
      fun key hkey => hreads key ?_⟩
    rcases List.mem_cons.1 hcheck with rfl | hcheck
    · exact List.mem_of_mem_take (i := 1) hkey
    · rw [List.mem_singleton.1 hcheck] at hkey
      exact List.mem_cons_of_mem _ hkey
  have hattuned : (phonesWithout "display").Attuned := .restricted (.declared declare_phones rfl) hcopy rfl hkeep
  obtain ⟨-, hlooks, hfit, -⟩ := undeclared_ignored {} (kind_phonesWithout "display")
    (by rw [phonesWithout, phones, restrict]) (builtIn_phonesWithout "display")
  have hsame := hlooks (hfit hattuned) numbers
  let declared := Attributes.declares (restrictAll (without "display") conventionalSubs)
  have hkept : declared "display" = false ∧ declared "Display" = false ∧ declared "primary" = true ∧
      declared "PRIMARY" = true := by decide +kernel
  have hpruned : numbers.only declared = pruned := by
    simp [numbers, pruned, Value.only, Value.itemOnly, Record.only, hkept]
  rw [hpruned] at hsame
  obtain ⟨-, -, -, -, hiff⟩ := undeclared_ignored {} (kind_phonesWithout "value")
    (by rw [phonesWithout, phones, restrict]) (builtIn_phonesWithout "value")
  have hunfit : ¬ (phonesWithout "value").ChecksFit := by
    intro hfits
    have hpairs : .distinctPairs ∈ (phonesWithout "value").hooks.checks := by simp [checks_phonesWithout]
    have hallowed := mem_shapeChecks.1 (hfits _ (kind_phonesWithout "value") _ hpairs)
    have hdeclared := hallowed.2 "value" (by simp [Check.reads])
    revert hdeclared
    decide +kernel
  have hlooked := mt (hiff (by rw [phonesWithout, phones, restrict]) (conventionalSubs_wellNamed.1.restrictAll _)
    fun _ _ _ hsub _ => open_phonesWithout hsub).1 hunfit
  exact ⟨hcopy, hattuned, congrArg (·.1) hsame, by decide +kernel, hlooked⟩

/-- A copy without `primary` keeps the check for primary elements, and so it reports two of them, although nothing is
declared under that key and nothing is found without its entries. -/
theorem undeclared_primary_reported :
    let numbers : Value := .list [.record [("value", .text "a"), ("primary", .bool true)],
      .record [("value", .text "b"), ("primary", .bool true)]]
    let subs := restrictAll (without "primary") conventionalSubs
    declare "phoneNumbers" (.complex []) { multiValued := true } = .ok phones ∧
      phones.copy none (some (without "primary")) = .ok (phonesWithout "primary") ∧
      (phonesWithout "primary").kind = .complex subs ∧
      (((phonesWithout "primary").validate {} numbers).1.violations.issuesAt []).map Violation.code = [15] ∧
      ((phonesWithout "primary").validate {} (numbers.only (Attributes.declares subs))).1.isEmpty = true := by
  intro numbers subs
  exact ⟨declare_phones, copy_phones (by decide +kernel), kind_phonesWithout "primary", by decide +kernel,
    by decide +kernel⟩

end Attribute

end

end Scim
