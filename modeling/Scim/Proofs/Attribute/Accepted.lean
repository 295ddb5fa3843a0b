import Scim.Proofs.Attribute.Conformance
import Scim.Proofs.Attribute.Conversion
import Scim.Proofs.Value.Equality

/-!
# Values that an attribute accepts

A declaration can rule out every value that says something: its canonical values may be few, a check of a service may
refuse everything, and a reference to resources needs a resource with an endpoint.  Without these there is a value
that validation neither reports nor changes, whatever the kind is and whether it is asked for alone or in a list.

A record is accepted if what stands under the names of the sub-attributes is.

## Main results

* `Attributes.Accept.validateSubs`: a record of accepted values is accepted.
* `Attribute.Open.exists_accepted`: an open attribute accepts a value that says something.
* `Attributes.exists_accepted`: so do all sub-attributes of one name.
-/

namespace Scim

open Text

/-! ## Texts within texts -/

theorem contains_of_prefix {part whole : List Char} (h : part.isPrefixOf whole = true) :
    contains part whole = true := by
  cases whole with
  | nil =>
    rw [contains, List.isEmpty_iff]
    exact List.prefix_nil.1 (List.isPrefixOf_iff_prefix.1 h)
  | cons c cs => rw [contains, h, Bool.true_or]

section

variable {catalog : Catalog} {attr : Attribute} {subs : Attributes}

/-! ## Records -/

/-- The sub-attributes accept what a record holds under their names, under each key once. -/
structure Attributes.Accept (catalog : Catalog) (subs : Attributes) (entries : Record) : Prop where
  distinct : entries.DistinctKeys
  accepted : ∀ sub ∈ subs, ∀ value, entries.get? sub.name.text = some value →
    sub.validate catalog value = (.empty, value)

theorem Attributes.Accept.validateSubs {entries : Record} (h : subs.Accept catalog entries) :
    validateSubs catalog subs entries .empty = (.empty, entries) := by
  obtain ⟨hdistinct, haccepted⟩ := h
  induction subs with
  | nil => rfl
  | cons sub subs ih =>
    obtain ⟨hsub, hsubs⟩ := List.forall_mem_cons.1 haccepted
    rw [Scim.validateSubs]
    dsimp only
    split
    · exact ih hsubs
    · next value hvalue =>
      split
      · exact ih hsubs
      · have hsame : entries.replace sub.name.text (marked .empty value) = entries :=
          Entries.replace_self hdistinct hvalue
        rw [hsub value hvalue]
        dsimp only
        rw [hsame]
        exact ih hsubs

/-- A check finds nothing in items that it passes over. -/
theorem checkItems_of_idle {check : Value → Report × Value} {items : List Value}
    (h : ∀ item ∈ items, check item = (.empty, item)) (report : Report) (index : Nat) :
    checkItems check report index items = (report, items) := by
  induction items generalizing report index with
  | nil => rfl
  | cons item items ih =>
    obtain ⟨hitem, hitems⟩ := List.forall_mem_cons.1 h
    rw [checkItems, hitem]
    dsimp only
    rw [ih hitems]
    rfl

namespace Attribute

/-! ## Items -/

/-- An item that is neither absent nor invalid passes both passes over items as it is. -/
structure Passes (catalog : Catalog) (attr : Attribute) (item : Value) : Prop where
  present : item.isAbsent = false
  valid : item.isInvalid = false
  fits : attr.kind.checkType item = .empty
  rules : attr.kind.validateItem catalog attr.traits item = (.empty, item)

/-- Validating a list of items that pass only runs the checks. -/
theorem validate_of_passes {items : List Value} (hmulti : attr.traits.multiValued = true)
    (h : ∀ item ∈ items, attr.Passes catalog item) :
    attr.validate catalog (.list items) = (runChecks attr.hooks.checks (.list items) .empty, .list items) := by
  have htypes : ∀ item ∈ items, (attr.kind.checkType item, item) = (.empty, item) := fun item hitem =>
    congrArg (·, item) (h item hitem).fits
  have hrules : ∀ item ∈ items, unlessInvalid (attr.kind.validateItem catalog attr.traits) item = (.empty, item) :=
    fun item hitem => (unlessInvalid_of_valid (h item hitem).valid).trans (h item hitem).rules
  have hfree : Report.empty.canProceed [] = true := rfl
  rw [validate_list hmulti, checkItems_of_idle htypes]
  dsimp only
  rw [if_pos hfree, checkItems_of_idle hrules]

theorem passes_record {entries : Record} (hkind : attr.kind = .complex subs)
    (hcanonical : attr.traits.canonical = none) (h : subs.Accept catalog entries) :
    attr.Passes catalog (.record entries) := by
  refine ⟨rfl, rfl, by rw [hkind]; rfl, ?_⟩
  rw [hkind, Kind.validateItem, Traits.checkCanonical, hcanonical]
  dsimp only
  rw [h.validateSubs]

end Attribute

/-! ## Examples of every kind -/

/-- A value that says something, equals itself, and has the type of a kind and the syntax that it asks for. -/
structure Kind.Example (catalog : Catalog) (kind : Kind) (value : Value) : Prop where
  truthy : value.truthy = true
  reflexive : value.same value = true
  single : value.list? = none
  fits : kind.fits value = true
  wellWritten : ∀ text, value = .text text → kind.checkText catalog text = .empty

theorem Kind.Example.text {kind : Kind} {text : String} (hfull : text.isEmpty = false)
    (hfits : kind.fits (.text text) = true) (hfine : kind.checkText catalog text = .empty) :
    kind.Example catalog (.text text) where
  truthy := by rw [Value.truthy, hfull]; rfl
  reflexive := BEq.rfl
  single := rfl
  fits := hfits
  wellWritten _ hsame := by cases hsame; exact hfine

/-- A text that begins with an endpoint is a reference to a resource. -/
theorem namesResource_append {types : List String} {type endpoint : String} (h : type ∈ types)
    (hendpoint : catalog.endpoint? type = some endpoint) (rest : String) :
    namesResource catalog types (endpoint ++ rest) = true := by
  refine List.any_eq_true.2 ⟨endpoint, List.mem_filterMap.2 ⟨type, h, hendpoint⟩, contains_of_prefix ?_⟩
  rw [String.toList_append, List.isPrefixOf_iff_prefix]
  exact List.prefix_append _ _

theorem Kind.exists_example {kind : Kind} (hsimple : ∀ subs, kind ≠ .complex subs)
    (href : ∀ types, kind = .reference (.resource types) →
      ∃ type ∈ types, ∃ endpoint, catalog.endpoint? type = some endpoint) :
    ∃ value, kind.Example catalog value := by
  cases kind with
  | unknown => exact ⟨.bool true, rfl, rfl, rfl, rfl, nofun⟩
  | boolean => exact ⟨.bool true, rfl, rfl, rfl, rfl, nofun⟩
  | integer => exact ⟨.number (.int 1), rfl, rfl, rfl, rfl, nofun⟩
  | decimal => exact ⟨.number (.int 1), rfl, rfl, rfl, rfl, nofun⟩
  | string => exact ⟨.text "a", .text rfl rfl rfl⟩
  | binary => exact ⟨.text "AAAA", .text rfl rfl rfl⟩
  | dateTime => exact ⟨.text "2024-01-01", .text rfl rfl rfl⟩
  | reference target =>
    cases target with
    | outside =>
      have hhost : Url.namesHost "http://a" = true := by decide +kernel
      exact ⟨.text "http://a", .text rfl rfl (if_pos hhost)⟩
    | uri => exact ⟨.text "a", .text rfl rfl rfl⟩
    | resource types =>
      obtain ⟨type, htype, endpoint, hendpoint⟩ := href types rfl
      exact ⟨.text (endpoint ++ "/1"), .text (by simp) rfl (if_pos (namesResource_append htype hendpoint "/1"))⟩
  | complex subs => exact absurd rfl (hsimple subs)

/-! ## Checks with nothing to say -/

/-- A built-in check has nothing to say of a value that is not a list, and nothing of a single item. -/
theorem Check.run_of_few {check : Check} (hcheck : check.BuiltIn) {value : Value}
    (hfew : (recordItems value).length ≤ 1) : check.run value = .empty := by
  cases check with
  | singlePrimary =>
    have hprimary := Nat.le_trans (List.length_filter_le isPrimary (recordItems value)) hfew
    exact if_neg (Nat.not_lt.2 hprimary)
  | distinctPairs =>
    show checkDistinctPairs value = .empty
    unfold checkDistinctPairs
    match hitems : recordItems value with
    | [] => rfl
    | [item] => cases hpair : pair? item <;> simp [hpair, countPair]
    | _ :: _ :: _ => rw [hitems] at hfew; simp at hfew
  | custom identity run => exact absurd rfl (hcheck identity run)

theorem runChecks_of_idle {checks : List Check} {value : Value} (h : ∀ check ∈ checks, check.run value = .empty) :
    runChecks checks value .empty = .empty := by
  unfold runChecks
  induction checks with
  | nil => rfl
  | cons check checks ih =>
    obtain ⟨hcheck, hchecks⟩ := List.forall_mem_cons.1 h
    rw [List.foldl_cons, hcheck]
    exact ih hchecks

/-! ## Open attributes -/

namespace Attribute

/-- Nothing that is declared beside the kind rules values out: there are no canonical values and no checks of a
service, and a reference to resources may lead to some. -/
structure Open (catalog : Catalog) (attr : Attribute) : Prop where
  canonical : attr.traits.canonical = none
  checks : ∀ check ∈ attr.hooks.checks, check.BuiltIn
  reference : ∀ types, attr.kind = .reference (.resource types) →
    ∃ type ∈ types, ∃ endpoint, catalog.endpoint? type = some endpoint

theorem Open.passes_example (h : attr.Open catalog) (hsimple : ∀ subs, attr.kind ≠ .complex subs) {value : Value}
    (hvalue : attr.kind.Example catalog value) : attr.Passes catalog value := by
  obtain ⟨htruthy, -, -, hfits, htext⟩ := hvalue
  have hrules : attr.kind.validateItem catalog attr.traits value = (.empty, value) := by
    rw [Kind.validateItem, Traits.checkCanonical, h.canonical]
    · cases value with
      | text text =>
        dsimp only
        rw [htext text rfl]
        rfl
      | _ => rfl
    · exact hsimple
  have htype : attr.kind.checkType value = .empty := if_pos hfits
  cases value with
  | missing => cases htruthy
  | invalid => cases htruthy
  | null => cases htruthy
  | _ => exact ⟨rfl, rfl, htype, hrules⟩

/-- Some item says something and passes. -/
theorem Open.exists_passes (h : attr.Open catalog) :
    ∃ item : Value, item.truthy = true ∧ item.same item = true ∧ item.list? = none ∧ attr.Passes catalog item := by
  by_cases hsimple : ∀ subs, attr.kind ≠ .complex subs
  · obtain ⟨value, hvalue⟩ := Kind.exists_example hsimple h.reference
    exact ⟨value, hvalue.truthy, hvalue.reflexive, hvalue.single, h.passes_example hsimple hvalue⟩
  · obtain ⟨subs, hkind⟩ := not_forall_not.1 hsimple
    -- an entry that holds nothing makes a record that is not empty
    have haccept : Attributes.Accept catalog subs [("", .missing)] := by
      refine ⟨List.pairwise_singleton _ _, fun sub _ value hvalue => ?_⟩
      obtain ⟨key, hmem, -⟩ := Entries.mem_of_get? hvalue
      cases List.mem_singleton.1 hmem
      exact validate_absent rfl
    exact ⟨_, rfl, by decide +kernel, rfl, passes_record hkind h.canonical haccept⟩

/-- An open attribute accepts some value that says something: an item that passes, or the list of it alone. -/
theorem Open.exists_accepted (h : attr.Open catalog) :
    ∃ value : Value, value.truthy = true ∧ value.same value = true ∧ attr.validate catalog value = (.empty, value) := by
  obtain ⟨item, htruthy, hsame, hsingle, hpasses⟩ := h.exists_passes
  cases hmulti : attr.traits.multiValued with
  | true =>
    have hidle : runChecks attr.hooks.checks (.list [item]) .empty = .empty :=
      runChecks_of_idle fun check hcheck =>
        Check.run_of_few (h.checks check hcheck) (List.length_filterMap_le Value.record? [item])
    refine ⟨.list [item], rfl, Value.same_list_iff.2 (by simpa using hsame), ?_⟩
    rw [validate_of_passes hmulti (List.forall_mem_singleton.2 hpasses), hidle]
  | false =>
    have hidle : runChecks attr.hooks.checks item .empty = .empty :=
      runChecks_of_idle fun check hcheck => Check.run_of_few (h.checks check hcheck) (by
        rw [recordItems, hsingle]
        exact Nat.zero_le 1)
    refine ⟨item, htruthy, hsame, ?_⟩
    rw [validate_single hmulti hpasses.present, hpasses.fits]
    dsimp only
    rw [hpasses.rules]
    exact congrArg (·, item) hidle

end Attribute

/-- All sub-attributes of one name accept some value that says something. -/
theorem Attributes.exists_accepted {key : String} (hnames : subs.DistinctNames)
    (h : ∀ sub ∈ subs, sub.name.spells key = true → sub.Open catalog) :
    ∃ value : Value, value.truthy = true ∧ value.same value = true ∧
      ∀ sub ∈ subs, sub.name.spells key = true → sub.validate catalog value = (.empty, value) := by
  by_cases hdeclared : ∃ sub ∈ subs, sub.name.spells key = true
  · obtain ⟨sub, hsub, hkey⟩ := hdeclared
    obtain ⟨value, htruthy, hsame, haccepted⟩ := (h sub hsub hkey).exists_accepted
    refine ⟨value, htruthy, hsame, fun other hother hspells => ?_⟩
    have hfolded : other.name.folded = sub.name.folded := (beq_iff_eq.1 hspells).trans (beq_iff_eq.1 hkey).symm
    rw [hnames.eq_of_folded hother hsub hfolded]
    exact haccepted
  · exact ⟨.bool true, rfl, rfl, fun sub hsub hkey => absurd ⟨sub, hsub, hkey⟩ hdeclared⟩

end

end Scim
