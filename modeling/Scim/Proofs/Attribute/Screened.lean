import Scim.Proofs.Attribute.Elementwise
import Scim.Proofs.Attribute.Made
import Scim.Proofs.Attribute.Marking
import Scim.Proofs.Record.Revision

/-!
# Validating values a second time

What validation leaves of a value is the value with marks in it, or a mark alone.  When it is validated again, the
marks fail the type checks or are passed over, so the branches that are taken are others than the first time.  But no
mark spreads.  A marked element or sub-attribute is left marked, and does not block what is around it; the others are
left as they are; and the checks of the attribute see the value that they saw before.

There is one exception, canonical records.  A record that is canonical is not so any more once something in it is
marked.  So complex attributes are to have no canonical values.

A value may also be marked by something else than the validation of the attribute.  Then nothing can be said in
general, as its checks see another value; but an attribute without checks of a service does not care, if nothing but
texts and numbers are canonical for it.

## Main results

* `Attribute.screened_single`, `Attribute.screened_list`: what validation leaves of a value.
* `Attribute.screened_screened`: and that it leaves alone.
* `Attribute.screened_dimmed`: with more marks in it too, if the attribute is lenient.
-/

namespace Scim

open Text

variable {catalog : Catalog} {attr : Attribute} {kind : Kind} {traits : Traits} {value item : Value}

/-! ## What validation leaves -/

/-- What the type of a kind and its rules leave of an item. -/
def Kind.screened (catalog : Catalog) (kind : Kind) (traits : Traits) (item : Value) : Value :=
  if kind.fits item then
    marked (kind.validateItem catalog traits item).1 (kind.validateItem catalog traits item).2
  else .invalid

namespace Attribute

/-- What validation leaves of a value. -/
def screened (catalog : Catalog) (attr : Attribute) (value : Value) : Value :=
  marked (attr.validate catalog value).1 (attr.validate catalog value).2

/-- What the checks of the attribute itself leave of a value. -/
def guarded (attr : Attribute) (value : Value) : Value :=
  if attr.hooks.checks.all fun check => (check.run value).canProceed [] then value else .invalid

/-- What validation leaves of a record for one of the sub-attributes. -/
def screenedIn (catalog : Catalog) (entries : Record) (sub : Attribute) : Record :=
  entries.revise sub.name.text (sub.screened catalog)

end Attribute

theorem marked_of_proceed {report : Report} (h : report.canProceed [] = true) (value : Value) :
    marked report value = value := by
  rw [marked, if_pos h]

theorem marked_of_blocked {report : Report} (h : report.canProceed [] = false) (value : Value) :
    marked report value = .invalid := by
  rw [marked, h]
  rfl

theorem marked_cases (report : Report) (value : Value) :
    marked report value = value ∨ marked report value = .invalid := by
  unfold marked
  split
  · exact .inl rfl
  · exact .inr rfl

/-- A value passes checks if each of them lets it pass. -/
theorem canProceed_runChecks (checks : List Check) (value : Value) (report : Report) :
    (runChecks checks value report).canProceed [] =
      (report.canProceed [] && checks.all fun check => (check.run value).canProceed []) := by
  induction checks generalizing report with
  | nil => simp [runChecks]
  | cons check checks ih =>
    refine (ih _).trans ?_
    rw [List.all_cons]
    dsimp only
    cases hfree : report.canProceed [] with
    | false => simp [hfree]
    | true => rw [if_pos rfl, Report.canProceed_merge_root, hfree, Bool.true_and, Bool.true_and]

namespace Kind

theorem screened_of_unfit (h : kind.fits item = false) : kind.screened catalog traits item = .invalid := by
  rw [screened, h]
  rfl

/-- Without sub-attributes, an item is left as it is or marked. -/
theorem screened_of_simple (hsimple : ∀ subs, kind ≠ .complex subs) (item : Value) :
    kind.screened catalog traits item = item ∨ kind.screened catalog traits item = .invalid := by
  unfold screened
  split
  · rcases kind.validateItem_cases catalog traits item with hitem | ⟨text, hitem⟩ | ⟨subs, entries, hkind, -⟩
    · rw [hitem]
      exact marked_cases _ item
    · rw [hitem]
      exact marked_cases _ item
    · exact absurd hkind (hsimple subs)
  · exact .inr rfl

theorem screened_invalid (catalog : Catalog) (kind : Kind) (traits : Traits) :
    kind.screened catalog traits .invalid = .invalid := by
  by_cases hsimple : ∀ subs, kind ≠ .complex subs
  · rcases @screened_of_simple catalog kind traits hsimple .invalid with h | h <;> exact h
  · obtain ⟨subs, rfl⟩ := not_forall_not.1 hsimple
    exact screened_of_unfit rfl

end Kind

namespace Attribute

theorem guarded_cases (attr : Attribute) (value : Value) :
    attr.guarded value = value ∨ attr.guarded value = .invalid := by
  unfold guarded
  split
  · exact .inl rfl
  · exact .inr rfl

theorem guarded_invalid (attr : Attribute) : attr.guarded .invalid = .invalid := by
  rcases attr.guarded_cases .invalid with h | h <;> exact h

/-- A value that nothing else blocks is left as the checks leave it. -/
theorem marked_runChecks {report : Report} (h : report.canProceed [] = true) (attr : Attribute) (value : Value) :
    marked (runChecks attr.hooks.checks value report) value = attr.guarded value := by
  rw [marked, canProceed_runChecks, h, Bool.true_and, guarded]

theorem screened_absent (h : value.isAbsent = true) : attr.screened catalog value = value := by
  rw [screened, validate_absent h]
  rfl

theorem screened_missing (catalog : Catalog) (attr : Attribute) : attr.screened catalog .missing = .missing :=
  screened_absent rfl

/-- A single value is left as the checks leave what the kind leaves of it. -/
theorem screened_single (hsingle : attr.traits.multiValued = false) (hpresent : value.isAbsent = false) :
    attr.screened catalog value = attr.guarded (attr.kind.screened catalog attr.traits value) := by
  rw [screened, Kind.screened, validate_single hsingle hpresent, Kind.canProceed_checkType]
  cases hfits : attr.kind.fits value with
  | false =>
    have hblocked : (attr.kind.checkType value).canProceed [] = false := by rw [Kind.canProceed_checkType, hfits]
    exact (marked_of_blocked hblocked value).trans attr.guarded_invalid.symm
  | true =>
    have hfree : (attr.kind.checkType value).canProceed [] = true := by rw [Kind.canProceed_checkType, hfits]
    rw [if_pos rfl, if_pos rfl]
    dsimp only
    cases hrules : (attr.kind.validateItem catalog attr.traits value).1.canProceed [] with
    | false =>
      rw [marked_of_blocked hrules, guarded_invalid, marked_of_blocked]
      rw [canProceed_runChecks, Report.canProceed_merge_root, hrules, Bool.and_false, Bool.false_and]
    | true =>
      rw [marked_of_proceed hrules]
      refine marked_runChecks ?_ attr _
      rw [Report.canProceed_merge_root, hfree, hrules]
      rfl

/-- An item of a list is left by both rounds as the kind leaves it. -/
theorem secondRound_eq_screened (item : Value) :
    (attr.secondRound catalog item).2 = attr.kind.screened catalog attr.traits item := by
  by_cases h : item.isInvalid = false ∧ attr.kind.fits item = true
  · rw [secondRound_of_fits h.1 h.2, Kind.screened, if_pos h.2]
  · rw [secondRound_of_unfit h]
    cases item with
    | invalid => exact (Kind.screened_invalid _ _ _).symm
    | _ => exact (Kind.screened_of_unfit (Bool.eq_false_iff.2 fun hfits => h ⟨rfl, hfits⟩)).symm

/-- A list is left as the checks leave the list of what the kind leaves of its items. -/
theorem screened_list (hmulti : attr.traits.multiValued = true) (items : List Value) :
    attr.screened catalog (.list items) =
      attr.guarded (.list (items.map (attr.kind.screened catalog attr.traits))) := by
  have hitems : items.map (fun item => (attr.secondRound catalog item).2) =
      items.map (attr.kind.screened catalog attr.traits) :=
    List.map_congr_left fun item _ => secondRound_eq_screened item
  rw [screened, validate_rounds hmulti, hitems]
  refine marked_runChecks ?_ attr _
  rw [Report.canProceed_mergeEach, Report.canProceed_mergeEach]
  rfl

/-- Nothing is left of a value that should be a list and is none. -/
theorem screened_not_list (hmulti : attr.traits.multiValued = true) (hpresent : value.isAbsent = false)
    (hlist : value.list? = none) : attr.screened catalog value = .invalid := by
  rw [screened, validate_not_list hmulti hpresent hlist]
  rfl

end Attribute

/-! ## Items -/

/-- A record without a value of a sub-attribute is left as it is for the sake of that one. -/
theorem Attribute.screenedIn_of_missing {entries : Record} (hkeys : entries.DistinctKeys)
    (h : Record.value entries attr.name.text = .missing) : attr.screenedIn catalog entries = entries := by
  refine (Record.revise_eq_self_iff (attr.screened_missing catalog) hkeys).2 ?_
  rw [h, screened_missing]

/-- The sub-attributes of a record are screened one after the other, and do not block it. -/
theorem validateSubs_screened {subs : List Attribute} {entries : Record} (hkeys : entries.DistinctKeys)
    (report : Report) :
    (validateSubs catalog subs entries report).2 = subs.foldl (Attribute.screenedIn catalog) entries ∧
      (validateSubs catalog subs entries report).1.canProceed [] = report.canProceed [] := by
  induction subs generalizing entries report with
  | nil => exact ⟨rfl, rfl⟩
  | cons sub subs ih =>
    rw [validateSubs, List.foldl_cons]
    dsimp only
    split
    · next hnone =>
      rw [Attribute.screenedIn_of_missing hkeys (by rw [Record.value, hnone]; rfl)]
      exact ih hkeys report
    · next value hvalue =>
      have hread : Record.value entries sub.name.text = value := by rw [Record.value, hvalue]; rfl
      split
      · next hgone =>
        rw [Attribute.screenedIn_of_missing hkeys (hread.trans (Value.eq_missing hgone))]
        exact ih hkeys report
      · have hstep : sub.screenedIn catalog entries =
            entries.replace sub.name.text (marked (sub.validate catalog value).1 (sub.validate catalog value).2) := by
          rw [Attribute.screenedIn, Record.revise, hread]
          rfl
        obtain ⟨hrest, hfree⟩ := @ih _ (Record.distinctKeys_revise hkeys sub.name.text (sub.screened catalog))
          (report.merge (sub.validate catalog value).1 [.ofName sub.name])
        rw [← Attribute.screenedIn, hstep] at hrest hfree
        rw [hstep]
        exact ⟨hrest, hfree.trans (Report.canProceed_merge_part _ _ _)⟩

namespace Kind

/-- Of a record that need not be canonical everything is left but what its sub-attributes mark. -/
theorem screened_record {subs : List Attribute} (hcanonical : traits.canonical = none) {entries : Record}
    (hkeys : entries.DistinctKeys) :
    (Kind.complex subs).screened catalog traits (.record entries) =
      .record (subs.foldl (Attribute.screenedIn catalog) entries) := by
  have hallowed : traits.checkCanonical (.record entries) = (.empty, false) := by
    rw [Traits.checkCanonical, hcanonical]
  obtain ⟨hentries, hfree⟩ := @validateSubs_screened catalog subs entries hkeys .empty
  rw [screened, validateItem, hallowed]
  dsimp only
  rw [hentries, marked_of_proceed hfree]
  rfl

/-- What is left of a value that is there is there. -/
theorem isAbsent_screened (hcanonical : ∀ subs, kind = .complex subs → traits.canonical = none)
    (hkeys : item.WellKeyed) (hpresent : item.isAbsent = false) :
    (kind.screened catalog traits item).isAbsent = false := by
  by_cases hsimple : ∀ subs, kind ≠ .complex subs
  · rcases @screened_of_simple catalog kind traits hsimple item with h | h
    · rwa [h]
    · rw [h]
      rfl
  · obtain ⟨subs, rfl⟩ := not_forall_not.1 hsimple
    cases item with
    | record entries =>
      rw [screened_record (hcanonical subs rfl) (Value.everywhere_record.1 hkeys).1]
      rfl
    | _ =>
      rw [screened_of_unfit rfl]
      rfl

end Kind

theorem Attribute.screened_invalid (catalog : Catalog) (attr : Attribute) :
    attr.screened catalog .invalid = .invalid := by
  cases hmulti : attr.traits.multiValued with
  | false => rw [screened_single hmulti rfl, Kind.screened_invalid, guarded_invalid]
  | true => exact screened_not_list hmulti rfl rfl

/-! ## A second time -/

namespace Attribute

/-- No canonical values are declared of an attribute with sub-attributes, and its checks block values as a whole or not
at all. -/
structure Repeatable (attr : Attribute) : Prop where
  canonical : ∀ subs, attr.kind = .complex subs → attr.traits.canonical = none
  checks : ∀ check ∈ attr.hooks.checks, check.BlocksRootOnly

theorem Repeatable.of_no_checks (hchecks : attr.hooks.checks = [])
    (hcanonical : ∀ subs, attr.kind = .complex subs → attr.traits.canonical = none) : attr.Repeatable := by
  refine ⟨hcanonical, fun check hcheck => ?_⟩
  rw [hchecks] at hcheck
  cases hcheck

/-- Besides, the sub-attributes have different names. -/
structure Settling (attr : Attribute) : Prop extends attr.Repeatable where
  names : attr.DistinctSubs

theorem settling (hnames : attr.WellNamed) (h : attr.Throughout Repeatable) : attr.Throughout Settling := by
  induction h with
  | @intro attr here _ ih =>
    obtain ⟨hdistinct, hbelow⟩ := hnames
    exact .intro ⟨here, hdistinct⟩ fun subs hkind sub hsub => ih subs hkind sub hsub (hbelow subs hkind sub hsub)

theorem Throughout.blocksRootOnly (h : attr.Throughout Settling) : attr.EveryCheck Check.BlocksRootOnly :=
  Throughout.everyCheck_of_checks (h.imp fun _ here => here.checks)

/-- Nothing but marks is made in a value. -/
theorem dimmed_screened (h : attr.Throughout Settling) (hkeys : value.WellKeyed) :
    value.Dimmed (attr.screened catalog value) :=
  (validate_tracks attr h.blocksRootOnly hkeys).allowed_marked.mono fun _ _ => trivial

/-- A value in which nothing was found is left as it is. -/
theorem screened_of_free (h : attr.Throughout Settling) (hkeys : value.WellKeyed)
    (hfree : (attr.validate catalog value).1.hasViolations [] = false) : attr.screened catalog value = value := by
  have htracks := @validate_tracks catalog attr h.blocksRootOnly value hkeys
  have hnone := htracks.sound.blocks_eq_nil hfree
  have hproceed : (attr.validate catalog value).1.canProceed [] = true := by
    rw [Report.canProceed, hnone]
    rfl
  rw [screened, marked_of_proceed hproceed, htracks.eq_of_free hnone]

section Sub

variable {subs : List Attribute} {entries : Record}

theorem wellKeyed_screenedIn (h : attr.Throughout Settling) (hkeys : (Value.record entries).WellKeyed) :
    (Value.record (attr.screenedIn catalog entries)).WellKeyed :=
  (Record.dimmed_revise (Value.everywhere_record.1 hkeys).1 (dimmed_screened h (hkeys.value _))).wellKeyed hkeys

theorem wellKeyed_foldl (hsubs : ∀ sub ∈ subs, sub.Throughout Settling) (hkeys : (Value.record entries).WellKeyed) :
    (Value.record (subs.foldl (screenedIn catalog) entries)).WellKeyed :=
  List.foldlRecOn (motive := fun entries => (Value.record entries).WellKeyed) subs _ hkeys
    fun _ hentries sub hsub => wellKeyed_screenedIn (hsubs sub hsub) hentries

/-- A record is left alone for the sake of a sub-attribute exactly if the value of the sub-attribute is. -/
theorem screenedIn_eq_self_iff (hkeys : (Value.record entries).WellKeyed) :
    attr.screenedIn catalog entries = entries ↔
      attr.screened catalog (Record.value entries attr.name.text) = Record.value entries attr.name.text :=
  Record.revise_eq_self_iff (attr.screened_missing catalog) (Value.everywhere_record.1 hkeys).1

/-- Once the sub-attributes of a record were screened, each leaves it alone. -/
theorem screenedIn_foldl (hnames : Attributes.DistinctNames subs) (hsubs : ∀ sub ∈ subs, sub.Throughout Settling)
    (hagain : ∀ sub ∈ subs, ∀ {value : Value}, value.WellKeyed →
      sub.screened catalog (sub.screened catalog value) = sub.screened catalog value)
    (hkeys : (Value.record entries).WellKeyed) :
    ∀ sub ∈ subs, sub.screenedIn catalog (subs.foldl (screenedIn catalog) entries) =
      subs.foldl (screenedIn catalog) entries := by
  refine foldl_settles (P := fun entries => (Value.record entries).WellKeyed) (fun sub hsub entries => ?_)
    (fun sub hsub entries hkeys => ?_) (hnames.imp fun {sub later} hapart entries hkeys => ?_) hkeys
  case refine_1 => exact wellKeyed_screenedIn (hsubs sub hsub)
  case refine_2 =>
    exact Record.revise_revise (sub.screened_missing catalog) (Value.everywhere_record.1 hkeys).1
      (hagain sub hsub (hkeys.value _))
  case refine_3 =>
    exact Record.revise_keeps (sub.screened_missing catalog) (later.screened_missing catalog)
      (Value.everywhere_record.1 hkeys).1 fun hsame => absurd hsame.symm hapart

end Sub

/-- Items are left alone by the kind that left them, if the values of the sub-attributes are. -/
theorem screened_screenedItem (here : attr.Settling)
    (below : ∀ subs, attr.kind = .complex subs → ∀ sub ∈ subs, sub.Throughout Settling)
    (hagain : ∀ subs, attr.kind = .complex subs → ∀ sub ∈ subs, ∀ {value : Value}, value.WellKeyed →
      sub.screened catalog (sub.screened catalog value) = sub.screened catalog value)
    (hkeys : item.WellKeyed) :
    attr.kind.screened catalog attr.traits (attr.kind.screened catalog attr.traits item) =
      attr.kind.screened catalog attr.traits item := by
  by_cases hsimple : ∀ subs, attr.kind ≠ .complex subs
  · rcases @Kind.screened_of_simple catalog attr.kind attr.traits hsimple item with h | h
    · rw [h, h]
    · rw [h, Kind.screened_invalid]
  · obtain ⟨subs, hkind⟩ := not_forall_not.1 hsimple
    have hcanonical := here.canonical subs hkind
    rw [hkind]
    cases item with
    | record entries =>
      have hscreened := @wellKeyed_foldl catalog subs entries (below subs hkind) hkeys
      rw [Kind.screened_record hcanonical (Value.everywhere_record.1 hkeys).1,
        Kind.screened_record hcanonical (Value.everywhere_record.1 hscreened).1,
        foldl_of_settled (screenedIn_foldl (here.names subs hkind) (below subs hkind) (hagain subs hkind) hkeys)]
    | _ =>
      rw [Kind.screened_of_unfit rfl, Kind.screened_of_unfit rfl]

/-- What validation left of a value, it leaves alone. -/
theorem screened_screened (h : attr.Throughout Settling) (hkeys : value.WellKeyed) :
    attr.screened catalog (attr.screened catalog value) = attr.screened catalog value := by
  induction h generalizing value with
  | @intro attr here below ih =>
    have hitem : ∀ {item : Value}, item.WellKeyed → attr.kind.screened catalog attr.traits
        (attr.kind.screened catalog attr.traits item) = attr.kind.screened catalog attr.traits item :=
      screened_screenedItem here below ih
    cases habsent : value.isAbsent with
    | true => rw [screened_absent habsent, screened_absent habsent]
    | false =>
      cases hmulti : attr.traits.multiValued with
      | false =>
        have hpresent := @Kind.isAbsent_screened catalog _ attr.traits _ here.canonical hkeys habsent
        rw [screened_single hmulti habsent]
        rcases attr.guarded_cases (attr.kind.screened catalog attr.traits value) with hpassed | hblocked
        · rw [hpassed, screened_single hmulti hpresent, hitem hkeys, hpassed]
        · rw [hblocked, screened_invalid]
      | true =>
        cases hlist : value.list? with
        | none => rw [screened_not_list hmulti habsent hlist, screened_invalid]
        | some items =>
          rw [Value.list?_eq_some.1 hlist] at hkeys ⊢
          have hagain : (items.map (attr.kind.screened catalog attr.traits)).map
              (attr.kind.screened catalog attr.traits) = items.map (attr.kind.screened catalog attr.traits) := by
            rw [List.map_map]
            exact List.map_congr_left fun item hmem => hitem (Value.everywhere_list.1 hkeys item hmem)
          rw [screened_list hmulti]
          rcases attr.guarded_cases (.list (items.map (attr.kind.screened catalog attr.traits))) with hpassed | hblocked
          · rw [hpassed, screened_list hmulti, hagain, hpassed]
          · rw [hblocked, screened_invalid]

/-! ## With more marks -/

/-- The attribute takes values that have parts. -/
def HasParts (attr : Attribute) : Prop :=
  attr.traits.multiValued = true ∨ attr.kind = .unknown ∨ ∃ subs, attr.kind = .complex subs

/-- The attribute takes records, and takes them one by one. -/
def TakesRecords (attr : Attribute) : Prop :=
  attr.traits.multiValued = false ∧ (attr.kind = .unknown ∨ ∃ subs, attr.kind = .complex subs)

/-- Where marks can stand in the values of an attribute, its checks are those of the library, and it insists on
canonical values only if none of them has parts. -/
structure Lenient (attr : Attribute) : Prop where
  canonical : attr.kind = .unknown → ∀ canonical, attr.traits.canonical = some canonical → canonical.restricted = false
  checks : attr.HasParts → ∀ check ∈ attr.hooks.checks, check.BuiltIn

theorem Lenient.of_plain (hchecks : attr.hooks.checks = []) (hcanonical : attr.traits.canonical = none) :
    attr.Lenient := by
  refine ⟨fun _ canonical hsome => ?_, fun _ check hcheck => ?_⟩
  · rw [hcanonical] at hsome
    cases hsome
  · rw [hchecks] at hcheck
    cases hcheck

end Attribute

/-- The checks of the library block nothing. -/
theorem Check.BuiltIn.canProceed_run {check : Check} (h : check.BuiltIn) (value : Value) :
    (check.run value).canProceed [] = true := by
  cases check with
  | singlePrimary =>
    show (checkSinglePrimary value).canProceed [] = true
    unfold checkSinglePrimary
    split <;> rfl
  | distinctPairs =>
    exact List.foldlRecOn (motive := fun report : Report => report.canProceed [] = true) _ _ rfl
      fun _ hreport _ _ => hreport
  | custom identity run => exact absurd rfl (h identity run)

/-- Of an attribute that takes anything, and refuses nothing for not being canonical, everything is left. -/
theorem Kind.screened_unknown
    (h : ∀ canonical, traits.canonical = some canonical → canonical.restricted = false) (item : Value) :
    Kind.unknown.screened catalog traits item = item := by
  have hchecked : (traits.checkCanonical item).1.canProceed [] = true := by
    unfold Traits.checkCanonical
    split
    · rfl
    · next canonical hcanonical =>
      rw [h canonical hcanonical]
      split <;> rfl
  have hfits : Kind.unknown.fits item = true := by cases item <;> rfl
  rw [screened, if_pos hfits]
  rcases Kind.unknown.validateItem_cases catalog traits item with hitem | ⟨text, hitem⟩ | ⟨_, _, hkind, -⟩
  · rw [hitem, marked_of_proceed hchecked]
  · rw [hitem, marked_of_proceed]
    rw [Report.canProceed_merge_root, hchecked]
    rfl
  · cases hkind

/-- Only an attribute that takes anything takes a list for an item. -/
theorem Kind.takes_list {items : List Value} (h : kind.screened catalog traits (.list items) = .list items) :
    kind = .unknown := by
  cases kind with
  | unknown => rfl
  | _ =>
    rw [screened_of_unfit rfl] at h
    cases h

/-- And only that one, or one with sub-attributes, takes a record. -/
theorem Kind.takes_record {entries : Record} (h : kind.screened catalog traits (.record entries) = .record entries) :
    kind = .unknown ∨ ∃ subs, kind = .complex subs := by
  cases kind with
  | unknown => exact .inl rfl
  | complex subs => exact .inr ⟨subs, rfl⟩
  | _ =>
    rw [screened_of_unfit rfl] at h
    cases h

namespace Attribute

theorem Lenient.guarded (h : attr.Lenient) (hparts : attr.HasParts) (value : Value) : attr.guarded value = value :=
  if_pos (List.all_eq_true.2 fun check hcheck => (h.checks hparts check hcheck).canProceed_run value)

/-- What is left of a single value that is not invalid is left of it by its kind. -/
theorem kind_screened_of_screened (hsingle : attr.traits.multiValued = false) (hpresent : value.isAbsent = false)
    (hvalid : value.isInvalid = false) (hleft : attr.screened catalog value = value) :
    attr.kind.screened catalog attr.traits value = value := by
  rw [screened_single hsingle hpresent] at hleft
  rcases attr.guarded_cases (attr.kind.screened catalog attr.traits value) with hpassed | hblocked
  · rwa [hpassed] at hleft
  · rw [← hleft, hblocked] at hvalid
    cases hvalid

theorem takesRecords_of_screened {entries : Record} (hleft : attr.screened catalog (.record entries) = .record entries) :
    attr.TakesRecords := by
  cases hmulti : attr.traits.multiValued with
  | true =>
    rw [screened_not_list hmulti rfl rfl] at hleft
    cases hleft
  | false => exact ⟨hmulti, Kind.takes_record (kind_screened_of_screened hmulti rfl rfl hleft)⟩

/-- Of a record that a lenient attribute leaves alone, it leaves the sub-attributes alone when there are more marks. -/
theorem foldl_screenedIn_dimmed {subs : List Attribute} (hnames : Attributes.DistinctNames subs)
    (hsubs : ∀ sub ∈ subs, sub.Throughout Settling)
    (hdimmed : ∀ sub ∈ subs, ∀ {value after : Value}, value.WellKeyed → sub.screened catalog value = value →
      value.Dimmed after → sub.screened catalog after = after)
    {entries after : Record} (hkeys : (Value.record entries).WellKeyed)
    (hleft : subs.foldl (screenedIn catalog) entries = entries) (h : (Value.record entries).Dimmed (.record after)) :
    subs.foldl (screenedIn catalog) after = after := by
  have hsettled := @screenedIn_foldl catalog subs entries hnames hsubs
    (fun sub hsub => screened_screened (hsubs sub hsub)) hkeys
  rw [hleft] at hsettled
  refine foldl_of_settled fun sub hsub => (screenedIn_eq_self_iff (h.wellKeyed hkeys)).2 ?_
  exact hdimmed sub hsub (hkeys.value _) ((screenedIn_eq_self_iff hkeys).1 (hsettled sub hsub)) (h.value _)

/-- So it does with an item of its kind. -/
theorem screenedItem_dimmed (here : attr.Settling) (hlenient : attr.Lenient)
    (below : ∀ subs, attr.kind = .complex subs → ∀ sub ∈ subs, sub.Throughout Settling)
    (hdimmed : ∀ subs, attr.kind = .complex subs → ∀ sub ∈ subs, ∀ {value after : Value}, value.WellKeyed →
      sub.screened catalog value = value → value.Dimmed after → sub.screened catalog after = after)
    {after : Value} (hkeys : item.WellKeyed) (hleft : attr.kind.screened catalog attr.traits item = item)
    (h : item.Dimmed after) : attr.kind.screened catalog attr.traits after = after := by
  by_cases hunknown : attr.kind = .unknown
  · rw [hunknown]
    exact Kind.screened_unknown (hlenient.canonical hunknown) after
  · cases h with
    | kept => exact hleft
    | invalid => exact Kind.screened_invalid _ _ _
    | list => exact absurd (Kind.takes_list hleft) hunknown
    | @record _ entries after hentries hvalues =>
      have hmarks : (Value.record entries).Dimmed (.record after) := .record hentries hvalues
      obtain ⟨subs, hkind⟩ := (Kind.takes_record hleft).resolve_left hunknown
      have hcanonical := here.canonical subs hkind
      rw [hkind, Kind.screened_record hcanonical (Value.everywhere_record.1 hkeys).1, Value.record.injEq] at hleft
      rw [hkind, Kind.screened_record hcanonical (Value.everywhere_record.1 (hmarks.wellKeyed hkeys)).1,
        foldl_screenedIn_dimmed (here.names subs hkind) (below subs hkind) (hdimmed subs hkind) hkeys hleft hmarks]

/-- And with a list of such items. -/
theorem map_screened_dimmed {screen : Value → Value} {items after : List Value}
    (hitem : ∀ {item after : Value}, item.WellKeyed → screen item = item → item.Dimmed after → screen after = after)
    (hkeys : (Value.list items).WellKeyed) (hleft : items.map screen = items) (hlength : after.length = items.length)
    (hmarks : ∀ (index : Nat) (a b : Value), items[index]? = some a → after[index]? = some b →
      a.Marked (Value.belowIndex (fun _ => True) index) b) : after.map screen = after := by
  have hfixed := List.map_inj_left.1 (hleft.trans (List.map_id items).symm)
  refine (List.map_congr_left fun changed hchanged => ?_).trans (List.map_id after)
  obtain ⟨index, hindex, rfl⟩ := List.getElem_of_mem hchanged
  have hold : index < items.length := hlength ▸ hindex
  have hmem := List.getElem_mem hold
  refine hitem (Value.everywhere_list.1 hkeys _ hmem) (hfixed _ hmem) ?_
  exact hmarks index _ _ (List.getElem?_eq_getElem hold) (List.getElem?_eq_getElem hindex)

/-- A lenient attribute that leaves a value alone does so when there are more marks in it. -/
theorem screened_dimmed (h : attr.Throughout Settling) (hlenient : attr.Throughout Lenient) {after : Value}
    (hkeys : value.WellKeyed) (hleft : attr.screened catalog value = value) (hdimmed : value.Dimmed after) :
    attr.screened catalog after = after := by
  induction h generalizing value after with
  | @intro attr here below ih =>
    obtain ⟨hlenient, hlenientBelow⟩ := hlenient
    have hitem : ∀ {item after : Value}, item.WellKeyed → attr.kind.screened catalog attr.traits item = item →
        item.Dimmed after → attr.kind.screened catalog attr.traits after = after :=
      screenedItem_dimmed here hlenient below fun subs hkind sub hsub _ _ =>
        ih subs hkind sub hsub (hlenientBelow subs hkind sub hsub)
    -- a value without parts is kept or marked as a whole
    cases hdimmed with
    | kept => exact hleft
    | invalid => exact screened_invalid _ _
    | list hlength hmarks =>
      cases hmulti : attr.traits.multiValued with
      | false =>
        have hkind := kind_screened_of_screened hmulti rfl rfl hleft
        have hparts : attr.HasParts := .inr (.inl (Kind.takes_list hkind))
        rw [screened_single hmulti rfl, hitem hkeys hkind (.list hlength hmarks), hlenient.guarded hparts]
      | true =>
        have hparts : attr.HasParts := .inl hmulti
        rw [screened_list hmulti, hlenient.guarded hparts, Value.list.injEq] at hleft
        rw [screened_list hmulti, hlenient.guarded hparts, map_screened_dimmed hitem hkeys hleft hlength hmarks]
    | record hentries hmarks =>
      obtain ⟨hsingle, htakes⟩ := takesRecords_of_screened hleft
      have hkind := kind_screened_of_screened hsingle rfl rfl hleft
      rw [screened_single hsingle rfl, hitem hkeys hkind (.record hentries hmarks), hlenient.guarded (.inr htakes)]

end Attribute

end Scim
