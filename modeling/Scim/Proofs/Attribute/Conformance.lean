import Scim.Attribute.Declaration
import Scim.Proofs.Attribute.Marking
import Scim.Proofs.Report.Clean

/-!
# Values that conform to an attribute

What a declaration asks of a value, said without any report: which shape it has, that each item is of the
type of the kind and follows its rules, and that the sub-attributes of a record conform in turn.  Validation
reports no violation exactly of the values that conform.

Validation stops early, passes over what it marked, and goes on only where nothing is blocked.  None of this
shows in the answer to whether anything was found: what is found is never taken back, so after the first
violation the rest may be left out, and before it nothing is marked and nothing is blocked.

## Main results

* `Attribute.Conforms`: the values that conform to an attribute.
* `Attribute.validate_clean_iff`: validation finds no violation exactly in those values.
* `Attribute.declare_builtWithPrimary`: which declared attributes allow one primary element only.
-/

namespace Scim

open Text

/-! ## Conforming values -/

/-- What a kind asks of a text beyond being one. -/
def Kind.Admits (catalog : Catalog) : Kind → String → Prop
  | .binary, text => Base64.encodes text = true
  | .dateTime, text => Timestamp.denotes text = true
  | .reference .outside, text => Url.namesHost text = true
  | .reference (.resource types), text => namesResource catalog types text = true
  | _, _ => True

/-- If canonical values are restricted, the value is one of them. -/
def Traits.Allows (traits : Traits) (value : Value) : Prop :=
  ∀ canonical, traits.canonical = some canonical → canonical.restricted = true →
    isCanonical traits.caseExact canonical.values value = true

/-- A value is marked as the primary one of its list. -/
def Value.IsPrimary (value : Value) : Prop :=
  ∃ entries : Record, value = .record entries ∧ entries.get? "primary" = some (.bool true)

/-- Of any two elements of a list at most one is primary. -/
def Value.OnePrimary (value : Value) : Prop :=
  ∀ items, value = .list items → items.Pairwise fun a b => ¬ (a.IsPrimary ∧ b.IsPrimary)

/-- The attribute was declared as one of whose elements at most one is primary. -/
def Attribute.BuiltWithPrimary (attr : Attribute) : Prop := Check.singlePrimary ∈ attr.hooks.checks

/-- Of the attributes that are declared without that check, those are that are multi-valued and have a
sub-attribute `primary`. -/
theorem Attribute.declare_builtWithPrimary {name : String} {kind : Kind} {traits : Traits} {hooks : Hooks}
    {attr : Attribute} (h : declare name kind traits hooks = .ok attr)
    (hhooks : Check.singlePrimary ∉ hooks.checks) :
    attr.BuiltWithPrimary ↔ attr.traits.multiValued = true ∧
      ∃ subs : Attributes, attr.kind = .complex subs ∧ (subs.spelled? "primary").isSome = true := by
  unfold declare at h
  cases hname : AttrName.parse name with
  | error fault =>
    rw [hname] at h
    cases h
  | ok parsed =>
    rw [hname] at h
    cases h
    unfold Attribute.BuiltWithPrimary
    dsimp only
    generalize declaredKind traits.multiValued kind = declared
    cases hmulti : traits.multiValued with
    | false => simp [hhooks]
    | true =>
      cases declared with
      | complex subs =>
        simp [hhooks, shapeChecks]
      | _ => simp [hhooks]

mutual

/-- The values that conform to an attribute: none at all, or a list of conforming items if it is
multi-valued, or else one conforming item. -/
inductive Attribute.Conforms (catalog : Catalog) : Attribute → Value → Prop where
  | absent {attr : Attribute} {value : Value} (habsent : value.isAbsent = true) :
      Attribute.Conforms catalog attr value
  | single {attr : Attribute} {value : Value} (hsingle : attr.traits.multiValued = false)
      (hitem : Kind.Conforms catalog attr.traits attr.kind value)
      (hprimary : attr.BuiltWithPrimary → value.OnePrimary) : Attribute.Conforms catalog attr value
  | list {attr : Attribute} {items : List Value} (hmulti : attr.traits.multiValued = true)
      (hitems : ∀ item ∈ items, Kind.Conforms catalog attr.traits attr.kind item)
      (hprimary : attr.BuiltWithPrimary → (Value.list items).OnePrimary) :
      Attribute.Conforms catalog attr (.list items)

/-- The items that conform to a kind: values of its type that are allowed and follow its rules. -/
inductive Kind.Conforms (catalog : Catalog) : Traits → Kind → Value → Prop where
  | simple {traits : Traits} {kind : Kind} {value : Value} (hsimple : ∀ subs, kind ≠ .complex subs)
      (hfits : kind.fits value = true) (hallowed : traits.Allows value)
      (htext : ∀ text, value = .text text → kind.Admits catalog text) :
      Kind.Conforms catalog traits kind value
  | complex {traits : Traits} {subs : List Attribute} {entries : Record}
      (hallowed : traits.Allows (.record entries))
      (hsubs : ∀ sub ∈ subs, Attribute.Conforms catalog sub (Record.value entries sub.name.text)) :
      Kind.Conforms catalog traits (.complex subs) (.record entries)

end

variable {catalog : Catalog}

theorem Kind.Conforms.fits {traits : Traits} {kind : Kind} {value : Value}
    (h : Kind.Conforms catalog traits kind value) : kind.fits value = true := by
  cases h with
  | simple _ hfits => exact hfits
  | complex => rfl

namespace Attribute

variable {attr : Attribute} {value : Value}

/-- What conforms to an attribute that is not multi-valued, if there is a value. -/
theorem conforms_single_iff (hsingle : attr.traits.multiValued = false) (habsent : value.isAbsent = false) :
    attr.Conforms catalog value ↔
      Kind.Conforms catalog attr.traits attr.kind value ∧ (attr.BuiltWithPrimary → value.OnePrimary) := by
  constructor
  · intro h
    cases h with
    | absent h =>
      rw [h] at habsent
      cases habsent
    | single _ hitem hprimary => exact ⟨hitem, hprimary⟩
    | list hmulti =>
      rw [hmulti] at hsingle
      cases hsingle
  · exact fun h => .single hsingle h.1 h.2

/-- Which lists conform to a multi-valued attribute. -/
theorem conforms_list_iff (hmulti : attr.traits.multiValued = true) {items : List Value} :
    attr.Conforms catalog (.list items) ↔
      (∀ item ∈ items, Kind.Conforms catalog attr.traits attr.kind item) ∧
        (attr.BuiltWithPrimary → (Value.list items).OnePrimary) := by
  constructor
  · intro h
    cases h with
    | absent h => cases h
    | single hsingle =>
      rw [hmulti] at hsingle
      cases hsingle
    | list _ hitems hprimary => exact ⟨hitems, hprimary⟩
  · exact fun h => .list hmulti h.1 h.2

/-- Nothing else conforms to a multi-valued attribute. -/
theorem not_conforms_of_not_list (hmulti : attr.traits.multiValued = true) (habsent : value.isAbsent = false)
    (hlist : value.list? = none) : ¬ attr.Conforms catalog value := by
  intro h
  cases h with
  | absent h =>
    rw [h] at habsent
    cases habsent
  | single hsingle =>
    rw [hmulti] at hsingle
    cases hsingle
  | list => cases hlist

end Attribute

/-! ## Rules of single items -/

theorem Kind.checkType_clean_iff {kind : Kind} {value : Value} :
    (kind.checkType value).Clean ↔ kind.fits value = true := Report.clean_require_iff

theorem Kind.checkText_clean_iff {kind : Kind} {text : String} :
    (kind.checkText catalog text).Clean ↔ kind.Admits catalog text := by
  cases kind with
  | binary => exact Report.clean_require_iff
  | dateTime => exact Report.clean_require_iff
  | reference target =>
    cases target with
    | outside => exact Report.clean_require_iff
    | resource types => exact Report.clean_require_iff
    | uri => exact iff_of_true Report.clean_empty trivial
  | _ => exact iff_of_true Report.clean_empty trivial

/-- Either the value is allowed, and there may be advice; or it is not, and this is all that is reported. -/
theorem Traits.checkCanonical_spec (traits : Traits) (value : Value) :
    traits.Allows value ∧ (traits.checkCanonical value).1.Clean ∧ (traits.checkCanonical value).2 = false ∨
    ¬ traits.Allows value ∧ ¬ (traits.checkCanonical value).1.Clean ∧
      (traits.checkCanonical value).2 = true := by
  unfold Traits.checkCanonical Traits.Allows
  cases hcanonical : traits.canonical with
  | none =>
    refine .inl ⟨?_, Report.clean_empty, rfl⟩
    intro canonical h
    cases h
  | some canonical =>
    dsimp only
    by_cases hone : isCanonical traits.caseExact canonical.values value = true
    · rw [if_pos hone]
      refine .inl ⟨fun other h _ => ?_, Report.clean_empty, rfl⟩
      cases h
      exact hone
    · rw [if_neg hone]
      cases hrestricted : canonical.restricted with
      | true =>
        refine .inr ⟨fun h => hone (h canonical rfl hrestricted), ?_, rfl⟩
        exact Report.not_clean_ofViolation _ _
      | false =>
        refine .inl ⟨fun other h hother => ?_, Report.clean_addAdvice_iff.2 Report.clean_empty, rfl⟩
        cases h
        rw [hrestricted] at hother
        cases hother

/-- For an item of the type of its kind, the rules of a kind without sub-attributes find no violation exactly
if the item conforms. -/
theorem Kind.validateItem_clean_iff_of_simple {kind : Kind} (hsimple : ∀ subs, kind ≠ .complex subs)
    (traits : Traits) {value : Value} (hfits : kind.fits value = true) :
    (kind.validateItem catalog traits value).1.Clean ↔ Kind.Conforms catalog traits kind value := by
  have hconforms : Kind.Conforms catalog traits kind value ↔
      traits.Allows value ∧ ∀ text, value = .text text → kind.Admits catalog text := by
    constructor
    · intro h
      cases h with
      | simple _ _ hallowed htext => exact ⟨hallowed, htext⟩
      | complex => exact absurd rfl (hsimple _)
    · exact fun h => .simple hsimple hfits h.1 h.2
  rw [hconforms]
  have hcanonical := traits.checkCanonical_spec value
  rw [Kind.validateItem]
  · generalize traits.checkCanonical value = checked at hcanonical ⊢
    obtain ⟨report, final⟩ := checked
    rcases hcanonical with ⟨hallowed, hclean, hfinal⟩ | ⟨hnot, hunclean, hfinal⟩
    · dsimp only at hclean hfinal
      subst hfinal
      cases value with
      | text text =>
        dsimp only
        rw [Report.clean_merge_iff, Kind.checkText_clean_iff]
        simp [hallowed, hclean]
      | _ => simp [hallowed, hclean]
    · dsimp only at hunclean hfinal
      subst hfinal
      simp [hnot, hunclean]
  · exact hsimple

/-! ## Loops -/

/-- Checking items one by one finds no violation exactly if none is found in any item. -/
theorem checkItems_clean_iff {check : Value → Report × Value} {items : List Value} {report : Report}
    {index : Nat} :
    (checkItems check report index items).1.Clean ↔
      report.Clean ∧ ∀ item ∈ items, (check item).1.Clean := by
  induction items generalizing report index with
  | nil => simp [checkItems]
  | cons item items ih =>
    rw [checkItems]
    dsimp only
    rw [ih, Report.clean_merge_iff, List.forall_mem_cons, and_assoc]

/-- Checks are run one after the other as long as nothing blocks the value; if what is found in the end holds no
violation, all were run. -/
theorem runChecks_iff {Q : Report → Prop} (hmerge : ∀ a b : Report, Q (a.merge b []) ↔ Q a ∧ Q b)
    (hclean : ∀ report, Q report → report.Clean) {checks : List Check}
    (hchecks : ∀ check ∈ checks, check.BlocksRootOnly) {value : Value} {report : Report} (hsound : report.Sound) :
    Q (runChecks checks value report) ↔ Q report ∧ ∀ check ∈ checks, Q (check.run value) := by
  unfold runChecks
  induction checks generalizing report with
  | nil => simp
  | cons check checks ih =>
    have hrun := check.run_rootOnly (hchecks check List.mem_cons_self) value
    have hrest : ∀ later ∈ checks, later.BlocksRootOnly :=
      fun later hlater => hchecks later (List.mem_cons_of_mem _ hlater)
    rw [List.foldl_cons, List.forall_mem_cons]
    cases hfree : report.canProceed [] with
    | true => rw [if_pos rfl, ih hrest (hsound.merge hrun.sound []), hmerge, and_assoc]
    | false =>
      -- what blocks the value is a violation
      have hnot : ¬ Q report := by
        intro hreport
        rw [(hclean report hreport).canProceed hsound] at hfree
        cases hfree
      rw [if_neg Bool.false_ne_true, ih hrest hsound]
      exact iff_of_false (fun h => hnot h.1) (fun h => hnot h.1)

/-- Checks find no violation exactly if none of them does. -/
theorem runChecks_clean_iff {checks : List Check} (hchecks : ∀ check ∈ checks, check.BlocksRootOnly)
    {value : Value} {report : Report} (hsound : report.Sound) :
    (runChecks checks value report).Clean ↔
      report.Clean ∧ ∀ check ∈ checks, (check.run value).Clean :=
  runChecks_iff (fun _ _ => Report.clean_merge_iff) (fun _ => id) hchecks hsound

/-- Checks find nothing at all exactly if none of them does. -/
theorem runChecks_isEmpty_iff {checks : List Check} (hchecks : ∀ check ∈ checks, check.BlocksRootOnly)
    {value : Value} {report : Report} (hsound : report.Sound) :
    (runChecks checks value report).isEmpty = true ↔
      report.isEmpty = true ∧ ∀ check ∈ checks, (check.run value).isEmpty = true :=
  runChecks_iff (fun _ _ => Report.isEmpty_merge_iff) (fun _ hempty => (Report.isEmpty_iff.1 hempty).1) hchecks hsound

/-! ## Primary elements -/

/-- A plain name leads to the entry under it: where it is no key of the record, it is read as the name of an
attribute, and there is none of that name either. -/
theorem Record.get_name (record : Record) (name : AttrName)
    (hname : Path.split? name.text = some (none, ⟨name, none⟩)) :
    record.get (.path name.text) = record.value name.text := by
  unfold Record.get
  cases hget : record.get? name.text with
  | none =>
    have hparts : record.resolve? name.text = some (none, ⟨name, none⟩) := by
      rw [Record.resolve?, hget, hname]
    rw [Record.resolve_of_resolve? hparts]
    show Record.getAttr record ⟨name, none⟩ = _
    rw [Record.getAttr_name]
  | some value => rw [Record.resolve_of_stored hget]

theorem isPrimary_iff {item : Record} :
    isPrimary item = true ↔ item.get? "primary" = some (.bool true) := by
  have hget : item.get (.path "primary") = item.value "primary" :=
    Record.get_name item ⟨"primary", by decide⟩ (by rfl)
  unfold isPrimary
  rw [hget, Record.value]
  cases item.get? "primary" with
  | none => simp [Value.bool?]
  | some value => cases value <;> simp [Value.bool?]

/-- A list has at most one element exactly if no two of its elements may stand in it. -/
private theorem length_le_one_iff {α : Type} {list : List α} :
    list.length ≤ 1 ↔ list.Pairwise fun _ _ => False := by
  cases list with
  | nil => simp
  | cons first rest =>
    cases rest with
    | nil => simp
    | cons second rest =>
      apply iff_of_false (by simp)
      intro h
      exact (List.pairwise_cons.1 h).1 second List.mem_cons_self

/-- Counting the records that are marked is counting the elements that are primary. -/
theorem onePrimary_list_iff {items : List Value} :
    (Value.list items).OnePrimary ↔ ((recordItems (.list items)).filter isPrimary).length ≤ 1 := by
  have hlist : (Value.list items).OnePrimary ↔
      items.Pairwise fun a b => ¬ (a.IsPrimary ∧ b.IsPrimary) := by
    constructor
    · exact fun h => h items rfl
    · intro h others heq
      cases heq
      exact h
  have hrecords : recordItems (.list items) = items.filterMap Value.record? := rfl
  rw [hlist, length_le_one_iff, List.pairwise_filter, hrecords, List.pairwise_filterMap]
  apply List.Pairwise.iff
  intro a b
  constructor
  · intro hnot x hx y hy hxp hyp
    refine hnot ⟨⟨x, ?_, isPrimary_iff.1 hxp⟩, ⟨y, ?_, isPrimary_iff.1 hyp⟩⟩
    · exact Value.record?_eq_some.1 hx
    · exact Value.record?_eq_some.1 hy
  · rintro h ⟨⟨x, rfl, hx⟩, ⟨y, rfl, hy⟩⟩
    exact h x rfl y rfl (isPrimary_iff.2 hx) (isPrimary_iff.2 hy)

/-- No violation is found in a list exactly if it has one primary element at most. -/
theorem checkSinglePrimary_clean_iff {value : Value} :
    (checkSinglePrimary value).Clean ↔ value.OnePrimary := by
  cases hlist : value.list? with
  | none =>
    rw [checkSinglePrimary_of_not_list hlist]
    apply iff_of_true Report.clean_empty
    intro items heq
    rw [heq] at hlist
    cases hlist
  | some items =>
    rw [Value.list?_eq_some.1 hlist, onePrimary_list_iff, checkSinglePrimary]
    split
    · next hmany => exact iff_of_false (Report.not_clean_ofViolation _ _) (by omega)
    · next hfew => exact iff_of_true Report.clean_empty (by omega)

/-- Advice is no violation. -/
theorem checkDistinctPairs_clean (value : Value) : (checkDistinctPairs value).Clean := by
  have hloop : ∀ (pairs : List ((Value × Value) × Nat)) (report : Report), report.Clean →
      (pairs.foldl (fun report _ => report.addAdvice .repeatedPair []) report).Clean := by
    intro pairs
    induction pairs with
    | nil => exact fun report h => h
    | cons pair pairs ih => exact fun report h => ih _ (Report.clean_addAdvice_iff.2 h)
  exact hloop _ _ Report.clean_empty

/-- Of the built-in checks only that of primary elements finds violations. -/
theorem builtIn_clean_iff {attr : Attribute} (hchecks : ∀ check ∈ attr.hooks.checks, check.BuiltIn)
    {value : Value} :
    (∀ check ∈ attr.hooks.checks, (check.run value).Clean) ↔ (attr.BuiltWithPrimary → value.OnePrimary) := by
  constructor
  · intro h hprimary
    exact checkSinglePrimary_clean_iff.1 (h _ hprimary)
  · intro h check hcheck
    cases check with
    | singlePrimary => exact checkSinglePrimary_clean_iff.2 (h hcheck)
    | distinctPairs => exact checkDistinctPairs_clean value
    | custom identity run => exact absurd rfl (hchecks _ hcheck identity run)

/-- If nothing was found before, the built-in checks of an attribute find nothing exactly if one element at
most is primary, where that is asked for. -/
theorem Attribute.runChecks_clean_iff {attr : Attribute} (hchecks : ∀ check ∈ attr.hooks.checks, check.BuiltIn)
    {value : Value} {report : Report} (hsound : report.Sound) :
    (runChecks attr.hooks.checks value report).Clean ↔
      report.Clean ∧ (attr.BuiltWithPrimary → value.OnePrimary) := by
  have hroot : ∀ check ∈ attr.hooks.checks, check.BlocksRootOnly :=
    fun check hcheck => (hchecks check hcheck).blocksRootOnly
  rw [Scim.runChecks_clean_iff hroot hsound, builtIn_clean_iff hchecks]

/-! ## Attributes -/

/-- An item that is validated without violations is left as it is. -/
theorem Kind.validateItem_eq_of_clean {kind : Kind} (hkind : kind.EveryCheck Check.BlocksRootOnly)
    {traits : Traits} {item : Value} (hjson : item.FromJson)
    (hclean : (kind.validateItem catalog traits item).1.Clean) :
    (kind.validateItem catalog traits item).2 = item := by
  have htracks := @Kind.validateItem_tracks catalog kind hkind traits item hjson.wellKeyed
  exact htracks.eq_of_free (htracks.sound.blocks_eq_nil hclean)

section

variable {attr : Attribute} (hchecks : ∀ check ∈ attr.hooks.checks, check.BuiltIn)
  (hkind : attr.kind.EveryCheck Check.BlocksRootOnly)
  (hitems : ∀ item : Value, item.FromJson → attr.kind.fits item = true →
    ((attr.kind.validateItem catalog attr.traits item).1.Clean ↔
      Kind.Conforms catalog attr.traits attr.kind item))

include hitems

/-- No item of a list that was read is invalid, so the rules are checked on each of them. -/
private theorem Attribute.checkRules_clean_iff {types : Report} (hclean : types.Clean) {items : List Value}
    (hjson : (Value.list items).FromJson) (hfits : ∀ item ∈ items, attr.kind.fits item = true) :
    (checkItems (unlessInvalid (attr.kind.validateItem catalog attr.traits)) types 0 items).1.Clean ↔
      ∀ item ∈ items, Kind.Conforms catalog attr.traits attr.kind item := by
  rw [checkItems_clean_iff]
  constructor
  · intro h item hitem
    have hvalid := (hjson.item hitem).isInvalid
    have hone := h.2 item hitem
    rw [unlessInvalid_of_valid hvalid] at hone
    exact (hitems item (hjson.item hitem) (hfits item hitem)).1 hone
  · intro h
    refine ⟨hclean, fun item hitem => ?_⟩
    rw [unlessInvalid_of_valid (hjson.item hitem).isInvalid]
    exact (hitems item (hjson.item hitem) (hfits item hitem)).2 (h item hitem)

include hchecks hkind

/-- A single value is validated without violations exactly if it conforms. -/
private theorem Attribute.validate_clean_iff_of_single (hsingle : attr.traits.multiValued = false)
    {value : Value} (hjson : value.FromJson) (habsent : value.isAbsent = false) :
    (attr.validate catalog value).1.Clean ↔ attr.Conforms catalog value := by
  have htype := attr.kind.checkType_rootOnly value
  rw [attr.conforms_single_iff hsingle habsent, attr.validate_single hsingle habsent,
    Kind.canProceed_checkType]
  cases hfits : attr.kind.fits value with
  | false =>
    have hunclean : ¬ (attr.kind.checkType value).Clean := by
      rw [Kind.checkType_clean_iff, hfits]
      exact Bool.false_ne_true
    apply iff_of_false hunclean
    intro h
    have hfits' := h.1.fits
    rw [hfits] at hfits'
    cases hfits'
  | true =>
    have hclean := Kind.checkType_clean_iff.2 hfits
    have hrules := @Kind.validateItem_tracks catalog attr.kind hkind attr.traits value hjson.wellKeyed
    have hitem := hitems value hjson hfits
    rw [if_pos rfl]
    dsimp only
    rw [attr.runChecks_clean_iff hchecks (htype.sound.merge hrules.sound []), Report.clean_merge_iff]
    constructor
    · rintro ⟨⟨-, hfound⟩, hprimary⟩
      rw [Kind.validateItem_eq_of_clean hkind hjson hfound] at hprimary
      exact ⟨hitem.1 hfound, hprimary⟩
    · rintro ⟨hconform, hprimary⟩
      have hfound := hitem.2 hconform
      rw [Kind.validateItem_eq_of_clean hkind hjson hfound]
      exact ⟨⟨hclean, hfound⟩, hprimary⟩

/-- A list is validated without violations exactly if all of its items conform. -/
private theorem Attribute.validate_clean_iff_of_list (hmulti : attr.traits.multiValued = true)
    {items : List Value} (hjson : (Value.list items).FromJson) :
    (attr.validate catalog (.list items)).1.Clean ↔ attr.Conforms catalog (.list items) := by
  have htypes := attr.checkTypes_tracks hmulti hjson.wellKeyed
  have htypesClean : (checkItems (fun item => (attr.kind.checkType item, item)) .empty 0 items).1.Clean ↔
      ∀ item ∈ items, attr.kind.fits item = true := by
    rw [checkItems_clean_iff]
    simp [Report.clean_empty, Kind.checkType_clean_iff]
  rw [attr.conforms_list_iff hmulti, attr.validate_list hmulti]
  generalize checkItems (fun item => (attr.kind.checkType item, item)) .empty 0 items = checked
    at htypes htypesClean ⊢
  obtain ⟨types, typed⟩ := checked
  dsimp only at htypes htypesClean ⊢
  have hrules := @Attribute.checkRules_tracks catalog attr
    (fun item hitem => Kind.validateItem_tracks attr.kind hkind attr.traits hitem) hmulti _ _ _
    hjson.wellKeyed htypes
  by_cases hfits : ∀ item ∈ items, attr.kind.fits item = true
  · have hclean := htypesClean.2 hfits
    have hsame : typed = items := Value.list.inj (htypes.eq_of_free (htypes.sound.blocks_eq_nil hclean))
    subst hsame
    rw [if_pos (hclean.canProceed htypes.sound [])]
    have hfound := attr.checkRules_clean_iff hitems hclean hjson hfits
    rw [attr.runChecks_clean_iff hchecks hrules.sound]
    constructor
    · rintro ⟨hrulesClean, hprimary⟩
      rw [hrules.eq_of_free (hrules.sound.blocks_eq_nil hrulesClean)] at hprimary
      exact ⟨hfound.1 hrulesClean, hprimary⟩
    · rintro ⟨hconform, hprimary⟩
      have hrulesClean := hfound.2 hconform
      rw [hrules.eq_of_free (hrules.sound.blocks_eq_nil hrulesClean)]
      exact ⟨hrulesClean, hprimary⟩
  · have hunclean : ¬ types.Clean := fun h => hfits (htypesClean.1 h)
    refine iff_of_false ?_ fun h => hfits fun item hitem => (h.1 item hitem).fits
    split
    · rw [attr.runChecks_clean_iff hchecks hrules.sound, checkItems_clean_iff]
      exact fun h => hunclean h.1.1
    · exact hunclean

/-- If the rules of the kind find no violation exactly in the items that conform, validation finds none
exactly in the values that do. -/
theorem Attribute.validate_clean_iff_of_items {value : Value} (hjson : value.FromJson) :
    (attr.validate catalog value).1.Clean ↔ attr.Conforms catalog value := by
  cases habsent : value.isAbsent with
  | true =>
    rw [attr.validate_absent habsent]
    exact iff_of_true Report.clean_empty (.absent habsent)
  | false =>
    cases hmulti : attr.traits.multiValued with
    | false => exact attr.validate_clean_iff_of_single hchecks hkind hitems hmulti hjson habsent
    | true =>
      cases hlist : value.list? with
      | none =>
        rw [attr.validate_not_list hmulti habsent hlist]
        exact iff_of_false (Report.not_clean_ofViolation _ _)
          (attr.not_conforms_of_not_list hmulti habsent hlist)
      | some items =>
        rw [Value.list?_eq_some.1 hlist] at hjson ⊢
        exact attr.validate_clean_iff_of_list hchecks hkind hitems hmulti hjson

end

/-- What was found before stays found while sub-attributes are checked. -/
theorem clean_of_validateSubs {subs : List Attribute} {entries : Record} {report : Report}
    (h : (validateSubs catalog subs entries report).1.Clean) : report.Clean := by
  induction subs generalizing entries report with
  | nil =>
    rw [validateSubs] at h
    exact h
  | cons sub subs ih =>
    rw [validateSubs] at h
    dsimp only at h
    split at h
    · exact ih h
    · split at h
      · exact ih h
      · exact (Report.clean_merge_iff.1 (ih h)).1

section

variable {sub : Attribute} {subs : List Attribute} {entries : Record}
  (hrest : ∀ report : Report, (validateSubs catalog subs entries report).1.Clean ↔ report.Clean ∧
    ∀ sub ∈ subs, sub.Conforms catalog (Record.value entries sub.name.text))

include hrest

/-- A sub-attribute that a record does not have is passed over, and conforms. -/
private theorem validateSubs_clean_iff_of_none {report : Report}
    (hvalue : entries.get? sub.name.text = none) :
    (validateSubs catalog (sub :: subs) entries report).1.Clean ↔ report.Clean ∧
      sub.Conforms catalog (Record.value entries sub.name.text) ∧
        ∀ sub ∈ subs, sub.Conforms catalog (Record.value entries sub.name.text) := by
  have hconforms : sub.Conforms catalog (Record.value entries sub.name.text) := by
    rw [Record.value, hvalue]
    exact .absent rfl
  rw [validateSubs]
  dsimp only
  rw [hvalue]
  dsimp only
  rw [hrest]
  simp [hconforms]

/-- One that it has is validated; if nothing is found its value is put back as it was. -/
private theorem validateSubs_clean_iff_of_some {report : Report} {value : Value}
    (hchecks : sub.EveryCheck Check.BuiltIn) (hjson : (Value.record entries).FromJson)
    (hvalue : entries.get? sub.name.text = some value)
    (hsub : (sub.validate catalog value).1.Clean ↔ sub.Conforms catalog value) :
    (validateSubs catalog (sub :: subs) entries report).1.Clean ↔ report.Clean ∧
      sub.Conforms catalog (Record.value entries sub.name.text) ∧
        ∀ sub ∈ subs, sub.Conforms catalog (Record.value entries sub.name.text) := by
  have hfound : Record.value entries sub.name.text = value := by
    rw [Record.value, hvalue]
    rfl
  rw [hfound, ← hsub, validateSubs]
  dsimp only
  rw [hvalue]
  dsimp only
  split
  · next hmissing =>
    have habsent : value.isAbsent = true := by
      cases value with
      | missing => rfl
      | _ => cases hmissing
    rw [hrest, sub.validate_absent habsent]
    simp [Report.clean_empty]
  · by_cases hclean : (sub.validate catalog value).1.Clean
    · obtain ⟨hdistinct, hvalues⟩ := Value.everywhere_record.1 hjson.wellKeyed
      obtain ⟨stored, hstored, -⟩ := Entries.mem_of_get? hvalue
      have hsubChecks := Attribute.EveryCheck.imp (fun _ h => Check.BuiltIn.blocksRootOnly h) hchecks
      have htracks := @Attribute.validate_tracks catalog sub hsubChecks _ (hvalues _ hstored)
      have hsame : marked (sub.validate catalog value).1 (sub.validate catalog value).2 = value := by
        rw [marked, if_pos (hclean.canProceed htracks.sound [])]
        exact htracks.eq_of_free (htracks.sound.blocks_eq_nil hclean)
      rw [hsame, Entries.replace_self hdistinct hvalue, hrest, Report.clean_merge_iff, and_assoc]
    · refine iff_of_false (fun h => hclean ?_) fun h => hclean h.2.1
      exact (Report.clean_merge_iff.1 (clean_of_validateSubs h)).2

end

mutual

/-- Validation finds no violation exactly in the values that conform. -/
theorem Attribute.validate_clean_iff : ∀ (attr : Attribute), attr.EveryCheck Check.BuiltIn →
    ∀ {value : Value}, value.FromJson →
      ((attr.validate catalog value).1.Clean ↔ attr.Conforms catalog value)
  | ⟨_, kind, traits, _⟩, hchecks, _, hjson =>
    Attribute.validate_clean_iff_of_items hchecks.1
      (Kind.EveryCheck.imp (fun _ h => Check.BuiltIn.blocksRootOnly h) hchecks.2)
      (fun _ hitem hfits => Kind.validateItem_clean_iff kind hchecks.2 traits hitem hfits) hjson

/-- Of an item of the type of its kind, the rules find no violation exactly if it conforms. -/
theorem Kind.validateItem_clean_iff : ∀ (kind : Kind), kind.EveryCheck Check.BuiltIn →
    ∀ (traits : Traits) {value : Value}, value.FromJson → kind.fits value = true →
      ((kind.validateItem catalog traits value).1.Clean ↔ Kind.Conforms catalog traits kind value)
  | .complex subs, hchecks, traits, .record entries, hjson, _ => by
    have hconforms : Kind.Conforms catalog traits (.complex subs) (.record entries) ↔
        traits.Allows (.record entries) ∧
          ∀ sub ∈ subs, sub.Conforms catalog (Record.value entries sub.name.text) := by
      constructor
      · intro h
        cases h with
        | simple hsimple => exact absurd rfl (hsimple subs)
        | complex hallowed hsubs => exact ⟨hallowed, hsubs⟩
      · exact fun h => .complex h.1 h.2
    have hcanonical := traits.checkCanonical_spec (.record entries)
    have hsubs : ∀ report : Report, (validateSubs catalog subs entries report).1.Clean ↔ report.Clean ∧
        ∀ sub ∈ subs, sub.Conforms catalog (Record.value entries sub.name.text) :=
      fun report => validateSubs_clean_iff subs hchecks hjson
    rw [hconforms, Kind.validateItem]
    generalize traits.checkCanonical (.record entries) = checked at hcanonical ⊢
    obtain ⟨report, final⟩ := checked
    rcases hcanonical with ⟨hallowed, hclean, hfinal⟩ | ⟨hnot, hunclean, hfinal⟩
    · dsimp only at hclean hfinal
      subst hfinal
      dsimp only
      rw [hsubs]
      simp [hallowed, hclean]
    · dsimp only at hunclean hfinal
      subst hfinal
      simp [hnot, hunclean]
  | .unknown, _, traits, _, _, h => Kind.validateItem_clean_iff_of_simple (by simp) traits h
  | .boolean, _, traits, _, _, h => Kind.validateItem_clean_iff_of_simple (by simp) traits h
  | .integer, _, traits, _, _, h => Kind.validateItem_clean_iff_of_simple (by simp) traits h
  | .decimal, _, traits, _, _, h => Kind.validateItem_clean_iff_of_simple (by simp) traits h
  | .string, _, traits, _, _, h => Kind.validateItem_clean_iff_of_simple (by simp) traits h
  | .binary, _, traits, _, _, h => Kind.validateItem_clean_iff_of_simple (by simp) traits h
  | .dateTime, _, traits, _, _, h => Kind.validateItem_clean_iff_of_simple (by simp) traits h
  | .reference _, _, traits, _, _, h => Kind.validateItem_clean_iff_of_simple (by simp) traits h

/-- In the sub-attributes of a record no violation is found exactly if each value conforms that there is. -/
theorem validateSubs_clean_iff : ∀ (subs : List Attribute), everyCheck Check.BuiltIn subs →
    ∀ {entries : Record} {report : Report}, (Value.record entries).FromJson →
      ((validateSubs catalog subs entries report).1.Clean ↔
        report.Clean ∧ ∀ sub ∈ subs, sub.Conforms catalog (Record.value entries sub.name.text))
  | [], _, _, _, _ => by simp [validateSubs]
  | sub :: subs, hchecks, entries, report, hjson => by
    have hrest : ∀ report : Report, (validateSubs catalog subs entries report).1.Clean ↔ report.Clean ∧
        ∀ sub ∈ subs, sub.Conforms catalog (Record.value entries sub.name.text) :=
      fun report => validateSubs_clean_iff subs hchecks.2 hjson
    rw [List.forall_mem_cons]
    cases hvalue : entries.get? sub.name.text with
    | none => exact validateSubs_clean_iff_of_none hrest hvalue
    | some value =>
      obtain ⟨stored, hstored, -⟩ := Entries.mem_of_get? hvalue
      have hsub : (sub.validate catalog value).1.Clean ↔ sub.Conforms catalog value :=
        Attribute.validate_clean_iff sub hchecks.1 (hjson.entry hstored)
      exact validateSubs_clean_iff_of_some hrest hchecks.1 hjson hvalue hsub

end

end Scim
