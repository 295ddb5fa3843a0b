import Mathlib.Data.List.Nodup
import Scim.Attribute.Normalization
import Scim.Proofs.Attribute.Conformance
import Scim.Proofs.Value.Reduced

/-!
# Converting values that conform

Without conversions of a service, normalization does two things to a value: it rebuilds records from those of the
declared sub-attributes that they have, and it writes numbers in the form that the kind asks for.  The first keeps
every value that a declaration can speak of, and the second every type, as a decimal attribute takes integers as
well as doubles.  So a value that conforms still does after it was converted, except for one thing.  A canonical
value that is an integer is not the double of the same value; a decimal attribute that restricts its values to
such integers takes them before the conversion and refuses them after it.

## Main results

* `convertSubs_eq`: what a record is converted to, entry by entry.
* `Attribute.convert_reduced`: a converted value has fewer entries and other numbers, and is the same otherwise.
* `Attribute.convert_conforms`: conversion keeps conforming values so.
* `Attribute.convert_fromJson`: it keeps values of documents so.
-/

namespace Scim

open Text

variable {catalog : Catalog}

/-! ## Attributes that can be converted -/

mutual

/-- Whether an attribute and its sub-attributes, at every depth, pass a test. -/
def Attribute.testAll (test : Attribute → Bool) : Attribute → Bool
  | ⟨path, kind, traits, hooks⟩ => test ⟨path, kind, traits, hooks⟩ && kind.testAll test

/-- Whether the sub-attributes of a kind do. -/
def Kind.testAll (test : Attribute → Bool) : Kind → Bool
  | .complex subs => testAttributes test subs
  | _ => true

/-- Whether some attributes do. -/
def testAttributes (test : Attribute → Bool) : List Attribute → Bool
  | [] => true
  | attr :: attrs => attr.testAll test && testAttributes test attrs

end

/-- With every number the canonical values have one that equals its double. -/
def Traits.KeepsDoubles (traits : Traits) : Prop :=
  ∀ canonical, traits.canonical = some canonical → canonical.restricted = true →
    ∀ n, Json.number n ∈ canonical.values → ∃ m, Json.number m ∈ canonical.values ∧ n.preferFloat.same m = true

namespace Attribute

/-- A predicate holds of the attribute and of its sub-attributes. -/
inductive Throughout (P : Attribute → Prop) : Attribute → Prop where
  | intro {attr : Attribute} (here : P attr)
      (below : ∀ subs, attr.kind = .complex subs → ∀ sub ∈ subs, Throughout P sub) : Throughout P attr

/-- The attribute has no hooks of a service and no canonical records. -/
structure Plain (attr : Attribute) : Prop where
  checks : ∀ check ∈ attr.hooks.checks, check.BuiltIn
  serialize : attr.hooks.serialize = none
  deserialize : attr.hooks.deserialize = none
  canonical : ∀ subs, attr.kind = .complex subs → attr.traits.canonical = none

/-- Besides, no decimal value is canonical only as an integer, and the sub-attributes have different names. -/
structure Convertible (attr : Attribute) : Prop extends attr.Plain where
  decimal : attr.kind = .decimal → attr.traits.KeepsDoubles
  names : ∀ subs, attr.kind = .complex subs → Attributes.DistinctNames subs

/-- The attribute has no conversions of a service. -/
structure Unhooked (attr : Attribute) : Prop where
  serialize : attr.hooks.serialize = none
  deserialize : attr.hooks.deserialize = none

/-- Besides, the sub-attributes have different names, so that it is the declaration that says how to convert. -/
structure Structural (attr : Attribute) : Prop extends attr.Unhooked where
  names : ∀ subs, attr.kind = .complex subs → Attributes.DistinctNames subs

variable {P Q : Attribute → Prop} {attr : Attribute}

theorem Throughout.imp (himp : ∀ attr, P attr → Q attr) (h : attr.Throughout P) : attr.Throughout Q := by
  induction h with
  | intro here _ ih => exact .intro (himp _ here) ih

mutual

/-- What is tested of an attribute and of its sub-attributes holds throughout. -/
theorem throughout_of_test {test : Attribute → Bool} :
    ∀ attr : Attribute, attr.testAll test = true → attr.Throughout fun attr => test attr = true
  | ⟨path, kind, traits, hooks⟩, h => by
    rw [testAll, Bool.and_eq_true] at h
    refine .intro h.1 fun subs hsubs => ?_
    cases hsubs
    rw [Kind.testAll] at h
    exact throughout_of_tests subs h.2

theorem throughout_of_tests {test : Attribute → Bool} : ∀ attrs : List Attribute, testAttributes test attrs = true →
    ∀ attr ∈ attrs, attr.Throughout fun attr => test attr = true
  | [], _ => fun _ hattr => absurd hattr List.not_mem_nil
  | attr :: attrs, h => by
    rw [testAttributes, Bool.and_eq_true] at h
    exact List.forall_mem_cons.2 ⟨throughout_of_test attr h.1, throughout_of_tests attrs h.2⟩

end

theorem Throughout.of_simple (hsimple : ∀ subs, attr.kind ≠ .complex subs) (here : P attr) : attr.Throughout P :=
  .intro here fun subs hkind => absurd hkind (hsimple subs)

theorem kind_ne_complex (h : attr.isComplex = false) : ∀ subs, attr.kind ≠ .complex subs := by
  intro subs hkind
  rw [isComplex, subs?, hkind] at h
  cases h

theorem Plain.of_simple (hhooks : attr.hooks = {}) (hsimple : attr.isComplex = false) : attr.Plain := by
  refine ⟨?_, ?_, ?_, fun subs hkind => absurd hkind (kind_ne_complex hsimple subs)⟩
  · rw [hhooks]
    exact fun check hcheck => absurd hcheck List.not_mem_nil
  · rw [hhooks]
  · rw [hhooks]

theorem Convertible.of_simple (hhooks : attr.hooks = {}) (hsimple : attr.isComplex = false)
    (hdecimal : attr.kind = .decimal → attr.traits.KeepsDoubles) : attr.Convertible :=
  ⟨.of_simple hhooks hsimple, hdecimal, fun subs hkind => absurd hkind (kind_ne_complex hsimple subs)⟩

/-- An attribute without sub-attributes, hooks and canonical values can be converted. -/
theorem Throughout.convertible_of_simple (hhooks : attr.hooks = {}) (hsimple : attr.isComplex = false)
    (hcanonical : attr.traits.canonical = none) : attr.Throughout Convertible := by
  refine .of_simple (kind_ne_complex hsimple) (.of_simple hhooks hsimple fun _ canonical hfound => ?_)
  rw [hcanonical] at hfound
  cases hfound

theorem Unhooked.conversion? (h : attr.Unhooked) (direction : Direction) : attr.hooks.conversion? direction = none := by
  cases direction with
  | deserialize => exact h.deserialize
  | serialize => exact h.serialize

theorem Plain.conversion? (h : attr.Plain) (direction : Direction) : attr.hooks.conversion? direction = none :=
  Unhooked.conversion? ⟨h.serialize, h.deserialize⟩ direction

theorem Convertible.structural (h : attr.Convertible) : attr.Structural := ⟨⟨h.serialize, h.deserialize⟩, h.names⟩

/-- What holds of the checks of the attribute and of its sub-attributes holds of every check. -/
theorem Throughout.everyCheck_of_checks {Q : Check → Prop}
    (h : attr.Throughout fun attr => ∀ check ∈ attr.hooks.checks, Q check) : attr.EveryCheck Q := by
  induction h with
  | @intro attr here _ ih =>
    obtain ⟨path, kind, traits, hooks⟩ := attr
    refine ⟨here, ?_⟩
    cases kind with
    | complex subs => exact everyCheck_iff.2 (ih subs rfl)
    | _ => trivial

/-- Without hooks of a service, every check is one of the library. -/
theorem Throughout.everyCheck (h : attr.Throughout Plain) : attr.EveryCheck Check.BuiltIn :=
  Throughout.everyCheck_of_checks (h.imp fun _ here => here.checks)

end Attribute

/-! ## Converted entries -/

/-- The entries that attributes become, given the values that are read for them. -/
def convertedEntries (direction : Direction) (read : Attribute → Value) (attrs : List Attribute) : Record :=
  attrs.filterMap fun attr =>
    if (read attr).isMissing then none else some (attr.name.text, attr.convert direction (read attr))

section Entries

variable {direction : Direction} {read : Attribute → Value} {attr : Attribute} {attrs : List Attribute}

theorem mem_convertedEntries {entry : String × Value} :
    entry ∈ convertedEntries direction read attrs ↔ ∃ attr ∈ attrs, (read attr).isMissing = false ∧
      entry = (attr.name.text, attr.convert direction (read attr)) := by
  rw [convertedEntries, List.mem_filterMap]
  refine exists_congr fun attr => and_congr_right fun _ => ?_
  cases (read attr).isMissing <;> simp [eq_comm]

theorem convertedEntries_cons :
    convertedEntries direction read (attr :: attrs) =
      (if (read attr).isMissing then [] else [(attr.name.text, attr.convert direction (read attr))]) ++
        convertedEntries direction read attrs := by
  rw [convertedEntries, List.filterMap_cons]
  cases (read attr).isMissing <;> rfl

theorem distinctKeys_convertedEntries (h : Attributes.DistinctNames attrs) :
    (convertedEntries direction read attrs).DistinctKeys := by
  refine List.pairwise_filterMap.2 (List.Pairwise.imp ?_ h)
  intro a b hab x hx y hy
  split at hx
  · cases hx
  · split at hy
    · cases hy
    · rw [← Option.some.inj hx, ← Option.some.inj hy]
      exact hab

theorem Attributes.DistinctNames.eq_of_folded (h : Attributes.DistinctNames attrs) {other : Attribute}
    (hattr : attr ∈ attrs) (hother : other ∈ attrs) (hname : attr.name.folded = other.name.folded) :
    attr = other :=
  List.inj_on_of_nodup_map (List.pairwise_map.2 h) hattr hother hname

/-- Under the name of each of the attributes stands its converted value. -/
theorem value_convertedEntries (h : Attributes.DistinctNames attrs) (hattr : attr ∈ attrs)
    (hmissing : attr.convert direction .missing = .missing) :
    Record.value (convertedEntries direction read attrs) attr.name.text = attr.convert direction (read attr) := by
  cases hread : (read attr).isMissing with
  | false =>
    have hmem : (attr.name.text, attr.convert direction (read attr)) ∈ convertedEntries direction read attrs :=
      mem_convertedEntries.2 ⟨attr, hattr, hread, rfl⟩
    rw [Record.value, Entries.get?_of_mem (distinctKeys_convertedEntries h) hmem]
    rfl
  | true =>
    have hnone : (convertedEntries direction read attrs).get? attr.name.text = none := by
      refine Entries.get?_eq_none_iff.2 fun entry hentry hkey => ?_
      obtain ⟨other, hother, hstored, rfl⟩ := mem_convertedEntries.1 hentry
      rw [h.eq_of_folded hother hattr hkey, hread] at hstored
      cases hstored
    rw [Record.value, hnone, Value.eq_missing hread, hmissing]
    rfl

/-- A record of converted entries is the record that the values were read from, reduced. -/
theorem reduced_convertedEntries {entries : Record}
    (hread : ∀ attr ∈ attrs, (read attr).isMissing = false → entries.get? attr.name.text = some (read attr))
    (hreduced : ∀ attr ∈ attrs, Value.Reduced (read attr) (attr.convert direction (read attr))) :
    Value.Reduced (.record entries) (.record (convertedEntries direction read attrs)) := by
  refine .of_forall fun entry hentry => ?_
  obtain ⟨attr, hattr, hstored, rfl⟩ := mem_convertedEntries.1 hentry
  exact ⟨_, hread attr hattr hstored, hreduced attr hattr⟩

end Entries

/-- A record is converted by writing the converted entries of its sub-attributes one after the other. -/
theorem convertSubs_eq_foldl {direction : Direction} (subs : List Attribute) (entries converted : Record) :
    convertSubs direction subs entries converted =
      (convertedEntries direction (fun sub => entries.value sub.name.text) subs).foldl
        (fun written entry => written.insert entry.1 entry.2) converted := by
  induction subs generalizing converted with
  | nil => rw [convertSubs, convertedEntries, List.filterMap_nil, List.foldl_nil]
  | cons sub subs ih =>
    rw [convertSubs, convertedEntries_cons, List.foldl_append, ih]
    cases (entries.value sub.name.text).isMissing <;> rfl

/-- With different names, these entries stand side by side, in the order of their declaration. -/
theorem convertSubs_eq {direction : Direction} {subs : List Attribute} (hnames : Attributes.DistinctNames subs)
    (entries : Record) :
    convertSubs direction subs entries [] =
      convertedEntries direction (fun sub => entries.value sub.name.text) subs := by
  rw [convertSubs_eq_foldl, Entries.foldl_insert_eq (distinctKeys_convertedEntries hnames) fun _ _ => rfl,
    List.nil_append]

/-! ## Converted items -/

section Items

variable {direction : Direction}

/-- What a kind does to an item: decimal and integer kinds convert numbers, complex ones records, and everything else
is left as it is. -/
theorem Kind.convertItem_cases (direction : Direction) (kind : Kind) (value : Value) :
    (∃ n, kind = .decimal ∧ value = .number n ∧ kind.convertItem direction value = .number n.preferFloat) ∨
    (∃ n, kind = .integer ∧ value = .number n ∧ kind.convertItem direction value = .number n.preferInt) ∨
    (∃ (subs : List Attribute) (entries : Record), kind = .complex subs ∧ value = .record entries ∧
      kind.convertItem direction value = .record (convertSubs direction subs entries [])) ∨
    kind.convertItem direction value = value := by
  cases value with
  | number n =>
    cases kind with
    | decimal => exact .inl ⟨n, rfl, rfl, by rw [convertItem]⟩
    | integer => exact .inr (.inl ⟨n, rfl, rfl, by rw [convertItem]⟩)
    | _ => simp [convertItem]
  | record entries =>
    cases kind with
    | complex subs => exact .inr (.inr (.inl ⟨subs, entries, rfl, rfl, by rw [convertItem]⟩))
    | _ => simp [convertItem]
  | _ => cases kind <;> simp [convertItem]

/-- An attribute without a conversion of a service converts the items of the list that a multi-valued one asks
for, and else the value itself. -/
theorem Attribute.convert_eq {attr : Attribute} (h : attr.hooks.conversion? direction = none) (value : Value) :
    (∃ items, attr.traits.multiValued = true ∧ value = .list items ∧
      attr.convert direction value = .list (items.map (attr.kind.convertItem direction))) ∨
    (¬ (attr.traits.multiValued = true ∧ ∃ items, value = .list items) ∧
      attr.convert direction value = attr.kind.convertItem direction value) := by
  obtain ⟨path, kind, traits, hooks⟩ := attr
  dsimp only at h ⊢
  cases hmulti : traits.multiValued with
  | false =>
    refine .inr ⟨fun hboth => ?_, ?_⟩
    · cases hboth.1
    · simp [Attribute.convert, h, hmulti]
  | true =>
    cases value with
    | list items =>
      refine .inl ⟨items, rfl, rfl, ?_⟩
      simp [Attribute.convert, h, hmulti]
    | _ =>
      refine .inr ⟨fun hboth => ?_, ?_⟩
      · obtain ⟨items, hlist⟩ := hboth.2
        cases hlist
      · simp [Attribute.convert, h]

theorem Attribute.convert_absent {attr : Attribute} (h : attr.hooks.conversion? direction = none) {value : Value}
    (habsent : value.isAbsent = true) : attr.convert direction value = value := by
  have hitem : attr.kind.convertItem direction value = value := by
    rcases attr.kind.convertItem_cases direction value with
      ⟨n, -, rfl, -⟩ | ⟨n, -, rfl, -⟩ | ⟨subs, entries, -, rfl, -⟩ | hsame
    · cases habsent
    · cases habsent
    · cases habsent
    · exact hsame
  rcases Attribute.convert_eq h value with ⟨items, -, rfl, -⟩ | ⟨-, hconvert⟩
  · cases habsent
  · rw [hconvert, hitem]

/-- What the items of a kind are reduced to, if the values of its sub-attributes are. -/
theorem Kind.convertItem_reduced {kind : Kind}
    (hnames : ∀ subs, kind = .complex subs → Attributes.DistinctNames subs)
    (hsubs : ∀ subs, kind = .complex subs → ∀ sub ∈ subs, ∀ value, Value.Reduced value (sub.convert direction value))
    (value : Value) : Value.Reduced value (kind.convertItem direction value) := by
  rcases kind.convertItem_cases direction value with
    ⟨n, -, rfl, hconvert⟩ | ⟨n, -, rfl, hconvert⟩ | ⟨subs, entries, rfl, rfl, hconvert⟩ | hconvert
  · rw [hconvert]
    exact .number Number.isZero_preferFloat
  · rw [hconvert]
    exact .number Number.isZero_preferInt
  · rw [hconvert, convertSubs_eq (hnames subs rfl)]
    exact reduced_convertedEntries (fun sub _ => Record.get?_of_stored) fun sub hsub => hsubs subs rfl sub hsub _
  · rw [hconvert]
    exact .same value

/-- Items of documents become items of documents, if the values of the sub-attributes do. -/
theorem Kind.convertItem_fromJson {kind : Kind}
    (hnames : ∀ subs, kind = .complex subs → Attributes.DistinctNames subs)
    (hsubs : ∀ subs, kind = .complex subs → ∀ sub ∈ subs, ∀ value : Value, value.FromJson →
      (sub.convert direction value).FromJson)
    {value : Value} (hjson : value.FromJson) : (kind.convertItem direction value).FromJson := by
  rcases kind.convertItem_cases direction value with
    ⟨n, -, rfl, hconvert⟩ | ⟨n, -, rfl, hconvert⟩ | ⟨subs, entries, rfl, rfl, hconvert⟩ | hconvert
  · exact ⟨.number n.preferFloat, by rw [hconvert, Value.ofJson]⟩
  · exact ⟨.number n.preferInt, by rw [hconvert, Value.ofJson]⟩
  · rw [hconvert, convertSubs_eq (hnames subs rfl)]
    refine .record (distinctKeys_convertedEntries (hnames subs rfl)) fun entry hentry => ?_
    obtain ⟨sub, hsub, hstored, rfl⟩ := mem_convertedEntries.1 hentry
    obtain ⟨key, hmem, -⟩ := Entries.mem_of_get? (Record.get?_of_stored hstored)
    exact hsubs subs rfl sub hsub _ (hjson.entry hmem)
  · rw [hconvert]
    exact hjson

/-- A number that is allowed is allowed as a double, if the canonical values keep doubles. -/
theorem Traits.Allows.preferFloat {traits : Traits} (hkeeps : traits.KeepsDoubles) {n : Number}
    (h : traits.Allows (.number n)) : traits.Allows (.number n.preferFloat) := by
  intro canonical hcanonical hrestricted
  have hone := h canonical hcanonical hrestricted
  simp only [isCanonical, Bool.or_false, List.any_eq_true] at hone ⊢
  obtain ⟨json, hjson, hsame⟩ := hone
  cases json with
  | number m =>
    simp only [Value.sameJson] at hsame
    cases n with
    | float x => exact ⟨.number m, hjson, by simpa [Value.sameJson, Number.preferFloat] using hsame⟩
    | int n =>
      cases m with
      | float x => cases hsame
      | int m =>
        have heq : n = m := by simpa [Number.same] using hsame
        obtain ⟨k, hk, hdouble⟩ := hkeeps canonical hcanonical hrestricted _ hjson
        exact ⟨.number k, hk, by simpa [Value.sameJson, heq] using hdouble⟩
  | _ => simp [Value.sameJson] at hsame

/-- Conforming items stay so, if the conforming values of the sub-attributes do. -/
theorem Kind.convertItem_conforms {traits : Traits} {kind : Kind}
    (hdecimal : kind = .decimal → traits.KeepsDoubles)
    (hcanonical : ∀ subs, kind = .complex subs → traits.canonical = none)
    (hnames : ∀ subs, kind = .complex subs → Attributes.DistinctNames subs)
    (hmissing : ∀ subs, kind = .complex subs → ∀ sub ∈ subs, sub.convert direction .missing = .missing)
    (hsubs : ∀ subs, kind = .complex subs → ∀ sub ∈ subs, ∀ value, sub.Conforms catalog value →
      sub.Conforms catalog (sub.convert direction value))
    {value : Value} (h : Kind.Conforms catalog traits kind value) :
    Kind.Conforms catalog traits kind (kind.convertItem direction value) := by
  cases h with
  | @complex _ subs entries _ hvalues =>
    rw [Kind.convertItem, convertSubs_eq (hnames subs rfl)]
    refine .complex (fun canonical hsome => ?_) fun sub hsub => ?_
    · rw [hcanonical subs rfl] at hsome
      cases hsome
    · rw [value_convertedEntries (hnames subs rfl) hsub (hmissing subs rfl sub hsub)]
      exact hsubs subs rfl sub hsub _ (hvalues sub hsub)
  | simple hsimple hfits hallowed htext =>
    rcases kind.convertItem_cases direction value with
      ⟨n, rfl, rfl, hconvert⟩ | ⟨n, rfl, rfl, hconvert⟩ | ⟨subs, entries, hkind, -, -⟩ | hconvert
    · rw [hconvert]
      refine .simple hsimple rfl (hallowed.preferFloat (hdecimal rfl)) fun text htext => ?_
      cases htext
    · -- an integer that fits is written as one already
      rw [hconvert]
      cases n with
      | float x => cases hfits
      | int n => exact .simple hsimple hfits hallowed htext
    · exact absurd hkind (hsimple subs)
    · rw [hconvert]
      exact .simple hsimple hfits hallowed htext

end Items

/-! ## Converted values -/

namespace Value.Reduced

theorem isPrimary {value other : Value} (h : Reduced value other) (hprimary : other.IsPrimary) : value.IsPrimary := by
  obtain ⟨others, rfl, hother⟩ := hprimary
  obtain ⟨entries, rfl⟩ := h.of_record
  obtain ⟨mark, hmark, hreduced⟩ := h.get? hother
  exact ⟨entries, rfl, hreduced.of_bool ▸ hmark⟩

/-- Reducing the elements of a list makes none of them primary. -/
theorem onePrimary {value other : Value} (h : Reduced value other) (hone : value.OnePrimary) : other.OnePrimary := by
  rintro items rfl
  obtain ⟨before, rfl, hitems⟩ := h.of_list
  have hpairs := hone before rfl
  clear h hone
  induction hitems with
  | nil => exact .nil
  | @cons item other before items hitem hrest ih =>
    obtain ⟨hfirst, hlater⟩ := List.pairwise_cons.1 hpairs
    refine List.pairwise_cons.2 ⟨fun later hmem hboth => ?_, ih hlater⟩
    obtain ⟨source, hsource, hreduced⟩ := exists_of_mem hrest later hmem
    exact hfirst source hsource ⟨hitem.isPrimary hboth.1, hreduced.isPrimary hboth.2⟩

end Value.Reduced

namespace Attribute

variable {attr : Attribute} {direction : Direction}

/-- A converted value is the value with entries left out and numbers in another form. -/
theorem convert_reduced (h : attr.Throughout Structural) (value : Value) :
    Value.Reduced value (attr.convert direction value) := by
  induction h generalizing value with
  | @intro attr here _ ih =>
    have hitem : ∀ item, Value.Reduced item (attr.kind.convertItem direction item) :=
      Kind.convertItem_reduced here.names ih
    rcases convert_eq (here.conversion? direction) value with ⟨items, -, rfl, hconvert⟩ | ⟨-, hconvert⟩
    · rw [hconvert]
      exact .list (List.forall₂_map_right_iff.2 (List.forall₂_same.2 fun item _ => hitem item))
    · rw [hconvert]
      exact hitem value

/-- Values of documents are converted to values of documents. -/
theorem convert_fromJson (h : attr.Throughout Convertible) {value : Value} (hjson : value.FromJson) :
    (attr.convert direction value).FromJson := by
  induction h generalizing value with
  | @intro attr here _ ih =>
    have hitem : ∀ {item : Value}, item.FromJson → (attr.kind.convertItem direction item).FromJson :=
      Kind.convertItem_fromJson here.names fun subs hkind sub hsub value => ih subs hkind sub hsub
    rcases convert_eq (here.conversion? direction) value with ⟨items, -, rfl, hconvert⟩ | ⟨-, hconvert⟩
    · rw [hconvert]
      refine .list fun item hmem => ?_
      obtain ⟨before, hbefore, rfl⟩ := List.mem_map.1 hmem
      exact hitem (hjson.item hbefore)
    · rw [hconvert]
      exact hitem hjson

/-- Conforming values still conform when they are converted. -/
theorem convert_conforms (h : attr.Throughout Convertible) {value : Value} (hvalue : attr.Conforms catalog value) :
    attr.Conforms catalog (attr.convert direction value) := by
  induction h generalizing value with
  | @intro attr here below ih =>
    have hconversion := here.conversion? direction
    have hmissing : ∀ subs, attr.kind = .complex subs → ∀ sub ∈ subs,
        sub.convert direction .missing = .missing := by
      intro subs hkind sub hsub
      obtain ⟨hplain, -⟩ := below subs hkind sub hsub
      exact convert_absent (hplain.conversion? direction) rfl
    have hitem : ∀ {item}, Kind.Conforms catalog attr.traits attr.kind item →
        Kind.Conforms catalog attr.traits attr.kind (attr.kind.convertItem direction item) :=
      Kind.convertItem_conforms here.decimal here.canonical here.names hmissing
        fun subs hkind sub hsub value => ih subs hkind sub hsub
    have hreduced : Value.Reduced value (attr.convert direction value) :=
      convert_reduced (.intro here.structural fun subs hkind sub hsub =>
        (below subs hkind sub hsub).imp fun _ => Convertible.structural) value
    cases hvalue with
    | absent habsent =>
      rw [convert_absent hconversion habsent]
      exact .absent habsent
    | single hsingle hconforms hone =>
      rcases convert_eq hconversion value with ⟨-, hmulti, -⟩ | ⟨-, hconvert⟩
      · rw [hmulti] at hsingle
        cases hsingle
      · refine .single hsingle ?_ fun hbuilt => hreduced.onePrimary (hone hbuilt)
        rw [hconvert]
        exact hitem hconforms
    | @list _ items hmulti hitems hone =>
      rcases convert_eq hconversion (.list items) with ⟨others, -, hsame, hconvert⟩ | ⟨hnot, -⟩
      · cases hsame
        rw [hconvert] at hreduced ⊢
        refine .list hmulti (fun item hmem => ?_) fun hbuilt => hreduced.onePrimary (hone hbuilt)
        obtain ⟨before, hbefore, rfl⟩ := List.mem_map.1 hmem
        exact hitem (hitems before hbefore)
      · exact absurd ⟨hmulti, items, rfl⟩ hnot

end Attribute

end Scim
