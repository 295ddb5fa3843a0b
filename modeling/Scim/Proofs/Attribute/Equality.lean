import Scim.Attribute.Equality
import Scim.Proofs.Attribute.Conversion
import Scim.Proofs.Json.Equality
import Scim.Proofs.Path

/-!
# Where equality of attributes is an equivalence

Attributes are compared part by part.  Names are compared up to case, hooks by identity, and most characteristics as
they are; all this amounts to having the same *outline*.  Canonical values are documents, and their equality is an
equivalence as long as no object repeats a key.

References to resources are different.  They are compared by the number of types and by looking the types of the
first up in the second, and a list of types may name one type twice.  Then the second list may have a type that the
first one lacks, in the place of the repetition.  Equality is still reflexive and transitive, but not symmetric.  It
is not lost in any other way: an attribute is equal to all that equal it exactly if no list of types, at any depth,
repeats one.

## Main results

* `Target.symmetricAt_iff`: at which targets equality is symmetric.
* `Attribute.same_iff`, `Kind.same_iff`: what equality looks at.
* `equality_laws`: reflexivity, symmetry and transitivity of every equality of a declaration.
-/

namespace Scim

open Text

/-! ## Laws -/

/-- What a value is equal to is equal to it. -/
def SymmetricAt {α : Type} (same : α → α → Bool) (a : α) : Prop := ∀ b, same a b = true → same b a = true

/-- The laws of an equality at some values: it is reflexive, it is symmetric exactly if the first value has a certain
property, and it is transitive. -/
structure EqualityLaws {α : Type} (same : α → α → Bool) (wellFormed symmetric : α → Prop) (a b c : α) : Prop where
  refl : wellFormed a → same a a = true
  symm_iff : wellFormed a → (SymmetricAt same a ↔ symmetric a)
  trans : same a b = true → same b c = true → same a c = true

/-! ## Targets -/

namespace Target

/-- No type of resource is named twice. -/
def NamesOnce : Target → Prop
  | .resource types => types.Nodup
  | _ => True

theorem same_resource_iff {as bs : List String} :
    (resource as).same (resource bs) = true ↔ as.length = bs.length ∧ as ⊆ bs := by
  rw [same, Bool.and_eq_true, beq_iff_eq, List.all_eq_true]
  simp [List.subset_def]

/-- There is always another text. -/
theorem exists_fresh (types : List String) : ∃ fresh, fresh ∉ types := by
  have hbound : ∃ n, ∀ type ∈ types, type.length < n := by
    induction types with
    | nil => exact ⟨0, by simp⟩
    | cons type types ih =>
      obtain ⟨n, hn⟩ := ih
      refine ⟨max n (type.length + 1), List.forall_mem_cons.2 ⟨by omega, fun other hother => ?_⟩⟩
      have := hn other hother
      omega
  obtain ⟨n, hn⟩ := hbound
  refine ⟨String.ofList (List.replicate n 'a'), fun hmem => ?_⟩
  have := hn _ hmem
  simp at this

/-- In a list that names a type twice another type can take the place of one of the two. -/
theorem exists_types_of_repeated {types : List String} (h : ¬ types.Nodup) (fresh : String) :
    ∃ others : List String, types.length = others.length ∧ types ⊆ others ∧ fresh ∈ others := by
  induction types with
  | nil => exact absurd List.nodup_nil h
  | cons type types ih =>
    by_cases hrepeated : type ∈ types
    · exact ⟨fresh :: types, rfl, List.cons_subset.2 ⟨List.mem_cons_of_mem _ hrepeated, List.subset_cons_self _ _⟩,
        List.mem_cons_self⟩
    · obtain ⟨others, hlength, hsub, hfresh⟩ := ih fun hnodup => h (List.nodup_cons.2 ⟨hrepeated, hnodup⟩)
      exact ⟨type :: others, congrArg (· + 1) hlength, List.cons_subset_cons _ hsub, List.mem_cons_of_mem _ hfresh⟩

theorem symmetricAt_iff (target : Target) : SymmetricAt same target ↔ target.NamesOnce := by
  cases target with
  | outside => exact iff_of_true (fun other h => by cases other <;> first | rfl | cases h) trivial
  | uri => exact iff_of_true (fun other h => by cases other <;> first | rfl | cases h) trivial
  | resource types =>
    constructor
    · intro h
      by_contra hrepeated
      obtain ⟨fresh, hfresh⟩ := exists_fresh types
      obtain ⟨others, hlength, hsub, hmem⟩ := exists_types_of_repeated hrepeated fresh
      exact hfresh ((same_resource_iff.1 (h _ (same_resource_iff.2 ⟨hlength, hsub⟩))).2 hmem)
    · intro hnodup other h
      cases other with
      | resource others =>
        obtain ⟨hlength, hsub⟩ := same_resource_iff.1 h
        have hperm : types.Perm others :=
          (List.subperm_of_subset hnodup hsub).perm_of_length_le (Nat.le_of_eq hlength.symm)
        exact same_resource_iff.2 ⟨hlength.symm, hperm.symm.subset⟩
      | _ => cases h

theorem same_trans {a b c : Target} (hleft : a.same b = true) (hright : b.same c = true) : a.same c = true := by
  cases a with
  | resource as =>
    cases b with
    | resource bs =>
      cases c with
      | resource cs =>
        rw [same_resource_iff] at hleft hright ⊢
        exact ⟨hleft.1.trans hright.1, List.Subset.trans hleft.2 hright.2⟩
      | _ => cases hright
    | _ => cases hleft
  | _ =>
    cases b with
    | resource bs => cases hleft
    | _ => first | exact hright | cases hleft

end Target

/-! ## Outlines -/

/-- The form by which paths are compared. -/
def Path.folded (path : Path) : Option String × String × Option String :=
  (path.schema?.map SchemaUri.folded, path.rep.attr.folded, path.rep.sub.map AttrName.folded)

theorem Path.beq_iff_folded {p q : Path} : (p == q) = true ↔ p.folded = q.folded := by
  cases p <;> cases q <;> show (Path.same _ _) = true ↔ _ <;>
    simp [Path.same, folded, schema?, rep, LocalPath.beq_iff, BoundPath.beq_iff, SchemaUri.beq_iff]

/-- The form by which checks are compared. -/
def Check.label : Check → Bool ⊕ Nat
  | .singlePrimary => .inl true
  | .distinctPairs => .inl false
  | .custom identity _ => .inr identity

theorem Check.same_iff {a b : Check} : a.same b = true ↔ a.label = b.label := by
  cases a <;> cases b <;> simp [Check.same, label]

/-- The form by which hooks are compared. -/
def Hooks.labels (hooks : Hooks) : List (Bool ⊕ Nat) × Option Nat × Option Nat :=
  (hooks.checks.map Check.label, hooks.serialize.map Conversion.identity, hooks.deserialize.map Conversion.identity)

private theorem sameChecks_iff {as bs : List Check} :
    (as.length == bs.length && (as.zip bs).all fun (a, b) => a.same b) = true ↔
      as.map Check.label = bs.map Check.label := by
  induction as generalizing bs with
  | nil => cases bs <;> simp
  | cons a as ih =>
    cases bs with
    | nil => simp
    | cons b bs =>
      have hrest := @ih bs
      simp only [Bool.and_eq_true, beq_iff_eq] at hrest
      simp [← hrest, Check.same_iff, and_left_comm]

theorem Hooks.same_iff {a b : Hooks} : a.same b = true ↔ a.labels = b.labels := by
  rw [Hooks.same, Bool.and_eq_true, Bool.and_eq_true, sameChecks_iff, beq_iff_eq, beq_iff_eq, labels, labels,
    Prod.mk.injEq, Prod.mk.injEq, and_assoc]

theorem Traits.same_iff {a b : Traits} :
    a.same b = true ↔
      { a with canonical := none } = { b with canonical := none } ∧ sameCanonical a.canonical b.canonical = true := by
  simp only [Traits.same, Bool.and_eq_true, beq_iff_eq, Traits.mk.injEq]
  tauto

/-! ## Canonical values -/

/-- No object in a canonical value, at any depth, repeats a key. -/
def Traits.PlainCanonical (traits : Traits) : Prop :=
  ∀ canonical, traits.canonical = some canonical → ∀ json ∈ canonical.values, json.UniqueKeys

theorem sameCanonical_some_iff {a b : Canonical} :
    sameCanonical (some a) (some b) = true ↔
      List.Forall₂ (fun json other => json.same other = true) a.values b.values ∧ a.restricted = b.restricted := by
  rw [sameCanonical, Bool.and_eq_true, Json.sameItems_iff, beq_iff_eq]

theorem Traits.PlainCanonical.sameCanonical_refl {traits : Traits} (h : traits.PlainCanonical) :
    sameCanonical traits.canonical traits.canonical = true := by
  cases hcanonical : traits.canonical with
  | none => rfl
  | some canonical =>
    refine sameCanonical_some_iff.2 ⟨?_, rfl⟩
    exact List.forall₂_same.2 fun json hjson => json.same_refl (h canonical hcanonical json hjson)

theorem Traits.PlainCanonical.sameCanonical_symm {traits : Traits} (h : traits.PlainCanonical)
    {other : Option Canonical} (hsame : sameCanonical traits.canonical other = true) :
    sameCanonical other traits.canonical = true := by
  have hplain := h
  unfold PlainCanonical at hplain
  generalize traits.canonical = own at hplain hsame ⊢
  cases own with
  | none =>
    cases other with
    | none => rfl
    | some _ => cases hsame
  | some own =>
    cases other with
    | none => cases hsame
    | some other =>
      obtain ⟨hvalues, hrestricted⟩ := sameCanonical_some_iff.1 hsame
      refine sameCanonical_some_iff.2 ⟨?_, hrestricted.symm⟩
      exact forall₂_symm hvalues fun json hjson _ => Json.same_symm (hplain own rfl json hjson)

theorem sameCanonical_trans {a b c : Option Canonical} (hleft : sameCanonical a b = true)
    (hright : sameCanonical b c = true) : sameCanonical a c = true := by
  cases a with
  | none =>
    cases b with
    | none => exact hright
    | some _ => cases hleft
  | some a =>
    cases b with
    | none => cases hleft
    | some b =>
      cases c with
      | none => cases hright
      | some c =>
        obtain ⟨hvalues, hrestricted⟩ := sameCanonical_some_iff.1 hleft
        obtain ⟨hvalues', hrestricted'⟩ := sameCanonical_some_iff.1 hright
        exact sameCanonical_some_iff.2
          ⟨forall₂_trans hvalues hvalues' fun _ _ _ _ _ _ => Json.same_trans, hrestricted.trans hrestricted'⟩

/-! ## Kinds and attributes -/

/-- What equality of attributes looks at beside kinds and canonical values. -/
structure Outline where
  path : Option String × String × Option String
  traits : Traits
  hooks : List (Bool ⊕ Nat) × Option Nat × Option Nat

def Attribute.outline (attr : Attribute) : Outline :=
  ⟨attr.path.folded, { attr.traits with canonical := none }, attr.hooks.labels⟩

theorem Attribute.same_iff {a b : Attribute} :
    a.same b = true ↔ a.outline = b.outline ∧ a.kind.same b.kind = true ∧
      sameCanonical a.traits.canonical b.traits.canonical = true := by
  obtain ⟨path, kind, traits, hooks⟩ := a
  simp only [Attribute.same, Bool.and_eq_true, Path.beq_iff_folded, Traits.same_iff, Hooks.same_iff, outline,
    Outline.mk.injEq]
  tauto

theorem sameAttributes_iff {as bs : List Attribute} :
    sameAttributes as bs = true ↔ List.Forall₂ (fun a b => a.same b = true) as bs := by
  induction as generalizing bs with
  | nil => cases bs <;> simp [sameAttributes]
  | cons a as ih =>
    cases bs with
    | nil => simp [sameAttributes]
    | cons b bs => rw [sameAttributes, Bool.and_eq_true, ih, List.forall₂_cons]

/-- Kinds are equal when they are the same one, or lead to equal targets, or have equal sub-attributes. -/
theorem Kind.same_iff {a b : Kind} :
    a.same b = true ↔
      (a = b ∧ (∀ target, a ≠ .reference target) ∧ ∀ subs, a ≠ .complex subs) ∨
      (∃ target other, a = .reference target ∧ b = .reference other ∧ target.same other = true) ∨
      ∃ subs others, a = .complex subs ∧ b = .complex others ∧ sameAttributes subs others = true := by
  cases a <;> cases b <;> simp [Kind.same]

/-! ## Declarations within declarations -/

/-- What holds of an attribute if it holds of its sub-attributes holds of every attribute. -/
@[elab_as_elim]
theorem Attribute.induct {P : Attribute → Prop}
    (step : ∀ attr, (∀ subs, attr.kind = .complex subs → ∀ sub ∈ subs, P sub) → P attr) (attr : Attribute) : P attr :=
  @Attribute.rec (fun kind => ∀ subs, kind = .complex subs → ∀ sub ∈ subs, P sub) P (fun attrs => ∀ sub ∈ attrs, P sub)
    (by simp) (by simp) (by simp) (by simp) (by simp) (by simp) (by simp) (by simp)
    (fun _ hsubs others hothers => by cases hothers; exact hsubs)
    (fun _ _ _ _ hkind => step _ hkind) (by simp)
    (fun _ _ hattr hattrs => List.forall_mem_cons.2 ⟨hattr, hattrs⟩) attr

/-- A predicate holds of the sub-attributes at every depth. -/
def Kind.Below (P : Attribute → Prop) (kind : Kind) : Prop :=
  ∀ subs, kind = .complex subs → ∀ sub ∈ subs, sub.Throughout P

theorem Attribute.throughout_iff {P : Attribute → Prop} {attr : Attribute} :
    attr.Throughout P ↔ P attr ∧ attr.kind.Below P :=
  ⟨fun ⟨here, below⟩ => ⟨here, below⟩, fun ⟨here, below⟩ => .intro here below⟩

/-- The canonical values of the attribute itself repeat no key. -/
def Attribute.PlainCanonical (attr : Attribute) : Prop := attr.traits.PlainCanonical

/-- No type of resource is named twice by a reference. -/
def Kind.NamesOnce (kind : Kind) : Prop := ∀ target, kind = .reference target → target.NamesOnce

/-- The attribute itself names no type of resource twice. -/
def Attribute.NamesOnce (attr : Attribute) : Prop := attr.kind.NamesOnce

/-! ## Reflexivity -/

theorem Kind.same_refl {kind : Kind}
    (hsubs : ∀ subs, kind = .complex subs → ∀ sub ∈ subs, sub.same sub = true) : kind.same kind = true := by
  cases kind with
  | reference target => exact Kind.same_iff.2 (.inr (.inl ⟨target, target, rfl, rfl, target.same_refl⟩))
  | complex subs =>
    have hsame : sameAttributes subs subs = true := sameAttributes_iff.2 (List.forall₂_same.2 (hsubs subs rfl))
    exact Kind.same_iff.2 (.inr (.inr ⟨subs, subs, rfl, rfl, hsame⟩))
  | _ => exact Kind.same_iff.2 (.inl ⟨rfl, by simp, by simp⟩)

theorem Attribute.same_refl {attr : Attribute} (h : attr.Throughout PlainCanonical) : attr.same attr = true := by
  induction h with
  | intro here _ ih => exact same_iff.2 ⟨rfl, Kind.same_refl ih, Traits.PlainCanonical.sameCanonical_refl here⟩

/-! ## Transitivity -/

theorem Kind.same_trans {a b c : Kind}
    (hsubs : ∀ subs, a = .complex subs → ∀ sub ∈ subs, ∀ next last : Attribute,
      sub.same next = true → next.same last = true → sub.same last = true)
    (hleft : a.same b = true) (hright : b.same c = true) : a.same c = true := by
  rcases Kind.same_iff.1 hleft with ⟨rfl, -⟩ | ⟨target, other, rfl, rfl, htarget⟩ | ⟨subs, others, rfl, rfl, hattrs⟩
  · exact hright
  · rcases Kind.same_iff.1 hright with ⟨-, hnot, -⟩ | ⟨_, third, heq, rfl, hnext⟩ | ⟨_, _, heq, -⟩
    · exact absurd rfl (hnot other)
    · cases heq
      exact Kind.same_iff.2 (.inr (.inl ⟨target, third, rfl, rfl, Target.same_trans htarget hnext⟩))
    · cases heq
  · rcases Kind.same_iff.1 hright with ⟨-, -, hnot⟩ | ⟨_, _, heq, -⟩ | ⟨_, thirds, heq, rfl, hnext⟩
    · exact absurd rfl (hnot others)
    · cases heq
    · cases heq
      refine Kind.same_iff.2 (.inr (.inr ⟨subs, thirds, rfl, rfl, sameAttributes_iff.2 ?_⟩))
      exact forall₂_trans (sameAttributes_iff.1 hattrs) (sameAttributes_iff.1 hnext)
        fun sub hsub next _ last _ => hsubs subs rfl sub hsub next last

theorem Attribute.same_trans {a b c : Attribute} (hleft : a.same b = true) (hright : b.same c = true) :
    a.same c = true := by
  induction a using Attribute.induct generalizing b c with
  | step attr ih =>
    obtain ⟨houtline, hkind, hcanonical⟩ := same_iff.1 hleft
    obtain ⟨houtline', hkind', hcanonical'⟩ := same_iff.1 hright
    exact same_iff.2 ⟨houtline.trans houtline',
      Kind.same_trans (fun subs hsubs sub hsub _ _ => ih subs hsubs sub hsub) hkind hkind',
      sameCanonical_trans hcanonical hcanonical'⟩

/-! ## Symmetry -/

/-- Equality of lists is symmetric exactly where that of each attribute is: the others can be kept as they are. -/
theorem symmetricAt_sameAttributes_iff {attrs : List Attribute} (hrefl : ∀ attr ∈ attrs, attr.same attr = true) :
    SymmetricAt sameAttributes attrs ↔ ∀ attr ∈ attrs, SymmetricAt Attribute.same attr := by
  constructor
  · induction attrs with
    | nil => simp
    | cons attr attrs ih =>
      obtain ⟨hattr, hattrs⟩ := List.forall_mem_cons.1 hrefl
      have hrest : sameAttributes attrs attrs = true := sameAttributes_iff.2 (List.forall₂_same.2 hattrs)
      intro h
      refine List.forall_mem_cons.2 ⟨fun other hsame => ?_, ih hattrs fun others hsame => ?_⟩
      · have hback := h (other :: attrs) (by rw [sameAttributes, hsame, hrest]; rfl)
        rw [sameAttributes, Bool.and_eq_true] at hback
        exact hback.1
      · have hback := h (attr :: others) (by rw [sameAttributes, hattr, hsame]; rfl)
        rw [sameAttributes, Bool.and_eq_true] at hback
        exact hback.2
  · intro h others hsame
    exact sameAttributes_iff.2 (forall₂_symm (sameAttributes_iff.1 hsame) h)

theorem Kind.symmetricAt_reference_iff {target : Target} :
    SymmetricAt Kind.same (.reference target) ↔ target.NamesOnce := by
  rw [← Target.symmetricAt_iff]
  constructor
  · exact fun h other hsame => h (.reference other) hsame
  · intro h kind hsame
    cases kind with
    | reference other => exact h other hsame
    | _ => cases hsame

theorem Kind.symmetricAt_complex_iff {subs : List Attribute} (hrefl : ∀ sub ∈ subs, sub.same sub = true) :
    SymmetricAt Kind.same (.complex subs) ↔ ∀ sub ∈ subs, SymmetricAt Attribute.same sub := by
  rw [← symmetricAt_sameAttributes_iff hrefl]
  constructor
  · exact fun h others hsame => h (.complex others) hsame
  · intro h kind hsame
    cases kind with
    | complex others => exact h others hsame
    | _ => cases hsame

theorem Kind.symmetricAt_iff {kind : Kind}
    (hrefl : ∀ subs, kind = .complex subs → ∀ sub ∈ subs, sub.same sub = true) :
    SymmetricAt Kind.same kind ↔
      kind.NamesOnce ∧ ∀ subs, kind = .complex subs → ∀ sub ∈ subs, SymmetricAt Attribute.same sub := by
  cases kind with
  | reference target => simp [symmetricAt_reference_iff, NamesOnce]
  | complex subs => simp [symmetricAt_complex_iff (hrefl subs rfl), NamesOnce]
  | _ =>
    refine iff_of_true (fun kind hsame => ?_) ⟨by simp [NamesOnce], by simp⟩
    cases kind <;> first | rfl | cases hsame

/-- Nothing but the kind can keep an equality of attributes from being symmetric. -/
theorem Attribute.symmetricAt_iff_kind {attr : Attribute} (h : attr.PlainCanonical) :
    SymmetricAt Attribute.same attr ↔ SymmetricAt Kind.same attr.kind := by
  constructor
  · intro hsymm kind hkind
    have hchanged : attr.same { attr with kind } = true :=
      same_iff.2 ⟨rfl, hkind, Traits.PlainCanonical.sameCanonical_refl h⟩
    exact (same_iff.1 (hsymm _ hchanged)).2.1
  · intro hsymm other hsame
    obtain ⟨houtline, hkind, hcanonical⟩ := same_iff.1 hsame
    exact same_iff.2 ⟨houtline.symm, hsymm other.kind hkind,
      Traits.PlainCanonical.sameCanonical_symm h hcanonical⟩

theorem Attribute.symmetricAt_iff {attr : Attribute} (h : attr.Throughout PlainCanonical) :
    SymmetricAt Attribute.same attr ↔ attr.Throughout NamesOnce := by
  induction h with
  | @intro attr here below ih =>
    have hrefl : ∀ subs, attr.kind = .complex subs → ∀ sub ∈ subs, sub.same sub = true :=
      fun subs hsubs sub hsub => same_refl (below subs hsubs sub hsub)
    rw [symmetricAt_iff_kind here, Kind.symmetricAt_iff hrefl, throughout_iff]
    refine and_congr_right fun _ => forall_congr' fun subs => forall_congr' fun hsubs => ?_
    exact forall₂_congr fun sub hsub => ih subs hsubs sub hsub

/-! ## All laws together -/

theorem Target.equalityLaws (a b c : Target) : EqualityLaws same (fun _ => True) NamesOnce a b c :=
  ⟨fun _ => a.same_refl, fun _ => a.symmetricAt_iff, same_trans⟩

theorem Attribute.equalityLaws (a b c : Attribute) :
    EqualityLaws same (Throughout PlainCanonical) (Throughout NamesOnce) a b c :=
  ⟨same_refl, symmetricAt_iff, same_trans⟩

theorem Kind.equalityLaws (a b c : Kind) :
    EqualityLaws same (Below Attribute.PlainCanonical) (fun kind => kind.NamesOnce ∧ kind.Below Attribute.NamesOnce)
      a b c where
  refl h := Kind.same_refl fun subs hsubs sub hsub => Attribute.same_refl (h subs hsubs sub hsub)
  symm_iff h := by
    rw [Kind.symmetricAt_iff fun subs hsubs sub hsub => Attribute.same_refl (h subs hsubs sub hsub)]
    refine and_congr_right fun _ => forall_congr' fun subs => forall_congr' fun hsubs => ?_
    exact forall₂_congr fun sub hsub => Attribute.symmetricAt_iff (h subs hsubs sub hsub)
  trans := Kind.same_trans fun _ _ _ _ _ _ => Attribute.same_trans

theorem sameAttributes_equalityLaws (as bs cs : List Attribute) :
    EqualityLaws sameAttributes (fun attrs => ∀ attr ∈ attrs, attr.Throughout Attribute.PlainCanonical)
      (fun attrs => ∀ attr ∈ attrs, attr.Throughout Attribute.NamesOnce) as bs cs where
  refl h := sameAttributes_iff.2 (List.forall₂_same.2 fun attr hattr => Attribute.same_refl (h attr hattr))
  symm_iff h := by
    rw [symmetricAt_sameAttributes_iff fun attr hattr => Attribute.same_refl (h attr hattr)]
    exact forall₂_congr fun attr hattr => Attribute.symmetricAt_iff (h attr hattr)
  trans hleft hright := sameAttributes_iff.2
    (forall₂_trans (sameAttributes_iff.1 hleft) (sameAttributes_iff.1 hright) fun _ _ _ _ _ _ => Attribute.same_trans)

/-- Equality of targets, kinds, lists of attributes and attributes is reflexive and transitive, and it is symmetric at
exactly those that name no type of resource twice at any depth.  Canonical values are documents in which no object
repeats a key; transitivity does not ask for that. -/
theorem equality_laws (target other third : Target) (kind otherKind thirdKind : Kind)
    (attrs otherAttrs thirdAttrs : List Attribute) (attr otherAttr thirdAttr : Attribute) :
    EqualityLaws Target.same (fun _ => True) Target.NamesOnce target other third ∧
      EqualityLaws Kind.same (Kind.Below Attribute.PlainCanonical)
        (fun kind => kind.NamesOnce ∧ kind.Below Attribute.NamesOnce) kind otherKind thirdKind ∧
      EqualityLaws sameAttributes (fun attrs => ∀ attr ∈ attrs, attr.Throughout Attribute.PlainCanonical)
        (fun attrs => ∀ attr ∈ attrs, attr.Throughout Attribute.NamesOnce) attrs otherAttrs thirdAttrs ∧
      EqualityLaws Attribute.same (Attribute.Throughout Attribute.PlainCanonical)
        (Attribute.Throughout Attribute.NamesOnce) attr otherAttr thirdAttr :=
  ⟨target.equalityLaws other third, kind.equalityLaws otherKind thirdKind,
    sameAttributes_equalityLaws attrs otherAttrs thirdAttrs, attr.equalityLaws otherAttr thirdAttr⟩

/-! ## References to resources of several types -/

/-- A reference to resources of certain types. -/
def Attribute.owner (types : List String) : Attribute where
  path := .unbound ⟨⟨"owner", by decide⟩, none⟩
  kind := .reference (.resource types)
  traits := { caseExact := true }
  hooks := {}

/-- A complex attribute with such a reference. -/
def Attribute.link (types : List String) : Attribute where
  path := .unbound ⟨⟨"link", by decide⟩, none⟩
  kind := .complex [owner types]
  traits := {}
  hooks := {}

theorem Attribute.declare_owner (types : List String) :
    declare "owner" (.reference (.resource types)) = .ok (owner types) := rfl

theorem Attribute.throughout_link {P : Attribute → Prop} {types : List String} (hlink : P (link types))
    (howner : P (owner types)) : (link types).Throughout P := by
  refine .intro hlink fun subs hsubs sub hsub => ?_
  cases hsubs
  rw [List.mem_singleton.1 hsub]
  exact .of_simple (by simp [owner]) howner

/-- The order in which the types are named does not matter, neither for the reference nor around it. -/
theorem equality_laws_of_links :
    (Attribute.link ["User", "Group"]).Throughout Attribute.NamesOnce ∧
      (Attribute.link ["User", "Group"]).same (.link ["User", "Group"]) = true ∧
      (Attribute.link ["User", "Group"]).same (.link ["Group", "User"]) = true ∧
      (Attribute.link ["Group", "User"]).same (.link ["User", "Group"]) = true ∧
      SymmetricAt Target.same (.resource ["User", "Group"]) := by
  obtain ⟨htarget, -, -, hattr⟩ := equality_laws (.resource ["User", "Group"]) .outside .uri .unknown .unknown .unknown
    [] [] [] (.link ["User", "Group"]) (.link ["Group", "User"]) (.link ["User", "Group"])
  have hplain : (Attribute.link ["User", "Group"]).Throughout Attribute.PlainCanonical := by
    refine Attribute.throughout_link ?_ ?_
    · rintro canonical ⟨⟩
    · rintro canonical ⟨⟩
  have honce : (Attribute.link ["User", "Group"]).Throughout Attribute.NamesOnce := by
    refine Attribute.throughout_link ?_ ?_
    · rintro target ⟨⟩
    · rintro target ⟨⟩
      show List.Nodup _
      decide
  have hsame : (Attribute.link ["User", "Group"]).same (.link ["Group", "User"]) = true := by decide +kernel
  exact ⟨honce, hattr.refl hplain, hsame, (hattr.symm_iff hplain).2 honce _ hsame,
    (htarget.symm_iff trivial).2 (by show List.Nodup _; decide)⟩

/-- A reference that names a type twice equals one that names another type in the place of the repetition, and not the
other way round.  The same is true of what has them inside. -/
theorem equality_not_symmetric :
    let users := ["User", "User"]
    let both := ["User", "Group"]
    Attribute.declare "owner" (.reference (.resource users)) = .ok (.owner users) ∧
      Attribute.declare "owner" (.reference (.resource both)) = .ok (.owner both) ∧
      (Target.resource users).same (.resource both) = true ∧ (Target.resource both).same (.resource users) = false ∧
      (Attribute.owner users).kind.same (Attribute.owner both).kind = true ∧
      (Attribute.owner both).kind.same (Attribute.owner users).kind = false ∧
      (Attribute.owner users).same (.owner both) = true ∧ (Attribute.owner both).same (.owner users) = false ∧
      sameAttributes [.owner users] [.owner both] = true ∧ sameAttributes [.owner both] [.owner users] = false ∧
      (Attribute.link users).same (.link both) = true ∧ (Attribute.link both).same (.link users) = false := by
  refine ⟨Attribute.declare_owner _, Attribute.declare_owner _, ?_⟩
  decide +kernel

end Scim
