import Scim.Attribute.Declaration
import Scim.Attribute.Projection
import Scim.Proofs.Attribute.Conversion

/-!
# Attributes that can be made

The sub-attributes of an attribute are a collection, and a collection holds one attribute of each name.  There is no
way to an attribute that goes around this: it is declared with a collection, or copied, or bound to a schema, or
taken out of another one.  So the names of the sub-attributes differ, at every depth, and each of them is found by
its own name.

## Main results

* `Attributes.DistinctNames.find?_of_mem`: an attribute of a collection is found by its name.
* `Attribute.WellNamed.restrict`, `Attribute.WellNamed.bindTo`: what is made of an attribute whose names differ is
  one.
* `Attribute.Made.wellNamed`: the names of every attribute that can be made differ.
-/

namespace Scim

/-! ## Collections -/

namespace Attributes

theorem mem_put {attrs : Attributes} {attr other : Attribute} (h : other ∈ attrs.put attr) :
    other ∈ attrs ∨ other = attr := by
  unfold put at h
  split at h
  · obtain ⟨old, hold, rfl⟩ := List.mem_map.1 h
    split
    · exact .inr rfl
    · exact .inl hold
  · simpa using h

/-- A collection holds nothing but what was collected. -/
theorem mem_of_mem_collect {given : List Attribute} {attr : Attribute} (h : attr ∈ collect given) : attr ∈ given := by
  have step : ∀ (given : List Attribute) (found : Attributes),
      attr ∈ given.foldl put found → attr ∈ found ∨ attr ∈ given := by
    intro given
    induction given with
    | nil => exact fun found h => .inl h
    | cons first given ih =>
      intro found h
      rcases ih _ h with hfound | hlater
      · rcases mem_put hfound with hold | rfl
        · exact .inl hold
        · exact .inr List.mem_cons_self
      · exact .inr (List.mem_cons_of_mem _ hlater)
  exact (step given [] h).resolve_left List.not_mem_nil

/-- Collecting a collection once more changes nothing. -/
theorem collect_eq_self {attrs : Attributes} (h : attrs.DistinctNames) : collect attrs = attrs := by
  have step : ∀ (given found : Attributes), DistinctNames (found ++ given) →
      given.foldl put found = found ++ given := by
    intro given
    induction given with
    | nil => exact fun found _ => (List.append_nil found).symm
    | cons attr given ih =>
      intro found hnames
      have hnew : ¬ (found.any fun other => other.name == attr.name) = true := by
        rw [List.any_eq_true]
        rintro ⟨other, hother, hsame⟩
        exact (List.pairwise_append.1 hnames).2.2 other hother attr List.mem_cons_self (AttrName.beq_iff.1 hsame)
      rw [List.append_cons] at hnames ⊢
      rw [List.foldl_cons, put, if_neg hnew]
      exact ih _ hnames
  exact step attrs [] h

/-- Whether the names differ is seen from the names alone. -/
theorem distinctNames_iff_nodup {attrs : Attributes} :
    attrs.DistinctNames ↔ (attrs.map fun attr => attr.name.folded).Nodup := by
  rw [DistinctNames, List.Nodup, List.pairwise_map]

/-- An attribute of a collection is found by its name. -/
theorem DistinctNames.find?_of_mem {attrs : Attributes} (h : attrs.DistinctNames) {attr : Attribute}
    (hmem : attr ∈ attrs) : attrs.find? attr.name = some attr := by
  cases hfound : attrs.find? attr.name with
  | none =>
    have hmiss := List.find?_eq_none.1 hfound attr hmem
    exact absurd (AttrName.beq_iff.2 rfl) hmiss
  | some found =>
    have hhit := List.find?_some hfound
    rw [h.eq_of_folded (List.mem_of_find?_eq_some hfound) hmem (AttrName.beq_iff.1 hhit)]

/-- A map that keeps the names keeps them different. -/
theorem DistinctNames.map {attrs : Attributes} (h : attrs.DistinctNames) {f : Attribute → Attribute}
    (hname : ∀ attr, (f attr).name = attr.name) : DistinctNames (attrs.map f) := by
  refine List.pairwise_map.2 (h.imp ?_)
  intro a b hab
  rwa [hname, hname]

theorem DistinctNames.restrictAll {attrs : Attributes} (h : attrs.DistinctNames) (keep : Keep) :
    DistinctNames (Scim.restrictAll keep attrs) := by
  rw [restrictAll_eq]
  refine DistinctNames.map (List.Pairwise.filter _ h) fun attr => ?_
  rw [Attribute.name, Attribute.path_restrict, Attribute.name]

end Attributes

namespace Attribute

/-! ## Names at every depth -/

/-- The sub-attributes have different names. -/
def DistinctSubs (attr : Attribute) : Prop := ∀ subs, attr.kind = .complex subs → Attributes.DistinctNames subs

/-- So do theirs, at every depth. -/
abbrev WellNamed (attr : Attribute) : Prop := attr.Throughout DistinctSubs

variable {attr other : Attribute}

theorem wellNamed_iff : attr.WellNamed ↔ ∀ subs, attr.kind = .complex subs →
    Attributes.DistinctNames subs ∧ ∀ sub ∈ subs, sub.WellNamed := by
  constructor
  · rintro ⟨here, below⟩ subs hkind
    exact ⟨here subs hkind, below subs hkind⟩
  · intro h
    exact .intro (fun subs hkind => (h subs hkind).1) fun subs hkind => (h subs hkind).2

namespace WellNamed

/-- An attribute without sub-attributes has none of the same name. -/
theorem of_simple (h : ∀ subs, attr.kind ≠ .complex subs) : attr.WellNamed :=
  wellNamed_iff.2 fun subs hkind => absurd hkind (h subs)

/-- Nothing but the kind matters. -/
theorem of_kind (h : attr.WellNamed) (hkind : other.kind = attr.kind) : other.WellNamed :=
  wellNamed_iff.2 fun subs hsubs => wellNamed_iff.1 h subs (hkind ▸ hsubs)

/-- The sub-attributes have different names, as they are asked for. -/
theorem distinctNames_subs (h : attr.WellNamed) {subs : Attributes} (hsubs : attr.subs? = some subs) :
    subs.DistinctNames := by
  unfold subs? at hsubs
  split at hsubs
  · next hkind =>
    cases hsubs
    exact (wellNamed_iff.1 h _ hkind).1
  · cases hsubs

theorem of_collection {subs : Attributes} (hkind : attr.kind = .complex subs) (hnames : subs.DistinctNames)
    (hsubs : ∀ sub ∈ subs, sub.WellNamed) : attr.WellNamed := by
  refine wellNamed_iff.2 fun other hother => ?_
  cases Kind.complex.inj (hkind.symm.trans hother)
  exact ⟨hnames, hsubs⟩

theorem restrict (h : attr.WellNamed) (keep : Keep) : (attr.restrict keep).WellNamed := by
  induction h with
  | @intro attr here _ ih =>
    obtain ⟨path, kind, traits, hooks⟩ := attr
    cases kind with
    | complex subs =>
      have hkind : (Attribute.restrict keep ⟨path, .complex subs, traits, hooks⟩).kind =
          .complex (restrictAll keep subs) := by
        rw [Attribute.restrict, Kind.restrict]
      refine of_collection hkind ((here subs rfl).restrictAll keep) ?_
      · rw [restrictAll_eq, List.forall_mem_map]
        exact fun sub hsub => ih subs rfl sub (List.mem_filter.1 hsub).1
    | _ =>
      refine of_simple fun subs => ?_
      rw [Attribute.restrict, Kind.restrict]
      · simp
      · simp

theorem copy (h : attr.WellNamed) {path : Option Path} {keep : Option Keep} {next : Attribute}
    (hcopy : attr.copy path keep = .ok next) : next.WellNamed := by
  unfold Attribute.copy at hcopy
  split at hcopy
  · cases hcopy
    exact h.of_kind rfl
  · next keep =>
    split at hcopy
    · cases hcopy
      exact (h.restrict keep).of_kind rfl
    · cases hcopy

theorem bindTo (h : attr.WellNamed) (path : BoundPath) : (attr.bindTo path).WellNamed := by
  obtain ⟨_, kind, traits, hooks⟩ := attr
  cases kind with
  | complex subs =>
    obtain ⟨hnames, hsubs⟩ := wellNamed_iff.1 h subs rfl
    refine of_collection rfl (hnames.map fun sub => rfl) ?_
    rw [List.forall_mem_map]
    exact fun sub hsub => (hsubs sub hsub).of_kind rfl
  | _ => exact of_simple (by simp [Attribute.bindTo])

end WellNamed

/-! ## Making attributes -/

theorem conventionalSubs_wellNamed : Attributes.DistinctNames conventionalSubs ∧
    ∀ sub ∈ conventionalSubs, sub.WellNamed := by
  constructor
  · rw [Attributes.distinctNames_iff_nodup]
    decide +kernel
  · intro sub hsub
    refine .of_simple fun subs => ?_
    simp only [conventionalSubs, List.mem_cons, List.not_mem_nil, or_false] at hsub
    rcases hsub with rfl | rfl | rfl | rfl | rfl <;> simp [Attribute.simple]

/-- A declared attribute has the sub-attributes that it was given, or else those of convention or none. -/
theorem kind_of_declare {name : String} {kind : Kind} {traits : Traits} {hooks : Hooks}
    (h : declare name kind traits hooks = .ok attr) : attr.kind = declaredKind traits.multiValued kind := by
  unfold declare at h
  cases hname : AttrName.parse name with
  | error fault =>
    simp only [hname, bind, Except.bind] at h
    cases h
  | ok found =>
    simp only [hname, bind, Except.bind] at h
    cases h
    rfl

/-- The attributes that can be made. -/
inductive Made : Attribute → Prop
  /-- Declared without sub-attributes. -/
  | simple {name : String} {kind : Kind} {traits : Traits} {hooks : Hooks} {attr : Attribute}
      (hkind : ∀ subs, kind ≠ .complex subs) (h : declare name kind traits hooks = .ok attr) : Made attr
  /-- Declared with a collection of sub-attributes. -/
  | complex {name : String} {given : List Attribute} {traits : Traits} {hooks : Hooks} {attr : Attribute}
      (hgiven : ∀ sub ∈ given, Made sub)
      (h : declare name (.complex (Attributes.collect given)) traits hooks = .ok attr) : Made attr
  | copied {attr next : Attribute} {path : Option Path} {keep : Option Keep} (before : Made attr)
      (h : attr.copy path keep = .ok next) : Made next
  | bound {attr : Attribute} (before : Made attr) (path : BoundPath) : Made (attr.bindTo path)
  | sub {attr sub : Attribute} {subs : Attributes} (before : Made attr) (hkind : attr.kind = .complex subs)
      (hsub : sub ∈ subs) : Made sub

/-- The usual attributes without sub-attributes can be made. -/
theorem Made.of_simple (name : AttrName) {kind : Kind} {traits : Traits} (hkind : ∀ subs, kind ≠ .complex subs)
    (hexact : (traits.caseExact || isAlwaysExact kind) = traits.caseExact) (hcanonical : traits.canonical = none) :
    (Attribute.simple name kind traits).Made := by
  refine @Made.simple name.text kind traits {} _ hkind ?_
  have hdeclared : declaredKind traits.multiValued kind = kind := declaredKind.eq_2 _ _ (hkind [])
  simp only [declare, AttrName.parse_text, hdeclared, hexact, bind, Except.bind]
  obtain ⟨description, issuer, required, multiValued, canonical, mutability, returned, caseExact, uniqueness⟩ := traits
  cases hcanonical
  cases kind with
  | complex subs => exact absurd rfl (hkind subs)
  | _ => cases multiValued <;> rfl

theorem Made.wellNamed (h : attr.Made) : attr.WellNamed := by
  induction h with
  | @simple name kind traits hooks attr hkind h =>
    refine .of_simple fun subs hsubs => ?_
    rw [kind_of_declare h, declaredKind.eq_2 _ _ (hkind [])] at hsubs
    exact hkind subs hsubs
  | @complex name given traits hooks attr hgiven h ih =>
    have hkind := kind_of_declare h
    have hsubs : ∀ sub ∈ Attributes.collect given, sub.WellNamed := fun sub hsub =>
      ih sub (Attributes.mem_of_mem_collect hsub)
    -- without any, a multi-valued attribute is given those of convention instead
    cases hcollected : Attributes.collect given with
    | nil =>
      rw [hcollected] at hkind
      obtain ⟨hnames, hconventional⟩ := conventionalSubs_wellNamed
      refine .of_collection hkind ?_ ?_
      · split
        · exact hnames
        · exact List.Pairwise.nil
      · split
        · exact hconventional
        · exact fun sub hsub => absurd hsub List.not_mem_nil
    | cons first rest =>
      rw [hcollected] at hkind hsubs
      exact .of_collection hkind (hcollected ▸ Attributes.collect_distinct given) hsubs
  | copied _ h ih => exact ih.copy h
  | bound _ path ih => exact ih.bindTo path
  | sub _ hkind hsub ih => exact (wellNamed_iff.1 ih _ hkind).2 _ hsub

end Attribute

end Scim
