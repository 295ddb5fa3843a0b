import Mathlib.Data.List.Forall2
import Scim.Proofs.Attribute.Equality
import Scim.Proofs.Schema.Reachable

/-!
# Leaving attributes out of a schema

The attributes of a schema are kept as they were declared, and bound to the schema whenever they are asked for.
Leaving some of them out is done to the declarations.  A predicate is therefore asked about declarations, whose paths
name no schema, and not about the attributes that one goes through.

A predicate that looks only at the name and the characteristics of an attribute cannot tell the two apart, nor an
attribute from what was left of it.  For such a predicate it makes no difference whether attributes are first bound
and then left out or the other way round, at any depth.  So one goes through exactly those attributes that pass, by
the same paths as before; a path that names a schema finds what it found, if that passes with the attribute above it;
and leaving out by one predicate after the other is leaving out by both.

## Main results

* `Attribute.restrict_bindTo`: binding and leaving out commute.
* `SchemaAttributes.all_restrict`: what one goes through afterwards.
* `SchemaAttributes.find?_restrict`: what a path finds afterwards.
* `SchemaAttributes.restrict_restrict`: two predicates, one after the other.
* `SchemaAttributes.restriction`: the whole statement.
-/

namespace Scim

/-! ## Predicates on characteristics -/

/-- The kind, without the sub-attributes. -/
def Kind.outer : Kind → Kind
  | .complex _ => .complex []
  | kind => kind

/-- Two attributes have the same name and the same characteristics.  Their paths may differ otherwise, and so may
their sub-attributes. -/
structure Attribute.Alike (a b : Attribute) : Prop where
  name : a.name = b.name
  kind : a.kind.outer = b.kind.outer
  traits : a.traits = b.traits
  hooks : a.hooks = b.hooks

/-- The predicate depends on nothing but the name and the characteristics. -/
def Keep.OfCharacteristics (keep : Keep) : Prop := ∀ a b : Attribute, a.Alike b → keep a = keep b

/-- An attribute with exactly those of its sub-attributes that pass, in order, and so on at every depth. -/
inductive Trimmed (keep : Keep) : Attribute → Attribute → Prop
  | simple {attr : Attribute} (hkind : ∀ subs, attr.kind ≠ .complex subs) : Trimmed keep attr attr
  | complex {path : Path} {traits : Traits} {hooks : Hooks} {subs kept : Attributes}
      (each : List.Forall₂ (Trimmed keep) (subs.filter keep) kept) :
      Trimmed keep ⟨path, .complex subs, traits, hooks⟩ ⟨path, .complex kept, traits, hooks⟩

variable {keep other : Keep} {attr : Attribute}

theorem Kind.outer_restrict (keep : Keep) (kind : Kind) : (kind.restrict keep).outer = kind.outer := by
  cases kind <;> rw [Kind.restrict] <;> first | rfl | simp

/-- What is left of an attribute has its name and its characteristics. -/
theorem Attribute.alike_restrict (keep : Keep) (attr : Attribute) : (attr.restrict keep).Alike attr := by
  obtain ⟨path, kind, traits, hooks⟩ := attr
  rw [restrict]
  exact ⟨rfl, Kind.outer_restrict keep kind, rfl, rfl⟩

theorem Attribute.name_restrict (keep : Keep) (attr : Attribute) : (attr.restrict keep).name = attr.name :=
  (attr.alike_restrict keep).name

/-- So has an attribute that is bound by a path of its name. -/
theorem Attribute.alike_bindTo {path : BoundPath} (hname : path.rep.name = attr.name) :
    (attr.bindTo path).Alike attr := by
  refine ⟨hname, ?_, rfl, rfl⟩
  obtain ⟨_, kind, _, _⟩ := attr
  cases kind <;> rfl

/-- Only the kind is restricted. -/
theorem Attribute.restrict_eq (keep : Keep) (attr : Attribute) :
    attr.restrict keep = { attr with kind := attr.kind.restrict keep } := by
  cases attr
  rw [restrict]

theorem Kind.restrict_of_simple {kind : Kind} (hkind : ∀ subs, kind ≠ .complex subs) (keep : Keep) :
    kind.restrict keep = kind := by
  cases kind with
  | complex subs => exact absurd rfl (hkind subs)
  | _ => rw [Kind.restrict]; simp

/-- Where each member of a list is related to its image and to nothing else, the list is related to the list of the
images and to no other. -/
theorem forall₂_iff_eq_map {α β : Type} {R : α → β → Prop} {f : α → β} {xs : List α} {ys : List β}
    (h : ∀ x ∈ xs, ∀ y, R x y ↔ y = f x) : List.Forall₂ R xs ys ↔ ys = xs.map f := by
  induction xs generalizing ys with
  | nil => simp
  | cons x xs ih =>
    obtain ⟨hfirst, hrest⟩ := List.forall_mem_cons.1 h
    cases ys with
    | nil => simp
    | cons y ys => rw [List.forall₂_cons, hfirst, ih hrest, List.map_cons, List.cons.injEq]

/-- An attribute trimmed is what the predicate leaves of it. -/
theorem trimmed_iff {kept : Attribute} : Trimmed keep attr kept ↔ kept = attr.restrict keep := by
  induction attr using Attribute.induct generalizing kept with
  | step attr ih =>
    rw [Attribute.restrict_eq]
    obtain ⟨path, kind, traits, hooks⟩ := attr
    by_cases hkind : ∃ subs, kind = .complex subs
    · obtain ⟨subs, rfl⟩ := hkind
      have heach : ∀ kept : Attributes, List.Forall₂ (Trimmed keep) (subs.filter keep) kept ↔
          kept = (subs.filter keep).map (Attribute.restrict keep) := fun _ =>
        forall₂_iff_eq_map fun sub hsub _ => ih subs rfl sub (List.mem_of_mem_filter hsub)
      rw [Kind.restrict, restrictAll_eq]
      refine ⟨fun h => ?_, fun h => ?_⟩
      · cases h with
        | simple hkind => exact absurd rfl (hkind subs)
        | complex each => rw [(heach _).1 each]
      · rw [h]
        exact .complex ((heach _).2 rfl)
    · have hsimple : ∀ subs, kind ≠ .complex subs := fun subs h => hkind ⟨subs, h⟩
      rw [Kind.restrict_of_simple hsimple]
      refine ⟨fun h => ?_, ?_⟩
      · cases h with
        | simple => rfl
        | complex => exact absurd rfl (hsimple _)
      · rintro rfl
        exact .simple hsimple

/-! ## Binding and leaving out -/

/-- An attribute under another path. -/
theorem Attribute.restrict_path (keep : Keep) (attr : Attribute) (path : Path) :
    Attribute.restrict keep { attr with path } = { attr.restrict keep with path } := by
  rw [restrict_eq, restrict_eq]

/-- Of attributes that are changed in nothing that the predicate looks at, those are left that were left before. -/
theorem restrictAll_map {f : Attribute → Attribute} (hkeep : ∀ attr, keep (f attr) = keep attr)
    (hrestrict : ∀ attr, (f attr).restrict keep = f (attr.restrict keep)) (attrs : Attributes) :
    restrictAll keep (attrs.map f) = (restrictAll keep attrs).map f := by
  have hpasses : keep ∘ f = keep := funext hkeep
  rw [restrictAll_eq, restrictAll_eq, List.filter_map, hpasses, List.map_map, List.map_map]
  exact List.map_congr_left fun attr _ => hrestrict attr

theorem restrictAll_restrictAll_of_mem (hkeep : keep.OfCharacteristics) {first : Keep} {attrs : Attributes}
    (h : ∀ attr ∈ attrs, (attr.restrict first).restrict keep = attr.restrict fun attr => first attr && keep attr) :
    restrictAll keep (restrictAll first attrs) = restrictAll (fun attr => first attr && keep attr) attrs := by
  have hpasses : keep ∘ Attribute.restrict first = keep :=
    funext fun attr => hkeep _ _ (attr.alike_restrict first)
  rw [restrictAll_eq, restrictAll_eq, restrictAll_eq, List.filter_map, hpasses, List.filter_filter, List.map_map]
  simp only [Bool.and_comm (keep _)]
  exact List.map_congr_left fun attr hattr => h attr (List.mem_of_mem_filter hattr)

section OfCharacteristics

variable (hkeep : keep.OfCharacteristics)

include hkeep

/-- It makes no difference whether an attribute is bound first or trimmed first. -/
theorem Attribute.restrict_bindTo (attr : Attribute) (path : BoundPath) :
    (attr.bindTo path).restrict keep = (attr.restrict keep).bindTo path := by
  obtain ⟨_, kind, traits, hooks⟩ := attr
  cases kind with
  | complex subs =>
    simp only [bindTo, restrict_eq, Kind.restrict]
    rw [restrictAll_map]
    · exact fun sub => hkeep _ _ ⟨rfl, rfl, rfl, rfl⟩
    · intro sub
      rw [restrict_path, name_restrict]
  | _ => simp [bindTo, restrict_eq, Kind.restrict]

theorem AttributeSet.attrs_restrict (set : AttributeSet) :
    (set.restrict keep).attrs = restrictAll keep set.attrs := by
  refine (restrictAll_map (fun attr => hkeep _ _ (Attribute.alike_bindTo rfl)) (fun attr => ?_) _).symm
  rw [Attribute.restrict_bindTo hkeep, Attribute.name_restrict]

/-- What is left by one predicate after another is what is left by both. -/
theorem Attribute.restrict_restrict (first : Keep) (attr : Attribute) :
    (attr.restrict first).restrict keep = attr.restrict fun attr => first attr && keep attr := by
  induction attr using Attribute.induct with
  | step attr ih =>
    rw [restrict_eq, restrict_eq, restrict_eq]
    obtain ⟨path, kind, traits, hooks⟩ := attr
    by_cases hkind : ∃ subs, kind = .complex subs
    · obtain ⟨subs, rfl⟩ := hkind
      simp only [Kind.restrict]
      rw [restrictAll_restrictAll_of_mem hkeep (ih subs rfl)]
    · have hsimple : ∀ subs, kind ≠ .complex subs := fun subs h => hkind ⟨subs, h⟩
      simp only [Kind.restrict_of_simple hsimple]

theorem restrictAll_restrictAll (first : Keep) (attrs : Attributes) :
    restrictAll keep (restrictAll first attrs) = restrictAll (fun attr => first attr && keep attr) attrs :=
  restrictAll_restrictAll_of_mem hkeep fun attr _ => attr.restrict_restrict hkeep first

end OfCharacteristics

/-! ## Finding what is left -/

theorem Attribute.subs?_restrict (keep : Keep) (attr : Attribute) :
    (attr.restrict keep).subs? = attr.subs?.map (restrictAll keep) := by
  obtain ⟨path, kind, traits, hooks⟩ := attr
  cases kind <;> simp [subs?, restrict_eq, Kind.restrict]

theorem Attributes.find?_cons (attr : Attribute) (attrs : Attributes) (name : AttrName) :
    Attributes.find? (attr :: attrs) name = if attr.name == name then some attr else attrs.find? name := by
  rw [Attributes.find?, List.find?_cons]
  cases attr.name == name <;> rfl

/-- Of different names each is found if it was found before and its attribute passes. -/
theorem Attributes.find?_restrictAll {attrs : Attributes} (h : attrs.DistinctNames) (keep : Keep) (name : AttrName) :
    Attributes.find? (restrictAll keep attrs) name =
      ((attrs.find? name).filter keep).map (Attribute.restrict keep) := by
  induction attrs with
  | nil => rfl
  | cons attr attrs ih =>
    obtain ⟨hfirst, hrest⟩ := List.pairwise_cons.1 h
    rw [restrictAll, find?_cons]
    cases hhit : attr.name == name with
    | true =>
      cases hpasses : keep attr with
      | true => simp [find?_cons, attr.name_restrict, hhit, Option.filter, hpasses]
      | false =>
        -- no other attribute has the name
        have hnone : Attributes.find? attrs name = none := by
          refine List.find?_eq_none.2 fun other hother hsame => ?_
          exact hfirst other hother ((AttrName.beq_iff.1 hhit).trans (AttrName.beq_iff.1 hsame).symm)
        have hleft := ih hrest
        rw [hnone] at hleft
        simpa [Option.filter, hpasses] using hleft
    | false =>
      have hleft := ih hrest
      split
      · rw [find?_cons, attr.name_restrict, hhit]
        exact hleft
      · exact hleft

namespace SchemaAttributes

variable {attrs : SchemaAttributes} {catalog : Catalog} {path : BoundPath} {kept : Attribute}

theorem sets_restrict (attrs : SchemaAttributes) (keep : Keep) :
    (attrs.restrict keep).sets = attrs.sets.map fun set => set.restrict keep := rfl

/-- An extension that was attached is attached still. -/
theorem extension?_restrict (attrs : SchemaAttributes) (keep : Keep) (schema : SchemaUri) :
    (attrs.restrict keep).extension? schema = (attrs.extension? schema).map fun set => set.restrict keep := by
  rw [extension?, restrict, List.find?_map]
  rfl

/-- What is gone through afterwards is what passes of what was gone through before. -/
theorem all_restrict (hkeep : keep.OfCharacteristics) (attrs : SchemaAttributes) :
    (attrs.restrict keep).all = restrictAll keep attrs.all := by
  have hattrs : ∀ set : AttributeSet, (set.restrict keep).attrs =
      (set.attrs.filter keep).map (Attribute.restrict keep) := fun set => by
    rw [AttributeSet.attrs_restrict hkeep, restrictAll_eq]
  rw [all_eq, all_eq, sets_restrict, List.flatMap_map, restrictAll_eq, List.filter_flatMap, List.map_flatMap]
  simp only [hattrs]

theorem candidates_restrict (hkeep : keep.OfCharacteristics) (attrs : SchemaAttributes) (path : BoundPath) :
    (attrs.restrict keep).candidates (.bound path) = restrictAll keep (attrs.candidates (.bound path)) := by
  simp only [candidates, extension?_restrict]
  cases attrs.extension? path.schema with
  | some set => exact AttributeSet.attrs_restrict hkeep set
  | none =>
    have hschema : (attrs.restrict keep).own.schema = attrs.own.schema := rfl
    simp only [Option.map_none, hschema]
    split
    · exact AttributeSet.attrs_restrict hkeep attrs.own
    · rfl

/-- A qualified path is looked up among attributes with different names, and so are their sub-attributes. -/
theorem Reachable.wellNamed_candidates (h : attrs.Reachable catalog) (path : BoundPath) :
    (attrs.candidates (.bound path)).DistinctNames ∧ ∀ attr ∈ attrs.candidates (.bound path), attr.WellNamed := by
  have hset : ∀ set ∈ attrs.sets, set.attrs.DistinctNames ∧ ∀ attr ∈ set.attrs, attr.WellNamed := fun set hset =>
    ⟨(h.wellFormed set hset).distinctNames_attrs, fun _ => (h.wellFormed set hset).wellNamed_of_mem⟩
  simp only [candidates]
  split
  · next set hfound => exact hset set (List.mem_cons_of_mem _ (List.mem_of_find?_eq_some hfound))
  · split
    · exact hset attrs.own List.mem_cons_self
    · exact ⟨List.Pairwise.nil, fun attr hattr => absurd hattr List.not_mem_nil⟩

/-- The attribute that a qualified path leads to passes, or that of which it asks for a sub-attribute. -/
def Passes (attrs : SchemaAttributes) (keep : Keep) (path : BoundPath) : Prop :=
  ∀ top, attrs.find? (.bound path.topLevel) = .ok (some top) → keep top = true

theorem passes_iff : attrs.Passes keep path ↔
    ∀ top, (attrs.candidates (.bound path)).find? path.rep.attr = some top → keep top = true := by
  have htop : attrs.find? (.bound path.topLevel) = .ok ((attrs.candidates (.bound path)).find? path.rep.attr) :=
    attrs.find?_topLevel (.bound path)
  simp only [Passes, htop, Except.ok.injEq]

section Find

variable (h : attrs.Reachable catalog) (hkeep : keep.OfCharacteristics)

include h hkeep

/-- Where the attribute above it passes, a qualified path finds what it found, if that passes too. -/
theorem find?_restrict (hpasses : attrs.Passes keep path) :
    (attrs.restrict keep).find? (.bound path) =
      (attrs.find? (.bound path)).map fun found => (found.filter keep).map (Attribute.restrict keep) := by
  obtain ⟨hnames, hbelow⟩ := h.wellNamed_candidates path
  have htops := passes_iff.1 hpasses
  have hrep : (Path.bound path).rep = path.rep := rfl
  unfold find?
  rw [candidates_restrict hkeep, hrep, Attributes.find?_restrictAll hnames]
  cases htop : (attrs.candidates (.bound path)).find? path.rep.attr with
  | none => rfl
  | some top =>
    have hwell := hbelow top (List.mem_of_find?_eq_some htop)
    rw [Option.filter_some, if_pos (htops top htop)]
    cases hsub : path.rep.sub with
    | none => simp [Except.map, Option.filter_some, htops top htop]
    | some sub =>
      cases hsubs : top.subs? with
      | none => simp [Attribute.subs?_restrict, hsubs, Except.map, Attribute.path_restrict]
      | some subs =>
        simp [Attribute.subs?_restrict, hsubs, Except.map,
          Attributes.find?_restrictAll (hwell.distinctNames_subs hsubs)]

/-- Where the attribute above it does not pass, a qualified path finds nothing. -/
theorem find?_restrict_of_not_passes (hfails : ¬ attrs.Passes keep path) :
    (attrs.restrict keep).find? (.bound path) = .ok none := by
  simp only [passes_iff, not_forall] at hfails
  obtain ⟨top, htop, hfails⟩ := hfails
  have hgone : Attributes.find? (restrictAll keep (attrs.candidates (.bound path))) path.rep.attr = none := by
    rw [Attributes.find?_restrictAll (h.wellNamed_candidates path).1, htop, Option.filter_some, if_neg hfails]
    rfl
  have hrep : (Path.bound path).rep = path.rep := rfl
  unfold find?
  rw [candidates_restrict hkeep, hrep, hgone]

/-- A qualified path finds an attribute exactly if it found one before that passes, below one that passes. -/
theorem find?_restrict_eq_some_iff :
    (attrs.restrict keep).find? (.bound path) = .ok (some kept) ↔
      ∃ attr, attrs.find? (.bound path) = .ok (some attr) ∧ keep attr = true ∧ attrs.Passes keep path ∧
        Trimmed keep attr kept := by
  simp only [trimmed_iff]
  by_cases hpasses : attrs.Passes keep path
  · rw [find?_restrict h hkeep hpasses]
    cases attrs.find? (.bound path) with
    | error fault => simp [Except.map]
    | ok found =>
      cases found with
      | none => simp [Except.map]
      | some attr =>
        have hleft : ((some attr).filter keep).map (Attribute.restrict keep) = some kept ↔
            keep attr = true ∧ kept = attr.restrict keep := by
          by_cases hattr : keep attr = true
          · simpa [hattr] using eq_comm
          · simp [hattr]
        simp only [Except.map, Except.ok.injEq, hleft, Option.some.injEq, exists_eq_left', hpasses, true_and]
  · simp [find?_restrict_of_not_passes h hkeep hpasses, hpasses]

/-- It fails exactly if it failed before, at an attribute that passes. -/
theorem find?_restrict_eq_error_iff {fault : Fault} :
    (attrs.restrict keep).find? (.bound path) = .error fault ↔
      attrs.find? (.bound path) = .error fault ∧ attrs.Passes keep path := by
  by_cases hpasses : attrs.Passes keep path
  · rw [find?_restrict h hkeep hpasses]
    cases attrs.find? (.bound path) <;> simp [Except.map, hpasses]
  · simp [find?_restrict_of_not_passes h hkeep hpasses, hpasses]

end Find

/-! ## Sets and predicates together -/

/-- A set after attributes were left out of it: under the same identifier, with the attributes that pass. -/
structure Left (keep : Keep) (set kept : AttributeSet) : Prop where
  schema : kept.schema = set.schema
  extension : kept.extension = set.extension
  required : kept.required = set.required
  attrs : List.Forall₂ (Trimmed keep) (set.attrs.filter keep) kept.attrs

theorem forall₂_trimmed (keep : Keep) (attrs : Attributes) :
    List.Forall₂ (Trimmed keep) (attrs.filter keep) (restrictAll keep attrs) :=
  (@forall₂_iff_eq_map _ _ (Trimmed keep) _ _ _ fun _ _ _ => trimmed_iff).2 (restrictAll_eq keep attrs)

theorem left_restrict (hkeep : keep.OfCharacteristics) (set : AttributeSet) : Left keep set (set.restrict keep) where
  schema := rfl
  extension := rfl
  required := rfl
  attrs := AttributeSet.attrs_restrict hkeep set ▸ forall₂_trimmed keep set.attrs

/-- Leaving out by one predicate and then by another is leaving out by both at once. -/
theorem restrict_restrict (hother : other.OfCharacteristics) (attrs : SchemaAttributes) :
    (attrs.restrict keep).restrict other = attrs.restrict fun attr => keep attr && other attr := by
  have hset : ∀ set : AttributeSet,
      (set.restrict keep).restrict other = set.restrict fun attr => keep attr && other attr := fun set => by
    simp only [AttributeSet.restrict, restrictAll_restrictAll hother]
  simp only [restrict, hset, List.map_map]
  congr 1
  exact List.map_congr_left fun set _ => hset set

/-- Whatever attributes can be reached and whatever predicate looks only at names and characteristics: afterwards
one goes through exactly those attributes that pass, in order and by the same paths, each with exactly those of its
sub-attributes that pass, at every depth; a path that names a schema finds an attribute if and only if it found one
that passes, with the attribute above it; the own attributes and every extension stay under their identifier and as
required as they were; and leaving out by one predicate after the other is leaving out by both.  What is left can be
reached, so all of this holds of it too. -/
theorem restriction (catalog : Catalog) (attrs : SchemaAttributes) (h : attrs.Reachable catalog) (keep : Keep)
    (hkeep : keep.OfCharacteristics) :
    (attrs.restrict keep).Reachable catalog ∧
    (List.Forall₂ (Trimmed keep) (attrs.all.filter keep) (attrs.restrict keep).all ∧
      (attrs.restrict keep).all.map Attribute.path = (attrs.all.filter keep).map Attribute.path) ∧
    (∀ path kept, (attrs.restrict keep).find? (.bound path) = .ok (some kept) ↔
      ∃ attr, attrs.find? (.bound path) = .ok (some attr) ∧ keep attr = true ∧ attrs.Passes keep path ∧
        Trimmed keep attr kept) ∧
    (∀ path fault, (attrs.restrict keep).find? (.bound path) = .error fault ↔
      attrs.find? (.bound path) = .error fault ∧ attrs.Passes keep path) ∧
    (Left keep attrs.own (attrs.restrict keep).own ∧
      List.Forall₂ (Left keep) attrs.extensions (attrs.restrict keep).extensions) ∧
    ∀ other : Keep, other.OfCharacteristics →
      (attrs.restrict keep).restrict other = attrs.restrict fun attr => keep attr && other attr := by
  refine ⟨.restricted h keep, ⟨?_, ?_⟩, fun path kept => find?_restrict_eq_some_iff h hkeep,
    fun path fault => find?_restrict_eq_error_iff h hkeep, ⟨left_restrict hkeep attrs.own, ?_⟩,
    fun other hother => restrict_restrict hother attrs⟩
  · rw [all_restrict hkeep]
    exact forall₂_trimmed keep attrs.all
  · rw [all_restrict hkeep, restrictAll_eq, List.map_map]
    exact List.map_congr_left fun attr _ => attr.path_restrict keep
  · exact List.forall₂_map_right_iff.2 (List.forall₂_same.2 fun set _ => left_restrict hkeep set)

/-- Everything but the family name. -/
def withoutFamily : Keep := fun attr => attr.name.text != "family"

/-- The path of a part of the name of people. -/
def nameOfPeople (part : AttrName) : BoundPath := ⟨personUri, false, ⟨nameInParts.name, some part⟩⟩

/-- The given name is found still, by the same path, and the family name is not. -/
theorem restriction_of_family :
    ofMembers.Reachable membersCatalog ∧ withoutFamily.OfCharacteristics ∧
      (ofMembers.restrict withoutFamily).all.map Attribute.path = ofMembers.all.map Attribute.path ∧
      (∃ kept, (ofMembers.restrict withoutFamily).find? (.bound (nameOfPeople ⟨"given", by decide⟩)) =
        .ok (some kept)) ∧
      ∀ kept, (ofMembers.restrict withoutFamily).find? (.bound (nameOfPeople ⟨"FAMILY", by decide⟩)) ≠
        .ok (some kept) := by
  have hkeep : withoutFamily.OfCharacteristics := fun a b h => by rw [withoutFamily, withoutFamily, h.name]
  obtain ⟨-, ⟨-, hpaths⟩, hfind, -⟩ := restriction membersCatalog ofMembers ofMembers_reachable withoutFamily hkeep
  refine ⟨ofMembers_reachable, hkeep, hpaths, ?_, fun kept hfound => ?_⟩
  · refine ⟨_, (hfind _ _).2 ⟨_, by rfl, by rfl, ?_, trimmed_iff.2 rfl⟩⟩
    rintro top htop
    cases Option.some.inj (Except.ok.inj htop)
    rfl
  · obtain ⟨attr, hattr, hpasses, -⟩ := (hfind _ _).1 hfound
    cases Option.some.inj (Except.ok.inj hattr)
    cases hpasses

end SchemaAttributes

end Scim
