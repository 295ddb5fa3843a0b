import Mathlib.Data.List.Nodup
import Scim.Proofs.Path
import Scim.Schema.Attributes

/-!
# Finding attributes under schemas

The attributes of a schema and of its extensions are kept in sets, one for each identifier.  Whatever sets are
attached and however they are restricted, no two of them go by the same identifier, so a path that names a
schema is looked up in one set, and an attribute says by its own path in which.

So every spelling under which an attribute is found, with its schema or without, in whatever casing, leads to
the path that the attribute carries, and that path leads to the attribute again.

## Main results

* `Built.distinctSchemas`: the sets of what can be built go by different identifiers.
* `find?_congr`: equal paths are looked up alike.
* `find?_eq_some_iff`: a path leads to the attribute of its name, or to one of the sub-attributes of that.
* `exists_set_of_find?`: what a path leads to is an attribute of one set, or a sub-attribute of one.
* `find?_path`: an attribute that was found carries a path that spells the one it was found by, and by which
  it is found again.
-/

namespace Scim

/-! ## Collections up to case -/

/-- Collections do not tell names apart that differ only in case. -/
theorem Attributes.find?_congr (attrs : Attributes) {name other : AttrName} (h : name.folded = other.folded) :
    attrs.find? name = attrs.find? other := by
  have hsame : (fun attr : Attribute => attr.name == name) = fun attr => attr.name == other := by
    funext attr
    show (attr.name.folded == name.folded) = (attr.name.folded == other.folded)
    rw [h]
  rw [Attributes.find?, hsame, Attributes.find?]

theorem Attributes.folded_of_find? {attrs : Attributes} {name : AttrName} {attr : Attribute}
    (h : attrs.find? name = some attr) : attr.name.folded = name.folded := by
  have hhit := List.find?_some h
  exact AttrName.beq_iff.1 hhit

/-- An attribute that a name leads to is found by its own name. -/
theorem Attributes.find?_name {attrs : Attributes} {name : AttrName} {attr : Attribute}
    (h : attrs.find? name = some attr) : attrs.find? attr.name = some attr :=
  (attrs.find?_congr (folded_of_find? h)).trans h

/-! ## Bound attributes -/

namespace AttributeSet

/-- An attribute of a set carries its own path, and so do its sub-attributes. -/
theorem bound_of_mem {set : AttributeSet} {attr : Attribute} (h : attr ∈ set.attrs) :
    attr.path = .bound (set.pathOf attr.name) ∧
      ∀ subs, attr.subs? = some subs → ∀ sub ∈ subs,
        sub.path = .bound ((set.pathOf attr.name).withSub sub.name) := by
  obtain ⟨⟨path, kind, traits, hooks⟩, -, rfl⟩ := List.mem_map.1 h
  refine ⟨rfl, ?_⟩
  intro subs hsubs sub hmem
  cases kind with
  | complex declared =>
    cases Option.some.inj hsubs
    obtain ⟨inner, -, rfl⟩ := List.mem_map.1 hmem
    rfl
  | _ => cases hsubs

end AttributeSet

/-! ## Sets under different identifiers -/

namespace SchemaAttributes

variable {attrs : SchemaAttributes} {path : Path} {attr : Attribute}

/-- The own attributes and those of the extensions, set by set. -/
def sets (attrs : SchemaAttributes) : List AttributeSet := attrs.own :: attrs.extensions

/-- No two sets go by the same identifier. -/
def DistinctSchemas (attrs : SchemaAttributes) : Prop :=
  (attrs.sets.map fun set => set.schema.folded).Nodup

theorem all_eq (attrs : SchemaAttributes) : attrs.all = attrs.sets.flatMap AttributeSet.attrs := rfl

/-- What can be made of attributes: a set on its own, with extensions attached, restricted by predicates. -/
inductive Built : SchemaAttributes → Prop
  | declared (own : AttributeSet) : Built { own }
  | extended {attrs next : SchemaAttributes} {catalog : Catalog} {declared : List Attribute} {schema : String}
      {required : Bool} (before : Built attrs)
      (attached : attrs.extend catalog declared schema required = .ok next) : Built next
  | restricted {attrs : SchemaAttributes} (before : Built attrs) (keep : Keep) : Built (attrs.restrict keep)

/-- An extension is attached under an identifier that no set before it has. -/
theorem extend_ok {next : SchemaAttributes} {catalog : Catalog} {declared : List Attribute} {schema : String}
    {required : Bool} (h : attrs.extend catalog declared schema required = .ok next) :
    ∃ set : AttributeSet, next.sets = attrs.sets ++ [set] ∧
      ∀ other ∈ attrs.sets, other.schema.folded ≠ set.schema.folded := by
  cases hset : AttributeSet.declare catalog schema declared [] with
  | error fault =>
    simp only [extend, hset, bind, Except.bind] at h
    cases h
  | ok set =>
    simp only [extend, hset, bind, Except.bind] at h
    split at h
    · cases h
    · next hnew =>
      cases Except.ok.inj h
      refine ⟨{ set with required }, rfl, ?_⟩
      rw [Bool.or_eq_true, not_or] at hnew
      obtain ⟨hown, hextensions⟩ := hnew
      rintro other hmem hsame
      rcases List.mem_cons.1 hmem with rfl | hother
      · exact hown (SchemaUri.beq_iff.2 hsame.symm)
      · exact hextensions (List.find?_isSome.2 ⟨other, hother, SchemaUri.beq_iff.2 hsame⟩)

theorem Built.distinctSchemas (h : attrs.Built) : attrs.DistinctSchemas := by
  induction h with
  | declared own => exact List.nodup_singleton _
  | extended before attached ih =>
    obtain ⟨set, hsets, hnew⟩ := extend_ok attached
    rw [DistinctSchemas, hsets, List.map_append]
    refine List.Nodup.append ih (List.nodup_singleton _) ?_
    rintro folded hbefore hlast
    obtain ⟨other, hother, rfl⟩ := List.mem_map.1 hbefore
    exact hnew other hother (List.mem_singleton.1 hlast)
  | @restricted attrs before keep ih =>
    -- a restricted set keeps its identifier
    have hsets : (attrs.restrict keep).sets = attrs.sets.map fun set => set.restrict keep := rfl
    rw [DistinctSchemas, hsets, List.map_map]
    exact ih

theorem DistinctSchemas.eq_of_folded (h : attrs.DistinctSchemas) {a b : AttributeSet} (ha : a ∈ attrs.sets)
    (hb : b ∈ attrs.sets) (hsame : a.schema.folded = b.schema.folded) : a = b :=
  List.inj_on_of_nodup_map h ha hb hsame

/-! ## Looking up -/

/-- Equal paths lead to the same attribute, or to the same fault. -/
theorem find?_congr (attrs : SchemaAttributes) {other : Path} (h : (path == other) = true) :
    attrs.find? path = attrs.find? other := by
  have hparts : (path.rep == other.rep) = true ∧ attrs.candidates path = attrs.candidates other := by
    obtain ⟨a, b, rfl, rfl, hrep⟩ | ⟨a, b, rfl, rfl, hschema, hrep⟩ := Path.cases_of_beq h
    · exact ⟨hrep, rfl⟩
    · have hset : ∀ uri : SchemaUri, (uri == a.schema) = (uri == b.schema) := fun uri => by
        rw [Bool.eq_iff_iff, SchemaUri.beq_iff, SchemaUri.beq_iff, hschema]
      have hown : (a.schema == attrs.own.schema) = (b.schema == attrs.own.schema) := by
        rw [Bool.eq_iff_iff, SchemaUri.beq_iff, SchemaUri.beq_iff, hschema]
      exact ⟨hrep, by simp only [candidates, extension?, hset, hown]⟩
  obtain ⟨hrep, hcandidates⟩ := hparts
  rw [find?, find?, hcandidates]
  obtain ⟨attr, name, hpath, hother, hattr⟩ | ⟨attr, name, sub, subName, hpath, hother, hattr, hsub⟩ :=
    LocalPath.cases_of_beq hrep
  · rw [hpath, hother, Attributes.find?_congr _ hattr]
  · rw [hpath, hother, Attributes.find?_congr _ hattr]
    cases (attrs.candidates other).find? name with
    | none => rfl
    | some top => simp only [Attributes.find?_congr _ hsub]

/-- A path leads to the attribute of the name, or to that of its sub-attributes that the path asks for. -/
theorem find?_eq_some_iff :
    attrs.find? path = .ok (some attr) ↔ ∃ top, (attrs.candidates path).find? path.rep.attr = some top ∧
      ((path.rep.sub = none ∧ attr = top) ∨
        ∃ sub subs, path.rep.sub = some sub ∧ top.subs? = some subs ∧ subs.find? sub = some attr) := by
  unfold find?
  cases htop : (attrs.candidates path).find? path.rep.attr with
  | none => simp
  | some top =>
    cases hsub : path.rep.sub with
    | none => simp [eq_comm]
    | some sub => cases hsubs : top.subs? <;> simp [hsubs]

/-- A path that names the schema of a set is looked up in that set. -/
theorem candidates_of_mem (h : attrs.DistinctSchemas) {set : AttributeSet} (hmem : set ∈ attrs.sets)
    {bound : BoundPath} (hschema : bound.schema.folded = set.schema.folded) :
    attrs.candidates (.bound bound) = set.attrs := by
  cases hfound : attrs.extension? bound.schema with
  | some found =>
    have hin : found ∈ attrs.sets := List.mem_cons_of_mem _ (List.mem_of_find?_eq_some hfound)
    have hhit := List.find?_some hfound
    have hsame : found = set := h.eq_of_folded hin hmem ((SchemaUri.beq_iff.1 hhit).trans hschema)
    simp only [candidates, hfound, hsame]
  | none =>
    rcases List.mem_cons.1 hmem with rfl | hother
    · have hown : (bound.schema == attrs.own.schema) = true := SchemaUri.beq_iff.2 hschema
      simp only [candidates, hfound, hown, if_true]
    · have hmiss := List.find?_eq_none.1 hfound set hother
      exact absurd (SchemaUri.beq_iff.2 hschema.symm) hmiss

/-- What is found among the candidates of a path is found in one set, the one of the schema if the path names
one. -/
theorem exists_set_of_candidates {name : AttrName} (h : (attrs.candidates path).find? name = some attr) :
    ∃ set ∈ attrs.sets, set.attrs.find? name = some attr ∧
      ∀ schema, path.schema? = some schema → schema.folded = set.schema.folded := by
  cases path with
  | unbound rep =>
    have hall : attrs.all.find? name = some attr := h
    rw [all_eq, Attributes.find?, List.find?_flatMap] at hall
    obtain ⟨set, hset, hfind⟩ := List.exists_of_findSome?_eq_some hall
    refine ⟨set, hset, hfind, ?_⟩
    rintro schema ⟨⟩
  | bound bound =>
    cases hfound : attrs.extension? bound.schema with
    | some found =>
      simp only [candidates, hfound] at h
      have hhit := List.find?_some hfound
      refine ⟨found, List.mem_cons_of_mem _ (List.mem_of_find?_eq_some hfound), h, ?_⟩
      rintro schema hschema
      cases Option.some.inj hschema
      exact (SchemaUri.beq_iff.1 hhit).symm
    | none =>
      simp only [candidates, hfound] at h
      split at h
      · next hown =>
        refine ⟨attrs.own, List.mem_cons_self, h, ?_⟩
        rintro schema hschema
        cases Option.some.inj hschema
        exact SchemaUri.beq_iff.1 hown
      · cases h

/-- What a path leads to is an attribute of one set, or one of the sub-attributes of such an attribute. -/
theorem exists_set_of_find? (h : attrs.find? path = .ok (some attr)) :
    ∃ set ∈ attrs.sets, ∃ top, set.attrs.find? path.rep.attr = some top ∧
      (∀ schema, path.schema? = some schema → schema.folded = set.schema.folded) ∧
      ((path.rep.sub = none ∧ attr = top) ∨
        ∃ sub subs, path.rep.sub = some sub ∧ top.subs? = some subs ∧ subs.find? sub = some attr) := by
  obtain ⟨top, htop, hwhich⟩ := find?_eq_some_iff.1 h
  obtain ⟨set, hset, hfind, hschema⟩ := exists_set_of_candidates htop
  exact ⟨set, hset, top, hfind, hschema, hwhich⟩

/-- The path of a set leads to the attribute of the set that has the name. -/
theorem find?_pathOf (h : attrs.DistinctSchemas) {set : AttributeSet} (hset : set ∈ attrs.sets)
    (hown : set.attrs.find? attr.name = some attr) : attrs.find? (.bound (set.pathOf attr.name)) = .ok (some attr) := by
  have hcandidates : attrs.candidates (.bound (set.pathOf attr.name)) = set.attrs := candidates_of_mem h hset rfl
  rw [find?_eq_some_iff, hcandidates]
  exact ⟨attr, hown, .inl ⟨rfl, rfl⟩⟩

/-- So do the paths of its sub-attributes. -/
theorem find?_withSub (h : attrs.DistinctSchemas) {set : AttributeSet} (hset : set ∈ attrs.sets)
    (hown : set.attrs.find? attr.name = some attr) {subs : Attributes} (hsubs : attr.subs? = some subs)
    {sub : Attribute} (hsub : subs.find? sub.name = some sub) :
    attrs.find? (.bound ((set.pathOf attr.name).withSub sub.name)) = .ok (some sub) := by
  have hcandidates : attrs.candidates (.bound ((set.pathOf attr.name).withSub sub.name)) = set.attrs :=
    candidates_of_mem h hset rfl
  rw [find?_eq_some_iff, hcandidates]
  exact ⟨attr, hown, .inr ⟨sub.name, subs, rfl, hsubs, hsub⟩⟩

/-- An attribute that was found carries a path that spells the one it was found by, and by which it is found
again. -/
theorem find?_path (hdistinct : attrs.DistinctSchemas) (h : attrs.find? path = .ok (some attr)) :
    ∃ bound, attr.path = .bound bound ∧ (bound.rep == path.rep) = true ∧
      (∀ schema, path.schema? = some schema → schema.folded = bound.schema.folded) ∧
      attrs.find? (.bound bound) = .ok (some attr) := by
  obtain ⟨set, hset, top, htop, hschema, hwhich⟩ := exists_set_of_find? h
  obtain ⟨hpath, hsubPath⟩ := AttributeSet.bound_of_mem (List.mem_of_find?_eq_some htop)
  have hname := Attributes.folded_of_find? htop
  have hown := Attributes.find?_name htop
  rcases hwhich with ⟨hnone, rfl⟩ | ⟨sub, subs, hsub, hsubs, hfind⟩
  · exact ⟨_, hpath, LocalPath.beq_iff.2 ⟨hname, by rw [hnone]; rfl⟩, hschema, find?_pathOf hdistinct hset hown⟩
  · have hsubName := Attributes.folded_of_find? hfind
    refine ⟨_, hsubPath subs hsubs attr (List.mem_of_find?_eq_some hfind),
      LocalPath.beq_iff.2 ⟨hname, ?_⟩, hschema, find?_withSub hdistinct hset hown hsubs (Attributes.find?_name hfind)⟩
    rw [hsub]
    exact congrArg some hsubName

end SchemaAttributes

end Scim
