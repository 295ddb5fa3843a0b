import Scim.Proofs.Attribute.Made
import Scim.Proofs.Schema.Lookup

/-!
# Iterating and looking up

The attributes of a schema can be gone through one after the other, and each of them can be looked up by its path.
However the attributes came about, by declaring them, by attaching extensions, also in vain, by leaving some of them
out, and while more and more was registered, the two agree: what one goes through is found by its own path, and so is
every sub-attribute, and what is found by a path is what one goes through under that name first.

Two things carry this from step to step.  The sets of attributes go by the identifiers of different registered
schemas, and within a set the names differ, at every depth.

## Main results

* `Catalog.Grows.entry_kept`: what is registered stays registered.
* `SchemaAttributes.Reachable.wellFormed`: every set belongs to a registered schema and has different names.
* `SchemaAttributes.find?_of_mem`, `SchemaAttributes.find?_sub_of_mem`: what is in a set is found by its path.
* `SchemaAttributes.find?_eq_error_iff`: when looking up fails.
* `SchemaAttributes.iterated_is_found`: the whole statement.
-/

namespace Scim

/-! ## Catalogs that grow -/

namespace Catalog

/-- What a catalog can become as more is registered. -/
inductive Grows (catalog : Catalog) : Catalog → Prop
  | refl : Grows catalog catalog
  | schema {later next : Catalog} {text : String} {extension : Bool} {uri : SchemaUri} (before : Grows catalog later)
      (h : later.addSchema text extension = .ok (next, uri)) : Grows catalog next
  | resource {later next : Catalog} {name endpoint : String} (before : Grows catalog later)
      (h : later.addResource name endpoint = .ok next) : Grows catalog next

variable {catalog next : Catalog}

/-- What is registered stays registered. -/
theorem Grows.entry_kept (h : catalog.Grows next) {uri : SchemaUri} {entry : SchemaEntry}
    (hfound : catalog.entry? uri = some entry) : next.entry? uri = some entry := by
  induction h with
  | refl => exact hfound
  | schema _ hadded ih =>
    obtain ⟨-, -, rfl⟩ := addSchema_ok.1 hadded
    rw [Catalog.entry?] at ih ⊢
    rw [List.find?_append, ih, Option.some_or]
  | resource _ hadded ih =>
    obtain ⟨-, rfl⟩ := addResource_ok.1 hadded
    exact ih

/-- The entry that a text leads to is that of its own identifier. -/
theorem entry?_of_find? {text : String} {entry : SchemaEntry} (h : catalog.find? text = some entry) :
    catalog.entry? entry.uri = some entry := by
  unfold find? at h
  split at h
  · next uri _ =>
    have hhit := List.find?_some h
    rw [catalog.entry?_congr (SchemaUri.beq_iff.1 hhit), h]
  · cases h

end Catalog

/-! ## Sets -/

namespace AttributeSet

/-- The set belongs to a registered schema, and the names of its attributes differ, at every depth. -/
structure WellFormed (catalog : Catalog) (set : AttributeSet) : Prop where
  registered : catalog.entry? set.schema = some ⟨set.schema, set.extension⟩
  names : set.declared.DistinctNames
  below : ∀ attr ∈ set.declared, attr.WellNamed

variable {catalog next : Catalog} {set : AttributeSet}

/-- What is declared is the collection of the attributes given, under a schema as it is registered. -/
theorem declare_ok {schema : String} {given : List Attribute} {shared : List String}
    (h : declare catalog schema given shared = .ok set) :
    catalog.entry? set.schema = some ⟨set.schema, set.extension⟩ ∧ set.declared = Attributes.collect given := by
  unfold declare at h
  split at h
  · cases h
  · next entry hfound =>
    cases h
    exact ⟨Catalog.entry?_of_find? hfound, rfl⟩

theorem wellFormed_of_declare {schema : String} {given : List Attribute} {shared : List String}
    (hgiven : ∀ attr ∈ given, attr.WellNamed) (h : declare catalog schema given shared = .ok set) :
    set.WellFormed catalog := by
  obtain ⟨hregistered, hdeclared⟩ := declare_ok h
  refine ⟨hregistered, ?_, ?_⟩
  · rw [hdeclared]
    exact Attributes.collect_distinct given
  · rw [hdeclared]
    exact fun attr hattr => hgiven attr (Attributes.mem_of_mem_collect hattr)

namespace WellFormed

theorem grown (h : set.WellFormed catalog) (hgrows : catalog.Grows next) : set.WellFormed next :=
  ⟨hgrows.entry_kept h.registered, h.names, h.below⟩

theorem restrict (h : set.WellFormed catalog) (keep : Keep) : (set.restrict keep).WellFormed catalog := by
  refine ⟨h.registered, h.names.restrictAll keep, fun attr hattr => ?_⟩
  have hkept : attr ∈ restrictAll keep set.declared := hattr
  rw [restrictAll_eq] at hkept
  obtain ⟨declared, hdeclared, rfl⟩ := List.mem_map.1 hkept
  exact (h.below declared (List.mem_filter.1 hdeclared).1).restrict keep

/-- Binding the attributes leaves their names. -/
theorem distinctNames_attrs (h : set.WellFormed catalog) : set.attrs.DistinctNames :=
  h.names.map fun _ => rfl

theorem wellNamed_of_mem (h : set.WellFormed catalog) {attr : Attribute} (hattr : attr ∈ set.attrs) :
    attr.WellNamed := by
  obtain ⟨declared, hdeclared, rfl⟩ := List.mem_map.1 hattr
  exact (h.below declared hdeclared).bindTo _

end WellFormed

end AttributeSet

namespace SchemaAttributes

/-! ## What can be reached -/

/-- The attributes after an extension was attached, unchanged if that failed. -/
def afterExtend (attrs : SchemaAttributes) (catalog : Catalog) (given : List Attribute) (schema : String)
    (required : Bool) : SchemaAttributes :=
  match attrs.extend catalog given schema required with
  | .ok next => next
  | .error _ => attrs

/-- The attributes that can be reached with a catalog. -/
inductive Reachable : Catalog → SchemaAttributes → Prop
  | declared {catalog : Catalog} {schema : String} {given : List Attribute} {shared : List String}
      {own : AttributeSet} (hgiven : ∀ attr ∈ given, attr.Made)
      (h : AttributeSet.declare catalog schema given shared = .ok own) : Reachable catalog { own }
  | extended {catalog : Catalog} {attrs : SchemaAttributes} (before : Reachable catalog attrs)
      {given : List Attribute} (hgiven : ∀ attr ∈ given, attr.Made) (schema : String) (required : Bool) :
      Reachable catalog (attrs.afterExtend catalog given schema required)
  | restricted {catalog : Catalog} {attrs : SchemaAttributes} (before : Reachable catalog attrs) (keep : Keep) :
      Reachable catalog (attrs.restrict keep)
  | grown {catalog next : Catalog} {attrs : SchemaAttributes} (before : Reachable catalog attrs)
      (h : catalog.Grows next) : Reachable next attrs

variable {catalog : Catalog} {attrs : SchemaAttributes} {path : Path} {attr : Attribute}

/-- What is attached is a set that can be declared. -/
theorem extend_declares {next : SchemaAttributes} {given : List Attribute} {schema : String} {required : Bool}
    (h : attrs.extend catalog given schema required = .ok next) :
    ∃ set, AttributeSet.declare catalog schema given [] = .ok set ∧
      next = { attrs with extensions := attrs.extensions ++ [{ set with required }] } := by
  cases hset : AttributeSet.declare catalog schema given [] with
  | error fault =>
    simp only [extend, hset, bind, Except.bind] at h
    cases h
  | ok set =>
    simp only [extend, hset, bind, Except.bind] at h
    split at h
    · cases h
    · exact ⟨set, rfl, (Except.ok.inj h).symm⟩

theorem wellFormed_extend (hsets : ∀ set ∈ attrs.sets, set.WellFormed catalog) {next : SchemaAttributes}
    {given : List Attribute} (hgiven : ∀ attr ∈ given, attr.WellNamed) {schema : String} {required : Bool}
    (h : attrs.extend catalog given schema required = .ok next) : ∀ set ∈ next.sets, set.WellFormed catalog := by
  obtain ⟨added, hadded, rfl⟩ := extend_declares h
  obtain ⟨hregistered, hnames, hbelow⟩ := AttributeSet.wellFormed_of_declare hgiven hadded
  intro set hset
  rcases List.mem_append.1 (show set ∈ attrs.sets ++ [{ added with required }] from hset) with hold | hnew
  · exact hsets set hold
  · cases List.mem_singleton.1 hnew
    exact ⟨hregistered, hnames, hbelow⟩

theorem Reachable.built (h : attrs.Reachable catalog) : attrs.Built := by
  induction h with
  | declared => exact .declared _
  | extended _ _ _ _ ih =>
    unfold afterExtend
    split
    · next attached => exact .extended ih attached
    · exact ih
  | restricted _ keep ih => exact .restricted ih keep
  | grown _ _ ih => exact ih

/-- Every set belongs to a registered schema, and the names in it differ, at every depth. -/
theorem Reachable.wellFormed (h : attrs.Reachable catalog) : ∀ set ∈ attrs.sets, set.WellFormed catalog := by
  induction h with
  | declared hgiven h =>
    intro set hset
    cases List.mem_singleton.1 hset
    exact AttributeSet.wellFormed_of_declare (fun attr hattr => (hgiven attr hattr).wellNamed) h
  | extended _ hgiven _ _ ih =>
    unfold afterExtend
    split
    · next attached => exact wellFormed_extend ih (fun attr hattr => (hgiven attr hattr).wellNamed) attached
    · exact ih
  | @restricted catalog attrs _ keep ih =>
    have hsets : (attrs.restrict keep).sets = attrs.sets.map fun set => set.restrict keep := rfl
    rw [hsets, List.forall_mem_map]
    exact fun set hset => (ih set hset).restrict keep
  | grown _ hgrows ih => exact fun set hset => (ih set hset).grown hgrows

/-! ## What looking up gives -/

/-- Without its sub-attribute a path leads to the attribute of the name. -/
theorem find?_topLevel (attrs : SchemaAttributes) (path : Path) :
    attrs.find? path.topLevel = .ok ((attrs.candidates path).find? path.rep.attr) := by
  have hcandidates : attrs.candidates path.topLevel = attrs.candidates path := by cases path <;> rfl
  have hattr : path.topLevel.rep.attr = path.rep.attr := by cases path <;> rfl
  have hsub : path.topLevel.rep.sub = none := by cases path <;> rfl
  unfold find?
  rw [hcandidates, hattr, hsub]
  cases (attrs.candidates path).find? path.rep.attr <;> rfl

/-- Looking up fails exactly if a sub-attribute is asked of an attribute that is found and not complex. -/
theorem find?_eq_error_iff {fault : Fault} :
    attrs.find? path = .error fault ↔ ∃ top, path.rep.sub.isSome = true ∧
      attrs.find? path.topLevel = .ok (some top) ∧ top.subs? = none ∧ fault = .notComplex top.path.text := by
  rw [find?_topLevel]
  unfold find?
  cases htop : (attrs.candidates path).find? path.rep.attr with
  | none => simp
  | some top =>
    cases hsub : path.rep.sub with
    | none => simp
    | some sub => cases hsubs : top.subs? <;> simp [hsubs, eq_comm]

/-- An unqualified path is looked up in the first attribute of its name. -/
theorem exists_first_of_find? {rep : LocalPath} (h : attrs.find? (.unbound rep) = .ok (some attr)) :
    ∃ before top after, attrs.all = before ++ top :: after ∧
      (∀ earlier ∈ before, earlier.name.folded ≠ rep.attr.folded) ∧ top.name.folded = rep.attr.folded ∧
      ((rep.sub = none ∧ attr = top) ∨
        ∃ sub subs, rep.sub = some sub ∧ top.subs? = some subs ∧ subs.find? sub = some attr) := by
  obtain ⟨top, htop, hwhich⟩ := find?_eq_some_iff.1 h
  obtain ⟨hname, before, after, hall, hearlier⟩ := List.find?_eq_some_iff_append.1 htop
  refine ⟨before, top, after, hall, fun earlier hmem hsame => ?_, AttrName.beq_iff.1 hname, hwhich⟩
  have hmiss := hearlier earlier hmem
  rw [Bool.not_eq_true'] at hmiss
  exact Bool.eq_false_iff.1 hmiss (AttrName.beq_iff.2 hsame)

section OneSet

variable {set : AttributeSet} (hdistinct : attrs.DistinctSchemas) (hset : set ∈ attrs.sets)
  (hformed : set.WellFormed catalog) (hattr : attr ∈ set.attrs)

include hdistinct hset hformed hattr

/-- An attribute of a set is found by its path. -/
theorem find?_of_mem : attrs.find? attr.path = .ok (some attr) := by
  rw [(AttributeSet.bound_of_mem hattr).1]
  exact find?_pathOf hdistinct hset (hformed.distinctNames_attrs.find?_of_mem hattr)

/-- So is each of its sub-attributes. -/
theorem find?_sub_of_mem {subs : Attributes} (hsubs : attr.subs? = some subs) {sub : Attribute} (hsub : sub ∈ subs) :
    attrs.find? sub.path = .ok (some sub) := by
  have hnames := (hformed.wellNamed_of_mem hattr).distinctNames_subs hsubs
  rw [(AttributeSet.bound_of_mem hattr).2 subs hsubs sub hsub]
  exact find?_withSub hdistinct hset (hformed.distinctNames_attrs.find?_of_mem hattr) hsubs
    (hnames.find?_of_mem hsub)

end OneSet

/-- What can be gone through belongs to the set of a registered schema, carries a path of that schema, as its
sub-attributes do, and is found by it.  What is found by a qualified path carries an equal one; what is found by an
unqualified one is the first attribute of the name, or a sub-attribute of that; nothing is found under a schema that
is not among the sets; and looking up fails exactly if a sub-attribute is asked of an attribute without any. -/
theorem iterated_is_found (catalog : Catalog) (attrs : SchemaAttributes) (h : attrs.Reachable catalog) :
    (∀ attr ∈ attrs.all, ∃ set ∈ attrs.sets, attr ∈ set.attrs ∧
      catalog.entry? set.schema = some ⟨set.schema, set.extension⟩ ∧
      attr.path = .bound ⟨set.schema, set.extension, ⟨attr.name, none⟩⟩ ∧
      attrs.find? attr.path = .ok (some attr) ∧
      ∀ subs, attr.subs? = some subs → ∀ sub ∈ subs,
        sub.path = .bound ⟨set.schema, set.extension, ⟨attr.name, some sub.name⟩⟩ ∧
        attrs.find? sub.path = .ok (some sub)) ∧
    (∀ bound attr, attrs.find? (.bound bound) = .ok (some attr) → (attr.path == .bound bound) = true) ∧
    (∀ rep attr, attrs.find? (.unbound rep) = .ok (some attr) →
      ∃ before top after, attrs.all = before ++ top :: after ∧
        (∀ earlier ∈ before, earlier.name.folded ≠ rep.attr.folded) ∧ top.name.folded = rep.attr.folded ∧
        ((rep.sub = none ∧ attr = top) ∨
          ∃ sub subs, rep.sub = some sub ∧ top.subs? = some subs ∧ subs.find? sub = some attr)) ∧
    (∀ bound : BoundPath, (∀ set ∈ attrs.sets, set.schema.folded ≠ bound.schema.folded) →
      attrs.find? (.bound bound) = .ok none) ∧
    ∀ path fault, attrs.find? path = .error fault ↔ ∃ top, path.rep.sub.isSome = true ∧
      attrs.find? path.topLevel = .ok (some top) ∧ top.subs? = none ∧ fault = .notComplex top.path.text := by
  have hdistinct := h.built.distinctSchemas
  refine ⟨?_, ?_, fun rep attr hfound => exists_first_of_find? hfound, ?_, fun path fault => find?_eq_error_iff⟩
  · intro attr hattr
    rw [all_eq] at hattr
    obtain ⟨set, hset, hmem⟩ := List.mem_flatMap.1 hattr
    have hformed := h.wellFormed set hset
    obtain ⟨hpath, hpaths⟩ := AttributeSet.bound_of_mem hmem
    refine ⟨set, hset, hmem, hformed.registered, hpath, find?_of_mem hdistinct hset hformed hmem, ?_⟩
    intro subs hsubs sub hsub
    exact ⟨hpaths subs hsubs sub hsub, find?_sub_of_mem hdistinct hset hformed hmem hsubs hsub⟩
  · intro bound attr hfound
    obtain ⟨own, hpath, hrep, hschema, -⟩ := find?_path hdistinct hfound
    rw [hpath]
    exact BoundPath.beq_iff.2 ⟨SchemaUri.beq_iff.2 (hschema bound.schema rfl).symm, hrep⟩
  · intro bound hforeign
    refine find?_foreign ?_ ?_
    · rw [Bool.eq_false_iff, Ne, SchemaUri.beq_iff]
      exact fun hsame => hforeign attrs.own List.mem_cons_self hsame.symm
    · refine List.find?_eq_none.2 fun set hset => ?_
      rw [SchemaUri.beq_iff]
      exact hforeign set (List.mem_cons_of_mem _ hset)

/-- The schema of people. -/
def personUri : SchemaUri := ⟨"urn:person", by decide⟩

/-- The extension for those among them who are members. -/
def memberUri : SchemaUri := ⟨"urn:member", by decide⟩

def membersCatalog : Catalog := { schemas := [⟨personUri, false⟩, ⟨memberUri, true⟩] }

/-- A name in two parts. -/
def nameInParts : Attribute :=
  .simple ⟨"name", by decide⟩
    (.complex [.simple ⟨"given", by decide⟩ .string {}, .simple ⟨"family", by decide⟩ .string {}]) {}

/-- The name that members go by. -/
def memberName : Attribute := .simple ⟨"Name", by decide⟩ .string {}

/-- The attributes of people. -/
def ofPeople : SchemaAttributes :=
  { own := { schema := personUri, extension := false, declared := [nameInParts] } }

/-- The same with the name attached that members go by, which was then tried once more in vain. -/
def ofMembers : SchemaAttributes :=
  (ofPeople.afterExtend membersCatalog [memberName] "urn:member" false).afterExtend membersCatalog [nameInParts]
    "URN:Member" true

theorem memberName_made : memberName.Made := .of_simple _ (by simp) rfl rfl

theorem nameInParts_made : nameInParts.Made := by
  refine @Attribute.Made.complex "name"
    [.simple ⟨"given", by decide⟩ .string {}, .simple ⟨"family", by decide⟩ .string {}] {} {} _ ?_ (by rfl)
  exact List.forall_mem_cons.2 ⟨.of_simple _ (by simp) rfl rfl,
    List.forall_mem_singleton.2 (.of_simple _ (by simp) rfl rfl)⟩

theorem ofMembers_reachable : ofMembers.Reachable membersCatalog := by
  have hname : ∀ attr ∈ [nameInParts], attr.Made := List.forall_mem_singleton.2 nameInParts_made
  have hown : AttributeSet.declare membersCatalog "urn:person" [nameInParts] [] = .ok ofPeople.own := by rfl
  have hpeople : ofPeople.Reachable membersCatalog := .declared hname hown
  have hmembers := hpeople.extended (List.forall_mem_singleton.2 memberName_made) "urn:member" false
  exact hmembers.extended hname "URN:Member" true

/-- Every attribute is found under its own path, though both have the same name. -/
theorem iterated_is_found_of_members :
    ofMembers.Reachable membersCatalog ∧
      ofMembers.all.map (fun attr => attr.path.text) = ["urn:person:name", "urn:member:Name"] ∧
      (∀ attr ∈ ofMembers.all, ofMembers.find? attr.path = .ok (some attr)) ∧
      ∀ path fault, ofMembers.find? path = .error fault → path.rep.sub.isSome = true := by
  obtain ⟨hall, -, -, -, herror⟩ := iterated_is_found membersCatalog ofMembers ofMembers_reachable
  refine ⟨ofMembers_reachable, by rfl, fun attr hattr => ?_, fun path fault hfault => ?_⟩
  · obtain ⟨-, -, -, -, -, hfound, -⟩ := hall attr hattr
    exact hfound
  · obtain ⟨-, hsub, -⟩ := (herror path fault).1 hfault
    exact hsub

end SchemaAttributes

end Scim
