import Scim.Proofs.Schema.InPlace

/-!
# Many declarations, some in vain

A service declares what it needs one after the other, on one catalog: schemas and types of resources are
registered, extensions and schemas are declared, and extensions are attached, to schemas or to attributes that were
bound apart from any schema.  Some of these declarations are refused.

A refused declaration leaves everything as it was, the catalog as well as every schema.  The others keep two facts,
whatever their order.  In the catalog nothing is registered twice and nothing registered changes.  And a schema says
twice which extensions it has, in the list of the attachments and in the sets among which attributes are looked up;
the two lists are written by different steps behind different guards, and they agree.

## Main results

* `Declaration.perform_inPlace`: a declaration does what the functions of the catalog and the schemas say, or nothing.
* `Declaration.grows`: what is registered stays registered.
* `Declared.Consistent.step`: every declaration keeps the catalog without duplicates and the schemas coherent.
* `Declared.stays_consistent`: the whole statement, for any number of declarations.
-/

namespace Scim

open Text

/-! ## What is declared -/

/-- All that was declared on one catalog. -/
structure Declared where
  catalog : Catalog := {}
  extensions : List Extension := []
  schemas : List Schema := []
  /-- Attributes that were bound on their own. -/
  collections : List SchemaAttributes := []

/-- A declaration.  What was declared before is told by its position. -/
inductive Declaration where
  | registerSchema (text : String) (extension : Bool)
  | registerResource (name endpoint : String)
  | declareExtension (uri name description : String) (attrs : List Attribute)
  | declareSchema (uri name : String) (endpoint : Option String) (description : String) (attrs : List Attribute)
  /-- Attaches an extension to a schema. -/
  | attach (schema extension : Nat) (required : Bool)
  /-- Makes a second schema of one. -/
  | copySchema (schema : Nat)
  /-- Binds attributes to a registered schema. -/
  | bindAttributes (schema : String) (attrs : List Attribute) (shared : List String)
  /-- Takes the attributes of a schema to work on them apart. -/
  | copyAttributes (schema : Nat)
  /-- Adds the attributes of an extension to attributes. -/
  | extend (collection : Nat) (attrs : List Attribute) (schema : String) (required : Bool)

namespace Declaration

/-- Steps on the catalog. -/
def onCatalog {α : Type} (steps : Steps Catalog α) : Steps Declared α :=
  steps.on Declared.catalog fun catalog declared => { declared with catalog }

/-- A declaration, in place.  One about something that is not there does nothing. -/
def inPlace : Declaration → Steps Declared Unit
  | .registerSchema text extension => do
    let _ ← onCatalog (Catalog.register text extension)
  | .registerResource name endpoint => onCatalog (Catalog.registerResource name endpoint)
  | .declareExtension uri name description attrs => do
    let ext ← onCatalog (Extension.declareInPlace uri name description attrs)
    modify fun declared => { declared with extensions := declared.extensions ++ [ext] }
  | .declareSchema uri name endpoint description attrs => do
    let schema ← onCatalog (Schema.declareInPlace uri name endpoint description attrs)
    modify fun declared => { declared with schemas := declared.schemas ++ [schema] }
  | .attach i j required => do
    let declared ← get
    match declared.schemas[i]?, declared.extensions[j]? with
    | some schema, some ext =>
      (Schema.attachInPlace declared.catalog ext required).on (fun _ => schema)
        fun schema declared => { declared with schemas := declared.schemas.set i schema }
    | _, _ => return
  | .copySchema i => do
    match (← get).schemas[i]? with
    | some schema => modify fun declared => { declared with schemas := declared.schemas ++ [schema] }
    | none => return
  | .bindAttributes schema attrs shared => do
    let own ← liftM (AttributeSet.declare (← get).catalog schema attrs shared)
    modify fun declared => { declared with collections := declared.collections ++ [{ own }] }
  | .copyAttributes i => do
    match (← get).schemas[i]? with
    | some schema => modify fun declared => { declared with collections := declared.collections ++ [schema.attrs] }
    | none => return
  | .extend i attrs schema required => do
    let declared ← get
    match declared.collections[i]? with
    | some collection =>
      (SchemaAttributes.extendInPlace declared.catalog attrs schema required).on (fun _ => collection)
        fun collection declared => { declared with collections := declared.collections.set i collection }
    | none => return

/-- What a declaration makes of all that was declared, by the functions that declare. -/
def outcome (declared : Declared) : Declaration → Except Fault Declared
  | .registerSchema text extension =>
    (declared.catalog.addSchema text extension).map fun (catalog, _) => { declared with catalog }
  | .registerResource name endpoint =>
    (declared.catalog.addResource name endpoint).map fun catalog => { declared with catalog }
  | .declareExtension uri name description attrs =>
    (Extension.declare declared.catalog uri name description attrs).map fun (catalog, ext) =>
      { declared with catalog, extensions := declared.extensions ++ [ext] }
  | .declareSchema uri name endpoint description attrs =>
    (Schema.declare declared.catalog uri name endpoint description attrs).map fun (catalog, schema) =>
      { declared with catalog, schemas := declared.schemas ++ [schema] }
  | .attach i j required =>
    match declared.schemas[i]?, declared.extensions[j]? with
    | some schema, some ext =>
      (schema.attach declared.catalog ext required).map fun schema =>
        { declared with schemas := declared.schemas.set i schema }
    | _, _ => .ok declared
  | .copySchema i =>
    match declared.schemas[i]? with
    | some schema => .ok { declared with schemas := declared.schemas ++ [schema] }
    | none => .ok declared
  | .bindAttributes schema attrs shared =>
    (AttributeSet.declare declared.catalog schema attrs shared).map fun own =>
      { declared with collections := declared.collections ++ [{ own }] }
  | .copyAttributes i =>
    match declared.schemas[i]? with
    | some schema => .ok { declared with collections := declared.collections ++ [schema.attrs] }
    | none => .ok declared
  | .extend i attrs schema required =>
    match declared.collections[i]? with
    | some collection =>
      (collection.extend declared.catalog attrs schema required).map fun collection =>
        { declared with collections := declared.collections.set i collection }
    | none => .ok declared

/-! ## All or nothing -/

theorem perform_onCatalog {α : Type} {steps : Steps Catalog α} {function : Catalog → Except Fault (Catalog × α)}
    (h : steps.Performs function) (declared : Declared) :
    (onCatalog steps).perform declared =
      match function declared.catalog with
      | .ok (catalog, result) => (.ok result, { declared with catalog })
      | .error fault => (.error fault, declared) := by
  rw [onCatalog, Steps.perform_on, h declared.catalog]
  cases function declared.catalog <;> rfl

/-- What replaces an item of a list by itself changes nothing. -/
theorem set_self {α : Type} {items : List α} {i : Nat} {item : α} (h : items[i]? = some item) :
    items.set i item = items := by
  obtain ⟨hi, rfl⟩ := List.getElem?_eq_some_iff.1 h
  exact List.set_getElem_self hi

/-- A declaration does what the functions say, or nothing at all. -/
theorem perform_inPlace (declaration : Declaration) (declared : Declared) :
    declaration.inPlace.perform declared =
      match declaration.outcome declared with
      | .ok next => (.ok (), next)
      | .error fault => (.error fault, declared) := by
  cases declaration with
  | registerSchema text extension =>
    simp only [inPlace, Steps.perform_bind, perform_onCatalog (Catalog.performs_register text extension), outcome]
    cases declared.catalog.addSchema text extension <;> rfl
  | registerResource name endpoint =>
    simp only [inPlace, perform_onCatalog (Catalog.performs_registerResource name endpoint), outcome]
    cases declared.catalog.addResource name endpoint <;> rfl
  | declareExtension uri name description attrs =>
    simp only [inPlace, Steps.perform_bind,
      perform_onCatalog (Extension.performs_declare uri name description attrs), outcome]
    cases Extension.declare declared.catalog uri name description attrs <;> rfl
  | declareSchema uri name endpoint description attrs =>
    simp only [inPlace, Steps.perform_bind,
      perform_onCatalog (Schema.performs_declare uri name endpoint description attrs), outcome]
    cases Schema.declare declared.catalog uri name endpoint description attrs <;> rfl
  | attach i j required =>
    simp only [inPlace, Steps.perform_bind, Steps.perform_get, outcome]
    cases hschema : declared.schemas[i]? with
    | none => rfl
    | some schema =>
      cases declared.extensions[j]? with
      | none => rfl
      | some ext =>
        simp only [Steps.perform_on, Schema.performs_attach declared.catalog ext required schema]
        cases schema.attach declared.catalog ext required with
        | error fault => simp only [Except.map, set_self hschema]
        | ok next => rfl
  | copySchema i =>
    simp only [inPlace, Steps.perform_bind, Steps.perform_get, outcome]
    cases declared.schemas[i]? <;> rfl
  | bindAttributes schema attrs shared =>
    simp only [inPlace, Steps.perform_bind, Steps.perform_get, Steps.perform_lift, outcome]
    cases AttributeSet.declare declared.catalog schema attrs shared <;> rfl
  | copyAttributes i =>
    simp only [inPlace, Steps.perform_bind, Steps.perform_get, outcome]
    cases declared.schemas[i]? <;> rfl
  | extend i attrs schema required =>
    simp only [inPlace, Steps.perform_bind, Steps.perform_get, outcome]
    cases hcollection : declared.collections[i]? with
    | none => rfl
    | some collection =>
      simp only [Steps.perform_on, SchemaAttributes.performs_extend declared.catalog attrs schema required collection]
      cases collection.extend declared.catalog attrs schema required with
      | error fault => simp only [Except.map, set_self hcollection]
      | ok next => rfl

end Declaration

/-! ## What is registered -/

namespace Catalog

variable {catalog next later : Catalog}

theorem Grows.trans (h : catalog.Grows next) (hlater : next.Grows later) : catalog.Grows later := by
  induction hlater with
  | refl => exact h
  | schema _ hadded ih => exact .schema ih hadded
  | resource _ hadded ih => exact .resource ih hadded

/-- A type of resource stays at its endpoint. -/
theorem Grows.endpoint_kept (h : catalog.Grows next) {name endpoint : String}
    (hfound : catalog.endpoint? name = some endpoint) : next.endpoint? name = some endpoint := by
  induction h with
  | refl => exact hfound
  | schema _ hadded ih =>
    obtain ⟨-, -, rfl⟩ := addSchema_ok.1 hadded
    exact ih
  | @resource later _ _ _ _ hadded ih =>
    obtain ⟨-, rfl⟩ := addResource_ok.1 hadded
    obtain ⟨resource, hresource, hendpoint⟩ := Option.map_eq_some_iff.1 ih
    rw [endpoint?, List.find?_append, hresource, Option.some_or, Option.map_some, hendpoint]

/-- No two schemas are registered under the same identifier, and no two types of resources under one name. -/
structure Distinct (catalog : Catalog) : Prop where
  schemas : (catalog.schemas.map fun entry => entry.uri.folded).Nodup
  resources : (catalog.resources.map ResourceType.name).Nodup

theorem Grows.distinct (h : catalog.Grows next) (hdistinct : catalog.Distinct) : next.Distinct := by
  induction h with
  | refl => exact hdistinct
  | @schema later _ _ _ uri _ hadded ih =>
    obtain ⟨-, hfree, rfl⟩ := addSchema_ok.1 hadded
    refine ⟨?_, ih.resources⟩
    rw [List.map_append]
    refine List.Nodup.append ih.schemas (List.nodup_singleton _) ?_
    intro folded hbefore hlast
    obtain ⟨entry, hentry, rfl⟩ := List.mem_map.1 hbefore
    have hmiss := List.find?_eq_none.1 hfree entry hentry
    exact hmiss (SchemaUri.beq_iff.2 (List.mem_singleton.1 hlast))
  | @resource later _ name _ _ hadded ih =>
    obtain ⟨hfree, rfl⟩ := addResource_ok.1 hadded
    refine ⟨ih.schemas, ?_⟩
    rw [List.map_append]
    refine List.Nodup.append ih.resources (List.nodup_singleton _) ?_
    intro taken hbefore hlast
    obtain ⟨resource, hresource, rfl⟩ := List.mem_map.1 hbefore
    have hmiss := List.find?_eq_none.1 (Option.map_eq_none_iff.1 hfree) resource hresource
    exact hmiss (beq_iff_eq.2 (List.mem_singleton.1 hlast))

end Catalog

theorem Extension.grows_of_declare {catalog next : Catalog} {uri name description : String} {attrs : List Attribute}
    {ext : Extension} (h : declare catalog uri name description attrs = .ok (next, ext)) : catalog.Grows next := by
  unfold declare at h
  cases hadded : catalog.addSchema uri true with
  | error fault =>
    simp only [hadded, bind, Except.bind] at h
    cases h
  | ok added =>
    simp only [hadded, bind, Except.bind] at h
    cases h
    exact .schema .refl hadded

theorem Schema.grows_of_declare {catalog next : Catalog} {uri name description : String} {endpoint : Option String}
    {attrs : List Attribute} {schema : Schema}
    (h : declare catalog uri name endpoint description attrs = .ok (next, schema)) : catalog.Grows next := by
  unfold declare at h
  split at h
  · cases h
  · cases hadded : catalog.addSchema uri false with
    | error fault =>
      simp only [hadded, bind, Except.bind] at h
      cases h
    | ok added =>
      have hown := AttributeSet.declare_registered (Catalog.entry?_of_addSchema hadded) (sharedAttributes ++ attrs)
        sharedNames
      simp only [hadded, hown, bind, Except.bind] at h
      cases hresource : added.1.addResource name (endpoint.getD ("/" ++ name)) with
      | error fault =>
        simp only [hresource] at h
        cases h
      | ok final =>
        simp only [hresource] at h
        cases h
        exact .resource (.schema .refl hadded) hresource

/-! ## Coherent schemas -/

/-- The extension was declared before the catalog became what it is. -/
def Extension.DeclaredOn (ext : Extension) (catalog : Catalog) : Prop :=
  ∃ earlier later uri name description attrs,
    declare earlier uri name description attrs = .ok (later, ext) ∧ later.Grows catalog

theorem Extension.DeclaredOn.grown {ext : Extension} {catalog next : Catalog} (h : ext.DeclaredOn catalog)
    (hgrows : catalog.Grows next) : ext.DeclaredOn next := by
  obtain ⟨earlier, later, uri, name, description, attrs, hdeclared, hlater⟩ := h
  exact ⟨earlier, later, uri, name, description, attrs, hdeclared, hlater.trans hgrows⟩

namespace Schema

variable {catalog : Catalog} {schema next : Schema}

/-- The sets of extensions are those of the attachments, one by one and in their order, and no two attachments have
the same name, or the same identifier, or that of the schema. -/
structure Coherent (schema : Schema) : Prop where
  agree : schema.attrs.extensions = schema.attachments.map Attachment.set
  names : (schema.attachments.map fun attachment => lowerAscii attachment.extension.name).Nodup
  uris : (schema.uris.map SchemaUri.folded).Nodup

theorem Coherent.of_declare {later : Catalog} {uri name description : String} {endpoint : Option String}
    {attrs : List Attribute} (h : declare catalog uri name endpoint description attrs = .ok (later, schema)) :
    schema.Coherent := by
  obtain ⟨-, -, -, -, -, -, hextensions, hattachments⟩ := declare_ok h
  refine ⟨?_, ?_, ?_⟩
  · rw [hextensions, hattachments, List.map_nil]
  · rw [hattachments]
    exact List.nodup_nil
  · rw [Schema.uris, hattachments]
    exact List.nodup_singleton _

/-- The schemas of the sets are those of the schema and of its attachments. -/
theorem Coherent.map_sets (h : schema.Coherent) :
    schema.attrs.sets.map (fun set => set.schema.folded) = schema.uris.map SchemaUri.folded := by
  rw [SchemaAttributes.sets, h.agree, Schema.uris, List.map_cons, List.map_cons, List.map_map, List.map_map]
  rfl

/-- An extension is attached under a name that no attachment before has. -/
theorem name_free_of_attach {ext : Extension} {required : Bool} (h : schema.attach catalog ext required = .ok next) :
    ∀ attachment ∈ schema.attachments, lowerAscii attachment.extension.name ≠ lowerAscii ext.name := by
  unfold attach at h
  split at h
  · cases h
  · next hfree =>
    intro attachment hattachment hsame
    have hmiss := List.find?_eq_none.1 (Option.map_eq_none_iff.1 hfree) attachment hattachment
    exact hmiss (beq_iff_eq.2 hsame)

/-- Attaching an extension that was declared on the catalog keeps a schema coherent: the set that is added is that
of the attachment, the name is guarded by the list of the attachments and the identifier by the sets. -/
theorem Coherent.attach (h : schema.Coherent) {ext : Extension} (hext : ext.DeclaredOn catalog) {required : Bool}
    (hattached : schema.attach catalog ext required = .ok next) : next.Coherent := by
  obtain ⟨earlier, later, uri, name, description, attrs, hdeclared, hgrows⟩ := hext
  obtain ⟨-, hextend, hown, hextensions, hattachments⟩ := attach_ok hdeclared hgrows hattached
  obtain ⟨set, hsets, hnew⟩ := SchemaAttributes.extend_ok hextend
  refine ⟨?_, ?_, ?_⟩
  · rw [hextensions, hattachments, h.agree, List.map_append, List.map_singleton]
  · rw [hattachments, List.map_append]
    refine List.Nodup.append h.names (List.nodup_singleton _) ?_
    intro folded hbefore hlast
    obtain ⟨attachment, hattachment, rfl⟩ := List.mem_map.1 hbefore
    exact name_free_of_attach hattached attachment hattachment (List.mem_singleton.1 hlast)
  · have hset : set = Attachment.set ⟨ext, required⟩ := by
      have hlast : next.attrs.sets = schema.attrs.sets ++ [Attachment.set ⟨ext, required⟩] := by
        rw [SchemaAttributes.sets, hown, hextensions]
        rfl
      simpa using List.append_cancel_left (hsets.symm.trans hlast)
    have huris : next.uris = schema.uris ++ [ext.uri] := by
      rw [Schema.uris, Schema.uris, Schema.uri, Schema.uri, hown, hattachments, List.map_append]
      rfl
    rw [huris, List.map_append]
    refine List.Nodup.append h.uris (List.nodup_singleton _) ?_
    intro folded hbefore hlast
    rw [← h.map_sets] at hbefore
    obtain ⟨other, hother, rfl⟩ := List.mem_map.1 hbefore
    exact hnew other hother (by rw [hset]; exact List.mem_singleton.1 hlast)

end Schema

/-! ## Declaration by declaration -/

/-- What stays true of all that is declared. -/
structure Declared.Consistent (declared : Declared) : Prop where
  catalog : declared.catalog.Distinct
  extensions : ∀ ext ∈ declared.extensions, ext.DeclaredOn declared.catalog
  schemas : ∀ schema ∈ declared.schemas, schema.Coherent

namespace Declaration

variable {declared next : Declared}

/-- What a function gives that was changed afterwards. -/
theorem exists_of_map_ok {α β : Type} {outcome : Except Fault α} {change : α → β} {result : β}
    (h : outcome.map change = .ok result) : ∃ given, outcome = .ok given ∧ change given = result := by
  cases outcome with
  | error fault => cases h
  | ok given => exact ⟨given, rfl, Except.ok.inj h⟩

/-- What is registered stays registered. -/
theorem grows {declaration : Declaration} (h : declaration.outcome declared = .ok next) :
    declared.catalog.Grows next.catalog := by
  cases declaration with
  | registerSchema text extension =>
    obtain ⟨⟨catalog, uri⟩, hadded, rfl⟩ := exists_of_map_ok h
    exact .schema .refl hadded
  | registerResource name endpoint =>
    obtain ⟨catalog, hadded, rfl⟩ := exists_of_map_ok h
    exact .resource .refl hadded
  | declareExtension uri name description attrs =>
    obtain ⟨⟨catalog, ext⟩, hdeclared, rfl⟩ := exists_of_map_ok h
    exact Extension.grows_of_declare hdeclared
  | declareSchema uri name endpoint description attrs =>
    obtain ⟨⟨catalog, schema⟩, hdeclared, rfl⟩ := exists_of_map_ok h
    exact Schema.grows_of_declare hdeclared
  | bindAttributes schema attrs shared =>
    obtain ⟨own, -, rfl⟩ := exists_of_map_ok h
    exact .refl
  | attach i j required =>
    simp only [outcome] at h
    split at h
    · obtain ⟨schema, -, rfl⟩ := exists_of_map_ok h
      exact .refl
    · cases h
      exact .refl
  | extend i attrs schema required =>
    simp only [outcome] at h
    split at h
    · obtain ⟨collection, -, rfl⟩ := exists_of_map_ok h
      exact .refl
    · cases h
      exact .refl
  | copySchema i | copyAttributes i =>
    simp only [outcome] at h
    split at h <;> cases h <;> exact .refl

/-- A declaration leaves the extensions that there are and may add one, declared on the catalog. -/
theorem extensions_of_outcome {declaration : Declaration} (h : declaration.outcome declared = .ok next)
    {ext : Extension} (hext : ext ∈ next.extensions) :
    ext ∈ declared.extensions ∨ ext.DeclaredOn next.catalog := by
  cases declaration with
  | declareExtension uri name description attrs =>
    obtain ⟨⟨catalog, added⟩, hdeclared, rfl⟩ := exists_of_map_ok h
    rcases List.mem_append.1 hext with hold | hnew
    · exact .inl hold
    · cases List.mem_singleton.1 hnew
      exact .inr ⟨_, _, _, _, _, _, hdeclared, .refl⟩
  | registerSchema text extension | registerResource name endpoint | bindAttributes schema attrs shared
    | declareSchema uri name endpoint description attrs =>
    obtain ⟨_, -, rfl⟩ := exists_of_map_ok h
    exact .inl hext
  | attach i j required | extend i attrs schema required =>
    simp only [outcome] at h
    split at h
    · obtain ⟨_, -, rfl⟩ := exists_of_map_ok h
      exact .inl hext
    · cases h
      exact .inl hext
  | copySchema i | copyAttributes i =>
    simp only [outcome] at h
    split at h <;> cases h <;> exact .inl hext

/-- A schema after a declaration was there before, was just declared, or is one to which an extension was attached. -/
theorem schemas_of_outcome {declaration : Declaration} (h : declaration.outcome declared = .ok next)
    {schema : Schema} (hschema : schema ∈ next.schemas) :
    schema ∈ declared.schemas ∨
      (∃ catalog uri name endpoint description attrs,
        Schema.declare declared.catalog uri name endpoint description attrs = .ok (catalog, schema)) ∨
      ∃ before ∈ declared.schemas, ∃ ext ∈ declared.extensions, ∃ required,
        before.attach declared.catalog ext required = .ok schema := by
  cases declaration with
  | declareSchema uri name endpoint description attrs =>
    obtain ⟨⟨catalog, added⟩, hdeclared, rfl⟩ := exists_of_map_ok h
    rcases List.mem_append.1 hschema with hold | hnew
    · exact .inl hold
    · cases List.mem_singleton.1 hnew
      exact .inr (.inl ⟨_, _, _, _, _, _, hdeclared⟩)
  | attach i j required =>
    simp only [outcome] at h
    split at h
    · next before ext hbefore hext =>
      obtain ⟨attached, hattached, rfl⟩ := exists_of_map_ok h
      rcases List.mem_or_eq_of_mem_set hschema with hold | rfl
      · exact .inl hold
      · exact .inr (.inr ⟨before, List.mem_of_getElem? hbefore, ext, List.mem_of_getElem? hext, required, hattached⟩)
    · cases h
      exact .inl hschema
  | copySchema i =>
    simp only [outcome] at h
    split at h
    · next copied hcopied =>
      cases h
      rcases List.mem_append.1 hschema with hold | hnew
      · exact .inl hold
      · exact .inl (List.mem_singleton.1 hnew ▸ List.mem_of_getElem? hcopied)
    · cases h
      exact .inl hschema
  | registerSchema text extension | registerResource name endpoint | bindAttributes schema attrs shared
    | declareExtension uri name description attrs =>
    obtain ⟨_, -, rfl⟩ := exists_of_map_ok h
    exact .inl hschema
  | extend i attrs schema required =>
    simp only [outcome] at h
    split at h
    · obtain ⟨_, -, rfl⟩ := exists_of_map_ok h
      exact .inl hschema
    · cases h
      exact .inl hschema
  | copyAttributes i =>
    simp only [outcome] at h
    split at h <;> cases h <;> exact .inl hschema

end Declaration

namespace Declared

variable {declared : Declared}

theorem Consistent.of_outcome (h : declared.Consistent) {declaration : Declaration} {next : Declared}
    (houtcome : declaration.outcome declared = .ok next) : next.Consistent := by
  have hgrows := Declaration.grows houtcome
  refine ⟨hgrows.distinct h.catalog, fun ext hext => ?_, fun schema hschema => ?_⟩
  · rcases Declaration.extensions_of_outcome houtcome hext with hold | hnew
    · exact (h.extensions ext hold).grown hgrows
    · exact hnew
  · rcases Declaration.schemas_of_outcome houtcome hschema with
      hold | ⟨_, _, _, _, _, _, hdeclared⟩ | ⟨before, hbefore, ext, hext, required, hattached⟩
    · exact h.schemas schema hold
    · exact .of_declare hdeclared
    · exact (h.schemas before hbefore).attach (h.extensions ext hext) hattached

/-- All that is declared after a declaration, which may have been refused. -/
def after (declared : Declared) (declaration : Declaration) : Declared := (declaration.inPlace.perform declared).2

/-- All that is declared after several declarations. -/
def afterAll (declared : Declared) (declarations : List Declaration) : Declared := declarations.foldl after declared

/-- What one declaration preserves, refused or not. -/
theorem Consistent.step (h : declared.Consistent) (declaration : Declaration) :
    (declared.after declaration).Consistent ∧ declared.catalog.Grows (declared.after declaration).catalog := by
  rw [after, Declaration.perform_inPlace]
  cases houtcome : declaration.outcome declared with
  | error fault => exact ⟨h, .refl⟩
  | ok next => exact ⟨h.of_outcome houtcome, Declaration.grows houtcome⟩

/-- What any number of declarations preserve. -/
theorem Consistent.run (h : declared.Consistent) (declarations : List Declaration) :
    (declared.afterAll declarations).Consistent ∧
      declared.catalog.Grows (declared.afterAll declarations).catalog := by
  induction declarations generalizing declared with
  | nil => exact ⟨h, .refl⟩
  | cons declaration declarations ih =>
    obtain ⟨hnext, hgrows⟩ := h.step declaration
    obtain ⟨hlast, hrest⟩ := ih hnext
    exact ⟨hlast, hgrows.trans hrest⟩

theorem consistent_nothing : Consistent {} :=
  ⟨⟨List.nodup_nil, List.nodup_nil⟩, nofun, nofun⟩

/-- After any declarations, begun with nothing:

* a further declaration does what the functions that declare say, or, if these refuse it, changes nothing at all;
* the registered identifiers differ by more than case, and the names of the types of resources differ;
* whatever is declared later, an identifier keeps its casing and says the same about being an extension, and a type
  of resource stays at its endpoint;
* every schema has as sets of extensions those of its attachments, each under the identifier of the attachment and
  required as it is, in their order, and the names of its attachments differ by more than the case of ASCII letters,
  as their identifiers differ from each other and from that of the schema by more than case. -/
theorem stays_consistent (declarations : List Declaration) :
    (∀ declaration : Declaration, declaration.inPlace.perform (afterAll {} declarations) =
      match declaration.outcome (afterAll {} declarations) with
      | .ok next => (.ok (), next)
      | .error fault => (.error fault, afterAll {} declarations)) ∧
    ((afterAll {} declarations).catalog.schemas.map fun entry => entry.uri.folded).Nodup ∧
    ((afterAll {} declarations).catalog.resources.map ResourceType.name).Nodup ∧
    (∀ more : List Declaration,
      (∀ uri entry, Catalog.entry? (afterAll {} declarations).catalog uri = some entry →
        Catalog.entry? (afterAll {} (declarations ++ more)).catalog uri = some entry) ∧
      ∀ name endpoint, Catalog.endpoint? (afterAll {} declarations).catalog name = some endpoint →
        Catalog.endpoint? (afterAll {} (declarations ++ more)).catalog name = some endpoint) ∧
    ∀ schema ∈ (afterAll {} declarations).schemas,
      schema.attrs.extensions.map (fun set => (set.schema, set.required)) =
        schema.attachments.map (fun attachment => (attachment.extension.uri, attachment.required)) ∧
      (schema.attachments.map fun attachment => lowerAscii attachment.extension.name).Nodup ∧
      ((schema.uri :: schema.attachments.map fun attachment => attachment.extension.uri).map
        SchemaUri.folded).Nodup := by
  obtain ⟨hconsistent, -⟩ := consistent_nothing.run declarations
  refine ⟨fun declaration => declaration.perform_inPlace _, hconsistent.catalog.schemas,
    hconsistent.catalog.resources, fun more => ?_, fun schema hschema => ?_⟩
  · obtain ⟨-, hgrows⟩ := hconsistent.run more
    have happend : afterAll {} (declarations ++ more) = (afterAll {} declarations).afterAll more :=
      List.foldl_append
    rw [happend]
    exact ⟨fun uri entry => hgrows.entry_kept, fun name endpoint => hgrows.endpoint_kept⟩
  · obtain ⟨hagree, hnames, huris⟩ := hconsistent.schemas schema hschema
    refine ⟨?_, hnames, huris⟩
    rw [hagree, List.map_map]
    rfl

/-- A type of resource is not registered if the identifier of its schema is taken, in whatever casing. -/
example : (afterAll {} [.registerSchema "urn:user" true, .declareSchema "URN:User" "User" none "" []]).catalog =
    { schemas := [⟨⟨"urn:user", by decide⟩, true⟩] } := by rfl

end Declared

end Scim
