import Scim.Proofs.Schema.Output

/-!
# Declaring in place

The functions that declare give a new catalog, a new schema, and give nothing if they are refused.  A service
works otherwise: it has one catalog, shared by all, and schemas that are changed where they stand, step by step;
and a step that is refused comes after others that were taken.  Declaring a schema registers its identifier, since
attributes are bound to registered schemas only, then binds the attributes, and then registers the type of
resource; if one of the later steps is refused, the identifier is taken back.  Attaching an extension changes two
lists, one after the other.

Here the declarations are written as such steps, on a state that stays what it has become when a step is refused.
`Performs` says that steps do what a function does as a whole: they leave the state that the function gives, or, if
the function gives none, the state as it was.

## Main results

* `unregister_register`: what was registered last can be taken back without a trace.
* `Schema.performs_declare`: declaring a schema step by step is all or nothing.
* `Schema.performs_attach`: so is attaching an extension.
-/

namespace Scim

open Text

/-! ## Steps -/

/-- Steps on a state.  If one of them is refused, the state stays what the steps before have made of it. -/
abbrev Steps (σ α : Type) := ExceptT Fault (StateM σ) α

namespace Steps

variable {σ τ α β : Type}

/-- What steps come to, and the state that they leave. -/
def perform (steps : Steps σ α) (state : σ) : Except Fault α × σ := StateT.run (ExceptT.run steps) state

/-- Steps on a part of a state. -/
def on (read : τ → σ) (write : σ → τ → τ) (steps : Steps σ α) : Steps τ α :=
  ExceptT.mk fun state =>
    let (outcome, part) := steps.perform (read state)
    (outcome, write part state)

/-- Steps do what a function does as a whole, or nothing. -/
def Performs (steps : Steps σ α) (function : σ → Except Fault (σ × α)) : Prop :=
  ∀ state, steps.perform state =
    match function state with
    | .ok (next, result) => (.ok result, next)
    | .error fault => (.error fault, state)

@[simp] theorem perform_pure (a : α) (state : σ) : perform (pure a) state = (.ok a, state) := rfl

@[simp] theorem perform_throw (fault : Fault) (state : σ) :
    perform (throw fault : Steps σ α) state = (.error fault, state) := rfl

@[simp] theorem perform_get (state : σ) : perform (get : Steps σ σ) state = (.ok state, state) := rfl

@[simp] theorem perform_modify (change : σ → σ) (state : σ) :
    perform (modify change : Steps σ Unit) state = (.ok (), change state) := rfl

/-- What comes next is done in the state that the steps leave, unless they are refused. -/
theorem perform_bind (steps : Steps σ α) (next : α → Steps σ β) (state : σ) :
    perform (steps >>= next) state =
      match steps.perform state with
      | (.ok a, later) => (next a).perform later
      | (.error fault, later) => (.error fault, later) := by
  show (ExceptT.bindCont next (steps.perform state).1).run (steps.perform state).2 = _
  rcases steps.perform state with ⟨_ | _, later⟩ <;> rfl

/-- What is done on refusal is done in the state that the steps leave. -/
theorem perform_tryCatch (steps : Steps σ α) (handle : Fault → Steps σ α) (state : σ) :
    perform (tryCatch steps handle) state =
      match steps.perform state with
      | (.ok a, later) => (.ok a, later)
      | (.error fault, later) => (handle fault).perform later := by
  unfold perform
  simp only [tryCatch, tryCatchThe, MonadExceptOf.tryCatch, ExceptT.tryCatch, ExceptT.run, ExceptT.mk, StateT.run, bind,
    StateT.bind]
  rcases steps state with ⟨_ | _, later⟩ <;> rfl

/-- Asking a function that changes nothing. -/
@[simp] theorem perform_lift (outcome : Except Fault α) (state : σ) :
    perform (liftM outcome : Steps σ α) state = (outcome, state) := by
  cases outcome <;> rfl

theorem perform_on (read : τ → σ) (write : σ → τ → τ) (steps : Steps σ α) (state : τ) :
    perform (steps.on read write) state =
      ((steps.perform (read state)).1, write (steps.perform (read state)).2 state) := rfl

end Steps

/-! ## Registering -/

namespace Catalog

/-- Registers a schema. -/
def register (text : String) (extension : Bool) : Steps Catalog SchemaUri := do
  let uri ← liftM (SchemaUri.parse text)
  let catalog ← get
  if (catalog.entry? uri).isSome then throw (.schemaTaken uri.text)
  modify fun catalog => { catalog with schemas := catalog.schemas ++ [⟨uri, extension⟩] }
  return uri

/-- Takes a schema out of the catalog. -/
def unregister (uri : SchemaUri) : Steps Catalog Unit :=
  modify fun catalog => { catalog with schemas := catalog.schemas.filter fun entry => !(entry.uri == uri) }

/-- Registers a type of resource. -/
def registerResource (name endpoint : String) : Steps Catalog Unit := do
  let catalog ← get
  if (catalog.endpoint? name).isSome then throw (.resourceTaken name)
  modify fun catalog => { catalog with resources := catalog.resources ++ [⟨name, endpoint⟩] }

theorem performs_register (text : String) (extension : Bool) :
    (register text extension).Performs fun catalog => catalog.addSchema text extension := by
  intro catalog
  simp only [register, Steps.perform_bind, Steps.perform_lift, Steps.perform_get]
  cases hparse : SchemaUri.parse text with
  | error fault => simp only [addSchema, hparse, bind, Except.bind]
  | ok uri =>
    cases hentry : catalog.entry? uri with
    | none =>
      simp only [hentry, Option.isSome_none, Bool.false_eq_true, if_false, Steps.perform_bind, Steps.perform_modify,
        Steps.perform_pure]
      simp only [addSchema, hparse, hentry, bind, Except.bind]
    | some entry =>
      simp only [hentry, Option.isSome_some, if_true, Steps.perform_bind, Steps.perform_throw]
      simp only [addSchema, hparse, hentry, bind, Except.bind]

theorem performs_registerResource (name endpoint : String) :
    (registerResource name endpoint).Performs fun catalog =>
      (catalog.addResource name endpoint).map fun next => (next, ()) := by
  intro catalog
  simp only [registerResource, Steps.perform_bind, Steps.perform_get]
  cases hendpoint : catalog.endpoint? name with
  | none =>
    simp only [Option.isSome_none, Bool.false_eq_true, if_false, Steps.perform_modify]
    simp only [addResource, hendpoint, Except.map]
  | some taken =>
    simp only [Option.isSome_some, if_true, Steps.perform_bind, Steps.perform_throw]
    simp only [addResource, hendpoint, Except.map]

/-- What was registered last can be taken back without a trace. -/
theorem unregister_register {catalog next : Catalog} {text : String} {extension : Bool} {uri : SchemaUri}
    (h : catalog.addSchema text extension = .ok (next, uri)) :
    (unregister uri).perform next = (.ok (), catalog) := by
  obtain ⟨-, hfree, rfl⟩ := addSchema_ok.1 h
  have hothers : (catalog.schemas.filter fun entry => !(entry.uri == uri)) = catalog.schemas := by
    rw [List.filter_eq_self]
    intro entry hentry
    simpa using List.find?_eq_none.1 hfree entry hentry
  have hlast : (uri == uri) = true := SchemaUri.beq_iff.2 rfl
  rw [unregister, Steps.perform_modify]
  simp only [List.filter_append, hothers, List.filter_singleton, hlast, Bool.not_true, cond_false, List.append_nil]

end Catalog

/-! ## Declaring -/

/-- Declares an extension. -/
def Extension.declareInPlace (uri name description : String) (attrs : List Attribute) : Steps Catalog Extension := do
  let uri ← Catalog.register uri true
  return ⟨uri, name, description, Attributes.collect attrs⟩

theorem Extension.performs_declare (uri name description : String) (attrs : List Attribute) :
    (declareInPlace uri name description attrs).Performs fun catalog =>
      declare catalog uri name description attrs := by
  intro catalog
  rw [declareInPlace, Steps.perform_bind, Catalog.performs_register uri true catalog]
  cases hadded : catalog.addSchema uri true with
  | error fault => simp only [declare, hadded, bind, Except.bind]
  | ok added =>
    simp only [Steps.perform_pure]
    simp only [declare, hadded, bind, Except.bind, pure, Except.pure]

namespace Schema

/-- Declares a type of resource.  The identifier of its schema is registered before the attributes are bound to it,
and it is taken back if one of the steps after that is refused. -/
def declareInPlace (uri name : String) (endpoint : Option String) (description : String) (attrs : List Attribute) :
    Steps Catalog Schema := do
  let endpoint := endpoint.getD ("/" ++ name)
  let catalog ← get
  if (catalog.endpoint? name).isSome then throw (.resourceTaken name)
  let uri ← Catalog.register uri false
  let own ←
    try
      let own ← liftM (AttributeSet.declare (← get) uri.text (sharedAttributes ++ attrs) sharedNames)
      Catalog.registerResource name endpoint
      pure own
    catch fault =>
      Catalog.unregister uri
      throw fault
  return { name, endpoint, description, attrs := { own } }

/-- Declaring a schema step by step is all or nothing. -/
theorem performs_declare (uri name : String) (endpoint : Option String) (description : String)
    (attrs : List Attribute) :
    (declareInPlace uri name endpoint description attrs).Performs fun catalog =>
      declare catalog uri name endpoint description attrs := by
  intro catalog
  simp only [declareInPlace, Steps.perform_bind, Steps.perform_get]
  cases hendpoint : catalog.endpoint? name with
  | some taken =>
    simp only [Option.isSome_some, if_true, Steps.perform_bind, Steps.perform_throw]
    simp only [declare, hendpoint]
  | none =>
    simp only [Option.isSome_none, Bool.false_eq_true, if_false, Steps.perform_bind,
      Catalog.performs_register uri false catalog]
    cases hadded : catalog.addSchema uri false with
    | error fault => simp only [declare, hendpoint, hadded, bind, Except.bind]
    | ok added =>
      obtain ⟨registered, uri⟩ := added
      have hown := AttributeSet.declare_registered (Catalog.entry?_of_addSchema hadded) (sharedAttributes ++ attrs)
        sharedNames
      simp only [Steps.perform_tryCatch, Steps.perform_bind, Steps.perform_get, Steps.perform_lift, hown,
        Catalog.performs_registerResource name _ registered]
      cases hresource : registered.addResource name (endpoint.getD ("/" ++ name)) with
      | error fault =>
        simp only [Except.map, Catalog.unregister_register hadded, Steps.perform_throw]
        simp only [declare, hendpoint, hadded, hown, hresource, bind, Except.bind]
      | ok final =>
        simp only [Except.map, Steps.perform_pure]
        simp only [declare, hendpoint, hadded, hown, hresource, bind, Except.bind, pure, Except.pure]

end Schema

/-! ## Attaching -/

/-- Adds the attributes of an extension. -/
def SchemaAttributes.extendInPlace (catalog : Catalog) (given : List Attribute) (schema : String) (required : Bool) :
    Steps SchemaAttributes Unit := do
  match catalog.find? schema with
  | none => throw (.unknownSchema schema)
  | some entry =>
    let attrs ← get
    if entry.uri == attrs.own.schema || (attrs.extension? entry.uri).isSome then
      throw (.extensionTaken attrs.own.schema.text entry.uri.text)
    let set ← liftM (AttributeSet.declare catalog entry.uri.text given [])
    modify fun attrs => { attrs with extensions := attrs.extensions ++ [{ set with required }] }

theorem SchemaAttributes.performs_extend (catalog : Catalog) (given : List Attribute) (schema : String)
    (required : Bool) :
    (extendInPlace catalog given schema required).Performs fun attrs =>
      (attrs.extend catalog given schema required).map fun next => (next, ()) := by
  intro attrs
  rw [extendInPlace]
  cases hfound : catalog.find? schema with
  | none => simp only [Steps.perform_throw, extend, AttributeSet.declare, hfound, bind, Except.bind, Except.map]
  | some entry =>
    have hset := AttributeSet.declare_registered (Catalog.entry?_of_find? hfound) given []
    simp only [Steps.perform_bind, Steps.perform_get]
    cases htaken : (entry.uri == attrs.own.schema || (attrs.extension? entry.uri).isSome) with
    | true =>
      simp only [if_true, Steps.perform_bind, Steps.perform_throw]
      simp only [extend, AttributeSet.declare, hfound, htaken, bind, Except.bind, if_true, Except.map]
    | false =>
      simp only [Bool.false_eq_true, if_false, Steps.perform_bind, Steps.perform_lift, hset, Steps.perform_modify]
      simp only [extend, AttributeSet.declare, hfound, htaken, bind, Except.bind, Bool.false_eq_true, if_false,
        Except.map]

namespace Schema

/-- Attaches an extension: its attributes are added to those of the schema, and then it is listed. -/
def attachInPlace (catalog : Catalog) (ext : Extension) (required : Bool) : Steps Schema Unit := do
  let schema ← get
  if (schema.extension? ext.name).isSome then throw (.extensionTaken schema.uri.text ext.uri.text)
  (SchemaAttributes.extendInPlace catalog ext.attrs ext.uri.text required).on attrs
    fun attrs schema => { schema with attrs }
  modify fun schema => { schema with attachments := schema.attachments ++ [⟨ext, required⟩] }

/-- So is attaching an extension. -/
theorem performs_attach (catalog : Catalog) (ext : Extension) (required : Bool) :
    (attachInPlace catalog ext required).Performs fun schema =>
      (schema.attach catalog ext required).map fun next => (next, ()) := by
  intro schema
  simp only [attachInPlace, Steps.perform_bind, Steps.perform_get]
  cases hname : schema.extension? ext.name with
  | some taken =>
    simp only [Option.isSome_some, if_true, Steps.perform_bind, Steps.perform_throw]
    simp only [attach, hname, Except.map]
  | none =>
    simp only [Option.isSome_none, Bool.false_eq_true, if_false, Steps.perform_bind, Steps.perform_on,
      SchemaAttributes.performs_extend catalog ext.attrs ext.uri.text required schema.attrs]
    cases hextend : schema.attrs.extend catalog ext.attrs ext.uri.text required with
    | error fault => simp only [attach, hname, hextend, bind, Except.bind, Except.map]
    | ok next =>
      simp only [Except.map, Steps.perform_modify]
      simp only [attach, hname, hextend, bind, Except.bind, pure, Except.pure]

end Schema

end Scim
