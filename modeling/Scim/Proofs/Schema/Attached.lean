import Scim.Proofs.Schema.Reachable
import Scim.Schema

/-!
# Schemas that can be reached

A schema is declared with attributes of its own, after those that every resource has, and then extensions are attached
to it that were declared before.  So its attributes come in sets, its own one first and then one for each attachment,
and they are among the attributes that can be reached.

## Main results

* `Schema.declare_ok`, `Schema.attach_ok`: what a schema is declared with, and what attaching adds.
* `Schema.Reachable.attrs`: the attributes of a schema can be reached themselves.
* `Schema.Reachable.extensions`: the sets of extensions are those of the attachments, in their order.
* `Schema.reachable_with_extension`: a schema with one extension, declared one after the other.
-/

namespace Scim

open Text

/-- The set of the attributes of an attached extension. -/
def Attachment.set (attachment : Attachment) : AttributeSet where
  schema := attachment.extension.uri
  extension := true
  required := attachment.required
  declared := attachment.extension.attrs

/-- An identifier that was just registered is found as it was registered. -/
theorem Catalog.entry?_of_addSchema {catalog next : Catalog} {text : String} {extension : Bool} {uri : SchemaUri}
    (h : catalog.addSchema text extension = .ok (next, uri)) : next.entry? uri = some ⟨uri, extension⟩ := by
  obtain ⟨-, hfree, rfl⟩ := addSchema_ok.1 h
  rw [Catalog.entry?] at hfree ⊢
  rw [List.find?_append, hfree, Option.none_or]
  exact List.find?_cons_of_pos (SchemaUri.beq_iff.2 rfl)

/-- Under a registered identifier attributes are declared as they are collected. -/
theorem AttributeSet.declare_registered {catalog : Catalog} {uri : SchemaUri} {extension : Bool}
    (h : catalog.entry? uri = some ⟨uri, extension⟩) (given : List Attribute) (shared : List String) :
    declare catalog uri.text given shared =
      .ok { schema := uri, extension, declared := Attributes.collect given, shared := shared.map lower } := by
  have hfound : catalog.find? uri.text = some ⟨uri, extension⟩ := by
    rw [Catalog.find?, SchemaUri.parse_text]
    exact h
  rw [declare, hfound]

theorem sharedAttributes_made : ∀ attr ∈ sharedAttributes, attr.Made := by
  have hmeta : metaAttribute.Made := by
    refine @Attribute.Made.complex "meta" (metaAttribute.subs?.getD []) metaAttribute.traits {} _ ?_ (by rfl)
    simp only [metaAttribute, Attribute.simple, Attribute.subs?, Option.getD_some, List.forall_mem_cons]
    exact ⟨.of_simple _ (by simp) rfl rfl, .of_simple _ (by simp) rfl rfl, .of_simple _ (by simp) rfl rfl,
      .of_simple _ (by simp) rfl rfl, .of_simple _ (by simp) rfl rfl, by simp⟩
  simp only [sharedAttributes, List.forall_mem_cons]
  exact ⟨.of_simple _ (by simp) rfl rfl, .of_simple _ (by simp) rfl rfl, .of_simple _ (by simp) rfl rfl, hmeta,
    by simp⟩

namespace Schema

/-- The schemas that can be reached with a catalog: extensions are attached that were declared with it, before. -/
inductive Reachable : Catalog → Schema → Prop
  | declared {catalog next : Catalog} {uri name description : String} {endpoint : Option String}
      {given : List Attribute} {schema : Schema} (hgiven : ∀ attr ∈ given, attr.Made)
      (h : declare catalog uri name endpoint description given = .ok (next, schema)) : Reachable next schema
  | attached {catalog earlier later : Catalog} {schema next : Schema} {uri name description : String}
      {given : List Attribute} {ext : Extension} {required : Bool} (before : Reachable catalog schema)
      (hgiven : ∀ attr ∈ given, attr.Made)
      (hdeclared : Extension.declare earlier uri name description given = .ok (later, ext))
      (hgrows : later.Grows catalog) (h : schema.attach catalog ext required = .ok next) : Reachable catalog next
  | grown {catalog next : Catalog} {schema : Schema} (before : Reachable catalog schema) (h : catalog.Grows next) :
      Reachable next schema

variable {catalog next : Catalog} {schema : Schema}

/-- A declared schema has the attributes that were given, after those that every resource has, and no extensions. -/
theorem declare_ok {uri name description : String} {endpoint : Option String} {given : List Attribute}
    (h : declare catalog uri name endpoint description given = .ok (next, schema)) :
    ∃ registered uri endpoint, registered.addResource name endpoint = .ok next ∧
      AttributeSet.declare registered uri (sharedAttributes ++ given) sharedNames = .ok schema.attrs.own ∧
      schema.attrs.own.extension = false ∧ schema.attrs.extensions = [] ∧ schema.attachments = [] := by
  unfold declare at h
  split at h
  · cases h
  · cases hadded : catalog.addSchema uri false with
    | error fault =>
      simp only [hadded, bind, Except.bind] at h
      cases h
    | ok added =>
      obtain ⟨registered, uri⟩ := added
      have hown := AttributeSet.declare_registered (Catalog.entry?_of_addSchema hadded)
        (sharedAttributes ++ given) sharedNames
      simp only [hadded, hown, bind, Except.bind] at h
      cases hresource : registered.addResource name (endpoint.getD ("/" ++ name)) with
      | error fault =>
        simp only [hresource] at h
        cases h
      | ok final =>
        simp only [hresource] at h
        cases h
        exact ⟨registered, _, _, hresource, hown, rfl, rfl, rfl⟩

/-- An extension that was declared with the catalog is attached with the set of its attributes. -/
theorem attach_ok {earlier later : Catalog} {uri name description : String} {given : List Attribute}
    {ext : Extension} {required : Bool} {attached : Schema}
    (hdeclared : Extension.declare earlier uri name description given = .ok (later, ext))
    (hgrows : later.Grows catalog) (h : schema.attach catalog ext required = .ok attached) :
    ext.attrs = Attributes.collect given ∧
      schema.attrs.extend catalog ext.attrs ext.uri.text required = .ok attached.attrs ∧
      attached.attrs.own = schema.attrs.own ∧
      attached.attrs.extensions = schema.attrs.extensions ++ [Attachment.set ⟨ext, required⟩] ∧
      attached.attachments = schema.attachments ++ [⟨ext, required⟩] := by
  obtain ⟨hentry, hattrs⟩ : later.entry? ext.uri = some ⟨ext.uri, true⟩ ∧ ext.attrs = Attributes.collect given := by
    unfold Extension.declare at hdeclared
    cases hadded : earlier.addSchema uri true with
    | error fault =>
      simp only [hadded, bind, Except.bind] at hdeclared
      cases hdeclared
    | ok added =>
      simp only [hadded, bind, Except.bind] at hdeclared
      cases hdeclared
      exact ⟨Catalog.entry?_of_addSchema hadded, rfl⟩
  have hset := AttributeSet.declare_registered (hgrows.entry_kept hentry) ext.attrs []
  have hcollected : Attributes.collect ext.attrs = ext.attrs := by
    rw [hattrs]
    exact Attributes.collect_eq_self (Attributes.collect_distinct given)
  unfold attach at h
  split at h
  · cases h
  · cases hextend : schema.attrs.extend catalog ext.attrs ext.uri.text required with
    | error fault =>
      simp only [hextend, bind, Except.bind] at h
      cases h
    | ok attrs =>
      simp only [hextend, bind, Except.bind] at h
      cases h
      obtain ⟨set, hfound, rfl⟩ := SchemaAttributes.extend_declares hextend
      rw [hset, hcollected] at hfound
      cases hfound
      exact ⟨hattrs, rfl, rfl, rfl, rfl⟩

namespace Reachable

/-- The attributes of the schema can be reached themselves. -/
theorem attrs (h : schema.Reachable catalog) : schema.attrs.Reachable catalog := by
  induction h with
  | @declared _ next _ _ _ _ given schema hgiven h =>
    obtain ⟨registered, uri, endpoint, hresource, hown, -, hnone, -⟩ := declare_ok h
    have hattrs : schema.attrs = { own := schema.attrs.own } := by rw [← hnone]
    have hmade : ∀ attr ∈ sharedAttributes ++ given, attr.Made :=
      List.forall_mem_append.2 ⟨sharedAttributes_made, hgiven⟩
    rw [hattrs]
    exact .grown (.declared hmade hown) (.resource .refl hresource)
  | @attached catalog _ _ schema next _ _ _ given ext required _ hgiven hdeclared hgrows h ih =>
    obtain ⟨hattrs, hextend, -⟩ := attach_ok hdeclared hgrows h
    have hafter : schema.attrs.afterExtend catalog ext.attrs ext.uri.text required = next.attrs := by
      rw [SchemaAttributes.afterExtend, hextend]
    have hmade : ∀ attr ∈ ext.attrs, attr.Made := by
      rw [hattrs]
      exact fun attr hattr => hgiven attr (Attributes.mem_of_mem_collect hattr)
    exact hafter ▸ ih.extended hmade ext.uri.text required
  | grown _ hgrows ih => exact .grown ih hgrows

/-- The own attributes are not those of an extension. -/
theorem own (h : schema.Reachable catalog) : schema.attrs.own.extension = false := by
  induction h with
  | declared _ h =>
    obtain ⟨-, -, -, -, -, hown, -⟩ := declare_ok h
    exact hown
  | attached _ _ hdeclared hgrows h ih =>
    obtain ⟨-, -, hown, -⟩ := attach_ok hdeclared hgrows h
    rw [hown]
    exact ih
  | grown _ _ ih => exact ih

/-- The sets of extensions are those of the attachments, in their order. -/
theorem extensions (h : schema.Reachable catalog) :
    schema.attrs.extensions = schema.attachments.map Attachment.set := by
  induction h with
  | declared _ h =>
    obtain ⟨-, -, -, -, -, -, hnone, hattachments⟩ := declare_ok h
    rw [hnone, hattachments, List.map_nil]
  | attached _ _ hdeclared hgrows h ih =>
    obtain ⟨-, -, -, hextensions, hattachments⟩ := attach_ok hdeclared hgrows h
    rw [hextensions, hattachments, ih, List.map_append, List.map_singleton]
  | grown _ _ ih => exact ih

/-- Conversion goes through the own attributes and then through those of each attachment. -/
theorem all_eq (h : schema.Reachable catalog) :
    schema.attrs.all = schema.attrs.own.attrs ++ schema.attachments.flatMap fun attachment => attachment.set.attrs := by
  rw [SchemaAttributes.all, h.extensions, List.flatMap_map]

end Reachable

/-- A schema is declared, then an extension, and the extension is attached to the schema. -/
theorem reachable_with_extension {catalog later next : Catalog} {plain schema : Schema}
    {uri name description extensionUri extensionName extensionDescription : String} {endpoint : Option String}
    {given inner : List Attribute} {ext : Extension} {required : Bool} (hgiven : ∀ attr ∈ given, attr.Made)
    (hinner : ∀ attr ∈ inner, attr.Made)
    (hdeclared : declare catalog uri name endpoint description given = .ok (later, plain))
    (hextension : Extension.declare later extensionUri extensionName extensionDescription inner = .ok (next, ext))
    (hattached : plain.attach next ext required = .ok schema) : schema.Reachable next := by
  have hgrows : later.Grows next := by
    unfold Extension.declare at hextension
    cases hadded : later.addSchema extensionUri true with
    | error fault =>
      simp only [hadded, bind, Except.bind] at hextension
      cases hextension
    | ok added =>
      simp only [hadded, bind, Except.bind] at hextension
      cases hextension
      exact .schema .refl hadded
  exact .attached (.grown (.declared hgiven hdeclared) hgrows) hinner hextension .refl hattached

end Schema

end Scim
