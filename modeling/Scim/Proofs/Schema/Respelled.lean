import Scim.Presence
import Scim.Proofs.Attribute.Respelled
import Scim.Proofs.Schema.Attached
import Scim.Proofs.Schema.Marking

/-!
# Checking does not see the spelling of keys

A resource can be written in many ways: its entries in another order, its keys with capitals elsewhere, at every
depth.  Checking finds the same in each.  The attributes of a schema are gone through in the order of the schema, so
their reports are even equal, and so is the report on what is present.

The one check that goes through the entries of the resource looks for extensions that are not listed, and names each
by the key under which it found it.  So its messages follow the spelling, and the codes do not.

## Main results

* `Presence.check_respelled`: the report on what is present.
* `Schema.checks_ignore_spelling`: both reports.
-/

namespace Scim

open Text

/-! ## Presence -/

namespace Presence

variable {presence : Presence} {message : Message}

theorem isPresent_respelled {a b : Value} (h : a.Respelled b) : isPresent a = isPresent b := by
  cases h with
  | list items => cases items <;> rfl
  | _ => rfl

theorem checkSubIn_respelled (inScope : Bool) (sub : Attribute) (path : BoundPath) (location : Location)
    (report : Report) {as bs : Record} (h : as.Respelled bs) :
    presence.checkSubIn message inScope sub path location report as =
      presence.checkSubIn message inScope sub path location report bs := by
  have hpresent := isPresent_respelled (h.value (rfl : sub.name.folded = sub.name.folded))
  unfold checkSubIn checkValue
  rw [hpresent]

/-- The items of two lists, each with its number. -/
theorem zipIdx_respelled {as bs : List Value} (h : List.Forall₂ Value.Respelled as bs) (start : Nat) :
    List.Forall₂ (fun a b => a.1.Respelled b.1 ∧ a.2 = b.2) (as.zipIdx start) (bs.zipIdx start) := by
  induction h generalizing start with
  | nil => exact .nil
  | cons hitem _ ih => exact .cons ⟨hitem, rfl⟩ (ih (start + 1))

theorem checkSub_respelled (inScope multiValued : Bool) (location : Location) (report : Report) (sub : Attribute)
    {a b : Value} (h : a.Respelled b) :
    presence.checkSub message inScope multiValued a location report sub =
      presence.checkSub message inScope multiValued b location report sub := by
  cases h with
  | record distinct keys values order =>
    unfold checkSub
    cases sub.path with
    | unbound => rfl
    | bound path =>
      cases multiValued with
      | true => rfl
      | false => exact checkSubIn_respelled _ _ _ _ _ (.record distinct keys values order)
  | list items =>
    unfold checkSub
    cases sub.path with
    | unbound => rfl
    | bound path =>
      cases multiValued with
      | false => rfl
      | true =>
        refine foldl_congr_of_forall₂ (zipIdx_respelled items 0) ?_ report
        rintro report ⟨a, i⟩ ⟨b, j⟩ ⟨hitem, hindex⟩
        dsimp only at hitem hindex ⊢
        subst hindex
        cases hitem with
        | record distinct keys values order =>
          have hrecord : Record.Respelled _ _ := .record distinct keys values order
          dsimp only
          rw [(hrecord.value (rfl : sub.name.folded = sub.name.folded)).isInvalid,
            checkSubIn_respelled _ _ _ _ _ hrecord]
        | _ => rfl
  | _ => rfl

theorem checkAttribute_respelled (attrs : SchemaAttributes) (report : Report) (attr : Attribute) {as bs : Record}
    (h : as.Respelled bs) :
    presence.checkAttribute message attrs as report attr = presence.checkAttribute message attrs bs report attr := by
  unfold checkAttribute
  cases attr.path with
  | unbound => rfl
  | bound path =>
    have hvalue := h.get (Place.ofBound path)
    unfold checkValue
    dsimp only
    rw [isPresent_respelled hvalue, hvalue.isAbsent, hvalue.isInvalid]
    split
    · rfl
    · exact List.foldl_ext _ _ _ fun report sub _ => checkSub_respelled _ _ _ report sub hvalue

/-- What is reported on the presence of attributes does not depend on the spelling of a resource. -/
theorem check_respelled (presence : Presence) (message : Message) (attrs : SchemaAttributes) {as bs : Record}
    (h : as.Respelled bs) : presence.check message attrs as = presence.check message attrs bs :=
  List.foldl_ext _ _ _ fun report attr _ => checkAttribute_respelled attrs report attr h

end Presence

/-! ## Attributes of a resource -/

theorem Record.Respelled.replaceAt {as bs : Record} (h : as.Respelled bs) (path : Path) {a b : Value}
    (hab : a.Respelled b) : Record.Respelled (Record.replaceAt as path a) (Record.replaceAt bs path b) := by
  unfold Record.replaceAt
  dsimp only
  split
  · next uri _ _ =>
    have hinner := h.get? (rfl : uri.folded = uri.folded)
    generalize as.get? uri.text = found at hinner ⊢
    generalize bs.get? uri.text = respelled at hinner ⊢
    cases hinner with
    | none => exact h
    | some hvalue =>
      cases hvalue with
      | record distinct keys values order =>
        exact h.replace rfl (replace (.record distinct keys values order) rfl hab)
      | _ => exact h
  · exact h.replace rfl hab

/-- A resource and what was found of it so far, and the same of another spelling. -/
def RespelledState (a b : Report × Record) : Prop := a.1 = b.1 ∧ a.2.Respelled b.2

variable {catalog : Catalog}

theorem Attribute.validateIn_respelled {attr : Attribute} (hchecks : attr.EveryCheck Check.IgnoresSpelling)
    {a b : Report × Record} (h : RespelledState a b) :
    RespelledState (attr.validateIn catalog a) (attr.validateIn catalog b) := by
  obtain ⟨report, as⟩ := a
  obtain ⟨other, bs⟩ := b
  obtain ⟨hreport, hrecord⟩ := h
  dsimp only at hreport hrecord
  subst hreport
  have hvalue := hrecord.get (Place.ofPath attr.path)
  obtain ⟨hfound, hchanged⟩ := @Attribute.validate_respelled catalog attr hchecks _ _ hvalue
  unfold validateIn
  dsimp only
  rw [hvalue.isMissing, hfound]
  split
  · exact ⟨rfl, hrecord⟩
  · refine ⟨rfl, ?_⟩
    dsimp only
    split
    · exact hrecord.replaceAt attr.path (marked_respelled _ hchanged)
    · exact hrecord

theorem validateAttrs_respelled {attrs : List Attribute}
    (hchecks : ∀ attr ∈ attrs, attr.EveryCheck Check.IgnoresSpelling) {a b : Report × Record}
    (h : RespelledState a b) :
    RespelledState (attrs.foldl (fun state attr => attr.validateIn catalog state) a)
      (attrs.foldl (fun state attr => attr.validateIn catalog state) b) := by
  induction attrs generalizing a b with
  | nil => exact h
  | cons attr attrs ih =>
    obtain ⟨hattr, hattrs⟩ := List.forall_mem_cons.1 hchecks
    exact ih hattrs (attr.validateIn_respelled hattr h)

/-! ## Reports that differ in messages -/

/-- Reports of the same codes at the same locations, of equal advice, and with the same blocks. -/
structure Report.SameCodes (a b : Report) : Prop where
  violations : ∀ location,
    (a.violations.issuesAt location).map Violation.code = (b.violations.issuesAt location).map Violation.code
  advice : a.advice = b.advice
  blocks : a.blocks = b.blocks

namespace Report.SameCodes

variable {a b c d : Report}

theorem refl (report : Report) : report.SameCodes report := ⟨fun _ => rfl, rfl, rfl⟩

theorem canProceed (h : a.SameCodes b) (location : Location) : a.canProceed location = b.canProceed location := by
  rw [Report.canProceed, Report.canProceed, h.blocks]

theorem addViolation (h : a.SameCodes b) {v w : Violation} (hcode : v.code = w.code) (proceed : Bool)
    (location : Location) : (a.addViolation v proceed location).SameCodes (b.addViolation w proceed location) where
  violations asked := by
    unfold Report.addViolation
    dsimp only
    rw [Slots.issuesAt_add, Slots.issuesAt_add, List.map_append, List.map_append, h.violations asked]
    split
    · rw [List.map_singleton, List.map_singleton, hcode]
    · rfl
  advice := h.advice
  blocks := by
    unfold Report.addViolation
    rw [h.blocks, hcode]

theorem merge (h : a.SameCodes b) (hfound : c.SameCodes d) (hc : c.Sound) (hd : d.Sound) (start : Location) :
    (a.merge c start).SameCodes (b.merge d start) where
  violations asked := by
    unfold Report.merge
    dsimp only
    rw [Slots.issuesAt_merge _ hc.violations, Slots.issuesAt_merge _ hd.violations, List.map_append,
      List.map_append, h.violations asked]
    split
    · rw [hfound.violations]
    · rfl
  advice := by
    unfold Report.merge
    rw [h.advice, hfound.advice]
  blocks := by
    unfold Report.merge
    rw [h.blocks, hfound.blocks]

/-- Recording violations of the same codes, one after the other. -/
theorem addViolations (h : a.SameCodes b) {vs ws : List Violation}
    (hcodes : vs.map Violation.code = ws.map Violation.code) (proceed : Bool) (location : Location) :
    (vs.foldl (fun report v => report.addViolation v proceed location) a).SameCodes
      (ws.foldl (fun report v => report.addViolation v proceed location) b) := by
  induction vs generalizing ws a b with
  | nil =>
    rw [List.map_eq_nil_iff.1 hcodes.symm]
    exact h
  | cons v vs ih =>
    cases ws with
    | nil => cases hcodes
    | cons w ws =>
      obtain ⟨hcode, hrest⟩ := List.cons_eq_cons.1 hcodes
      exact ih (h.addViolation hcode proceed location) hrest

end Report.SameCodes

/-! ## The resource as a whole -/

namespace Schema

variable {schema : Schema}

theorem listed_respelled {a b : Value} (h : a.Respelled b) : listed a = listed b := by
  have hitems := h.list?
  unfold listed
  generalize a.list? = items at hitems ⊢
  generalize b.list? = others at hitems ⊢
  cases hitems with
  | none => rfl
  | some hitems =>
    refine congrArg (List.map lower) ?_
    dsimp only [Option.getD_some]
    induction hitems with
    | nil => rfl
    | cons hitem _ ih => rw [List.filterMap_cons, List.filterMap_cons, hitem.text?, ih]

/-- Keys that are the same up to case, in some order, are as often among certain ones. -/
theorem length_filter_lower {keys others : List String} (h : (keys.map lower).Perm (others.map lower))
    (p : String → Bool) :
    (keys.filter fun key => p (lower key)).length = (others.filter fun key => p (lower key)).length := by
  have hlength := (h.filter p).length_eq
  rw [List.filter_map, List.filter_map, List.length_map, List.length_map] at hlength
  exact hlength

/-- As many extensions are not listed, but they are named as the resource spells them. -/
theorem checkListed_respelled {as bs : Record} (h : as.Respelled bs) (listed : List String) :
    (schema.checkListed as listed).SameCodes (schema.checkListed bs listed) := by
  refine Report.SameCodes.addViolations (.refl .empty) ?_ true []
  have hcodes : ∀ (found : List Violation) {keys others : List String}, keys.length = others.length →
      (found ++ keys.map Violation.missingExtension).map Violation.code =
        (found ++ others.map Violation.missingExtension).map Violation.code := by
    intro found keys others hlength
    have hkeys : ∀ keys : List String,
        (keys.map Violation.missingExtension).map Violation.code = List.replicate keys.length 13 := by
      intro keys
      rw [List.map_map]
      exact List.map_const'
    rw [List.map_append, List.map_append, hkeys, hkeys, hlength]
  exact hcodes _ (length_filter_lower h.keys_perm fun key =>
    (schema.attachments.map fun attachment => attachment.extension.uri.folded).contains key && !listed.contains key)

theorem checkSchemas_respelled {a b : Report × Record} (h : RespelledState a b) :
    (schema.checkSchemas a).1.SameCodes (schema.checkSchemas b).1 := by
  obtain ⟨report, as⟩ := a
  obtain ⟨other, bs⟩ := b
  obtain ⟨hreport, hrecord⟩ := h
  dsimp only at hreport hrecord
  subst hreport
  have hvalue := hrecord.get (.path "schemas")
  unfold checkSchemas
  dsimp only
  rw [hvalue.truthy, listed_respelled hvalue]
  split
  · have hsound := fun record => (@checkListed_free schema record (listed (bs.get (.path "schemas")))).1
    exact Report.SameCodes.merge (.refl report) (checkListed_respelled hrecord _) (hsound as) (hsound bs) _
  · exact .refl report

theorem checkResourceType_respelled {a b : Report × Record} (h : a.1.SameCodes b.1) (hrecord : a.2.Respelled b.2) :
    (schema.checkResourceType a).1.SameCodes (schema.checkResourceType b).1 := by
  have hvalue := hrecord.get (Place.attr resourceTypePath)
  unfold checkResourceType
  dsimp only
  rw [h.canProceed []]
  generalize a.2.get (Place.attr resourceTypePath) = value at hvalue ⊢
  generalize b.2.get (Place.attr resourceTypePath) = other at hvalue ⊢
  cases b.1.canProceed [] with
  | false => exact h
  | true =>
    cases hvalue with
    | text provided =>
      dsimp only
      split
      · exact h
      · exact h.addViolation rfl true _
    | _ => exact h

/-- Validating two spellings of a resource reports the same codes. -/
theorem validate_respelled (catalog : Catalog)
    (hchecks : ∀ attr ∈ schema.attrs.all, attr.EveryCheck Check.IgnoresSpelling)
    {record other : Record} (h : record.Respelled other) :
    (schema.validate catalog record).1.SameCodes (schema.validate catalog other).1 := by
  have hattrs := @validateAttrs_respelled catalog _ hchecks (.empty, record) (.empty, other) ⟨rfl, h⟩
  exact checkResourceType_respelled (checkSchemas_respelled hattrs) hattrs.2

/-- Two spellings of a resource are the same to all checks that are not those of a service: validation reports as
many violations and as much advice of each code at each location and lets checking proceed at the same locations, and
the report on what is present is equal, whatever is asked to be present. -/
theorem checks_ignore_spelling (schema : Schema) (catalog : Catalog)
    (hchecks : ∀ attr ∈ schema.attrs.all, attr.EveryCheck Check.BuiltIn) {record other : Record}
    (h : record.Respelled other) :
    let report := (schema.validate catalog record).1
    let otherReport := (schema.validate catalog other).1
    (∀ location,
      (report.violations.issuesAt location).map Violation.code =
          (otherReport.violations.issuesAt location).map Violation.code ∧
        (report.advice.issuesAt location).map Advice.code =
          (otherReport.advice.issuesAt location).map Advice.code ∧
        report.canProceed location = otherReport.canProceed location) ∧
      ∀ (presence : Presence) (message : Message) (attrs : SchemaAttributes),
        presence.check message attrs record = presence.check message attrs other := by
  have hbuiltIn : ∀ attr ∈ schema.attrs.all, attr.EveryCheck Check.IgnoresSpelling :=
    fun attr hattr => (hchecks attr hattr).imp fun _ => Check.BuiltIn.ignoresSpelling
  have hsame := schema.validate_respelled catalog hbuiltIn h
  intro report otherReport
  refine ⟨fun location => ⟨hsame.violations location, ?_, hsame.canProceed location⟩, ?_⟩
  · exact congrArg (fun advice => (Slots.issuesAt advice location).map Advice.code) hsame.advice
  · exact fun presence message attrs => presence.check_respelled message attrs h

/-! ## A contact with two primary phones -/

/-- An extension of contacts. -/
def office : Extension := ⟨⟨"urn:office", by decide⟩, "Office", "", []⟩

/-- The phones of a contact, of which one may be the primary one. -/
def phones : Attribute :=
  { Attribute.simple ⟨"phones", by decide⟩ (.complex Attribute.conventionalSubs) { multiValued := true } with
    hooks := { checks := [.singlePrimary, .distinctPairs] } }

/-- A schema of contacts with phones. -/
def ofPhones : Schema where
  name := "Contact"
  endpoint := "/Contacts"
  description := ""
  attrs :=
    { own :=
        { schema := ⟨"urn:contact", by decide⟩, extension := false,
          declared := sharedAttributes ++ [phones], shared := sharedNames.map lower } }

/-- The schema with the extension attached. -/
def ofContacts : Schema :=
  { ofPhones with
    attrs := { ofPhones.attrs with extensions := [Attachment.set ⟨office, false⟩] }
    attachments := [⟨office, false⟩] }

/-- The catalog with both. -/
def contactCatalog : Catalog where
  schemas := [⟨ofPhones.uri, false⟩, ⟨office.uri, true⟩]
  resources := [⟨"Contact", "/Contacts"⟩]

theorem ofContacts_reachable : ofContacts.Reachable contactCatalog := by
  let contacts : Catalog := { schemas := [⟨ofPhones.uri, false⟩], resources := [⟨"Contact", "/Contacts"⟩] }
  have hdeclared : declare {} "urn:contact" "Contact" (some "/Contacts") "" [phones] = .ok (contacts, ofPhones) := by
    rfl
  have hextension : Extension.declare contacts "urn:office" "Office" "" [] = .ok (contactCatalog, office) := by rfl
  have hattached : ofPhones.attach contactCatalog office false = .ok ofContacts := by rfl
  refine reachable_with_extension (List.forall_mem_singleton.2 ?_) (by simp) hdeclared hextension hattached
  exact @Attribute.Made.complex "phones" [] { multiValued := true } {} _ (by simp) (by rfl)

/-- A contact with two phones and data of the extension, which is not listed. -/
def contact : Record := [
  ("schemas", .list [.text "urn:contact"]),
  ("phones", .list [.record [("type", .text "home"), ("primary", .bool true)], .record [("primary", .bool true)]]),
  ("urn:office", .record [])]

/-- The same contact, written with other capitals and the other way round. -/
def respelledContact : Record := [
  ("URN:Office", .record []),
  ("Phones", .list [.record [("PRIMARY", .bool true), ("Type", .text "home")], .record [("Primary", .bool true)]]),
  ("Schemas", .list [.text "urn:contact"])]

theorem contact_respelled : contact.Respelled respelledContact := by
  have hhome : Record.Respelled [("type", .text "home"), ("primary", .bool true)]
      [("PRIMARY", .bool true), ("Type", .text "home")] := by
    refine Record.Respelled.iff_exists.2 ⟨Entries.distinctKeys_iff_keys.2 (by decide +kernel),
      [("Type", .text "home"), ("PRIMARY", .bool true)], ?_, .swap _ _ _⟩
    exact .cons ⟨by decide +kernel, .text "home"⟩ (.cons ⟨by decide +kernel, .bool true⟩ .nil)
  have hother : Record.Respelled [("primary", .bool true)] [("Primary", .bool true)] := by
    refine Record.Respelled.iff_exists.2 ⟨Entries.distinctKeys_iff_keys.2 (by decide +kernel), _, ?_, .refl _⟩
    exact .cons ⟨by decide +kernel, .bool true⟩ .nil
  have hdata : Record.Respelled [] [] := .record .nil rfl .nil .nil
  refine Record.Respelled.iff_exists.2 ⟨Entries.distinctKeys_iff_keys.2 (by decide +kernel),
    respelledContact.reverse, ?_, List.reverse_perm respelledContact⟩
  refine .cons ⟨by decide +kernel, .list (.cons (.text "urn:contact") .nil)⟩ ?_
  refine .cons ⟨by decide +kernel, .list (.cons hhome (.cons hother .nil))⟩ ?_
  exact .cons ⟨by decide +kernel, hdata⟩ .nil

/-- What is found of the contact in one spelling is found in the other: more than one primary phone, and an extension
that is not listed.  The message on the extension is another one in each. -/
theorem checks_ignore_spelling_of_contact :
    let report := (ofContacts.validate contactCatalog contact).1
    let respelled := (ofContacts.validate contactCatalog respelledContact).1
    (ofContacts.Reachable contactCatalog ∧ (∀ attr ∈ ofContacts.attrs.all, attr.EveryCheck Check.BuiltIn) ∧
        contact.Respelled respelledContact) ∧
      (respelled.violations.issuesAt [.key "phones"]).map Violation.code = [15] ∧
      (respelled.violations.issuesAt [.key "schemas"]).map Violation.code = [13] ∧
      (report.violations.issuesAt [.key "schemas"]).map Violation.message =
        ["missing schema extension 'urn:office'"] ∧
      (respelled.violations.issuesAt [.key "schemas"]).map Violation.message =
        ["missing schema extension 'URN:Office'"] := by
  intro report respelled
  have hphones : phones.EveryCheck Check.BuiltIn := by
    have hnone : ∀ check ∈ ([] : List Check), check.BuiltIn := List.forall_mem_nil _
    refine ⟨?_, ⟨hnone, trivial⟩, ⟨hnone, trivial⟩, ⟨hnone, trivial⟩, ⟨hnone, trivial⟩, ⟨hnone, trivial⟩, trivial⟩
    intro check hcheck identity run hcustom
    rcases List.mem_cons.1 hcheck with rfl | hcheck
    · cases hcustom
    · rw [List.mem_singleton.1 hcheck] at hcustom
      cases hcustom
  have hown : ∀ attr ∈ ofPhones.attrs.own.attrs, attr.EveryCheck Check.BuiltIn :=
    AttributeSet.everyCheck_attrs
      (List.forall_mem_append.2 ⟨everyCheck_sharedAttributes, List.forall_mem_singleton.2 hphones⟩)
  have hchecks : ∀ attr ∈ ofContacts.attrs.all, attr.EveryCheck Check.BuiltIn :=
    List.forall_mem_append.2 ⟨hown, List.forall_mem_nil _⟩
  obtain ⟨hsame, -⟩ := ofContacts.checks_ignore_spelling contactCatalog hchecks contact_respelled
  refine ⟨⟨ofContacts_reachable, hchecks, contact_respelled⟩, ?_, ?_, by decide +kernel, by decide +kernel⟩
  · exact (hsame [.key "phones"]).1.symm.trans (by decide +kernel)
  · exact (hsame [.key "schemas"]).1.symm.trans (by decide +kernel)

end Schema

end Scim
