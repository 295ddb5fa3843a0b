import Scim.Proofs.Schema.Attached
import Scim.Proofs.Schema.Marking

/-!
# Extensions without a record

The attributes of an extension are looked for in the record under the identifier of the extension.  Where there is
no record, because nothing is stored there or something else is, every one of them is missing, and a missing value
is passed over.  Nothing else looks at what is stored there, except an own attribute that happens to go by that
name.

So data of an extension that is no record is not reported as such.  Validation gives what it would give if the
extension declared no attribute.

## Main results

* `Attribute.validate_record?`: validation makes no record of another value.
* `Schema.validate_of_no_record`: where an extension has no record, its attributes play no part.
* `Schema.text_for_extension_accepted`: a text in the place of the record is found nothing wrong with.
-/

namespace Scim

open Text

variable {catalog : Catalog}

/-! ## Values that are no records -/

theorem Kind.validateItem_record? {traits : Traits} {kind : Kind} {value : Value} (h : value.record? = none) :
    (kind.validateItem catalog traits value).2.record? = none := by
  cases kind with
  | complex subs =>
    cases value with
    | record entries => cases h
    | _ => simp [Kind.validateItem, Value.record?]
  | _ =>
    simp only [Kind.validateItem]
    split <;> exact h

/-- Validation makes no record of another value. -/
theorem Attribute.validate_record? (attr : Attribute) {value : Value} (h : value.record? = none) :
    (attr.validate catalog value).2.record? = none := by
  cases habsent : value.isAbsent with
  | true =>
    rw [validate_absent habsent]
    exact h
  | false =>
    cases hmulti : attr.traits.multiValued with
    | false =>
      rw [validate_single hmulti habsent]
      split
      · exact Kind.validateItem_record? h
      · exact h
    | true =>
      cases hlist : value.list? with
      | none =>
        rw [validate_not_list hmulti habsent hlist]
        exact h
      | some items =>
        rw [Value.list?_eq_some.1 hlist, validate_list hmulti]
        dsimp only
        split <;> rfl

/-! ## Records without a record under an identifier -/

/-- The identifier of an extension leads to no record: nothing is stored under it, or something else. -/
def Record.Lacks (record : Record) (uri : SchemaUri) : Prop :=
  ∀ inner : Record, record.get? uri.text ≠ some (.record inner)

/-- Putting back a value that is no record where one was read does not make a record of an entry. -/
theorem Record.Lacks.replaceAt {record : Record} {uri : SchemaUri} (h : record.Lacks uri) {bound : BoundPath}
    {value : Value} (hvalue : bound.extension = false → lower bound.rep.attr.text = lower uri.text →
      value.record? = none) :
    (record.replaceAt (.bound bound) value).Lacks uri := by
  obtain ⟨schema, extension, rep⟩ := bound
  cases extension with
  | true =>
    unfold Record.replaceAt
    dsimp only [Path.isExtension, Path.schema?]
    split
    · next inner hstored =>
      have hother : lower schema.text ≠ lower uri.text := fun hsame => h inner <| by
        rw [← Entries.get?_congr record hsame, hstored]
      intro after
      rw [Entries.get?_replace, if_neg hother]
      exact h after
    · exact h
  | false =>
    intro after hafter
    have hreplaced : record.replaceAt (.bound ⟨schema, false, rep⟩) value =
        Entries.replace record rep.attr.text value := rfl
    rw [hreplaced, Entries.get?_replace] at hafter
    split at hafter
    · next hsame =>
      obtain ⟨-, -, hrecord⟩ := Option.map_eq_some_iff.1 hafter
      have hnone := hvalue rfl hsame
      rw [hrecord] at hnone
      cases hnone
    · exact h after hafter

/-- While attributes are validated, no record comes to stand under the identifier. -/
theorem Attribute.validateIn_lacks {attr : Attribute} {bound : BoundPath} (hpath : attr.path = .bound bound)
    (hsub : bound.rep.sub = none) {uri : SchemaUri} {report : Report} {record : Record}
    (h : record.Lacks uri) : (attr.validateIn catalog (report, record)).2.Lacks uri := by
  unfold validateIn
  rw [hpath]
  dsimp only
  split
  · exact h
  · next hstored =>
    split
    · refine h.replaceAt fun hown hsame => ?_
      have hvalue : (record.get (Place.ofPath (.bound bound))).record? = none := by
        rcases Record.stored_of_get hsub (by simpa using hstored) with ⟨-, hget⟩ | ⟨hextension, -⟩
        · rw [Entries.get?_congr record hsame] at hget
          cases hrecord : (record.get (Place.ofPath (.bound bound))).record? with
          | none => rfl
          | some inner =>
            rw [Value.record?_eq_some.1 hrecord] at hget
            exact absurd hget (h inner)
        · rw [hown] at hextension
          cases hextension
      unfold marked
      split
      · exact attr.validate_record? hvalue
      · rfl
    · exact h

/-- An attribute that is read below the identifier is passed over. -/
theorem Attribute.validateIn_of_lacks {attr : Attribute} {bound : BoundPath} (hpath : attr.path = .bound bound)
    (hextension : bound.extension = true) {uri : SchemaUri} (hschema : bound.schema.folded = uri.folded)
    {report : Report} {record : Record} (h : record.Lacks uri) :
    attr.validateIn catalog (report, record) = (report, record) := by
  have hlacks : ∀ inner : Record, record.get? bound.schema.text ≠ some (.record inner) := by
    rw [Entries.get?_congr record hschema]
    exact h
  have hmissing : record.get (Place.ofPath attr.path) = .missing := by
    rw [hpath, Place.ofPath, Place.ofBound, if_pos hextension]
    exact Record.get_extension_missing bound.rep hlacks
  unfold validateIn
  dsimp only
  rw [hmissing]
  rfl

/-! ## Schemas without the attributes of an extension -/

/-- The set without its attributes if it is that of an extension of the identifier. -/
def AttributeSet.ignoring (set : AttributeSet) (uri : SchemaUri) : AttributeSet :=
  if set.extension && set.schema == uri then { set with declared := [] } else set

/-- The schema as it is, except that the attached extension of the identifier declares no attribute. -/
def Schema.ignoring (schema : Schema) (uri : SchemaUri) : Schema :=
  { schema with attrs := { schema.attrs with extensions := schema.attrs.extensions.map (·.ignoring uri) } }

/-- Every attribute of a set goes by a path with the schema of the set and without a sub-attribute. -/
theorem AttributeSet.exists_bound_of_mem {set : AttributeSet} {attr : Attribute} (h : attr ∈ set.attrs) :
    ∃ bound : BoundPath, attr.path = .bound bound ∧ bound.rep.sub = none ∧ bound.schema = set.schema ∧
      bound.extension = set.extension := by
  obtain ⟨name, hpath⟩ := path_of_mem h
  exact ⟨set.pathOf name, hpath, rfl, rfl, rfl⟩

namespace Schema

variable {uri : SchemaUri} {report : Report} {record : Record}

theorem validateAttrs_lacks {set : AttributeSet} {attrs : Attributes} (hattrs : ∀ attr ∈ attrs, attr ∈ set.attrs)
    (h : record.Lacks uri) :
    (attrs.foldl (fun state attr => attr.validateIn catalog state) (report, record)).2.Lacks uri := by
  induction attrs generalizing report record with
  | nil => exact h
  | cons attr attrs ih =>
    obtain ⟨bound, hpath, hsub, -⟩ := AttributeSet.exists_bound_of_mem (hattrs attr List.mem_cons_self)
    exact ih (fun later hlater => hattrs later (List.mem_cons_of_mem attr hlater))
      (Attribute.validateIn_lacks hpath hsub h)

/-- The attributes of the extension are passed over one after the other. -/
theorem validateAttrs_of_lacks {set : AttributeSet} (hextension : set.extension = true)
    (hschema : set.schema.folded = uri.folded) {attrs : Attributes} (hattrs : ∀ attr ∈ attrs, attr ∈ set.attrs)
    (h : record.Lacks uri) :
    attrs.foldl (fun state attr => attr.validateIn catalog state) (report, record) = (report, record) := by
  induction attrs with
  | nil => rfl
  | cons attr attrs ih =>
    obtain ⟨bound, hpath, -, hbound, hflag⟩ := AttributeSet.exists_bound_of_mem (hattrs attr List.mem_cons_self)
    rw [List.foldl_cons, Attribute.validateIn_of_lacks hpath (hflag.trans hextension) (hbound ▸ hschema) h]
    exact ih fun later hlater => hattrs later (List.mem_cons_of_mem attr hlater)

/-- Set by set, ignoring the attributes of the extension makes no difference. -/
theorem validateSets_ignoring (sets : List AttributeSet) (h : record.Lacks uri) :
    ((sets.map (·.ignoring uri)).flatMap AttributeSet.attrs).foldl
        (fun state attr => attr.validateIn catalog state) (report, record) =
      (sets.flatMap AttributeSet.attrs).foldl (fun state attr => attr.validateIn catalog state)
        (report, record) := by
  induction sets generalizing report record with
  | nil => rfl
  | cons set sets ih =>
    rw [List.map_cons, List.flatMap_cons, List.flatMap_cons, List.foldl_append, List.foldl_append]
    by_cases hset : (set.extension && set.schema == uri) = true
    · obtain ⟨hextension, hschema⟩ := Bool.and_eq_true_iff.1 hset
      have hnone : (set.ignoring uri).attrs = [] := by
        rw [AttributeSet.ignoring, if_pos hset]
        rfl
      rw [hnone, validateAttrs_of_lacks hextension (SchemaUri.beq_iff.1 hschema) (fun attr hattr => hattr) h]
      exact ih h
    · rw [AttributeSet.ignoring, if_neg hset]
      exact ih (validateAttrs_lacks (fun attr hattr => hattr) h)

/-- Where the identifier of an extension leads to no record, validation finds and leaves what it would if the
extension declared no attribute: whatever else is stored there, and nothing as well. -/
theorem validate_of_no_record (schema : Schema) (catalog : Catalog) (h : record.Lacks uri) :
    schema.validate catalog record = (schema.ignoring uri).validate catalog record := by
  have hattrs : (schema.ignoring uri).attrs.all.foldl (fun state attr => attr.validateIn catalog state)
        (.empty, record) =
      schema.attrs.all.foldl (fun state attr => attr.validateIn catalog state) (.empty, record) := by
    rw [SchemaAttributes.all, SchemaAttributes.all, List.foldl_append, List.foldl_append]
    exact validateSets_ignoring schema.attrs.extensions (validateAttrs_lacks (fun attr hattr => hattr) h)
  rw [validate, validate, hattrs]
  rfl

/-- The extension that numbers employees. -/
def staff : Extension :=
  ⟨⟨"urn:company:staff", by decide⟩, "Staff", "", [Attribute.simple ⟨"number", by decide⟩ .string {}]⟩

/-- The schema of users, with the attributes that every resource has. -/
def ofUsers : Schema where
  name := "User"
  endpoint := "/Users"
  description := ""
  attrs :=
    { own :=
        { schema := ⟨"urn:user", by decide⟩, extension := false,
          declared := sharedAttributes, shared := sharedNames.map lower } }

/-- The schema with the extension attached. -/
def ofEmployees : Schema :=
  { ofUsers with
    attrs := { ofUsers.attrs with extensions := [Attachment.set ⟨staff, false⟩] }
    attachments := [⟨staff, false⟩] }

/-- The catalog with both. -/
def employeeCatalog : Catalog where
  schemas := [⟨ofUsers.uri, false⟩, ⟨staff.uri, true⟩]
  resources := [⟨"User", "/Users"⟩]

theorem ofEmployees_reachable : ofEmployees.Reachable employeeCatalog := by
  let users : Catalog := { schemas := [⟨ofUsers.uri, false⟩], resources := [⟨"User", "/Users"⟩] }
  have hdeclared : declare {} "urn:user" "User" (some "/Users") "" [] = .ok (users, ofUsers) := by rfl
  have hextension : Extension.declare users "urn:company:staff" "Staff" "" staff.attrs =
      .ok (employeeCatalog, staff) := by rfl
  have hattached : ofUsers.attach employeeCatalog staff false = .ok ofEmployees := by rfl
  refine reachable_with_extension (by simp) (List.forall_mem_singleton.2 ?_) hdeclared hextension hattached
  exact .of_simple _ (by simp) rfl rfl

/-- The members of an employee in which a number stands for the data of the extension. -/
def plainEmployee : List (String × Json) :=
  [("schemas", .list [.text "urn:user", .text "urn:company:staff"]), ("URN:Company:Staff", .text "300")]

/-- The employee is validated as if no number were declared. -/
theorem validate_of_no_record_plain :
    Record.Lacks (Record.ofMembers plainEmployee) staff.uri ∧ ofEmployees.Reachable employeeCatalog ∧
      ofEmployees.validate employeeCatalog (Record.ofMembers plainEmployee) =
        (ofEmployees.ignoring staff.uri).validate employeeCatalog (Record.ofMembers plainEmployee) := by
  have hstored : (Record.ofMembers plainEmployee).get? staff.uri.text = some (.text "300") := by rfl
  have hlacks : Record.Lacks (Record.ofMembers plainEmployee) staff.uri := by
    intro inner hinner
    rw [hstored] at hinner
    cases hinner
  exact ⟨hlacks, ofEmployees_reachable, ofEmployees.validate_of_no_record employeeCatalog hlacks⟩

/-- Data of an extension that is neither null nor a record need not be reported. -/
theorem text_for_extension_accepted :
    ¬ ∀ (schema : Schema) (catalog : Catalog), schema.Reachable catalog → ∀ set ∈ schema.attrs.extensions,
      set.extension = true → set.declared ≠ [] → ∀ (members : List (String × Json)) (value : Value),
        (Record.ofMembers members).get? set.schema.text = some value → value ≠ .null → value.record? = none →
          (schema.validate catalog (Record.ofMembers members)).1.hasViolations [] = true := by
  intro hall
  have hstored : (Record.ofMembers plainEmployee).get? staff.uri.text = some (.text "300") := by rfl
  have hfound := hall ofEmployees employeeCatalog ofEmployees_reachable (Attachment.set ⟨staff, false⟩)
    List.mem_cons_self rfl (List.cons_ne_nil _ _) plainEmployee (.text "300") hstored (by simp) rfl
  revert hfound
  decide +kernel

end Schema

end Scim
