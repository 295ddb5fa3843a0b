import Scim.Attribute.Declaration
import Scim.Proofs.Record.Spelling
import Scim.Proofs.Schema.Lookup
import Scim.Sorting

/-!
# Sorting by an attribute under several names

The attribute that a list is sorted by can be written in several ways: with its schema or without, and in any
casing.  All of them lead to the same attribute, hence to the same rules for comparing values.  The values
themselves are read by the path as it was written, and a path without a schema is read at the top level of a
record.  So a spelling sorts like the path of the attribute itself as long as the two agree on whether they
lead into the data of an extension, and else like the same names at the other level.

The name of an extension attribute without its schema is the one spelling that does not agree.

## Main results

* `sort_eq_of_found`: how a list is sorted, in terms of the path of the attribute that was found.
* `sort_unqualified_extension`: the spelling that sorts otherwise than the path of its attribute.
-/

namespace Scim.Sorting

variable {attrs : SchemaAttributes} {path other : Path} {attr : Attribute}

/-- Two paths under which the same attribute is found and the same values are read sort alike. -/
theorem sort_congr (hfind : attrs.find? path = attrs.find? other) {items : List Record}
    (hget : ∀ item ∈ items, item.get (Place.ofPath path) = item.get (Place.ofPath other))
    (ascending : Bool) :
    sort ⟨path, ascending⟩ attrs items = sort ⟨other, ascending⟩ attrs items := by
  have hkeys : ∀ attr : Option Attribute,
      items.map (keyOf ⟨path, ascending⟩ attr) = items.map (keyOf ⟨other, ascending⟩ attr) := by
    intro attr
    apply List.map_congr_left
    intro item hitem
    cases attr with
    | none => rfl
    | some attr => simp only [keyOf, hget item hitem]
  simp only [sort, hfind, hkeys]

/-- The attribute that a path leads to is read by that path as by its own names, at the level that the path
says. -/
theorem get_of_found {bound : BoundPath} (hrep : (bound.rep == path.rep) = true)
    (hschema : ∀ schema, path.schema? = some schema → schema.folded = bound.schema.folded) (item : Record) :
    item.get (Place.ofPath path) =
      item.get (Place.ofPath (.bound { bound with extension := path.isExtension })) := by
  cases path with
  | unbound rep => exact (Record.getAttr_congr item hrep).symm
  | bound written =>
    have hsame : (({ bound with extension := written.extension } : BoundPath) == written) = true :=
      BoundPath.beq_iff.2 ⟨SchemaUri.beq_iff.2 (hschema written.schema rfl).symm, hrep⟩
    exact (Record.get_ofBound_congr item hsame rfl).symm

/-- However an attribute is written under which it is found: sorting gives the order, or the fault, that the
path of the attribute gives if it is read at the level that the spelling says; that is the level of the
attribute itself if both lead into the data of an extension or neither does. -/
theorem sort_eq_of_found (hattrs : attrs.Built) (hfound : attrs.find? path = .ok (some attr))
    (ascending : Bool) (items : List Record) :
    ∃ bound, attr.path = .bound bound ∧ attrs.find? attr.path = .ok (some attr) ∧
      sort ⟨path, ascending⟩ attrs items =
        sort ⟨.bound { bound with extension := path.isExtension }, ascending⟩ attrs items ∧
      (path.isExtension = attr.path.isExtension →
        sort ⟨path, ascending⟩ attrs items = sort ⟨attr.path, ascending⟩ attrs items) := by
  obtain ⟨bound, hpath, hrep, hschema, hagain⟩ := SchemaAttributes.find?_path hattrs.distinctSchemas hfound
  -- looking an attribute up does not ask whether its schema is an extension
  have hfind : attrs.find? path =
      attrs.find? (.bound { bound with extension := path.isExtension }) := hfound.trans hagain.symm
  have hsort := sort_congr hfind (fun item (_ : item ∈ items) => get_of_found hrep hschema item) ascending
  refine ⟨bound, hpath, hpath ▸ hagain, hsort, ?_⟩
  intro hlevel
  rw [hpath] at hlevel ⊢
  rw [hsort, hlevel]
  rfl

/-- Two items change places if the key of the second has to stand first. -/
theorem sortByKeys_pair (ascending : Bool) (key nextKey : SortKey) (item nextItem : Record) :
    sortByKeys ascending [key, nextKey] [item, nextItem] =
      if SortKey.precedes ascending key nextKey then [item, nextItem] else [nextItem, item] := by
  have hmerge : sortByKeys ascending [key, nextKey] [item, nextItem] =
      (List.merge [(key, item)] [(nextKey, nextItem)]
        fun a b => SortKey.precedes ascending a.1 b.1).map (·.2) := by
    simp [sortByKeys, List.mergeSort]
  rw [hmerge, List.merge]
  split <;> simp

/-! ## Employees by their numbers -/

/-- The identifier of a schema without attributes. -/
def userUri : SchemaUri := ⟨"urn:example:User", by decide⟩

/-- The identifier of the extension that numbers employees. -/
def staffUri : SchemaUri := ⟨"urn:example:Staff", by decide⟩

/-- The number of an employee, a text. -/
def employeeNumber : Attribute := .simple ⟨"employeeNumber", by decide⟩ .string {}

/-- The schema with the extension attached. -/
def staffAttributes : SchemaAttributes where
  own := { schema := userUri, extension := false, declared := [] }
  extensions := [{ schema := staffUri, extension := true, declared := [employeeNumber] }]

/-- An employee with a number. -/
def numbered (number : String) : Record :=
  [("urn:example:Staff", .record [("employeeNumber", .text number)])]

theorem staffAttributes_built : staffAttributes.Built := by
  have hextend : SchemaAttributes.extend { own := { schema := userUri, extension := false, declared := [] } }
      { schemas := [⟨userUri, false⟩, ⟨staffUri, true⟩] } [employeeNumber] "urn:example:Staff" false =
        .ok staffAttributes := by rfl
  exact .extended (.declared _) hextend

/-- The qualified name in capitals sorts like the path of the attribute. -/
theorem sort_eq_of_found_in_capitals :
    ∃ path attr,
      path = Path.bound ⟨⟨"URN:EXAMPLE:STAFF", by decide⟩, true, ⟨⟨"EMPLOYEENUMBER", by decide⟩, none⟩⟩ ∧
      staffAttributes.find? path = .ok (some attr) ∧ path.isExtension = attr.path.isExtension ∧
      sort ⟨path, true⟩ staffAttributes [numbered "2", numbered "1"] =
        sort ⟨attr.path, true⟩ staffAttributes [numbered "2", numbered "1"] := by
  have hfound : staffAttributes.find?
      (.bound ⟨⟨"URN:EXAMPLE:STAFF", by decide⟩, true, ⟨⟨"EMPLOYEENUMBER", by decide⟩, none⟩⟩) =
        .ok (some (employeeNumber.bindTo ⟨staffUri, true, ⟨employeeNumber.name, none⟩⟩)) := by rfl
  obtain ⟨-, -, -, -, hsort⟩ :=
    sort_eq_of_found staffAttributes_built hfound true [numbered "2", numbered "1"]
  exact ⟨_, _, rfl, hfound, rfl, hsort rfl⟩

/-- Not every spelling of an attribute sorts like the path of the attribute: the name of an extension attribute
without its schema leads to the attribute, but the numbers of the employees are not found by it. -/
theorem sort_unqualified_extension :
    ¬ ∀ attrs : SchemaAttributes, attrs.Built → ∀ (path : Path) (attr : Attribute),
      attrs.find? path = .ok (some attr) → ∀ (ascending : Bool) (items : List Record),
        sort ⟨path, ascending⟩ attrs items = sort ⟨attr.path, ascending⟩ attrs items := by
  intro hall
  have hfound : staffAttributes.find? (.unbound ⟨⟨"employeeNumber", by decide⟩, none⟩) =
      .ok (some (employeeNumber.bindTo ⟨staffUri, true, ⟨employeeNumber.name, none⟩⟩)) := by rfl
  have hsame := hall _ staffAttributes_built _ _ hfound true [numbered "2", numbered "1"]
  have hkept : sort ⟨.unbound ⟨⟨"employeeNumber", by decide⟩, none⟩, true⟩ staffAttributes
      [numbered "2", numbered "1"] =
        .ok (sortByKeys true [.absent, .absent] [numbered "2", numbered "1"]) := by rfl
  have hsorted : sort ⟨.bound ⟨staffUri, true, ⟨employeeNumber.name, none⟩⟩, true⟩ staffAttributes
      [numbered "2", numbered "1"] =
        .ok (sortByKeys true [.text "2", .text "1"] [numbered "2", numbered "1"]) := by rfl
  have horders := Except.ok.inj (hkept.symm.trans (hsame.trans hsorted))
  rw [sortByKeys_pair, sortByKeys_pair, if_pos (by decide), if_neg (by decide)] at horders
  simp [numbered] at horders

end Scim.Sorting
