import Scim.Proofs.Schema.Reachable
import Scim.Proofs.Value.RoundTrip

/-!
# Projecting values

A value is projected onto some of the sub-attributes by reading each of them, in any casing, and writing what was
found under the name as it was declared.  Because the names of sub-attributes differ, no write meets an earlier one,
and what comes out has one entry for each sub-attribute that is left and has a value, in the order of the declaration.
For the same reason a second projection reads under each name what the first one wrote there, or nothing, and so
projections compose.

Both facts are about one record.  Lists, of whatever depth, only hand the projection on to their items: what is
reached by some indices in a projected value is the projection of what those indices reach in the value itself.

## Main results

* `projectRecord_eq`: a projected record as a whole.
* `value_projectRecord`: what is read from it.
* `projectValue_projectValue`: projections compose.
* `reached?_projectValue`: projecting goes through lists.
* `projects_to_declared`: the whole statement.
-/

namespace Scim

namespace Value

/-- What is reached from a value by going through lists, by one index in each of them. -/
def reached? : List Nat → Value → Option Value
  | [], value => some value
  | i :: indices, .list items => items[i]?.bind (reached? indices)
  | _ :: _, _ => none

end Value

namespace Attribute

/-- The entries of those sub-attributes that pass and have a value in a record: in the order and the casing of their
declaration, each with its value there. -/
def declaredEntries (keep : Keep) (subs : Attributes) (entries : Record) : Record :=
  ((subs.filter keep).filter fun sub => !(entries.value sub.name.text).isMissing).map fun sub =>
    (sub.name.text, entries.value sub.name.text)

variable {keep other : Keep} {subs : Attributes} {sub : Attribute} {entries : Record}

/-! ## One record -/

theorem mem_declaredEntries {entry : String × Value} :
    entry ∈ declaredEntries keep subs entries ↔ ∃ sub ∈ subs, keep sub = true ∧
      (entries.value sub.name.text).isMissing = false ∧ entry = (sub.name.text, entries.value sub.name.text) := by
  simp only [declaredEntries, List.mem_map, List.mem_filter, Bool.not_eq_true', and_assoc, eq_comm (b := entry)]

theorem distinctKeys_declaredEntries (h : subs.DistinctNames) : (declaredEntries keep subs entries).DistinctKeys :=
  List.pairwise_map.2 ((List.Pairwise.filter _ h).filter _)

/-- A projected record consists of the entries of the sub-attributes that pass and have a value. -/
theorem projectRecord_eq (h : subs.DistinctNames) :
    projectRecord keep subs entries = declaredEntries keep subs entries := by
  have hwrites : projectRecord keep subs entries =
      (declaredEntries keep subs entries).foldl
        (fun projected entry => Entries.insert projected entry.1 entry.2) [] := by
    rw [declaredEntries, List.foldl_map, List.foldl_filter, projectRecord]
    congr 1
    funext projected sub
    by_cases hvalue : (entries.value sub.name.text).isMissing = true <;> simp [hvalue]
  rw [hwrites]
  exact Entries.foldl_insert_eq (distinctKeys_declaredEntries h) fun _ _ => rfl

/-- A sub-attribute that passes has the value that it had, and another one has none. -/
theorem value_projectRecord (h : subs.DistinctNames) (hsub : sub ∈ subs) :
    (projectRecord keep subs entries).value sub.name.text =
      if keep sub then entries.value sub.name.text else .missing := by
  rw [projectRecord_eq h, Record.value]
  by_cases hleft : keep sub = true ∧ (entries.value sub.name.text).isMissing = false
  · obtain ⟨hkeep, hvalue⟩ := hleft
    have hentry : (sub.name.text, entries.value sub.name.text) ∈ declaredEntries keep subs entries :=
      mem_declaredEntries.2 ⟨sub, hsub, hkeep, hvalue, rfl⟩
    rw [Entries.get?_of_mem (distinctKeys_declaredEntries h) hentry, if_pos hkeep]
    rfl
  · have hnone : (declaredEntries keep subs entries).get? sub.name.text = none := by
      refine Entries.get?_eq_none_iff.2 fun entry hentry hsame => ?_
      obtain ⟨found, hfound, hkeep, hvalue, rfl⟩ := mem_declaredEntries.1 hentry
      rw [h.eq_of_folded hfound hsub hsame] at hkeep hvalue
      exact hleft ⟨hkeep, hvalue⟩
    rw [hnone]
    split
    · next hkeep =>
      have hvalue : (entries.value sub.name.text).isMissing = true :=
        eq_true_of_ne_false fun hvalue => hleft ⟨hkeep, hvalue⟩
      rw [Value.eq_missing hvalue]
      rfl
    · rfl

/-- Projecting once more onto others leaves what passes both. -/
theorem projectRecord_projectRecord (h : subs.DistinctNames) (entries : Record) :
    projectRecord other subs (projectRecord keep subs entries) =
      projectRecord (fun sub => keep sub && other sub) subs entries := by
  have hfilter : ((subs.filter other).filter fun sub =>
      !((projectRecord keep subs entries).value sub.name.text).isMissing) =
        (subs.filter fun sub => keep sub && other sub).filter fun sub =>
          !(entries.value sub.name.text).isMissing := by
    rw [List.filter_filter, List.filter_filter]
    refine List.filter_congr fun sub hsub => ?_
    rw [value_projectRecord h hsub]
    -- what the first projection left out has no value for the second one
    cases keep sub <;> simp [Value.isMissing]
  calc projectRecord other subs (projectRecord keep subs entries)
    _ = declaredEntries other subs (projectRecord keep subs entries) := projectRecord_eq h
    _ = declaredEntries (fun sub => keep sub && other sub) subs entries := by
      rw [declaredEntries, hfilter, declaredEntries]
      refine List.map_congr_left fun sub hleft => ?_
      obtain ⟨hsub, hpasses⟩ := List.mem_filter.1 (List.mem_of_mem_filter hleft)
      rw [value_projectRecord h hsub, if_pos (Bool.and_eq_true_iff.1 hpasses).1]
    _ = projectRecord (fun sub => keep sub && other sub) subs entries := (projectRecord_eq h).symm

/-! ## Values -/

theorem projectValue_list (keep : Keep) (subs : Attributes) (items : List Value) :
    projectValue keep subs (.list items) = .list (items.map (projectValue keep subs)) := by
  rw [projectValue]
  congr 1
  induction items with
  | nil => rfl
  | cons item items ih => rw [projectItems, ih, List.map_cons]

theorem projectValue_projectValue (h : subs.DistinctNames) (value : Value) :
    projectValue other subs (projectValue keep subs value) =
      projectValue (fun sub => keep sub && other sub) subs value := by
  induction value using Value.induct with
  | list items ih =>
    rw [projectValue_list, projectValue_list, projectValue_list, List.map_map]
    exact congrArg Value.list (List.map_congr_left ih)
  | record entries => simp only [projectValue, projectRecord_projectRecord h]
  | _ => rfl

/-- What is reached in a projected value is the projection of what is reached in the value. -/
theorem reached?_projectValue (keep : Keep) (subs : Attributes) (indices : List Nat) (value : Value) :
    (projectValue keep subs value).reached? indices = (value.reached? indices).map (projectValue keep subs) := by
  induction indices generalizing value with
  | nil => rfl
  | cons i indices ih =>
    cases value with
    | list items =>
      rw [projectValue_list, Value.reached?, Value.reached?, List.getElem?_map]
      cases items[i]? with
      | none => rfl
      | some item => exact ih item
    | _ => rfl

/-! ## The values of an attribute -/

variable {attr : Attribute}

theorem project_of_subs (hsubs : attr.subs? = some subs) (keep : Keep) :
    attr.project keep = projectValue keep subs := by
  funext value
  rw [project, hsubs]

/-- Whatever complex attribute can be made, whatever its value is and whatever predicates are given: projecting onto
one and then onto another is projecting onto both at once, and projecting twice is projecting once.  What is reached
in the projected value, through lists of any depth, is the projection of what was reached there before.  A record
becomes the record of exactly those declared sub-attributes that pass and have a value in it, in the order and casing of
their declaration, each with the value that it had; what is neither a list nor a record stays. -/
theorem projects_to_declared (attr : Attribute) (h : attr.Made) (subs : Attributes) (hsubs : attr.subs? = some subs)
    (keep other : Keep) (value : Value) :
    attr.project other (attr.project keep value) = attr.project (fun sub => keep sub && other sub) value ∧
    attr.project keep (attr.project keep value) = attr.project keep value ∧
    ∀ indices,
      (attr.project keep value).reached? indices = (value.reached? indices).map (attr.project keep) ∧
      (∀ entries : Record, value.reached? indices = some (.record entries) →
        (attr.project keep value).reached? indices = some (.record (
          ((subs.filter keep).filter fun sub => !(entries.value sub.name.text).isMissing).map fun sub =>
            (sub.name.text, entries.value sub.name.text)))) ∧
      ∀ leaf, leaf.list? = none → leaf.record? = none → value.reached? indices = some leaf →
        (attr.project keep value).reached? indices = some leaf := by
  have hnames : subs.DistinctNames := h.wellNamed.distinctNames_subs hsubs
  simp only [project_of_subs hsubs]
  refine ⟨projectValue_projectValue hnames value, ?_, fun indices => ⟨?_, fun entries hentries => ?_, ?_⟩⟩
  · rw [projectValue_projectValue hnames]
    simp only [Bool.and_self]
  · exact reached?_projectValue keep subs indices value
  · rw [reached?_projectValue, hentries, Option.map_some, projectValue, projectRecord_eq hnames, declaredEntries]
  · intro leaf hlist hrecord hleaf
    rw [reached?_projectValue, hleaf, Option.map_some]
    cases leaf with
    | list items => cases hlist
    | record entries => cases hrecord
    | _ => rfl

/-- Names in lists below a list, of which only the given ones are kept: in the casing of their declaration, and as
often as one asks. -/
theorem projects_to_declared_names :
    let isGiven : Keep := fun sub => sub.name.spells "given"
    let names : Value := .list [.list [.record [("FAMILY", .text "Moe"), ("Given", .null), ("nick", .bool true)]],
      .record [("family", .text "Doe")], .text "Roe"]
    let projected := SchemaAttributes.nameInParts.project isGiven names
    SchemaAttributes.nameInParts.Made ∧ SchemaAttributes.nameInParts.isComplex = true ∧
      projected.reached? [0, 0] = some (.record [("given", .null)]) ∧
      projected.reached? [1] = some (.record []) ∧ projected.reached? [2] = some (.text "Roe") ∧
      SchemaAttributes.nameInParts.project isGiven projected = projected := by
  intro isGiven names projected
  obtain ⟨-, hagain, hreached⟩ := projects_to_declared SchemaAttributes.nameInParts SchemaAttributes.nameInParts_made
    _ rfl isGiven isGiven names
  refine ⟨SchemaAttributes.nameInParts_made, rfl, ?_, ?_, ?_, hagain⟩
  · exact (hreached [0, 0]).2.1 _ rfl
  · exact (hreached [1]).2.1 _ rfl
  · exact (hreached [2]).2.2 _ rfl rfl rfl

end Attribute

end Scim
