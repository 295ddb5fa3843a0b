import Mathlib.Data.List.Perm.Basic
import Scim.Proofs.Sorting.Spelling

/-!
# The order of a sorted list

What a resource is sorted by is one value of one attribute: the value that the path leads to, the first one of
several, or of several records the `value` of the primary one.  Truth values, numbers and texts are such values, and
texts only if they are not empty and the attribute is one of texts.  They are compared within their kind, texts in
lower case unless the attribute that they are values of is case-exact.

The keys of a list that is sorted are all of one kind or absent.  On such keys the order is what one expects of it, in
either direction, and the absent ones stand apart from the direction at the end.  That no two resources of the same
key change places makes the result unique, also where the direction is turned.

## Main results

* `sortedBy_iff`: what a resource is sorted by, said of its value.
* `sortByKeys_eq`: sorting by keys sorts the resources themselves, by the order of their keys.
* `filter_mergeSort`: resources of the same key keep their order.
* `sorts_stably`: when sorting fails, and what the sorted list is otherwise.
-/

namespace Scim

open Text

/-! ## Keys of values -/

/-- A value by which something can be sorted, if it is one of the attribute. -/
inductive Value.Sortable (attr : Attribute) : Value → Prop
  | bool (b : Bool) : Sortable attr (.bool b)
  | number (n : Number) : Sortable attr (.number n)
  | text {s : String} (nonempty : s ≠ "") (texts : attr.kind.holdsText = true) : Sortable attr (.text s)

namespace SortKey

/-- The key of a value of an attribute. -/
inductive Of (attr : Attribute) : Value → SortKey → Prop
  | bool (b : Bool) : Of attr (.bool b) (.bool b)
  | number (n : Number) : Of attr (.number n) (.number n.units)
  | exact {s : String} (nonempty : s ≠ "") (texts : attr.kind.holdsText = true)
      (caseExact : attr.traits.caseExact = true) : Of attr (.text s) (.text s)
  | folded {s : String} (nonempty : s ≠ "") (texts : attr.kind.holdsText = true)
      (caseExact : attr.traits.caseExact = false) : Of attr (.text s) (.text (lower s))
  | absent {value : Value} (h : ¬value.Sortable attr) : Of attr value .absent

variable {attr : Attribute} {value : Value} {key other : SortKey}

theorem of_ofValue (attr : Attribute) (value : Value) : Of attr value (ofValue attr value) := by
  cases value with
  | bool b => exact .bool b
  | number n => exact .number n
  | text s =>
    rw [ofValue]
    split
    · next hnone =>
      refine .absent fun h => ?_
      cases h with
      | text hnonempty htexts => simp [String.isEmpty_iff, hnonempty, htexts] at hnone
    · next hsome =>
      have hboth : s ≠ "" ∧ attr.kind.holdsText = true := by simpa [String.isEmpty_iff] using hsome
      cases hexact : attr.traits.caseExact with
      | true => exact .exact hboth.1 hboth.2 hexact
      | false => exact .folded hboth.1 hboth.2 hexact
  | _ => exact .absent fun h => nomatch h

/-- A value that cannot be sorted by has no key. -/
theorem ofValue_of_not_sortable (h : ¬value.Sortable attr) : ofValue attr value = .absent := by
  have hkey := of_ofValue attr value
  generalize ofValue attr value = key at hkey ⊢
  cases hkey with
  | bool b => exact absurd (.bool b) h
  | number n => exact absurd (.number n) h
  | exact hnonempty htexts => exact absurd (.text hnonempty htexts) h
  | folded hnonempty htexts => exact absurd (.text hnonempty htexts) h
  | absent => rfl

/-- A value of an attribute has one key. -/
theorem of_iff : Of attr value key ↔ key = ofValue attr value := by
  constructor
  · intro h
    cases h with
    | bool => rfl
    | number => rfl
    | exact hnonempty htexts hexact => simp [ofValue, String.isEmpty_iff, hnonempty, htexts, hexact]
    | folded hnonempty htexts hfolded => simp [ofValue, String.isEmpty_iff, hnonempty, htexts, hfolded]
    | absent hnone => exact (ofValue_of_not_sortable hnone).symm
  · rintro rfl
    exact of_ofValue attr value

end SortKey

namespace Sorting

/-! ## Keys of resources -/

/-- The value by which a resource is sorted and the attribute that it is a value of, given the attribute to sort by
and what the resource has for it. -/
inductive Decides (attr : Attribute) (value : Value) : Attribute → Value → Prop
  /-- The value itself, or the first one of a list. -/
  | first (plain : attr.traits.multiValued = false ∨ attr.subs? = none) : Decides attr value attr (firstValue value)
  /-- The `value` of one of several records: of the primary one, or of the first one if none is primary. -/
  | element {subs : Attributes} {sub : Attribute} (multiValued : attr.traits.multiValued = true)
      (complex : attr.subs? = some subs) (declared : subs.spelled? "value" = some sub) :
      Decides attr value sub (primaryValue value)

/-- What a resource is sorted by, given the attribute that the path leads to. -/
inductive SortedBy (sorting : Sorting) (item : Record) : Option Attribute → SortKey → Prop
  | unknown : SortedBy sorting item none .absent
  /-- The records that are the values have no `value`. -/
  | undecided {attr : Attribute}
      (h : ∀ deciding value, ¬Decides attr (item.get (Place.ofPath sorting.path)) deciding value) :
      SortedBy sorting item (some attr) .absent
  | decided {attr deciding : Attribute} {value : Value} {key : SortKey}
      (h : Decides attr (item.get (Place.ofPath sorting.path)) deciding value) (hkey : SortKey.Of deciding value key) :
      SortedBy sorting item (some attr) key

variable {attr : Attribute} {value : Value}

theorem ofAttribute_missing (attr : Attribute) : SortKey.ofAttribute attr .missing = .absent := by
  simp [SortKey.ofAttribute, Value.isMissing, firstValue, SortKey.ofValue]

theorem ofAttribute_of_decides {deciding : Attribute} {chosen : Value} (h : Decides attr value deciding chosen) :
    SortKey.ofAttribute attr value = SortKey.ofValue deciding chosen := by
  cases h with
  | first hplain =>
    unfold SortKey.ofAttribute
    rcases hplain with hsingle | hsimple
    · rw [hsingle]
      rfl
    · rw [hsimple]
      cases attr.traits.multiValued && !value.isMissing <;> rfl
  | element hmulti hcomplex hdeclared =>
    cases value with
    | missing => exact ofAttribute_missing attr
    | _ => simp [SortKey.ofAttribute, Value.isMissing, hmulti, hcomplex, hdeclared]

theorem ofAttribute_of_undecided (h : ∀ deciding chosen, ¬Decides attr value deciding chosen) :
    SortKey.ofAttribute attr value = .absent := by
  cases hmulti : attr.traits.multiValued with
  | false => exact absurd (.first (.inl hmulti)) (h _ _)
  | true =>
    cases hsubs : attr.subs? with
    | none => exact absurd (.first (.inr hsubs)) (h _ _)
    | some subs =>
      cases hdeclared : subs.spelled? "value" with
      | some sub => exact absurd (.element hmulti hsubs hdeclared) (h _ _)
      | none =>
        cases value with
        | missing => exact ofAttribute_missing attr
        | _ => simp [SortKey.ofAttribute, Value.isMissing, hmulti, hsubs, hdeclared]

/-- The key that is taken of a resource is what it is sorted by. -/
theorem sortedBy_iff {sorting : Sorting} {item : Record} {attr : Option Attribute} {key : SortKey} :
    SortedBy sorting item attr key ↔ key = sorting.keyOf attr item := by
  constructor
  · intro h
    cases h with
    | unknown => rfl
    | undecided hnone => exact (ofAttribute_of_undecided hnone).symm
    | decided hdecides hkey => rw [SortKey.of_iff.1 hkey, keyOf, ofAttribute_of_decides hdecides]
  · rintro rfl
    cases attr with
    | none => exact .unknown
    | some attr =>
      by_cases hdecided : ∃ deciding value, Decides attr (item.get (Place.ofPath sorting.path)) deciding value
      · obtain ⟨deciding, value, hdecides⟩ := hdecided
        refine .decided hdecides (SortKey.of_iff.2 ?_)
        rw [keyOf, ofAttribute_of_decides hdecides]
      · have hnone : ∀ deciding value, ¬Decides attr (item.get (Place.ofPath sorting.path)) deciding value :=
          fun deciding value hdecides => hdecided ⟨deciding, value, hdecides⟩
        rw [keyOf, ofAttribute_of_undecided hnone]
        exact .undecided hnone

end Sorting

/-! ## The order of keys -/

namespace SortKey

/-- The keys are of different kinds. -/
def Differ (a b : SortKey) : Prop :=
  ∃ left right, a.kind? = some left ∧ b.kind? = some right ∧ left ≠ right

/-- The second key is of the kind of the first one and not below it. -/
inductive NotAbove : SortKey → SortKey → Prop
  | bool {a b : Bool} (h : a = true → b = true) : NotAbove (.bool a) (.bool b)
  | number {m n : Int} (h : m ≤ n) : NotAbove (.number m) (.number n)
  | text {s t : String} (h : s ≤ t) : NotAbove (.text s) (.text t)

/-- Two keys stand in the right order: in that of the direction, or with the second one absent. -/
inductive InOrder (ascending : Bool) : SortKey → SortKey → Prop
  | absent (a : SortKey) : InOrder ascending a .absent
  | rising {a b : SortKey} (direction : ascending = true) (h : NotAbove a b) : InOrder ascending a b
  | falling {a b : SortKey} (direction : ascending = false) (h : NotAbove b a) : InOrder ascending a b

variable {ascending : Bool} {a b : SortKey} {keys : List SortKey}

theorem notAbove_of_le (hle : a.le b = true) (halike : ¬Differ a b) (ha : a ≠ .absent) (hb : b ≠ .absent) :
    NotAbove a b := by
  cases a with
  | absent => exact absurd rfl ha
  | bool a =>
    cases b with
    | absent => exact absurd rfl hb
    | bool b => exact .bool (by simpa [le, imp_iff_not_or] using hle)
    | _ => exact absurd ⟨_, _, rfl, rfl, by decide⟩ halike
  | number m =>
    cases b with
    | absent => exact absurd rfl hb
    | number n => exact .number (by simpa [le] using hle)
    | _ => exact absurd ⟨_, _, rfl, rfl, by decide⟩ halike
  | text s =>
    cases b with
    | absent => exact absurd rfl hb
    | text t => exact .text (text_le.1 hle)
    | _ => exact absurd ⟨_, _, rfl, rfl, by decide⟩ halike

theorem Differ.symm (h : Differ a b) : Differ b a := by
  obtain ⟨left, right, ha, hb, hne⟩ := h
  exact ⟨right, left, hb, ha, hne.symm⟩

/-- Keys of one kind that may stand one before the other stand in the right order. -/
theorem inOrder_of_precedes (h : precedes ascending a b = true) (halike : ¬Differ a b) : InOrder ascending a b := by
  by_cases hb : b = .absent
  · subst hb
    exact .absent a
  · have ha : a ≠ .absent := by
      rintro rfl
      cases b <;> simp_all [precedes]
    have hle : (if ascending then a.le b else b.le a) = true := by
      cases a <;> cases b <;> simp_all [precedes]
    cases ascending with
    | true => exact .rising rfl (notAbove_of_le hle halike ha hb)
    | false => exact .falling rfl (notAbove_of_le hle (fun h => halike h.symm) hb ha)

/-- No kinds differ if none differs from the first one. -/
theorem mismatch?_eq_none_iff : mismatch? keys = none ↔ ∀ a ∈ keys, ∀ b ∈ keys, ¬Differ a b := by
  have hkind : ∀ kind, kind ∈ keys.filterMap kind? ↔ ∃ key ∈ keys, key.kind? = some kind :=
    fun kind => List.mem_filterMap
  have halike : (∀ a ∈ keys, ∀ b ∈ keys, ¬Differ a b) ↔
      ∀ left ∈ keys.filterMap kind?, ∀ right ∈ keys.filterMap kind?, left = right := by
    constructor
    · intro h left hleft right hright
      obtain ⟨a, ha, hfirst⟩ := (hkind left).1 hleft
      obtain ⟨b, hb, hsecond⟩ := (hkind right).1 hright
      by_contra hne
      exact h a ha b hb ⟨left, right, hfirst, hsecond, hne⟩
    · rintro h a ha b hb ⟨left, right, hfirst, hsecond, hne⟩
      exact hne (h left ((hkind left).2 ⟨a, ha, hfirst⟩) right ((hkind right).2 ⟨b, hb, hsecond⟩))
  rw [halike, mismatch?]
  cases keys.filterMap kind? with
  | nil => simp
  | cons first others =>
    simp only [Option.map_eq_none_iff, List.find?_eq_none, bne_iff_ne, ne_eq, not_not]
    constructor
    · intro h
      have hall : ∀ kind ∈ first :: others, kind = first := List.forall_mem_cons.2 ⟨rfl, h⟩
      exact fun left hleft right hright => (hall left hleft).trans (hall right hright).symm
    · exact fun h other hother => h other (List.mem_cons_of_mem _ hother) first List.mem_cons_self

end SortKey

namespace Sorting

/-! ## Sorted lists -/

/-- Whether a resource may stand before another one by their keys. -/
def mayPrecede (ascending : Bool) (key : Record → SortKey) (a b : Record) : Bool :=
  SortKey.precedes ascending (key a) (key b)

section ByKey

variable (ascending : Bool) (key : Record → SortKey) (items : List Record)

theorem mayPrecede_trans (a b c : Record) (hab : mayPrecede ascending key a b = true)
    (hbc : mayPrecede ascending key b c = true) : mayPrecede ascending key a c = true :=
  SortKey.precedes_trans hab hbc

theorem mayPrecede_total (a b : Record) :
    (mayPrecede ascending key a b || mayPrecede ascending key b a) = true :=
  SortKey.precedes_total ascending (key a) (key b)

theorem mayPrecede_of_eq {a b : Record} (h : key a = key b) : mayPrecede ascending key a b = true := by
  have hself := mayPrecede_total ascending key b b
  rw [Bool.or_self] at hself
  rw [mayPrecede, h]
  exact hself

/-- Sorting by the keys of the resources sorts the resources. -/
theorem sortByKeys_eq :
    sortByKeys ascending (items.map key) items = items.mergeSort (mayPrecede ascending key) := by
  have hpairs : (items.map key).zip items = items.map fun item => (key item, item) :=
    List.map_prod_right_eq_zip.symm
  have hsorted := @List.map_mergeSort _ _ (mayPrecede ascending key)
    (fun a b => SortKey.precedes ascending a.1 b.1) (fun item => (key item, item)) items fun _ _ _ _ => rfl
  rw [sortByKeys, hpairs, ← hsorted, List.map_map]
  exact List.map_id _

/-- Resources of the same key keep their order. -/
theorem filter_mergeSort (sortKey : SortKey) :
    (items.mergeSort (mayPrecede ascending key)).filter (fun item => key item = sortKey) =
      items.filter fun item => key item = sortKey := by
  -- those of one key are in order among themselves, and what is in order stays so
  have hordered : (items.filter fun item => key item = sortKey).Pairwise fun a b =>
      mayPrecede ascending key a b = true := by
    refine List.pairwise_of_forall_mem_list fun a ha b hb => mayPrecede_of_eq ascending key ?_
    rw [of_decide_eq_true (List.mem_filter.1 ha).2, of_decide_eq_true (List.mem_filter.1 hb).2]
  have hkept := List.sublist_mergeSort (mayPrecede_trans ascending key) (mayPrecede_total ascending key)
    hordered List.filter_sublist
  have hfiltered := hkept.filter fun item => key item = sortKey
  simp only [List.filter_filter, Bool.and_self] at hfiltered
  have hperm := (List.mergeSort_perm items (mayPrecede ascending key)).filter fun item => key item = sortKey
  exact (hfiltered.eq_of_length hperm.length_eq.symm).symm

end ByKey

variable {sorting : Sorting} {attrs : SchemaAttributes} {attr : Option Attribute} {items sorted : List Record}

theorem mismatch?_keys_eq_none_iff :
    SortKey.mismatch? (items.map (sorting.keyOf attr)) = none ↔
      ∀ a ∈ items, ∀ b ∈ items, ¬SortKey.Differ (sorting.keyOf attr a) (sorting.keyOf attr b) := by
  simp only [SortKey.mismatch?_eq_none_iff, List.forall_mem_map]

/-- Sorting fails if keys are of different kinds and sorts by the keys otherwise. -/
theorem sort_eq (hfound : attrs.find? sorting.path = .ok attr) :
    sorting.sort attrs items =
      match SortKey.mismatch? (items.map (sorting.keyOf attr)) with
      | some (left, right) => .error (.incomparable left right)
      | none => .ok (items.mergeSort (mayPrecede sorting.ascending (sorting.keyOf attr))) := by
  rw [sort, hfound, ← sortByKeys_eq]
  rfl

theorem sort_eq_ok_iff (hfound : attrs.find? sorting.path = .ok attr) :
    sorting.sort attrs items = .ok sorted ↔
      (∀ a ∈ items, ∀ b ∈ items, ¬SortKey.Differ (sorting.keyOf attr a) (sorting.keyOf attr b)) ∧
        items.mergeSort (mayPrecede sorting.ascending (sorting.keyOf attr)) = sorted := by
  rw [← mismatch?_keys_eq_none_iff, sort_eq hfound]
  cases SortKey.mismatch? (items.map (sorting.keyOf attr)) <;> simp

theorem sort_eq_error_iff (hfound : attrs.find? sorting.path = .ok attr) :
    (∃ fault, sorting.sort attrs items = .error fault) ↔
      ∃ a ∈ items, ∃ b ∈ items, SortKey.Differ (sorting.keyOf attr a) (sorting.keyOf attr b) := by
  have hnone := @mismatch?_keys_eq_none_iff sorting attr items
  rw [sort_eq hfound]
  cases hkinds : SortKey.mismatch? (items.map (sorting.keyOf attr)) with
  | none => simpa using hnone.1 hkinds
  | some kinds => simpa [hkinds] using hnone

theorem perm_of_sort (hfound : attrs.find? sorting.path = .ok attr) (h : sorting.sort attrs items = .ok sorted) :
    sorted.Perm items := by
  obtain ⟨-, rfl⟩ := (sort_eq_ok_iff hfound).1 h
  exact List.mergeSort_perm items _

/-- In a sorted list each key may stand before all keys behind it. -/
theorem mayPrecede_of_sort (hfound : attrs.find? sorting.path = .ok attr)
    (h : sorting.sort attrs items = .ok sorted) :
    sorted.Pairwise fun a b => mayPrecede sorting.ascending (sorting.keyOf attr) a b = true := by
  obtain ⟨-, rfl⟩ := (sort_eq_ok_iff hfound).1 h
  exact List.pairwise_mergeSort (mayPrecede_trans _ _) (mayPrecede_total _ _) items

theorem not_differ_of_sort (hfound : attrs.find? sorting.path = .ok attr)
    (h : sorting.sort attrs items = .ok sorted) :
    ∀ a ∈ sorted, ∀ b ∈ sorted, ¬SortKey.Differ (sorting.keyOf attr a) (sorting.keyOf attr b) := by
  have hperm := perm_of_sort hfound h
  obtain ⟨halike, -⟩ := (sort_eq_ok_iff hfound).1 h
  exact fun a ha b hb => halike a (hperm.mem_iff.1 ha) b (hperm.mem_iff.1 hb)

theorem inOrder_of_sort (hfound : attrs.find? sorting.path = .ok attr) (h : sorting.sort attrs items = .ok sorted) :
    sorted.Pairwise fun a b =>
      SortKey.InOrder sorting.ascending (sorting.keyOf attr a) (sorting.keyOf attr b) := by
  have halike := not_differ_of_sort hfound h
  exact (mayPrecede_of_sort hfound h).imp_of_mem fun ha hb hbefore =>
    SortKey.inOrder_of_precedes hbefore (halike _ ha _ hb)

theorem filter_of_sort (hfound : attrs.find? sorting.path = .ok attr) (h : sorting.sort attrs items = .ok sorted)
    (key : SortKey) :
    (sorted.filter fun item => sorting.keyOf attr item = key) =
      items.filter fun item => sorting.keyOf attr item = key := by
  obtain ⟨-, rfl⟩ := (sort_eq_ok_iff hfound).1 h
  exact filter_mergeSort _ _ items key

/-- A sorted list stays as it is when it is sorted again. -/
theorem sort_of_sort (hfound : attrs.find? sorting.path = .ok attr) (h : sorting.sort attrs items = .ok sorted) :
    sorting.sort attrs sorted = .ok sorted :=
  (sort_eq_ok_iff hfound).2
    ⟨not_differ_of_sort hfound h, List.mergeSort_of_pairwise (mayPrecede_of_sort hfound h)⟩

/-- Sorting by a path that can be looked up fails exactly if two resources have keys of different kinds.  Otherwise
the list that it gives has the same resources; the key of each is in the right order with all keys behind it, so that
absent ones stand at the end; resources of the same key, also absent, keep their order; and sorting the list again
leaves it as it is. -/
theorem sorts_stably (sorting : Sorting) (attrs : SchemaAttributes) (attr : Option Attribute)
    (hfound : attrs.find? sorting.path = .ok attr) (items : List Record) :
    (∀ item key, sorting.SortedBy item attr key ↔ key = sorting.keyOf attr item) ∧
      ((∃ fault, sorting.sort attrs items = .error fault) ↔
        ∃ a ∈ items, ∃ b ∈ items, SortKey.Differ (sorting.keyOf attr a) (sorting.keyOf attr b)) ∧
      ∀ sorted, sorting.sort attrs items = .ok sorted →
        sorted.Perm items ∧
        (sorted.Pairwise fun a b =>
          SortKey.InOrder sorting.ascending (sorting.keyOf attr a) (sorting.keyOf attr b)) ∧
        (∀ key, (sorted.filter fun item => sorting.keyOf attr item = key) =
          items.filter fun item => sorting.keyOf attr item = key) ∧
        sorting.sort attrs sorted = .ok sorted := by
  refine ⟨fun item key => sortedBy_iff, sort_eq_error_iff hfound, fun sorted hsorted => ?_⟩
  exact ⟨perm_of_sort hfound hsorted, inOrder_of_sort hfound hsorted, filter_of_sort hfound hsorted,
    sort_of_sort hfound hsorted⟩

/-! ## Users by their names -/

/-- The name of a user, in any casing. -/
def displayName : Attribute := .simple ⟨"displayName", by decide⟩ .string {}

/-- The schema of the name. -/
def userAttributes : SchemaAttributes where
  own := { schema := userUri, extension := false, declared := [displayName] }

/-- By the names of users, from the last one to the first one. -/
def byNameDescending : Sorting := ⟨.unbound ⟨displayName.name, none⟩, false⟩

/-- The attribute that the path leads to. -/
def boundDisplayName : Attribute := displayName.bindTo ⟨userUri, false, ⟨displayName.name, none⟩⟩

theorem find?_displayName : userAttributes.find? byNameDescending.path = .ok (some boundDisplayName) := by rfl

/-- A user with a name. -/
def named (name : String) : Record := [("displayName", .text name)]

/-- Four users, one of whom has no name. -/
def users : List Record := [named "Alice", [], named "bob", named "ALICE"]

theorem sort_users :
    byNameDescending.sort userAttributes users = .ok [named "bob", named "Alice", named "ALICE", []] := by
  let key := byNameDescending.keyOf (some boundDisplayName)
  have hkinds : SortKey.mismatch? (users.map key) = none := by decide +kernel
  have hnobody : mayPrecede false key (named "Alice") [] = true := by decide +kernel
  have hbob : mayPrecede false key (named "bob") (named "ALICE") = true := by decide +kernel
  have hturned : mayPrecede false key (named "Alice") (named "bob") = false := by decide +kernel
  have hequal : mayPrecede false key (named "Alice") (named "ALICE") = true := by decide +kernel
  have hlast : mayPrecede false key [] (named "ALICE") = false := by decide +kernel
  refine (sort_eq_ok_iff find?_displayName).2 ⟨mismatch?_keys_eq_none_iff.1 hkinds, ?_⟩
  show List.mergeSort users (mayPrecede false key) = _
  simp [users, List.mergeSort, List.MergeSort.Internal.splitInTwo, hnobody, hbob, hturned, hequal, hlast]

/-- The users are sorted from `bob` to the two of the other name, who keep their order, and the one without a name comes
last; a number for a name cannot be sorted among them. -/
theorem sorts_stably_users :
    userAttributes.find? byNameDescending.path = .ok (some boundDisplayName) ∧
      byNameDescending.sort userAttributes users = .ok [named "bob", named "Alice", named "ALICE", []] ∧
      [named "bob", named "Alice", named "ALICE", []].Perm users ∧
      byNameDescending.sort userAttributes [named "bob", named "Alice", named "ALICE", []] =
        .ok [named "bob", named "Alice", named "ALICE", []] ∧
      ∃ fault, byNameDescending.sort userAttributes [named "bob", [("displayName", .number (.int 7))]] =
        .error fault := by
  obtain ⟨-, -, hsorted⟩ := sorts_stably byNameDescending userAttributes _ find?_displayName users
  obtain ⟨-, hfails, -⟩ := sorts_stably byNameDescending userAttributes _ find?_displayName
    [named "bob", [("displayName", .number (.int 7))]]
  obtain ⟨hperm, -, -, hagain⟩ := hsorted _ sort_users
  exact ⟨find?_displayName, sort_users, hperm, hagain,
    hfails.2 ⟨_, .head _, _, .tail _ (.head _), "string", "number", rfl, rfl, by decide⟩⟩

end Sorting

end Scim
