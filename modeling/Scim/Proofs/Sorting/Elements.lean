import Scim.Proofs.Attribute.Conformance
import Scim.Proofs.Record.Lens
import Scim.Proofs.Record.Location
import Scim.Proofs.Schema.Reachable
import Scim.Proofs.Sorting.Order

/-!
# Sorting by one of several records

Of several records one has to be chosen to sort a resource by, and there are two paths by which it can be asked for
the `value` of one.  Under the path of the attribute it is that of the primary element, or of the first one if none
is primary.  Under the path of the sub-attribute the values of all elements are read first, and of these the first
one counts, primary or not.

The two sort a list alike if each resource has the same key by both.  So it is where the first element is primary or
none is.  A resource with two keys is told apart from some other resource by one of the two and not by the other, or
the other way round: there is always a list of two that they sort differently.

## Main results

* `SortKey.precedes_antisymm`: keys that may stand on either side of each other are the same.
* `exists_pair_ne`: a resource with two keys and another one that are not sorted alike.
* `ValueOf.keyAt_eq_of_firstCounts`: where the two paths give the same key.
* `sorts_by_value`: what a resource is sorted by under both paths, and when that comes to the same.
* `sort_later_primary`: a list that is not sorted alike.
-/

namespace Scim

/-! ## Keys and pairs of resources -/

namespace SortKey

variable {ascending : Bool} {a b : SortKey}

theorem not_differ_self (a : SortKey) : ¬Differ a a := by
  rintro ⟨left, right, hleft, hright, hne⟩
  exact hne (Option.some.inj (hleft.symm.trans hright))

theorem not_differ_absent (a : SortKey) : ¬Differ .absent a := by
  rintro ⟨left, right, hleft, -, -⟩
  cases hleft

theorem le_antisymm (hab : a.le b = true) (hba : b.le a = true) : a = b := by
  cases a <;> cases b
  case text.text s t => rw [String.le_antisymm (text_le.1 hab) (text_le.1 hba)]
  case bool.bool m n => cases m <;> cases n <;> simp_all [le]
  case number.number m n =>
    simp only [le, decide_eq_true_eq] at hab hba
    rw [Int.le_antisymm hab hba]
  all_goals simp_all [le, rank]

/-- Keys that may stand on either side of each other are the same. -/
theorem precedes_antisymm (hab : precedes ascending a b = true) (hba : precedes ascending b a = true) : a = b := by
  cases ascending
  · have h := @le_antisymm b a
    cases a <;> cases b <;> simp_all [precedes]
  · have h := @le_antisymm a b
    cases a <;> cases b <;> simp_all [precedes]

theorem precedes_self (ascending : Bool) (a : SortKey) : precedes ascending a a = true := by
  have h := precedes_total ascending a a
  rwa [Bool.or_self] at h

/-- An absent key stands before absent keys only. -/
theorem precedes_absent_iff : precedes ascending .absent a = true ↔ a = .absent := by
  cases a <;> simp [precedes]

end SortKey

namespace Sorting

section Pairs

variable {attrs : SchemaAttributes} {sorting : Sorting} {attr : Option Attribute}

/-- Two resources whose keys are not of different kinds change places if the key of the second has to stand
first. -/
theorem sort_pair (hfound : attrs.find? sorting.path = .ok attr) {a b : Record}
    (halike : ¬SortKey.Differ (sorting.keyOf attr a) (sorting.keyOf attr b)) :
    sorting.sort attrs [a, b] =
      .ok (if SortKey.precedes sorting.ascending (sorting.keyOf attr a) (sorting.keyOf attr b) then [a, b]
        else [b, a]) := by
  have hkinds : SortKey.mismatch? ([a, b].map (sorting.keyOf attr)) = none := by
    refine mismatch?_keys_eq_none_iff.2 ?_
    have hback : ¬SortKey.Differ (sorting.keyOf attr b) (sorting.keyOf attr a) := fun h => halike h.symm
    simp [SortKey.not_differ_self, halike, hback]
  rw [sort_eq hfound, hkinds, ← sortByKeys_eq]
  exact congrArg Except.ok (sortByKeys_pair _ _ _ a b)

/-- Behind a resource without a key another one keeps its place only if it has none either. -/
theorem sort_pair_absent (hfound : attrs.find? sorting.path = .ok attr) {a b : Record}
    (habsent : sorting.keyOf attr a = .absent) :
    sorting.sort attrs [a, b] = .ok (if sorting.keyOf attr b = .absent then [a, b] else [b, a]) := by
  have halike : ¬SortKey.Differ (sorting.keyOf attr a) (sorting.keyOf attr b) := by
    rw [habsent]
    exact SortKey.not_differ_absent _
  rw [sort_pair hfound halike, habsent]
  simp only [SortKey.precedes_absent_iff]

section TwoSortings

variable (first second : Sorting) {firstAttr secondAttr : Option Attribute}

/-- Resources that have the same keys by both ways of sorting are sorted alike. -/
theorem sort_congr_keys (hdirection : first.ascending = second.ascending)
    (hfirst : attrs.find? first.path = .ok firstAttr) (hsecond : attrs.find? second.path = .ok secondAttr)
    {items : List Record} (hkeys : ∀ item ∈ items, first.keyOf firstAttr item = second.keyOf secondAttr item) :
    first.sort attrs items = second.sort attrs items := by
  have hmap : items.map (first.keyOf firstAttr) = items.map (second.keyOf secondAttr) := List.map_congr_left hkeys
  simp only [sort, hfirst, hsecond, hdirection, bind, Except.bind, hmap]

/-- If a resource has a key by one way of sorting and none by the other, a resource that has none by either tells
the two apart. -/
theorem sort_pair_ne_of_absent (hfirst : attrs.find? first.path = .ok firstAttr)
    (hsecond : attrs.find? second.path = .ok secondAttr) {item other : Record}
    (hother : first.keyOf firstAttr other = .absent ∧ second.keyOf secondAttr other = .absent)
    (hone : ¬(first.keyOf firstAttr item = .absent ↔ second.keyOf secondAttr item = .absent)) :
    first.sort attrs [other, item] ≠ second.sort attrs [other, item] := by
  have hne : other ≠ item := by
    rintro rfl
    exact hone (iff_of_true hother.1 hother.2)
  rw [sort_pair_absent hfirst hother.1, sort_pair_absent hsecond hother.2]
  intro hsame
  have hlists := Except.ok.inj hsame
  split at hlists <;> split at hlists
  · next hitem hitem' => exact hone (iff_of_true hitem hitem')
  · exact hne (List.cons.inj hlists).1
  · exact hne (List.cons.inj hlists).1.symm
  · next hitem hitem' => exact hone (iff_of_false hitem hitem')

/-- If a resource has different keys by two ways of sorting, a resource that has the first of them by the first way,
and that or none by the second one, tells the two apart. -/
theorem sort_pair_ne_of_key (hfirst : attrs.find? first.path = .ok firstAttr)
    (hsecond : attrs.find? second.path = .ok secondAttr) {item other : Record}
    (hne : first.keyOf firstAttr item ≠ second.keyOf secondAttr item)
    (hpresent : second.keyOf secondAttr item ≠ .absent)
    (hother : first.keyOf firstAttr other = first.keyOf firstAttr item)
    (hsecondOther : second.keyOf secondAttr other = first.keyOf firstAttr item ∨
      second.keyOf secondAttr other = .absent) :
    first.sort attrs [other, item] ≠ second.sort attrs [other, item] ∨
      first.sort attrs [item, other] ≠ second.sort attrs [item, other] := by
  have hdistinct : other ≠ item := by
    rintro rfl
    rcases hsecondOther with hsame | habsent
    · exact hne hsame.symm
    · exact hpresent habsent
  -- the first way leaves the two as they are
  have hkept : ∀ a b, first.keyOf firstAttr a = first.keyOf firstAttr b → first.sort attrs [a, b] = .ok [a, b] := by
    intro a b hkey
    have halike : ¬SortKey.Differ (first.keyOf firstAttr a) (first.keyOf firstAttr b) := by
      rw [hkey]
      exact SortKey.not_differ_self _
    rw [sort_pair hfirst halike, hkey, if_pos (SortKey.precedes_self _ _)]
  rw [hkept _ _ hother, hkept _ _ hother.symm]
  rcases hsecondOther with hsame | habsent
  · by_cases hkinds : SortKey.Differ (second.keyOf secondAttr other) (second.keyOf secondAttr item)
    · left
      have hrefused : ∃ fault, second.sort attrs [other, item] = .error fault := (sort_eq_error_iff hsecond).2
        ⟨other, List.mem_cons_self, item, List.mem_cons_of_mem _ List.mem_cons_self, hkinds⟩
      obtain ⟨fault, hfault⟩ := hrefused
      rw [hfault]
      exact fun h => nomatch h
    · rw [sort_pair hsecond hkinds, sort_pair hsecond fun h => hkinds h.symm]
      by_cases hbefore : SortKey.precedes second.ascending (second.keyOf secondAttr other)
          (second.keyOf secondAttr item) = true
      · right
        have hbehind : ¬SortKey.precedes second.ascending (second.keyOf secondAttr item)
            (second.keyOf secondAttr other) = true := fun h =>
          hne (hsame.symm.trans (SortKey.precedes_antisymm hbefore h))
        rw [if_neg hbehind]
        exact fun h => hdistinct (List.cons.inj (Except.ok.inj h)).1.symm
      · left
        rw [if_neg hbefore]
        exact fun h => hdistinct (List.cons.inj (Except.ok.inj h)).1
  · left
    rw [sort_pair_absent hsecond habsent, if_neg hpresent]
    exact fun h => hdistinct (List.cons.inj (Except.ok.inj h)).1

end TwoSortings

end Pairs

/-! ## Values of elements -/

/-- What a resource is sorted by under the path of an attribute. -/
def keyAt (attr : Attribute) (item : Record) : SortKey :=
  SortKey.ofAttribute attr (item.get (Place.ofPath attr.path))

/-- A multi-valued attribute of a schema and the sub-attribute `value` of its elements. -/
structure ValueOf (attrs : SchemaAttributes) (attr sub : Attribute) : Prop where
  listed : attr ∈ attrs.all
  multiValued : attr.traits.multiValued = true
  value : ∃ subs, attr.subs? = some subs ∧ sub ∈ subs ∧ sub.name.spells "value" = true

/-- The first element is the one that counts: it is primary, or none is. -/
inductive FirstCounts : Value → Prop
  | missing : FirstCounts .missing
  | empty : FirstCounts (.list [])
  | primary {first : Record} {rest : List Value} (h : isPrimary first = true) :
      FirstCounts (.list (.record first :: rest))
  | unmarked {first : Record} {rest : List Value}
      (h : ∀ element ∈ recordItems (.list (.record first :: rest)), isPrimary element = false) :
      FirstCounts (.list (.record first :: rest))

/-- The only element is the one that counts. -/
theorem firstCounts_singleton (element : Record) : FirstCounts (.list [.record element]) := by
  cases h : isPrimary element with
  | true => exact .primary h
  | false => exact .unmarked fun other hother => List.mem_singleton.1 hother ▸ h

theorem isAttrName_value : isAttrName "value".toList = true := by decide

/-- The name by which the value of an element is read. -/
def valueName : AttrName := ⟨"value", isAttrName_value⟩

theorem get_value (element : Record) : element.get (.path "value") = element.value "value" :=
  Record.get_name element valueName (by rfl)

theorem primaryValue_of_firstCounts {value : Value} (h : FirstCounts value) :
    primaryValue value = Record.subOf valueName (firstValue value) := by
  cases h with
  | missing => rfl
  | empty => rfl
  | @primary first rest h =>
    have hitems : recordItems (.list (.record first :: rest)) = first :: recordItems (.list rest) := rfl
    rw [primaryValue, hitems, List.find?_cons_of_pos h]
    exact get_value first
  | @unmarked first rest h =>
    have hitems : recordItems (.list (.record first :: rest)) = first :: recordItems (.list rest) := rfl
    have hnone : (first :: recordItems (.list rest)).find? isPrimary = none := by
      refine List.find?_eq_none.2 fun element helement => ?_
      rw [h element (hitems ▸ helement)]
      exact Bool.false_ne_true
    rw [primaryValue, hitems, hnone]
    exact get_value first

/-- A list of a single value that is no record has the key of that value, or none. -/
theorem ofAttribute_singleton (attr : Attribute) {value : Value} (h : value.record? = none) :
    SortKey.ofAttribute attr (.list [value]) = SortKey.ofValue attr value ∨
      SortKey.ofAttribute attr (.list [value]) = .absent := by
  by_cases hdecided : ∃ deciding chosen, Decides attr (.list [value]) deciding chosen
  · obtain ⟨deciding, chosen, hdecides⟩ := hdecided
    have hkey := ofAttribute_of_decides hdecides
    cases hdecides with
    | first => exact .inl hkey
    | element =>
      right
      rw [hkey, primaryValue]
      simp [recordItems, Value.list?, h, SortKey.ofValue]
  · right
    exact ofAttribute_of_undecided fun deciding chosen hdecides => hdecided ⟨deciding, chosen, hdecides⟩

namespace ValueOf

variable {attrs : SchemaAttributes} {attr sub : Attribute}

/-- Both paths are looked up without fault and lead to the attribute and to its sub-attribute. -/
theorem find?_paths {catalog : Catalog} (h : ValueOf attrs attr sub) (hattrs : attrs.Reachable catalog) :
    attrs.find? attr.path = .ok (some attr) ∧ attrs.find? sub.path = .ok (some sub) := by
  obtain ⟨subs, hsubs, hsub, -⟩ := h.value
  obtain ⟨set, hset, hattr⟩ := List.mem_flatMap.1 (SchemaAttributes.all_eq attrs ▸ h.listed)
  have hdistinct := hattrs.built.distinctSchemas
  have hformed := hattrs.wellFormed set hset
  exact ⟨SchemaAttributes.find?_of_mem hdistinct hset hformed hattr,
    SchemaAttributes.find?_sub_of_mem hdistinct hset hformed hattr hsubs hsub⟩

/-- Both paths lead into the same entries, to the value of the attribute and to what the sub-attribute has there. -/
theorem exists_entries (h : ValueOf attrs attr sub) (item : Record) :
    ∃ entries : Record, item.get (Place.ofPath attr.path) = entries.value attr.name.text ∧
      item.get (Place.ofPath sub.path) = entries.getAttr ⟨attr.name, some sub.name⟩ := by
  obtain ⟨subs, hsubs, hsub, -⟩ := h.value
  obtain ⟨set, -, hattr⟩ := List.mem_flatMap.1 (SchemaAttributes.all_eq attrs ▸ h.listed)
  obtain ⟨hpath, hsubPath⟩ := AttributeSet.bound_of_mem hattr
  refine ⟨item.entriesOf (.bound (set.pathOf attr.name)), ?_, ?_⟩
  · rw [hpath, Record.get_eq_getAttr]
    exact Record.getAttr_name _ attr.name
  · rw [hsubPath subs hsubs sub hsub, Record.get_eq_getAttr]
    rfl

/-- Under the path of the attribute a resource is sorted by the `value` of the primary element, or of the first one
if none is primary. -/
theorem keyAt_attr {catalog : Catalog} (h : ValueOf attrs attr sub) (hattrs : attrs.Reachable catalog)
    (item : Record) :
    keyAt attr item = SortKey.ofValue sub (primaryValue (item.get (Place.ofPath attr.path))) := by
  obtain ⟨subs, hsubs, hsub, hspells⟩ := h.value
  obtain ⟨set, hset, hattr⟩ := List.mem_flatMap.1 (SchemaAttributes.all_eq attrs ▸ h.listed)
  have hnames := ((hattrs.wellFormed set hset).wellNamed_of_mem hattr).distinctNames_subs hsubs
  have hname : sub.name.folded = valueName.folded := beq_iff_eq.1 hspells
  have hspelled : subs.spelled? "value" = some sub :=
    (subs.find?_congr hname).symm.trans (hnames.find?_of_mem hsub)
  exact ofAttribute_of_decides (.element h.multiValued hsubs hspelled)

/-- Under the path of the sub-attribute the values of all elements of a list are read first. -/
theorem keyAt_sub_of_list (h : ValueOf attrs attr sub) {item : Record} {elements : List Value}
    (hlist : item.get (Place.ofPath attr.path) = .list elements) :
    keyAt sub item = SortKey.ofAttribute sub (.list (elements.map (Record.subOf sub.name))) := by
  obtain ⟨entries, hvalue, hsub⟩ := h.exists_entries item
  rw [keyAt, hsub, Record.getAttr_sub, ← hvalue, hlist]

/-- Without a value there is none of the sub-attribute either. -/
theorem keyAt_sub_of_missing (h : ValueOf attrs attr sub) {item : Record}
    (hmissing : item.get (Place.ofPath attr.path) = .missing) : keyAt sub item = .absent := by
  obtain ⟨entries, hvalue, hsub⟩ := h.exists_entries item
  rw [keyAt, hsub, Record.getAttr_sub, ← hvalue, hmissing]
  exact ofAttribute_missing sub

/-- Under the path of a sub-attribute that holds one value, or none but simple ones, the first element of a list
counts, primary or not. -/
theorem keyAt_sub_of_plain (h : ValueOf attrs attr sub) (hplain : sub.traits.multiValued = false ∨ sub.subs? = none)
    {item : Record} {elements : List Value} (hlist : item.get (Place.ofPath attr.path) = .list elements) :
    keyAt sub item = SortKey.ofValue sub (Record.subOf sub.name (elements.headD .missing)) := by
  rw [h.keyAt_sub_of_list hlist, ofAttribute_of_decides (.first hplain)]
  cases elements <;> rfl

/-- The sub-attribute is read under its own name as under that by which the value of an element is read. -/
theorem subOf_name (h : ValueOf attrs attr sub) (element : Value) :
    Record.subOf sub.name element = Record.subOf valueName element := by
  obtain ⟨-, -, -, hspells⟩ := h.value
  have hname : Text.lower sub.name.text = Text.lower valueName.text := beq_iff_eq.1 hspells
  cases element with
  | record entries =>
    show Record.value entries sub.name.text = Record.value entries valueName.text
    rw [Record.value, Entries.get?_congr entries hname, Record.value]
  | _ => rfl

/-- Where the first element is the one that counts, both paths give the same key. -/
theorem keyAt_eq_of_firstCounts {catalog : Catalog} (h : ValueOf attrs attr sub) (hattrs : attrs.Reachable catalog)
    (hplain : sub.traits.multiValued = false ∨ sub.subs? = none) {item : Record}
    (hfirst : FirstCounts (item.get (Place.ofPath attr.path))) : keyAt attr item = keyAt sub item := by
  rw [h.keyAt_attr hattrs, primaryValue_of_firstCounts hfirst]
  generalize hvalue : item.get (Place.ofPath attr.path) = value at hfirst
  cases hfirst with
  | missing => rw [h.keyAt_sub_of_missing hvalue]; rfl
  | empty => rw [h.keyAt_sub_of_plain hplain hvalue]; rfl
  | primary => rw [h.keyAt_sub_of_plain hplain hvalue, h.subOf_name]; rfl
  | unmarked => rw [h.keyAt_sub_of_plain hplain hvalue, h.subOf_name]; rfl

/-- Whatever is to be the value of the attribute, some resource has it. -/
theorem exists_item (h : ValueOf attrs attr sub) (value : Value) :
    ∃ item : Record, item.get (Place.ofPath attr.path) = value := by
  obtain ⟨set, -, hattr⟩ := List.mem_flatMap.1 (SchemaAttributes.all_eq attrs ▸ h.listed)
  have hentries : ∃ item : Record,
      item.entriesOf (.bound (set.pathOf attr.name)) = [(attr.name.text, value)] := by
    cases hextension : set.extension with
    | false =>
      exact ⟨[(attr.name.text, value)], by simp [Record.entriesOf, AttributeSet.pathOf, hextension]⟩
    | true =>
      exact ⟨[(set.schema.text, .record [(attr.name.text, value)])], by
        simp [Record.entriesOf, AttributeSet.pathOf, hextension, Entries.get?_cons]⟩
  obtain ⟨item, hitem⟩ := hentries
  refine ⟨item, ?_⟩
  rw [(AttributeSet.bound_of_mem hattr).1, Record.get_eq_getAttr, hitem]
  refine (Record.getAttr_name _ attr.name).trans ?_
  simp [Record.value, Entries.get?_cons]

/-- Whatever key a resource has under the path of the attribute, some other resource has it as well and has under
the path of the sub-attribute the same key or none. -/
theorem exists_keyAt_eq {catalog : Catalog} (h : ValueOf attrs attr sub) (hattrs : attrs.Reachable catalog)
    {item : Record} (hpresent : keyAt attr item ≠ .absent) :
    ∃ other, keyAt attr other = keyAt attr item ∧
      (keyAt sub other = keyAt attr item ∨ keyAt sub other = .absent) := by
  -- the only element of the other one has the value that counts
  rw [h.keyAt_attr hattrs] at hpresent ⊢
  generalize primaryValue (item.get (Place.ofPath attr.path)) = value at hpresent ⊢
  have hsimple : value.record? = none := by
    cases value with
    | record entries => exact absurd rfl hpresent
    | _ => rfl
  obtain ⟨other, hother⟩ := h.exists_item (.list [.record [("value", value)]])
  have hfound : Record.value [("value", value)] "value" = value := by simp [Record.value, Entries.get?_cons]
  have hsubs : keyAt sub other = SortKey.ofAttribute sub (.list [value]) := by
    rw [h.keyAt_sub_of_list hother, List.map_singleton, h.subOf_name]
    exact congrArg (fun value => SortKey.ofAttribute sub (.list [value])) hfound
  refine ⟨other, ?_, hsubs ▸ ofAttribute_singleton sub hsimple⟩
  rw [h.keyAt_attr hattrs, hother, primaryValue_of_firstCounts (firstCounts_singleton _)]
  exact congrArg (SortKey.ofValue sub) hfound

end ValueOf

/-! ## Both paths -/

/-- A multi-valued complex attribute of a schema and its sub-attribute `value` are both found by their paths.  Under
the first path a resource is sorted by the `value` of the primary element, or of the first one if none is primary;
under the second one by what comes first of a list, unless the sub-attribute is itself one of several records.  In
either direction a list is sorted alike, or is refused for the same fault, if each resource has the same key by both
paths, and that is so where the first element counts; a resource that has two keys stands in a list of two that is
not sorted alike. -/
theorem sorts_by_value {catalog : Catalog} {attrs : SchemaAttributes} (hattrs : attrs.Reachable catalog)
    {attr sub : Attribute} (h : ValueOf attrs attr sub) (ascending : Bool) :
    (attrs.find? attr.path = .ok (some attr) ∧ attrs.find? sub.path = .ok (some sub)) ∧
    (∀ item, keyAt attr item = SortKey.ofValue sub (primaryValue (item.get (Place.ofPath attr.path)))) ∧
    (sub.traits.multiValued = false ∨ sub.subs? = none → ∀ item elements,
      item.get (Place.ofPath attr.path) = .list elements →
        keyAt sub item = SortKey.ofValue sub (Record.subOf sub.name (elements.headD .missing))) ∧
    (sub.traits.multiValued = false ∨ sub.subs? = none → ∀ item,
      FirstCounts (item.get (Place.ofPath attr.path)) → keyAt attr item = keyAt sub item) ∧
    (∀ items, (∀ item ∈ items, keyAt attr item = keyAt sub item) →
      sort ⟨attr.path, ascending⟩ attrs items = sort ⟨sub.path, ascending⟩ attrs items) ∧
    ∀ item, keyAt attr item ≠ keyAt sub item → ∃ other,
      sort ⟨attr.path, ascending⟩ attrs [other, item] ≠ sort ⟨sub.path, ascending⟩ attrs [other, item] ∨
        sort ⟨attr.path, ascending⟩ attrs [item, other] ≠ sort ⟨sub.path, ascending⟩ attrs [item, other] := by
  let whole : Sorting := ⟨attr.path, ascending⟩
  let below : Sorting := ⟨sub.path, ascending⟩
  obtain ⟨hfound, hfoundSub⟩ := h.find?_paths hattrs
  refine ⟨⟨hfound, hfoundSub⟩, h.keyAt_attr hattrs, fun hplain item elements => h.keyAt_sub_of_plain hplain,
    fun hplain item => h.keyAt_eq_of_firstCounts hattrs hplain, fun items hkeys => ?alike, fun item hne => ?apart⟩
  case alike => exact sort_congr_keys whole below rfl hfound hfoundSub hkeys
  case apart =>
    by_cases hboth : keyAt attr item ≠ .absent ∧ keyAt sub item ≠ .absent
    · obtain ⟨other, hother, hotherSub⟩ := h.exists_keyAt_eq hattrs hboth.1
      exact ⟨other, sort_pair_ne_of_key whole below hfound hfoundSub hne hboth.2 hother hotherSub⟩
    · obtain ⟨other, hmissing⟩ := h.exists_item .missing
      have hother : keyAt attr other = .absent ∧ keyAt sub other = .absent := by
        refine ⟨?_, h.keyAt_sub_of_missing hmissing⟩
        rw [keyAt, hmissing, ofAttribute_missing]
      have hone : ¬(keyAt attr item = .absent ↔ keyAt sub item = .absent) := by
        intro hiff
        by_cases habsent : keyAt attr item = .absent
        · exact hne (habsent.trans (hiff.1 habsent).symm)
        · exact hboth ⟨habsent, fun hsub => habsent (hiff.2 hsub)⟩
      exact ⟨other, .inl (sort_pair_ne_of_absent whole below hfound hfoundSub hother hone)⟩

/-! ## Mail addresses -/

/-- The addresses of a user, with the sub-attributes of convention. -/
def emails : Attribute :=
  ⟨.unbound ⟨⟨"mails", by decide⟩, none⟩, .complex Attribute.conventionalSubs, { multiValued := true },
    { checks := Attribute.shapeChecks Attribute.conventionalSubs }⟩

/-- The schema of users with addresses. -/
def mailAttributes : SchemaAttributes where
  own := { schema := userUri, extension := false, declared := [emails] }

/-- The attribute that the name of the addresses leads to. -/
def boundEmails : Attribute := emails.bindTo (mailAttributes.own.pathOf emails.name)

/-- The sub-attribute that the value of an address is. -/
def boundValue : Attribute :=
  .bindTo (.simple valueName .unknown {}) ((mailAttributes.own.pathOf emails.name).withSub valueName)

theorem mailAttributes_reachable : mailAttributes.Reachable { schemas := [⟨userUri, false⟩] } := by
  have hmade : emails.Made := by
    refine @Attribute.Made.complex "mails" [] { multiValued := true } {} _ ?_ (by rfl)
    exact fun sub hsub => absurd hsub List.not_mem_nil
  have hown : AttributeSet.declare { schemas := [⟨userUri, false⟩] } "urn:example:User" [emails] [] =
      .ok mailAttributes.own := by rfl
  exact .declared (List.forall_mem_singleton.2 hmade) hown

theorem valueOf_emails : ValueOf mailAttributes boundEmails boundValue :=
  ⟨List.mem_singleton.2 rfl, rfl, _, rfl, List.mem_cons_self, by decide +kernel⟩

/-- A user whose second address is the primary one, if there are two. -/
def mailed (first : String) (second : List String) : Record :=
  [("mails", .list (.record [("value", .text first)] ::
    second.map fun address => .record [("value", .text address), ("primary", .bool true)]))]

theorem get_mailed (first : String) (second : List String) :
    (mailed first second).get (Place.ofPath boundEmails.path) = .list (.record [("value", .text first)] ::
      second.map fun address => .record [("value", .text address), ("primary", .bool true)]) := by
  refine (Record.getAttr_name (mailed first second) emails.name).trans ?_
  have hname : emails.name.text = "mails" := by rfl
  simp [mailed, hname, Record.value, Entries.get?_cons]

/-- Users with one address each are sorted alike by both paths. -/
theorem sorts_by_value_of_single_addresses :
    mailAttributes.Reachable { schemas := [⟨userUri, false⟩] } ∧ ValueOf mailAttributes boundEmails boundValue ∧
      sort ⟨boundEmails.path, true⟩ mailAttributes [mailed "m" [], mailed "a" []] =
        sort ⟨boundValue.path, true⟩ mailAttributes [mailed "m" [], mailed "a" []] ∧
      ∃ other,
        sort ⟨boundEmails.path, true⟩ mailAttributes [other, mailed "a" ["z"]] ≠
            sort ⟨boundValue.path, true⟩ mailAttributes [other, mailed "a" ["z"]] ∨
          sort ⟨boundEmails.path, true⟩ mailAttributes [mailed "a" ["z"], other] ≠
            sort ⟨boundValue.path, true⟩ mailAttributes [mailed "a" ["z"], other] := by
  obtain ⟨-, -, -, hfirst, halike, hapart⟩ := sorts_by_value mailAttributes_reachable valueOf_emails true
  have hone : ∀ address, FirstCounts ((mailed address []).get (Place.ofPath boundEmails.path)) :=
    fun address => get_mailed address [] ▸ firstCounts_singleton [("value", .text address)]
  have hkeys : ∀ item ∈ [mailed "m" [], mailed "a" []], keyAt boundEmails item = keyAt boundValue item := by
    simp only [List.forall_mem_cons]
    exact ⟨hfirst (.inl rfl) _ (hone "m"), hfirst (.inl rfl) _ (hone "a"), by simp⟩
  refine ⟨mailAttributes_reachable, valueOf_emails, halike _ hkeys, hapart _ ?_⟩
  decide +kernel

/-- Not every list is sorted alike by both paths: of two users the one whose later address is primary comes second by
the path of the addresses, and first by the path of their values. -/
theorem sort_later_primary :
    ¬ ∀ (catalog : Catalog) (attrs : SchemaAttributes), attrs.Reachable catalog → ∀ attr sub : Attribute,
      ValueOf attrs attr sub → ∀ (ascending : Bool) (items : List Record),
        sort ⟨attr.path, ascending⟩ attrs items = sort ⟨sub.path, ascending⟩ attrs items := by
  intro hall
  have hsame := hall _ _ mailAttributes_reachable _ _ valueOf_emails true [mailed "a" ["z"], mailed "m" []]
  have hemails : sort ⟨boundEmails.path, true⟩ mailAttributes [mailed "a" ["z"], mailed "m" []] =
      .ok (sortByKeys true [.text "z", .text "m"] [mailed "a" ["z"], mailed "m" []]) := by rfl
  have hvalues : sort ⟨boundValue.path, true⟩ mailAttributes [mailed "a" ["z"], mailed "m" []] =
      .ok (sortByKeys true [.text "a", .text "m"] [mailed "a" ["z"], mailed "m" []]) := by rfl
  have horders := Except.ok.inj (hemails.symm.trans (hsame.trans hvalues))
  rw [sortByKeys_pair, sortByKeys_pair, if_neg (by decide), if_pos (by decide)] at horders
  simp [mailed] at horders

end Sorting

end Scim
