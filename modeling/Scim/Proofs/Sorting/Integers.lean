import Scim.Proofs.Number.Rounding
import Scim.Proofs.Sorting.Order

/-!
# Sorting by integers

Integers are sorted by the doubles nearest to them.  Rounding keeps their order, so a sorted list is never wrong about
two integers of different doubles.  But from 2⁵³ on several integers have the same double.  Such integers are equal
for the sorting, which leaves them in the order in which they came, be it the right one or not.

## Main results

* `keyOf_integer`: what a resource with an integer is sorted by.
* `pair_sublist_iff`: two resources of the same key stand in a sorted list as they stood before.
* `sorts_integers`: when integers are sorted by their values.
* `sort_large_integers`: two integers that are not.
-/

namespace Scim.Sorting

open Binary64

/-- The resource has an integer under the path that is sorted by. -/
def HasInteger (sorting : Sorting) (item : Record) (n : Int) : Prop :=
  item.get (Place.ofPath sorting.path) = .number (.int n)

/-- The integers of two resources stand in the order of the direction. -/
def InOrderOfIntegers (sorting : Sorting) (a b : Record) : Prop :=
  ∀ m n, sorting.HasInteger a m → sorting.HasInteger b n → if sorting.ascending then m ≤ n else n ≤ m

/-- The integers of two resources have the same nearest double. -/
def SameDouble (sorting : Sorting) (a b : Record) : Prop :=
  ∀ m n, sorting.HasInteger a m → sorting.HasInteger b n → unitsOfInt m = unitsOfInt n

variable {sorting : Sorting} {attr : Attribute} {a b : Record} {m n : Int}

theorem HasInteger.unique (h : sorting.HasInteger a m) (hother : sorting.HasInteger a n) : m = n := by
  have hsame := h.symm.trans hother
  cases hsame
  rfl

/-- A resource with an integer is sorted by the nearest double. -/
theorem keyOf_integer (hsingle : attr.traits.multiValued = false) (h : sorting.HasInteger a n) :
    sorting.keyOf (some attr) a = .number (unitsOfInt n) := by
  have hget : a.get (Place.ofPath sorting.path) = .number (.int n) := h
  rw [keyOf, hget, ofAttribute_of_decides (.first (.inl hsingle))]
  rfl

theorem sameDouble_iff (hsingle : attr.traits.multiValued = false) (ha : sorting.HasInteger a m)
    (hb : sorting.HasInteger b n) :
    sorting.SameDouble a b ↔ sorting.keyOf (some attr) a = sorting.keyOf (some attr) b := by
  rw [keyOf_integer hsingle ha, keyOf_integer hsingle hb, SortKey.number.injEq]
  constructor
  · exact fun h => h m n ha hb
  · intro h m' n' ha' hb'
    rw [ha'.unique ha, hb'.unique hb]
    exact h

/-- Integers of different doubles that may stand one before the other do so by their values. -/
theorem inOrder_or_sameDouble (hsingle : attr.traits.multiValued = false) (ha : sorting.HasInteger a m)
    (hb : sorting.HasInteger b n)
    (hbefore : SortKey.InOrder sorting.ascending (sorting.keyOf (some attr) a) (sorting.keyOf (some attr) b)) :
    sorting.SameDouble a b ∨ sorting.InOrderOfIntegers a b := by
  rw [sameDouble_iff hsingle ha hb]
  rw [keyOf_integer hsingle ha, keyOf_integer hsingle hb] at hbefore ⊢
  refine or_iff_not_imp_left.2 fun hne m' n' ha' hb' => ?_
  rw [ha'.unique ha, hb'.unique hb]
  rw [SortKey.number.injEq] at hne
  cases hbefore with
  | rising hdirection hle =>
    cases hle with
    | number hle =>
      rw [hdirection]
      exact Int.le_of_lt (lt_of_unitsOfInt_lt (Int.lt_iff_le_and_ne.2 ⟨hle, hne⟩))
  | falling hdirection hle =>
    cases hle with
    | number hle =>
      rw [hdirection]
      exact Int.le_of_lt (lt_of_unitsOfInt_lt (Int.lt_iff_le_and_ne.2 ⟨hle, Ne.symm hne⟩))

/-- Two resources of the same key stand in a sorted list as they stood before. -/
theorem pair_sublist_iff {key : Record → SortKey} {items sorted : List Record}
    (hkept : ∀ sortKey, (sorted.filter fun item => key item = sortKey) = items.filter fun item => key item = sortKey)
    (hsame : key a = key b) : [a, b].Sublist sorted ↔ [a, b].Sublist items := by
  have hfilter : ∀ list : List Record,
      [a, b].Sublist list ↔ [a, b].Sublist (list.filter fun item => key item = key b) := by
    intro list
    constructor
    · intro h
      have hpair := h.filter fun item => key item = key b
      simpa [hsame] using hpair
    · exact fun h => h.trans List.filter_sublist
  rw [hfilter, hkept, ← hfilter]

/-- A sorted list is in the order of the integers if those of the same double were so before. -/
theorem pairwise_iff_of_sameDouble (hsingle : attr.traits.multiValued = false) {items sorted : List Record}
    (hperm : sorted.Perm items) (hintegers : ∀ item ∈ items, ∃ n, sorting.HasInteger item n)
    (hkept : ∀ key, (sorted.filter fun item => sorting.keyOf (some attr) item = key) =
      items.filter fun item => sorting.keyOf (some attr) item = key)
    (hordered : sorted.Pairwise fun a b => sorting.SameDouble a b ∨ sorting.InOrderOfIntegers a b) :
    sorted.Pairwise sorting.InOrderOfIntegers ↔
      items.Pairwise fun a b => sorting.SameDouble a b → sorting.InOrderOfIntegers a b := by
  have hpairs : ∀ {a b : Record}, a ∈ items → b ∈ items → sorting.SameDouble a b →
      ([a, b].Sublist sorted ↔ [a, b].Sublist items) := by
    intro a b ha hb hsame
    obtain ⟨m, hm⟩ := hintegers a ha
    obtain ⟨n, hn⟩ := hintegers b hb
    exact pair_sublist_iff hkept ((sameDouble_iff hsingle hm hn).1 hsame)
  rw [List.pairwise_iff_forall_sublist] at hordered
  rw [List.pairwise_iff_forall_sublist, List.pairwise_iff_forall_sublist]
  constructor
  · intro h a b hpair hsame
    have hmem := hpair.subset
    exact h ((hpairs (hmem (.head _)) (hmem (.tail _ (.head _))) hsame).2 hpair)
  · intro h a b hpair
    have hmem := fun item hitem => hperm.mem_iff.1 (hpair.subset hitem : item ∈ sorted)
    rcases hordered hpair with hsame | hdone
    · exact h ((hpairs (hmem a (.head _)) (hmem b (.tail _ (.head _))) hsame).1 hpair) hsame
    · exact hdone

/-- Integers of at most 53 bits that have the same double are the same. -/
theorem SameDouble.inOrderOfIntegers (h : sorting.SameDouble a b)
    (ha : ∀ m, sorting.HasInteger a m → m.natAbs ≤ 0x20000000000000)
    (hb : ∀ n, sorting.HasInteger b n → n.natAbs ≤ 0x20000000000000) : sorting.InOrderOfIntegers a b := by
  intro m n hm hn
  have hunits := h m n hm hn
  have hone : (unitsPerOne : Int) ≠ 0 := by decide
  rw [unitsOfInt_eq (ha m hm), unitsOfInt_eq (hb n hn)] at hunits
  have hsame := Int.eq_of_mul_eq_mul_right hone hunits
  split <;> omega

/-- A list with integers is sorted, and by their values exactly if among those of the same double each stands in the
right order already; so it is if no integer has more than 53 bits. -/
theorem sorts_integers (sorting : Sorting) (attrs : SchemaAttributes) (attr : Attribute)
    (hfound : attrs.find? sorting.path = .ok (some attr)) (hsingle : attr.traits.multiValued = false)
    (items : List Record) (hintegers : ∀ item ∈ items, ∃ n, sorting.HasInteger item n) :
    ∃ sorted, sorting.sort attrs items = .ok sorted ∧ sorted.Perm items ∧
      (sorted.Pairwise fun a b => sorting.SameDouble a b ∨ sorting.InOrderOfIntegers a b) ∧
      (sorted.Pairwise sorting.InOrderOfIntegers ↔
        items.Pairwise fun a b => sorting.SameDouble a b → sorting.InOrderOfIntegers a b) ∧
      ((∀ item ∈ items, ∀ n, sorting.HasInteger item n → n.natAbs ≤ 0x20000000000000) →
        sorted.Pairwise sorting.InOrderOfIntegers) := by
  have halike : ∀ a ∈ items, ∀ b ∈ items,
      ¬SortKey.Differ (sorting.keyOf (some attr) a) (sorting.keyOf (some attr) b) := by
    rintro a ha b hb ⟨left, right, hleft, hright, hne⟩
    obtain ⟨m, hm⟩ := hintegers a ha
    obtain ⟨n, hn⟩ := hintegers b hb
    rw [keyOf_integer hsingle hm] at hleft
    rw [keyOf_integer hsingle hn] at hright
    exact hne (Option.some.inj (hleft.symm.trans hright))
  have hsort := (sort_eq_ok_iff hfound).2 ⟨halike, rfl⟩
  generalize items.mergeSort (mayPrecede sorting.ascending (sorting.keyOf (some attr))) = sorted at hsort
  have hperm := perm_of_sort hfound hsort
  have hordered : sorted.Pairwise fun a b => sorting.SameDouble a b ∨ sorting.InOrderOfIntegers a b := by
    refine (inOrder_of_sort hfound hsort).imp_of_mem fun ha hb hbefore => ?_
    obtain ⟨m, hm⟩ := hintegers _ (hperm.mem_iff.1 ha)
    obtain ⟨n, hn⟩ := hintegers _ (hperm.mem_iff.1 hb)
    exact inOrder_or_sameDouble hsingle hm hn hbefore
  have hiff := pairwise_iff_of_sameDouble hsingle hperm hintegers (filter_of_sort hfound hsort) hordered
  refine ⟨sorted, hsort, hperm, hordered, hiff, fun hsmall => hordered.imp_of_mem fun ha hb hbefore => ?_⟩
  rcases hbefore with hsame | hdone
  · exact hsame.inOrderOfIntegers (hsmall _ (hperm.mem_iff.1 ha)) (hsmall _ (hperm.mem_iff.1 hb))
  · exact hdone

/-! ## Files by their sizes -/

/-- The size of a file. -/
def size : Attribute := .simple ⟨"size", by decide⟩ .integer {}

/-- The schema of files. -/
def fileAttributes : SchemaAttributes where
  own := { schema := userUri, extension := false, declared := [size] }

/-- By the sizes of files, from the smallest one to the largest one. -/
def bySize : Sorting := ⟨.unbound ⟨size.name, none⟩, true⟩

/-- The attribute that the path leads to. -/
def boundSize : Attribute := size.bindTo ⟨userUri, false, ⟨size.name, none⟩⟩

theorem find?_size : fileAttributes.find? bySize.path = .ok (some boundSize) := by rfl

/-- A file of a size. -/
def sized (n : Int) : Record := [("size", .number (.int n))]

theorem hasInteger_sized (n : Int) : bySize.HasInteger (sized n) n := by
  have hget : (sized n).get (Place.ofPath bySize.path) = Record.value (sized n) "size" :=
    Record.getAttr_name (sized n) size.name
  rw [HasInteger, hget]
  simp [sized, Record.value, Entries.get?_cons]

theorem sorts_integers_sized :
    fileAttributes.find? bySize.path = .ok (some boundSize) ∧ boundSize.traits.multiValued = false ∧
      (∀ item ∈ [sized 0x20000000000000, sized (-7)], ∃ n, bySize.HasInteger item n) ∧
      ∃ sorted, bySize.sort fileAttributes [sized 0x20000000000000, sized (-7)] = .ok sorted ∧
        sorted.Perm [sized 0x20000000000000, sized (-7)] ∧ sorted.Pairwise bySize.InOrderOfIntegers := by
  have hintegers : ∀ item ∈ [sized 0x20000000000000, sized (-7)], ∃ n, bySize.HasInteger item n := by
    intro item hitem
    rcases List.mem_cons.1 hitem with rfl | hitem
    · exact ⟨_, hasInteger_sized _⟩
    · rw [List.mem_singleton.1 hitem]
      exact ⟨_, hasInteger_sized _⟩
  obtain ⟨sorted, hsort, hperm, -, -, hexact⟩ :=
    sorts_integers bySize fileAttributes boundSize find?_size rfl _ hintegers
  refine ⟨find?_size, rfl, hintegers, sorted, hsort, hperm, hexact fun item hitem n hn => ?_⟩
  rcases List.mem_cons.1 hitem with rfl | hitem
  · rw [hn.unique (hasInteger_sized _)]
    decide
  · rw [List.mem_singleton.1 hitem] at hn
    rw [hn.unique (hasInteger_sized _)]
    decide

/-- Not all integers are sorted by their values: 2⁵³ + 1 is left in front of 2⁵³. -/
theorem sort_large_integers :
    ¬ ∀ (sorting : Sorting) (attrs : SchemaAttributes) (attr : Attribute),
      attrs.find? sorting.path = .ok (some attr) → attr.kind = .integer → attr.traits.multiValued = false →
      ∀ items : List Record,
        (∀ item ∈ items, ∃ n, sorting.HasInteger item n ∧ -0x8000000000000000 ≤ n ∧ n < 0x10000000000000000) →
        ∀ sorted, sorting.sort attrs items = .ok sorted → sorted.Pairwise sorting.InOrderOfIntegers := by
  intro hall
  have hsort : bySize.sort fileAttributes [sized 0x20000000000001, sized 0x20000000000000] =
      .ok [sized 0x20000000000001, sized 0x20000000000000] := by
    refine (sort_eq_ok_iff find?_size).2 ⟨mismatch?_keys_eq_none_iff.1 (by decide +kernel), ?_⟩
    refine List.mergeSort_of_pairwise (List.pairwise_pair.2 ?_)
    decide +kernel
  have hintegers : ∀ item ∈ [sized 0x20000000000001, sized 0x20000000000000],
      ∃ n, bySize.HasInteger item n ∧ -0x8000000000000000 ≤ n ∧ n < 0x10000000000000000 := by
    intro item hitem
    rcases List.mem_cons.1 hitem with rfl | hitem
    · exact ⟨_, hasInteger_sized _, by decide, by decide⟩
    · rw [List.mem_singleton.1 hitem]
      exact ⟨_, hasInteger_sized _, by decide, by decide⟩
  have hordered := hall bySize fileAttributes boundSize find?_size rfl rfl _ hintegers _ hsort
  have hwrong := List.pairwise_pair.1 hordered _ _ (hasInteger_sized _) (hasInteger_sized _)
  exact absurd hwrong (by decide)

end Scim.Sorting
