import Mathlib.Data.List.Induction
import Scim.Proofs.Schema.Reachable

/-!
# Collecting declarations

A collection is made of a sequence of declarations in one pass.  A declaration with a new name is put at the end, and
one that repeats a name takes the place of the declaration before it, casing included.  So the order comes from the
first declarations of the names and the contents come from the last ones.

One equation carries this from step to step: the collection of what was given so far consists of the names in the
order of their first occurrence, each with the last declaration of it.  One more declaration changes what stands
under its own name and nothing else.  That a name finds its last declaration follows, because names differ; and they
go on to differ in all that is made of a collection by leaving attributes out and by binding.

## Main results

* `lastNamed?_eq_some_iff`: which declaration is the last one of a name.
* `collect_eq`: the collection as a whole.
* `find?_folded_collect`: what is found in it.
* `mem_collect_iff`, `folded_collect`: what is collected, and in which order.
* `collects_declarations`: the whole statement.
-/

namespace Scim

open Text

/-! ## First occurrences -/

section FirstOccurrences

variable {α : Type} [BEq α] [LawfulBEq α]

/-- One more item is a different one if it was not there before. -/
theorem eraseDups_concat (items : List α) (item : α) :
    (items ++ [item]).eraseDups = items.eraseDups ++ if item ∈ items then [] else [item] := by
  rw [List.eraseDups_append, List.removeAll, List.filter_singleton]
  by_cases hold : item ∈ items
  · simp [hold]
  · simp [hold]
    rfl

theorem nodup_eraseDups (items : List α) : items.eraseDups.Nodup := by
  induction items using List.reverseRecOn with
  | nil => exact List.nodup_nil
  | append_singleton items item ih =>
    rw [eraseDups_concat]
    by_cases hold : item ∈ items
    · rwa [if_pos hold, List.append_nil]
    · rw [if_neg hold]
      refine List.Nodup.append ih (List.nodup_singleton item) ?_
      rintro other hother hlast
      rw [List.mem_singleton.1 hlast] at hother
      exact hold (List.mem_eraseDups.1 hother)

end FirstOccurrences

namespace Attributes

/-- The names of attributes in lower case, in order. -/
def folded (attrs : List Attribute) : List String := attrs.map fun attr => attr.name.folded

/-- The last declaration of a name, which is given in lower case. -/
def lastNamed? (given : List Attribute) (name : String) : Option Attribute :=
  (given.filter fun attr => attr.name.folded == name).getLast?

/-- A declaration of the sequence after which its name is not declared again. -/
def LastOfName (given : List Attribute) (attr : Attribute) : Prop :=
  ∃ before after, given = before ++ attr :: after ∧ ∀ other ∈ after, other.name.folded ≠ attr.name.folded

variable {given : List Attribute} {attrs : Attributes} {attr : Attribute} {name : String}

/-! ## Last declarations -/

/-- One more declaration is the last one of its name. -/
theorem lastNamed?_concat (given : List Attribute) (attr : Attribute) (name : String) :
    lastNamed? (given ++ [attr]) name = if attr.name.folded = name then some attr else lastNamed? given name := by
  rw [lastNamed?, List.filter_append, List.filter_singleton]
  by_cases hname : attr.name.folded = name
  · simp [hname]
  · rw [beq_false_of_ne hname, if_neg hname, lastNamed?]
    simp

theorem lastNamed?_eq_none_iff : lastNamed? given name = none ↔ ∀ attr ∈ given, attr.name.folded ≠ name := by
  simp [lastNamed?]

theorem lastNamed?_eq_some_iff :
    lastNamed? given name = some attr ↔ LastOfName given attr ∧ attr.name.folded = name := by
  rw [lastNamed?, List.getLast?_eq_some_iff]
  constructor
  · rintro ⟨earlier, hnamed⟩
    obtain ⟨before, rest, rfl, -, hrest⟩ := List.filter_eq_append_iff.1 hnamed
    obtain ⟨others, after, rfl, -, hname, hafter⟩ := List.filter_eq_cons_iff.1 hrest
    have hsame : attr.name.folded = name := beq_iff_eq.1 hname
    refine ⟨⟨before ++ others, after, (List.append_assoc _ _ _).symm, fun other hother => ?_⟩, hsame⟩
    have hdiffers := List.filter_eq_nil_iff.1 hafter other hother
    rwa [beq_iff_eq, ← hsame] at hdiffers
  · rintro ⟨⟨before, after, rfl, hafter⟩, rfl⟩
    have hnone : (after.filter fun other => other.name.folded == attr.name.folded) = [] :=
      List.filter_eq_nil_iff.2 fun other hother => by simpa using hafter other hother
    refine ⟨before.filter fun other => other.name.folded == attr.name.folded, ?_⟩
    rw [List.filter_append, List.filter_cons, hnone]
    simp

theorem folded_of_lastNamed? (h : lastNamed? given name = some attr) : attr.name.folded = name :=
  (lastNamed?_eq_some_iff.1 h).2

theorem LastOfName.mem (h : LastOfName given attr) : attr ∈ given := by
  obtain ⟨before, after, rfl, -⟩ := h
  exact List.mem_append_cons_self

/-- Every name of the sequence has a last declaration. -/
theorem exists_lastNamed? (h : name ∈ folded given) : ∃ last, lastNamed? given name = some last := by
  cases hlast : lastNamed? given name with
  | some last => exact ⟨last, rfl⟩
  | none =>
    obtain ⟨attr, hattr, hname⟩ := List.mem_map.1 h
    exact absurd hname (lastNamed?_eq_none_iff.1 hlast attr hattr)

/-! ## One more declaration -/

/-- A new name is put at the end. -/
theorem put_of_new (h : ∀ other ∈ attrs, other.name.folded ≠ attr.name.folded) : attrs.put attr = attrs ++ [attr] := by
  refine if_neg fun hany => ?_
  obtain ⟨other, hother, hsame⟩ := List.any_eq_true.1 hany
  exact h other hother (AttrName.beq_iff.1 hsame)

/-- A declaration takes the place of the one whose name it repeats. -/
theorem put_of_repeated (h : ∃ other ∈ attrs, other.name.folded = attr.name.folded) :
    attrs.put attr = attrs.map fun other => if other.name == attr.name then attr else other := by
  obtain ⟨other, hother, hsame⟩ := h
  have hany : (attrs.any fun other => other.name == attr.name) = true :=
    List.any_eq_true.2 ⟨other, hother, AttrName.beq_iff.2 hsame⟩
  rw [put, if_pos hany]

/-- Writing one more declaration over the last one of its name makes it the last one. -/
theorem map_lastNamed? {names : List String} (hnames : ∀ name ∈ names, name ∈ folded given) (attr : Attribute) :
    (names.filterMap (lastNamed? given)).map (fun other => if other.name == attr.name then attr else other) =
      names.filterMap (lastNamed? (given ++ [attr])) := by
  rw [List.map_filterMap]
  refine List.filterMap_congr fun name hname => ?_
  obtain ⟨last, hlast⟩ := exists_lastNamed? (hnames name hname)
  have hsame : (last.name == attr.name) = true ↔ attr.name.folded = name := by
    rw [AttrName.beq_iff, folded_of_lastNamed? hlast, eq_comm]
  rw [lastNamed?_concat, hlast]
  simp only [Option.map_some, hsame]
  split <;> rfl

/-- Under other names it changes nothing. -/
theorem filterMap_lastNamed?_concat {names : List String} (hnew : attr.name.folded ∉ names) :
    names.filterMap (lastNamed? (given ++ [attr])) = names.filterMap (lastNamed? given) := by
  refine List.filterMap_congr fun name hname => ?_
  have hother : attr.name.folded ≠ name := by
    rintro rfl
    exact hnew hname
  rw [lastNamed?_concat, if_neg hother]

/-- The collection consists of the different names in the order of their first occurrence, each with its last
declaration. -/
theorem collect_eq (given : List Attribute) :
    collect given = (folded given).eraseDups.filterMap (lastNamed? given) := by
  induction given using List.reverseRecOn with
  | nil => rfl
  | append_singleton given attr ih =>
    have hstep : collect (given ++ [attr]) = (collect given).put attr := by
      rw [collect, List.foldl_append]
      rfl
    -- whether the name is in the collection is whether it was given before
    have hcollected : ∀ other, other ∈ collect given ↔ ∃ name ∈ folded given, lastNamed? given name = some other := by
      intro other
      simp only [ih, List.mem_filterMap, List.mem_eraseDups]
    have hnames : folded (given ++ [attr]) = folded given ++ [attr.name.folded] := List.map_append
    rw [hstep, hnames, eraseDups_concat]
    by_cases hold : attr.name.folded ∈ folded given
    · have hrepeated : ∃ other ∈ collect given, other.name.folded = attr.name.folded := by
        obtain ⟨last, hlast⟩ := exists_lastNamed? hold
        exact ⟨last, (hcollected last).2 ⟨_, hold, hlast⟩, folded_of_lastNamed? hlast⟩
      rw [put_of_repeated hrepeated, if_pos hold, List.append_nil, ih]
      exact map_lastNamed? (fun name => List.mem_eraseDups.1) attr
    · have hnew : ∀ other ∈ collect given, other.name.folded ≠ attr.name.folded := by
        intro other hother hsame
        obtain ⟨name, hname, hlast⟩ := (hcollected other).1 hother
        rw [← folded_of_lastNamed? hlast, hsame] at hname
        exact hold hname
      rw [put_of_new hnew, if_neg hold, List.filterMap_append, ih]
      congr 1
      · exact (filterMap_lastNamed?_concat fun hname => hold (List.mem_eraseDups.1 hname)).symm
      · simp [lastNamed?_concat]

/-! ## What is collected and what is found -/

/-- What is collected are the last declarations of the names. -/
theorem mem_collect_iff : attr ∈ collect given ↔ LastOfName given attr := by
  rw [collect_eq, List.mem_filterMap]
  constructor
  · rintro ⟨name, -, hlast⟩
    exact (lastNamed?_eq_some_iff.1 hlast).1
  · intro hlast
    have hname : attr.name.folded ∈ folded given := List.mem_map.2 ⟨attr, hlast.mem, rfl⟩
    exact ⟨_, List.mem_eraseDups.2 hname, lastNamed?_eq_some_iff.2 ⟨hlast, rfl⟩⟩

/-- The names are the different names of the sequence, in the order of their first occurrence. -/
theorem folded_collect (given : List Attribute) : folded (collect given) = (folded given).eraseDups := by
  rw [folded, collect_eq, List.map_filterMap]
  refine (List.filterMap_congr fun name hname => ?_).trans List.filterMap_some
  obtain ⟨last, hlast⟩ := exists_lastNamed? (List.mem_eraseDups.1 hname)
  rw [hlast, Option.map_some, folded_of_lastNamed? hlast]

/-- A name, given in lower case, finds its last declaration. -/
theorem find?_folded_collect (given : List Attribute) (name : String) :
    List.find? (fun attr => attr.name.folded == name) (collect given) = lastNamed? given name := by
  cases hlast : lastNamed? given name with
  | none =>
    refine List.find?_eq_none.2 fun attr hattr hname => ?_
    exact lastNamed?_eq_none_iff.1 hlast attr (mem_of_mem_collect hattr) (beq_iff_eq.1 hname)
  | some last =>
    obtain ⟨hlastOf, rfl⟩ := lastNamed?_eq_some_iff.1 hlast
    exact (collect_distinct given).find?_of_mem (mem_collect_iff.2 hlastOf)

theorem find?_collect (given : List Attribute) (name : AttrName) :
    (collect given).find? name = lastNamed? given name.folded := find?_folded_collect given _

theorem spelled?_collect (given : List Attribute) (text : String) :
    (collect given).spelled? text = lastNamed? given (lower text) := find?_folded_collect given _

/-- Whatever sequence of declarations is collected: the names of the collection differ, they are the different names of
the sequence in the order of their first occurrence, and what stands under each is its last declaration.  A name in any
casing finds the last declaration of it, and nothing if the sequence has none, whether it is given as a name or as a
text.  Leaving attributes out and binding them keep the names different, in a collection and in those below it. -/
theorem collects_declarations (given : List Attribute) :
    ((collect given).DistinctNames ∧ folded (collect given) = (folded given).eraseDups ∧
      ∀ attr, attr ∈ collect given ↔ LastOfName given attr) ∧
    (∀ name,
      (∀ attr, (collect given).find? name = some attr ↔
        LastOfName given attr ∧ attr.name.folded = name.folded) ∧
      ((collect given).find? name = none ↔ ∀ attr ∈ given, attr.name.folded ≠ name.folded)) ∧
    (∀ text,
      (∀ attr, (collect given).spelled? text = some attr ↔
        LastOfName given attr ∧ attr.name.folded = lower text) ∧
      ((collect given).spelled? text = none ↔ ∀ attr ∈ given, attr.name.folded ≠ lower text) ∧
      ∀ name, AttrName.parse text = .ok name → (collect given).spelled? text = (collect given).find? name) ∧
    (∀ (attrs : Attributes) (keep : Keep), attrs.DistinctNames → DistinctNames (restrictAll keep attrs)) ∧
    (∀ set : AttributeSet, set.declared.DistinctNames →
      set.attrs.DistinctNames ∧ ∀ keep, (set.restrict keep).attrs.DistinctNames) ∧
    ∀ attr : Attribute, attr.WellNamed →
      (∀ keep, (attr.restrict keep).WellNamed) ∧ ∀ path, (attr.bindTo path).WellNamed := by
  refine ⟨⟨collect_distinct given, folded_collect given, fun _ => mem_collect_iff⟩, fun name => ?_, fun text => ?_,
    fun attrs keep h => h.restrictAll keep, fun set h => ⟨?_, fun keep => ?_⟩,
    fun attr h => ⟨fun keep => h.restrict keep, fun path => h.bindTo path⟩⟩
  · rw [find?_collect]
    exact ⟨fun _ => lastNamed?_eq_some_iff, lastNamed?_eq_none_iff⟩
  · rw [spelled?_collect]
    refine ⟨fun _ => lastNamed?_eq_some_iff, lastNamed?_eq_none_iff, fun name hname => ?_⟩
    rw [find?_collect, AttrName.parse_eq_ok.1 hname, AttrName.folded]
  · exact h.map fun _ => rfl
  · exact (h.restrictAll keep).map fun _ => rfl

/-- Two names, of which the first is declared once more in another casing, then as a required one. -/
def declaredTwice : List Attribute := [
  .simple ⟨"hue", by decide⟩ .string {},
  .simple ⟨"tag", by decide⟩ .string {},
  .simple ⟨"HUE", by decide⟩ .string { required := true }]

/-- The second declaration stands in the place of the first, also after the collection was bound to a schema. -/
theorem collects_declarations_twice :
    (collect declaredTwice).map (·.name.text) = ["HUE", "tag"] ∧
      (collect declaredTwice).spelled? "Hue" = declaredTwice.getLast? ∧
      Attributes.DistinctNames (restrictAll (·.traits.required) (collect declaredTwice)) ∧
      (AttributeSet.mk SchemaAttributes.personUri false false (collect declaredTwice) []).attrs.DistinctNames ∧
      ∀ keep, (SchemaAttributes.nameInParts.restrict keep).WellNamed := by
  obtain ⟨⟨hdistinct, -⟩, -, htext, hrestrict, hbind, hbelow⟩ := collects_declarations declaredTwice
  refine ⟨by rfl, ?_, hrestrict _ _ hdistinct, (hbind _ hdistinct).1,
    (hbelow _ SchemaAttributes.nameInParts_made.wellNamed).1⟩
  exact ((htext "Hue").1 _).2 ⟨⟨declaredTwice.take 2, [], by rfl, by simp⟩, by decide +kernel⟩

end Attributes

end Scim
