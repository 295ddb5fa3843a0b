import Mathlib.Data.List.Pairwise
import Scim.Report.Tree
import Scim.Proofs.Report.Merging

/-!
# What a rendered report shows

A rendered report is one document into which the issues of one location after the other are grafted.  The way to
them is made of the texts of the segments of the location, and the arrays lie on two *shelves* of the object that
the way leads to, one for violations and one for advice.

Two things could go wrong with that.  Two locations could have the same way, or a way could lead through a shelf;
then one array would take the place of another.  Neither happens as long as no key is the name of a shelf or a
numeral, which is the text of an index.  What was grafted before stays where it is, whether the way to it is
longer, shorter or the same up to case, and every object of the document holds objects on the way to further
arrays and nothing else.

Counting looks at the whole document and knows nothing of locations: every element of an array on a shelf is one
issue, at whatever depth.

## Main results

* `Json.shelved?_graft`: a graft changes what lies on one shelf, and nothing on any other.
* `Json.issueCount_graft`: a graft on an empty shelf adds as many issues as it brings.
* `Location.beq_of_way_eq`: locations whose ways are the same are equal.
* `Report.Reachable.tree_shows_recorded`: a rendered report shows what was recorded and nothing else.
-/

namespace Scim

/-! ## Ways and shelves -/

namespace Json

/-- The keys under which the issues found at an object lie. -/
def IsShelf (key : String) : Prop := key = "_errors" ∨ key = "_warnings"

instance (key : String) : Decidable (IsShelf key) := inferInstanceAs (Decidable (_ ∨ _))

/-- The members of the object that a way of keys leads to. -/
def node? (members : List (String × Json)) : List String → Option (List (String × Json))
  | [] => some members
  | step :: steps =>
    match members.lookup step with
    | some (.object inner) => node? inner steps
    | _ => none

/-- What lies under a key of the object that a way leads to. -/
def shelved? (members : List (String × Json)) (way : List String) (key : String) : Option Json :=
  (node? members way).bind fun node => node.lookup key

variable {members inner : List (String × Json)} {step key : String} {steps way : List String} {value : Json}

theorem node?_of_object (h : members.lookup step = some (.object inner)) (steps : List String) :
    node? members (step :: steps) = node? inner steps := by
  simp [node?, h]

theorem node?_of_no_object (h : ∀ inner, members.lookup step ≠ some (.object inner)) (steps : List String) :
    node? members (step :: steps) = none := by
  unfold node?
  split
  · next inner hlookup => exact absurd hlookup (h inner)
  · rfl

theorem node?_congr {other : List (String × Json)} (h : members.lookup step = other.lookup step)
    (steps : List String) : node? members (step :: steps) = node? other (step :: steps) := by
  simp [node?, h]

/-! ## Setting a member -/

theorem lookup_of_not_mem (h : key ∉ members.map Prod.fst) : members.lookup key = none := by
  rw [List.lookup_eq_none_iff]
  intro member hmember
  rw [bne_iff_ne]
  rintro rfl
  exact h (List.mem_map_of_mem hmember)

/-- Setting a member of a key that is not in use changes nothing but what it adds. -/
private theorem map_put_of_not_mem (h : key ∉ members.map Prod.fst) (value : Json) :
    (members.map fun m => if m.1 == key then (key, value) else m) = members := by
  refine (List.map_congr_left fun member hmember => if_neg fun hkey => h ?_).trans (List.map_id' members)
  exact List.mem_map.2 ⟨member, hmember, by simpa using hkey⟩

/-- A member is set at the end if its key is not in use, and else in the place of the one member of that key. -/
theorem put_cases (hkeys : (members.map Prod.fst).Nodup) (key : String) (value : Json) :
    (members.lookup key = none ∧ key ∉ members.map Prod.fst ∧ put members key value = members ++ [(key, value)]) ∨
      ∃ before old after, members = before ++ (key, old) :: after ∧ members.lookup key = some old ∧
        put members key value = before ++ (key, value) :: after := by
  by_cases hmem : key ∈ members.map Prod.fst
  · right
    obtain ⟨⟨found, old⟩, hmember, rfl⟩ := List.mem_map.1 hmem
    obtain ⟨before, after, rfl⟩ := List.append_of_mem hmember
    rw [List.map_append, List.map_cons, List.nodup_append, List.nodup_cons] at hkeys
    obtain ⟨-, ⟨hafter, -⟩, hbefore⟩ := hkeys
    have hbefore : found ∉ before.map Prod.fst := fun h => hbefore found h found List.mem_cons_self rfl
    refine ⟨before, old, after, rfl, ?_, ?_⟩
    · rw [List.lookup_append, lookup_of_not_mem hbefore, List.lookup_cons]
      simp
    · rw [put, if_pos (by simp), List.map_append, List.map_cons, map_put_of_not_mem hbefore,
        map_put_of_not_mem hafter]
      simp
  · left
    refine ⟨lookup_of_not_mem hmem, hmem, if_neg fun hany => hmem ?_⟩
    obtain ⟨member, hmember, hkey⟩ := List.any_eq_true.1 hany
    exact List.mem_map.2 ⟨member, hmember, by simpa using hkey⟩

theorem lookup_put_of_ne (hkeys : (members.map Prod.fst).Nodup) {other : String} (h : other ≠ key) (value : Json) :
    (put members key value).lookup other = members.lookup other := by
  have hkey : (other == key) = false := beq_eq_false_iff_ne.2 h
  obtain ⟨-, -, hput⟩ | ⟨before, old, after, rfl, -, hput⟩ := put_cases hkeys key value
  · rw [hput, List.lookup_append, List.lookup_cons, hkey]
    simp
  · rw [hput, List.lookup_append, List.lookup_append, List.lookup_cons, List.lookup_cons, hkey]

theorem nodup_put (hkeys : (members.map Prod.fst).Nodup) (key : String) (value : Json) :
    ((put members key value).map Prod.fst).Nodup := by
  obtain ⟨-, hnew, hput⟩ | ⟨before, old, after, rfl, -, hput⟩ := put_cases hkeys key value
  · rw [hput, List.map_append]
    exact List.nodup_append.2 ⟨hkeys, by simp, fun a ha b hb hab => hnew (by simp_all)⟩
  · rw [hput]
    simpa using hkeys

/-! ## Objects that hold objects -/

/-- At the object and at every object below it, no key is repeated and no shelf holds an object. -/
structure Legible (members : List (String × Json)) : Prop where
  keys : ∀ way node, node? members way = some node → (node.map Prod.fst).Nodup
  shelves : ∀ way key inner, IsShelf key → shelved? members way key ≠ some (.object inner)

namespace Legible

theorem nil : Legible [] where
  keys way node hnode := by
    cases way with
    | nil =>
      cases hnode
      exact List.nodup_nil
    | cons step steps => cases hnode
  shelves way key inner _ := by
    cases way <;> simp [shelved?, node?]

theorem below (h : Legible members) (hlookup : members.lookup step = some (.object inner)) : Legible inner where
  keys way node hnode := h.keys (step :: way) node (by rwa [node?_of_object hlookup])
  shelves way key object hkey := by
    have hshelf := h.shelves (step :: way) key object hkey
    rwa [shelved?, node?_of_object hlookup] at hshelf

theorem nodup (h : Legible members) : (members.map Prod.fst).Nodup := h.keys [] members rfl

/-- What the way to an object goes through is no shelf. -/
theorem node?_of_shelf (h : Legible members) (hstep : IsShelf step) (steps : List String) :
    node? members (step :: steps) = none :=
  node?_of_no_object (fun inner => h.shelves [] step inner hstep) steps

/-- A member may be set that is an object of this kind, or none if the key is a shelf. -/
theorem put (h : Legible members)
    (hvalue : ∀ inner, value = .object inner → ¬ IsShelf key ∧ Legible inner) : Legible (put members key value) := by
  have hself : (Json.put members key value).lookup key = some value := lookup_put members key value
  constructor
  · intro way node hnode
    cases way with
    | nil =>
      cases hnode
      exact nodup_put h.nodup key value
    | cons step steps =>
      by_cases hstep : step = key
      · subst hstep
        cases value with
        | object inner =>
          rw [node?_of_object hself] at hnode
          exact (hvalue inner rfl).2.keys steps node hnode
        | _ =>
          rw [node?_of_no_object (by simp [hself])] at hnode
          cases hnode
      · rw [node?_congr (lookup_put_of_ne h.nodup hstep value)] at hnode
        exact h.keys (step :: steps) node hnode
  · intro way shelf inner hshelf
    cases way with
    | nil =>
      show (Json.put members key value).lookup shelf ≠ _
      by_cases hkey : shelf = key
      · subst hkey
        rw [hself]
        intro hobject
        exact (hvalue inner (Option.some.inj hobject)).1 hshelf
      · rw [lookup_put_of_ne h.nodup hkey]
        exact h.shelves [] shelf inner hshelf
    | cons step steps =>
      unfold shelved?
      by_cases hstep : step = key
      · subst hstep
        cases value with
        | object object =>
          rw [node?_of_object hself]
          exact (hvalue object rfl).2.shelves steps shelf inner hshelf
        | _ =>
          rw [node?_of_no_object (by simp [hself])]
          simp
      · rw [node?_congr (lookup_put_of_ne h.nodup hstep value)]
        exact h.shelves (step :: steps) shelf inner hshelf

end Legible

/-! ## Grafting -/

/-- A graft goes on inside the object of the next step, which is a new one if there is none. -/
theorem graft_cons (members : List (String × Json)) (step : String) (steps : List String) (key : String)
    (value : Json) :
    ∃ inner, graft members (step :: steps) key value = put members step (.object (graft inner steps key value)) ∧
      (members.lookup step = some (.object inner) ∨
        inner = [] ∧ ∀ object, members.lookup step ≠ some (.object object)) := by
  rw [graft]
  split
  · next inner hlookup => exact ⟨inner, rfl, .inl hlookup⟩
  · next hnone => exact ⟨[], rfl, .inr ⟨rfl, hnone⟩⟩

variable {items : List Json}

theorem Legible.graft (h : Legible members) (hsteps : ∀ step ∈ steps, ¬ IsShelf step) (key : String)
    (items : List Json) : Legible (graft members steps key (.list items)) := by
  induction steps generalizing members with
  | nil => exact h.put fun inner hinner => by cases hinner
  | cons step steps ih =>
    obtain ⟨hstep, hrest⟩ := List.forall_mem_cons.1 hsteps
    obtain ⟨inner, hgraft, hinner⟩ := graft_cons members step steps key (.list items)
    rw [hgraft]
    refine h.put fun object hobject => ⟨hstep, ?_⟩
    cases hobject
    rcases hinner with hlookup | ⟨rfl, -⟩
    · exact ih (h.below hlookup) hrest
    · exact ih .nil hrest

/-- A graft changes what lies on one shelf, and nothing on any other. -/
theorem shelved?_graft (h : Legible members) (hsteps : ∀ step ∈ steps, ¬ IsShelf step) (hkey : IsShelf key)
    (items : List Json) (way : List String) {shelf : String} (hshelf : IsShelf shelf) :
    shelved? (graft members steps key (.list items)) way shelf =
      if way = steps ∧ shelf = key then some (.list items) else shelved? members way shelf := by
  induction steps generalizing members way with
  | nil =>
    have hself : (put members key (.list items)).lookup key = some (.list items) := lookup_put members key _
    rw [graft]
    cases way with
    | nil =>
      show (put members key (.list items)).lookup shelf = _
      by_cases hsame : shelf = key
      · rw [hsame, hself]
        simp
      · rw [lookup_put_of_ne h.nodup hsame, if_neg (fun hboth => hsame hboth.2)]
        rfl
    | cons first rest =>
      rw [if_neg (by simp)]
      by_cases hfirst : first = key
      · rw [hfirst, shelved?, shelved?, node?_of_no_object (by simp [hself]), h.node?_of_shelf hkey]
      · rw [shelved?, shelved?, node?_congr (lookup_put_of_ne h.nodup hfirst _)]
  | cons step steps ih =>
    obtain ⟨hstep, hrest⟩ := List.forall_mem_cons.1 hsteps
    obtain ⟨inner, hgraft, hinner⟩ := graft_cons members step steps key (.list items)
    have hself : (graft members (step :: steps) key (.list items)).lookup step =
        some (.object (graft inner steps key (.list items))) := by
      rw [hgraft]
      exact lookup_put members step _
    have hother : ∀ other, other ≠ step →
        (graft members (step :: steps) key (.list items)).lookup other = members.lookup other := by
      intro other hother
      rw [hgraft, lookup_put_of_ne h.nodup hother]
    cases way with
    | nil =>
      rw [if_neg (by simp)]
      exact hother shelf fun hsame => hstep (hsame ▸ hshelf)
    | cons first rest =>
      by_cases hfirst : first = step
      · subst hfirst
        rw [shelved?, node?_of_object hself]
        rcases hinner with hlookup | ⟨rfl, hnone⟩
        · rw [shelved?, node?_of_object hlookup]
          simpa [shelved?] using ih (h.below hlookup) hrest rest
        · have hnothing : shelved? [] rest shelf = none := by cases rest <;> rfl
          rw [shelved?, node?_of_no_object hnone]
          have hinside := ih .nil hrest rest
          rw [hnothing] at hinside
          simpa [shelved?] using hinside
      · rw [if_neg (by simp [hfirst]), shelved?, shelved?, node?_congr (hother first hfirst)]

/-! ## Counting -/

/-- How many items an array has. -/
def itemCount : Json → Nat
  | .list items => items.length
  | _ => 0

mutual

/-- How many issues the arrays on the shelves of a document hold. -/
def issueCount : Json → Nat
  | .object members => membersIssueCount members
  | _ => 0

/-- How many issues members hold: the items of an array on a shelf, or the issues further down. -/
def membersIssueCount : List (String × Json) → Nat
  | [] => 0
  | (key, value) :: members =>
    (if IsShelf key then itemCount value else issueCount value) + membersIssueCount members

end

/-- How many issues one member holds. -/
def memberIssueCount (key : String) (value : Json) : Nat :=
  if IsShelf key then itemCount value else issueCount value

theorem membersIssueCount_cons (key : String) (value : Json) (members : List (String × Json)) :
    membersIssueCount ((key, value) :: members) = memberIssueCount key value + membersIssueCount members := by
  rw [membersIssueCount, memberIssueCount]

theorem membersIssueCount_append (members other : List (String × Json)) :
    membersIssueCount (members ++ other) = membersIssueCount members + membersIssueCount other := by
  induction members with
  | nil => simp [membersIssueCount]
  | cons member members ih =>
    rw [List.cons_append, membersIssueCount_cons, membersIssueCount_cons, ih, Nat.add_assoc]

/-- Setting a member takes the issues of the old one away. -/
theorem membersIssueCount_put (hkeys : (members.map Prod.fst).Nodup) (key : String) (value : Json) :
    membersIssueCount (put members key value) + ((members.lookup key).map (memberIssueCount key)).getD 0 =
      membersIssueCount members + memberIssueCount key value := by
  obtain ⟨hnone, -, hput⟩ | ⟨before, old, after, hmembers, hold, hput⟩ := put_cases hkeys key value
  · rw [hput, hnone, membersIssueCount_append, membersIssueCount_cons]
    simp [membersIssueCount]
  · rw [hput, hold, hmembers, membersIssueCount_append, membersIssueCount_append, membersIssueCount_cons,
      membersIssueCount_cons]
    simp only [Option.map_some, Option.getD_some]
    omega

/-- A graft on an empty shelf adds as many issues as it brings. -/
theorem issueCount_graft (h : Legible members) (hsteps : ∀ step ∈ steps, ¬ IsShelf step) (hkey : IsShelf key)
    (hfree : shelved? members steps key = none) :
    membersIssueCount (graft members steps key (.list items)) = membersIssueCount members + items.length := by
  induction steps generalizing members with
  | nil =>
    have hput := membersIssueCount_put h.nodup key (.list items)
    have hlookup : members.lookup key = none := hfree
    rw [hlookup] at hput
    simpa [graft, memberIssueCount, hkey, itemCount] using hput
  | cons step steps ih =>
    obtain ⟨hstep, hrest⟩ := List.forall_mem_cons.1 hsteps
    obtain ⟨inner, hgraft, hinner⟩ := graft_cons members step steps key (.list items)
    have hput := membersIssueCount_put h.nodup step (.object (graft inner steps key (.list items)))
    rw [hgraft]
    rcases hinner with hlookup | ⟨rfl, hnone⟩
    · rw [shelved?, node?_of_object hlookup] at hfree
      have hinside := ih (h.below hlookup) hrest hfree
      rw [hlookup] at hput
      simp only [Option.map_some, Option.getD_some, memberIssueCount, if_neg hstep, issueCount] at hput
      omega
    · have hinside := ih .nil hrest (by cases steps <;> rfl)
      have hold : ((members.lookup step).map (memberIssueCount step)).getD 0 = 0 := by
        cases hlookup : members.lookup step with
        | none => rfl
        | some old =>
          cases old with
          | object object => exact absurd hlookup (hnone object)
          | _ => simp [memberIssueCount, issueCount, hstep]
      rw [hold] at hput
      simp only [memberIssueCount, if_neg hstep, issueCount] at hput
      simp only [membersIssueCount] at hinside
      omega

end Json

/-! ## Ways of locations -/

/-- A key is neither the name of a shelf nor a numeral. -/
def Segment.Plain : Segment → Prop
  | .key text => ¬ Json.IsShelf text ∧ ∀ n : Nat, text ≠ toString n
  | .index _ => True

/-- The digits that the text of an index is made of. -/
theorem toList_toString (n : Nat) : (toString n).toList = Nat.toDigits 10 n := by
  rw [Nat.toString_eq_repr, Nat.repr_eq_ofList_toDigits, String.toList_ofList]

/-- Indexes of the same text are equal. -/
theorem eq_of_toString_eq {m n : Nat} (h : toString m = toString n) : m = n := by
  have hdigits : Nat.toDigits 10 m = Nat.toDigits 10 n := by rw [← toList_toString, h, toList_toString]
  rw [← Nat.ofDigitChars_toDigits (b := 10) (n := m) (by decide) (by decide), hdigits,
    Nat.ofDigitChars_toDigits (by decide) (by decide)]

/-- A text with a character that is no digit is the text of no index. -/
theorem ne_toString_of_mem {text : String} {c : Char} (hmem : c ∈ text.toList) (hdigit : c.isDigit = false)
    (n : Nat) : text ≠ toString n := by
  rintro rfl
  rw [toList_toString] at hmem
  rw [Nat.isDigit_of_mem_toDigits (by decide) (by decide) hmem] at hdigit
  cases hdigit

theorem Segment.plain_of_any {text : String} (hshelf : ¬ Json.IsShelf text)
    (hany : text.toList.any (!·.isDigit) = true) : (Segment.key text).Plain := by
  obtain ⟨c, hmem, hdigit⟩ := List.any_eq_true.1 hany
  exact ⟨hshelf, ne_toString_of_mem hmem (by simpa using hdigit)⟩

theorem Segment.Plain.not_shelf {segment : Segment} (h : segment.Plain) : ¬ Json.IsShelf segment.text := by
  cases segment with
  | key text => exact h.1
  | index position =>
    rintro (hname | hname)
    · exact ne_toString_of_mem (c := '_') (by decide) (by decide) position hname.symm
    · exact ne_toString_of_mem (c := '_') (by decide) (by decide) position hname.symm

/-- Plain segments of the same text are the same step. -/
theorem Segment.Plain.beq_of_text_eq {a b : Segment} (ha : a.Plain) (hb : b.Plain) (h : a.text = b.text) :
    (a == b) = true := by
  rw [Segment.beq_iff]
  cases a with
  | key text =>
    cases b with
    | key other => rw [show text = other from h]
    | index position => exact absurd h (ha.2 position)
  | index position =>
    cases b with
    | key other => exact absurd h.symm (hb.2 position)
    | index other => rw [eq_of_toString_eq h]

namespace Location

/-- The keys that lead to the object of a location in a rendered report. -/
def way (location : Location) : List String := location.map Segment.text

/-- Locations of plain segments whose ways are the same are equal. -/
theorem beq_of_way_eq {a b : Location} (ha : ∀ segment ∈ a, segment.Plain) (hb : ∀ segment ∈ b, segment.Plain)
    (h : way a = way b) : (a == b) = true := by
  induction a generalizing b with
  | nil =>
    cases b with
    | nil => rfl
    | cons step b => cases h
  | cons first a ih =>
    cases b with
    | nil => cases h
    | cons step b =>
      obtain ⟨hfirst, ha⟩ := List.forall_mem_cons.1 ha
      obtain ⟨hstep, hb⟩ := List.forall_mem_cons.1 hb
      obtain ⟨htext, hway⟩ := List.cons.inj h
      rw [List.cons_beq_cons, hfirst.beq_of_text_eq hstep htext, ih ha hb hway]
      rfl

theorem not_shelf_of_mem_way {location : Location} (h : ∀ segment ∈ location, segment.Plain) {step : String}
    (hstep : step ∈ way location) : ¬ Json.IsShelf step := by
  obtain ⟨segment, hsegment, rfl⟩ := List.mem_map.1 hstep
  exact (h segment hsegment).not_shelf

end Location

namespace Slots

variable {α : Type} {slots : Slots α}

/-- The locations in the order and the casing of their first use. -/
def locations (slots : Slots α) : List Location := slots.map (·.1)

/-- The locations after further ones were used: those of the slots in the casing that they have there, and then
the new ones. -/
def locationsAfter (slots : Slots α) (used : List Location) : List Location :=
  slots.locations ++ used.filter fun location => !slots.has location

theorem locations_update (slots : Slots α) (location : Location) (change : List α → List α) :
    (slots.update location change).locations = slots.locationsAfter [location] := by
  unfold update locationsAfter
  split
  · next hhas =>
    rw [List.filter_cons_of_neg (by simp [hhas]), List.filter_nil, List.append_nil, locations, List.map_map]
    refine List.map_congr_left fun slot _ => ?_
    dsimp only [Function.comp]
    split <;> rfl
  · next hnew =>
    rw [List.filter_cons_of_pos (by simp [hnew]), List.filter_nil, locations, List.map_append]
    rfl

theorem locations_add (slots : Slots α) (location : Location) (issues : List α) :
    (slots.add location issues).locations = slots.locationsAfter [location] := slots.locations_update location _

theorem locations_addAll (slots : Slots α) {other : Slots α} (hd : DistinctLocations other) :
    (slots.addAll other).locations = slots.locationsAfter other.locations := by
  induction other generalizing slots with
  | nil => exact (List.append_nil _).symm
  | cons slot other ih =>
    obtain ⟨hfresh, hd⟩ := List.pairwise_cons.1 hd
    -- the first of the other slots is used by no later one
    have hlater : (locations other).filter (fun location => !(slots.add slot.1 slot.2).has location) =
        (locations other).filter fun location => !slots.has location := by
      refine List.filter_congr fun location hlocation => ?_
      obtain ⟨later, hmem, rfl⟩ := List.mem_map.1 hlocation
      rw [add, has_update, hfresh later hmem, Bool.or_false]
    have hall : (slots.addAll (slot :: other)).locations =
        (slots.add slot.1 slot.2).locationsAfter (locations other) := ih (slots.add slot.1 slot.2) hd
    rw [hall, locationsAfter, hlater, locations_add, locationsAfter, locationsAfter, List.append_assoc,
      ← List.filter_append]
    rfl

theorem locations_merge (slots : Slots α) {other : Slots α} (hd : DistinctLocations other) (start : Location) :
    (slots.merge other start).locations =
      slots.locationsAfter (other.occupied.locations.map (start ++ ·)) := by
  have hocc : DistinctLocations other.occupied := hd.filter _
  rw [merge_eq, locations_addAll slots (hocc.moved start), moved, locations, locations, List.map_map, List.map_map]
  rfl

theorem locations_replace (slots : Slots α) (location : Location) (issues : List α) :
    (slots.replace location issues).locations = slots.locations := by
  rw [replace, locations, locations, List.map_map]
  refine List.map_congr_left fun slot _ => ?_
  dsimp only [Function.comp]
  split <;> rfl

/-- How many issues there are at all locations together. -/
def total : Slots α → Nat
  | [] => 0
  | slot :: slots => slot.2.length + total slots

theorem total_occupied (slots : Slots α) : slots.occupied.total = slots.total := by
  induction slots with
  | nil => rfl
  | cons slot slots ih =>
    unfold occupied at ih ⊢
    by_cases hempty : slot.2.isEmpty = true
    · rw [List.filter_cons_of_neg (by simp [hempty]), ih, total, List.isEmpty_iff.1 hempty, List.length_nil,
        Nat.zero_add]
    · rw [List.filter_cons_of_pos (by simp [hempty]), total, ih, total]

/-- The ways to slots at plain locations are different. -/
theorem DistinctLocations.pairwise_way (h : DistinctLocations slots)
    (hplain : ∀ slot ∈ slots, ∀ segment ∈ slot.1, segment.Plain) :
    slots.Pairwise fun a b => Location.way a.1 ≠ Location.way b.1 := by
  refine List.Pairwise.imp_of_mem ?_ h
  intro a b ha hb hdiffer hway
  rw [Location.beq_of_way_eq (hplain a ha) (hplain b hb) hway] at hdiffer
  cases hdiffer

end Slots

/-! ## Grafting the issues of all locations -/

namespace Report

open Json

/-- The loop that grafts the issues of one location after the other, each on a shelf that is still empty. -/
private theorem grafted_answers {α : Type} {key : String} (hkey : IsShelf key) (render : α → Json)
    (slots : Slots α) (hways : slots.Pairwise fun a b => Location.way a.1 ≠ Location.way b.1)
    (hplain : ∀ slot ∈ slots, ∀ segment ∈ slot.1, segment.Plain) (members : List (String × Json))
    (h : Legible members) (hfree : ∀ slot ∈ slots, shelved? members (Location.way slot.1) key = none) :
    let shown := slots.foldl
      (fun members slot => graft members (slot.1.map Segment.text) key (.list (slot.2.map render))) members
    Legible shown ∧
      (∀ way array, shelved? shown way key = some array ↔
        (∃ slot ∈ slots, Location.way slot.1 = way ∧ array = .list (slot.2.map render)) ∨
          shelved? members way key = some array) ∧
      (∀ way shelf, IsShelf shelf → shelf ≠ key → shelved? shown way shelf = shelved? members way shelf) ∧
      membersIssueCount shown = membersIssueCount members + slots.total := by
  induction slots generalizing members with
  | nil => exact ⟨h, by simp, fun _ _ _ _ => rfl, rfl⟩
  | cons slot slots ih =>
    obtain ⟨hslot, hways⟩ := List.pairwise_cons.1 hways
    obtain ⟨hhere, hplain⟩ := List.forall_mem_cons.1 hplain
    obtain ⟨hempty, hfree⟩ := List.forall_mem_cons.1 hfree
    have hsteps : ∀ step ∈ Location.way slot.1, ¬ IsShelf step := fun step => Location.not_shelf_of_mem_way hhere
    have hgrafted : ∀ (way : List String) {shelf : String}, IsShelf shelf → _ := fun way _ =>
      shelved?_graft h hsteps hkey (slot.2.map render) way
    obtain ⟨hlegible, hshown, hothers, hcount⟩ := ih hways hplain
      (graft members (Location.way slot.1) key (.list (slot.2.map render))) (h.graft hsteps key _)
      (fun later hlater => by
        rw [hgrafted _ hkey, if_neg (fun hboth => hslot later hlater hboth.1.symm), hfree later hlater])
    refine ⟨hlegible, fun way array => ?_, fun way shelf hshelf hne => ?_, ?_⟩
    · refine (hshown way array).trans ?_
      rw [hgrafted way hkey, List.exists_mem_cons_iff]
      by_cases hway : way = Location.way slot.1
      · subst hway
        have hlater : ¬ ∃ later ∈ slots, Location.way later.1 = Location.way slot.1 ∧
            array = .list (later.2.map render) := by
          rintro ⟨later, hmem, hsame, -⟩
          exact hslot later hmem hsame.symm
        rw [if_pos ⟨rfl, rfl⟩, hempty]
        constructor
        · rintro (hlist | harray)
          · exact absurd hlist hlater
          · exact .inl (.inl ⟨rfl, (Option.some.inj harray).symm⟩)
        · rintro ((⟨-, rfl⟩ | hlist) | hnone)
          · exact .inr rfl
          · exact absurd hlist hlater
          · cases hnone
      · have hother : Location.way slot.1 ≠ way := fun hsame => hway hsame.symm
        simp [hway, hother]
    · refine (hothers way shelf hshelf hne).trans ?_
      rw [hgrafted way hshelf, if_neg (fun hboth => hne hboth.2)]
    · refine hcount.trans ?_
      rw [issueCount_graft h hsteps hkey hempty, List.length_map, Nat.add_assoc]
      rfl

/-- The keys of the locations that have issues are neither names of shelves nor numerals. -/
structure PlainKeys (report : Report) : Prop where
  violations : ∀ slot ∈ report.violations.occupied, ∀ segment ∈ slot.1, segment.Plain
  advice : ∀ slot ∈ report.advice.occupied, ∀ segment ∈ slot.1, segment.Plain

/-- A document shows issues under a key: at the end of the way to a location, in the casing of the slot that the
location has, lies the array of its issues in order, and there are no other arrays. -/
structure Shows {α : Type} (root : List (String × Json)) (key : String) (render : α → Json) (slots : Slots α) :
    Prop where
  recorded : ∀ location, slots.issuesAt location ≠ [] →
    ∃ stored ∈ slots.locations, (stored == location) = true ∧
      shelved? root stored.way key = some (.list ((slots.issuesAt location).map render))
  nothingElse : ∀ way array, shelved? root way key = some array →
    ∃ location ∈ slots.locations, slots.issuesAt location ≠ [] ∧ location.way = way ∧
      array = .list ((slots.issuesAt location).map render)

theorem Shows.congr {α : Type} {root other : List (String × Json)} {key : String} {render : α → Json}
    {slots : Slots α} (h : Shows root key render slots)
    (hsame : ∀ way, shelved? other way key = shelved? root way key) : Shows other key render slots where
  recorded location hne := by
    obtain ⟨stored, hmem, hloc, hshown⟩ := h.recorded location hne
    exact ⟨stored, hmem, hloc, (hsame _).trans hshown⟩
  nothingElse way array harray := h.nothingElse way array ((hsame way).symm.trans harray)

/-- Putting the issues of all locations into a document shows them, adds as many issues as there are and changes
nothing under other keys. -/
theorem graftSlots_answers {α : Type} {key : String} (hkey : IsShelf key) (render : α → Json) {slots : Slots α}
    (hd : slots.DistinctLocations) (hplain : ∀ slot ∈ slots.occupied, ∀ segment ∈ slot.1, segment.Plain)
    {members : List (String × Json)} (h : Legible members) (hfree : ∀ way, shelved? members way key = none) :
    Legible (graftSlots key render slots members) ∧ Shows (graftSlots key render slots members) key render slots ∧
      (∀ way shelf, IsShelf shelf → shelf ≠ key →
        shelved? (graftSlots key render slots members) way shelf = shelved? members way shelf) ∧
      membersIssueCount (graftSlots key render slots members) = membersIssueCount members + slots.total := by
  have hocc : slots.occupied.DistinctLocations := hd.filter _
  obtain ⟨hlegible, hshown, hothers, hcount⟩ := grafted_answers hkey render slots.occupied
    (hocc.pairwise_way hplain) hplain members h fun slot _ => hfree slot.1.way
  refine ⟨hlegible, ⟨fun location hne => ?_, fun way array harray => ?_⟩, hothers,
    hcount.trans (congrArg _ slots.total_occupied)⟩
  · obtain ⟨issue, hissue⟩ := List.exists_mem_of_ne_nil _ hne
    obtain ⟨slot, hmem, hloc, hin⟩ := Slots.exists_slot_of_mem_issuesAt hissue
    have hfull : slot.2.isEmpty = false := by
      rw [List.isEmpty_eq_false_iff]
      exact List.ne_nil_of_mem hin
    refine ⟨slot.1, List.mem_map_of_mem hmem, hloc, (hshown _ _).2 (.inl ⟨slot, ?_, rfl, ?_⟩)⟩
    · exact List.mem_filter.2 ⟨hmem, by simp [hfull]⟩
    · rw [← Slots.issuesAt_congr hloc, Slots.issuesAt_of_mem hd hmem]
  · rcases (hshown way array).1 harray with ⟨slot, hslot, hway, rfl⟩ | hbefore
    · obtain ⟨hmem, hfull⟩ := List.mem_filter.1 hslot
      refine ⟨slot.1, List.mem_map_of_mem hmem, ?_, hway, ?_⟩
      · rw [Slots.issuesAt_of_mem hd hmem]
        simpa using hfull
      · rw [Slots.issuesAt_of_mem hd hmem]
    · rw [hfree way] at hbefore
      cases hbefore

/-! ## The casing of locations -/

/-- Locations stand in a report in the casing of their first use: recording and merging add new ones at the end,
and taking violations away leaves all in their place. -/
structure KeepsCasing (report : Report) : Prop where
  addViolation : ∀ violation proceed location,
    (report.addViolation violation proceed location).violations.locations =
      report.violations.locationsAfter [location]
  addAdvice : ∀ advice location,
    (report.addAdvice advice location).advice.locations = report.advice.locationsAfter [location]
  merge : ∀ other, Reachable other → ∀ start,
    (report.merge other start).violations.locations =
        report.violations.locationsAfter (other.violations.occupied.locations.map (start ++ ·)) ∧
      (report.merge other start).advice.locations =
        report.advice.locationsAfter (other.advice.occupied.locations.map (start ++ ·))
  pop : ∀ codes location, (report.pop codes location).2.violations.locations = report.violations.locations

theorem keepsCasing (report : Report) : report.KeepsCasing where
  addViolation _ _ location := report.violations.locations_add location _
  addAdvice _ location := report.advice.locations_add location _
  merge _ hother start :=
    ⟨report.violations.locations_merge hother.sound.violations start,
      report.advice.locations_merge hother.sound.advice start⟩
  pop codes location := by
    unfold Report.pop
    split
    · exact report.violations.locations_replace location _
    · rfl

/-! ## Rendered reports -/

/-- A report that can be reached is rendered without loss: if no key is the name of a shelf or a numeral, the way to
every location at which violations were recorded leads to the array of these violations in order, and likewise for
advice; every such array belongs to a location; and there are as many issues on all shelves as were recorded.  The
way is spelled as the location was when a violation, or for advice an advice, was first recorded there. -/
theorem Reachable.tree_shows_recorded {report : Report} (h : Reachable report) (hplain : report.PlainKeys)
    (withMessage withContext : Bool) :
    (∃ root, report.tree withMessage withContext = .object root ∧
      Shows root "_errors"
        (fun v => issueObject withMessage withContext v.code v.message v.context) report.violations ∧
      Shows root "_warnings"
        (fun a => issueObject withMessage withContext a.code a.message a.context) report.advice) ∧
      issueCount (report.tree withMessage withContext) = report.violations.total + report.advice.total ∧
      report.KeepsCasing := by
  have hnothing : ∀ way key, shelved? [] way key = none := fun way key => by cases way <;> rfl
  obtain ⟨hlegible, herrors, hfree, hcount⟩ := graftSlots_answers (.inl rfl)
    (fun v : Violation => issueObject withMessage withContext v.code v.message v.context)
    h.sound.violations hplain.violations .nil (hnothing · "_errors")
  obtain ⟨-, hwarnings, hkept, hcounts⟩ := graftSlots_answers (.inr rfl)
    (fun a : Advice => issueObject withMessage withContext a.code a.message a.context)
    h.sound.advice hplain.advice hlegible
    fun way => (hfree way "_warnings" (.inr rfl) (by decide)).trans (hnothing way "_warnings")
  refine ⟨⟨_, rfl, herrors.congr fun way => hkept way "_errors" (.inl rfl) (by decide), hwarnings⟩, ?_,
    report.keepsCasing⟩
  rw [tree, issueCount, hcounts, hcount, membersIssueCount, Nat.zero_add]

/-- Violations at a place and below it, recorded from below and in two casings, and advice in a third one. -/
theorem tree_shows_recorded_of_emails :
    let report := (((empty.addViolation .missing true [.key "emails", .index 0, .key "value"]).addViolation
      .badContent true [.key "emails"]).addViolation .badSyntax true [.key "Emails"]).addAdvice .repeatedPair
        [.key "EMAILS"]
    Reachable report ∧ report.PlainKeys ∧
      issueCount (report.tree false false) = 4 ∧
      ∃ root, report.tree false false = .object root ∧
        shelved? root ["emails"] "_errors" =
          some (.list [.object [("code", .number (.int 4))], .object [("code", .number (.int 1))]]) ∧
        shelved? root ["EMAILS"] "_warnings" = some (.list [.object [("code", .number (.int 2))]]) := by
  intro report
  have hreachable : Reachable report := (((Reachable.empty.addViolation _ _ _).addViolation _ _ _).addViolation
    _ _ _).addAdvice _ _
  have hemails : (Segment.key "emails").Plain := Segment.plain_of_any (by decide) (by decide)
  have hvalue : (Segment.key "value").Plain := Segment.plain_of_any (by decide) (by decide)
  have hcapitals : (Segment.key "EMAILS").Plain := Segment.plain_of_any (by decide) (by decide)
  have hplain : report.PlainKeys := by
    constructor
    · show ∀ slot ∈ ([([.key "emails", .index 0, .key "value"], [.missing]),
        ([.key "emails"], [.badContent, .badSyntax])] : Slots Violation), _
      simp only [List.forall_mem_cons]
      exact ⟨⟨hemails, trivial, hvalue, by simp⟩, ⟨hemails, by simp⟩, by simp⟩
    · show ∀ slot ∈ ([([.key "EMAILS"], [.repeatedPair])] : Slots Advice), _
      simp only [List.forall_mem_cons]
      exact ⟨⟨hcapitals, by simp⟩, by simp⟩
  obtain ⟨⟨root, htree, hviolations, hadvice⟩, hcount, -⟩ := hreachable.tree_shows_recorded hplain false false
  refine ⟨hreachable, hplain, hcount, root, htree, ?_, ?_⟩
  · obtain ⟨stored, hstored, hloc, hshown⟩ := hviolations.recorded [.key "emails"] (by decide)
    have hcasing : stored.way = ["emails"] := by
      have hlist : report.violations.locations = [[.key "emails", .index 0, .key "value"], [.key "emails"]] := rfl
      simp only [hlist, List.mem_cons, List.not_mem_nil, or_false] at hstored
      rcases hstored with rfl | rfl
      · cases hloc
      · rfl
    rw [← hcasing, hshown]
    rfl
  · obtain ⟨stored, hstored, -, hshown⟩ := hadvice.recorded [.key "emails"] (by decide)
    cases List.mem_singleton.1 hstored
    exact hshown

end Report

end Scim
