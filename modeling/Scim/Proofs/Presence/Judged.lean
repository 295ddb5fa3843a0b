import Scim.Proofs.Presence.Examined
import Scim.Proofs.Schema.Lookup

/-!
# Which values are judged, and where

A check of presence judges the value of every attribute, and every value of a sub-attribute: the one in a
single record, or one in each record of a list.  `Judged` says so without a walk.

If no two attributes or sub-attributes have the same location, no two values are judged at the same one.  The
locations of the values differ from those of the attributes only by the positions in lists, so attributes that
are told apart by their locations tell their values apart, and the values of one sub-attribute are told apart by
the positions.

## Main results

* `mem_examined_iff`: the values that a check examines are those that are judged.
* `distinct_examined`: no location is examined twice.
* `issuesAt_check_of_judged`: at the location of a value stands what is found about this value and nothing else.
-/

namespace Scim

/-! ## Locations without positions -/

/-- Whether a segment is a key. -/
def Segment.isKey : Segment → Bool
  | .key _ => true
  | .index _ => false

namespace Location

/-- The keys of a location, without the positions in lists between them. -/
def keys (location : Location) : Location := location.filter Segment.isKey

@[simp] theorem keys_append (a b : Location) : keys (a ++ b) = keys a ++ keys b := by
  simp [keys]

theorem folded_keys (location : Location) : folded (keys location) = (folded location).filter Sum.isLeft := by
  induction location with
  | nil => rfl
  | cons step location ih =>
    cases step with
    | key text => exact congrArg (_ :: ·) ih
    | index position => exact ih

/-- Equal locations have equal keys. -/
theorem keys_beq {a b : Location} (h : (a == b) = true) : (keys a == keys b) = true := by
  rw [beq_iff] at h ⊢
  rw [folded_keys, folded_keys, h]

end Location

theorem LocalPath.keys_location (path : LocalPath) : Location.keys path.location = path.location := by
  obtain ⟨attr, sub⟩ := path
  cases sub <;> rfl

theorem BoundPath.keys_location (path : BoundPath) : Location.keys path.location = path.location := by
  unfold BoundPath.location
  split
  · exact congrArg (_ :: ·) path.rep.keys_location
  · exact path.rep.keys_location

/-! ## Locations of attributes -/

/-- The locations of an attribute and of its sub-attributes. -/
def Attribute.locations (attr : Attribute) : List Location :=
  attr.path.location :: ((attr.subs?).getD []).map fun sub => sub.path.location

/-- No two attributes or sub-attributes have the same location. -/
def SchemaAttributes.DistinctLocations (attrs : SchemaAttributes) : Prop :=
  (attrs.all.flatMap Attribute.locations).Pairwise fun a b => (a == b) = false

instance (attrs : SchemaAttributes) : Decidable attrs.DistinctLocations :=
  inferInstanceAs (Decidable ((attrs.all.flatMap Attribute.locations).Pairwise fun a b => (a == b) = false))

namespace AttributeSet

/-- The location of an attribute of a set goes on to those of its sub-attributes. -/
theorem location_sub (set : AttributeSet) (name sub : AttrName) :
    ((set.pathOf name).withSub sub).location = (set.pathOf name).location ++ [.ofName sub] := by
  unfold BoundPath.location
  show (if set.extension then _ else _) = (if set.extension then _ else _) ++ _
  split <;> rfl

end AttributeSet

namespace SchemaAttributes

variable {attrs : SchemaAttributes} {attr sub : Attribute} {path subPath : BoundPath}

/-- A sub-attribute is bound to the schema of its parent, and its location is one step further. -/
theorem bound_sub (h : attr ∈ attrs.all) (hpath : attr.path = .bound path)
    (hsub : sub ∈ (attr.subs?).getD []) (hbound : sub.path = .bound subPath) :
    subPath.schema = path.schema ∧ subPath.extension = path.extension ∧
      subPath.location = path.location ++ [.ofName sub.name] := by
  rw [all_eq] at h
  obtain ⟨set, -, hmem⟩ := List.mem_flatMap.1 h
  obtain ⟨hown, hsubs⟩ := AttributeSet.bound_of_mem hmem
  cases Path.bound.inj (hpath.symm.trans hown)
  cases hdeclared : attr.subs? with
  | none =>
    rw [hdeclared] at hsub
    cases hsub
  | some subs =>
    rw [hdeclared] at hsub
    cases Path.bound.inj (hbound.symm.trans (hsubs subs hdeclared sub hsub))
    exact ⟨rfl, rfl, set.location_sub attr.name sub.name⟩

end SchemaAttributes

namespace Presence

variable {presence : Presence} {message : Message} {attrs : SchemaAttributes} {record : Record}

/-! ## What is judged -/

/-- Whether an attribute has to be there at all: it belongs to the schema itself, or to an extension that was
attached as required. -/
inductive InScope (attrs : SchemaAttributes) (path : BoundPath) : Prop
  | own (own : path.extension = false)
  | extension {set : AttributeSet} (attached : attrs.extension? path.schema = some set)
      (required : set.required = true)

/-- The values that are judged: which attribute a value is one of, the path of that, the value, and the location
at which it is judged. -/
inductive Judged (attrs : SchemaAttributes) (record : Record) :
    Attribute → BoundPath → Value → Location → Prop
  /-- The value of an attribute, whatever it is. -/
  | attr {attr : Attribute} {path : BoundPath} (listed : attr ∈ attrs.all)
      (bound : attr.path = .bound path) :
      Judged attrs record attr path (record.get (Place.ofBound path)) path.location
  /-- The value of a sub-attribute, if that of the attribute is a record. -/
  | sub {attr sub : Attribute} {path subPath : BoundPath} {entries : Record} (listed : attr ∈ attrs.all)
      (bound : attr.path = .bound path) (single : attr.traits.multiValued = false)
      (stored : record.get (Place.ofBound path) = .record entries) (listedSub : sub ∈ (attr.subs?).getD [])
      (boundSub : sub.path = .bound subPath) :
      Judged attrs record sub subPath (entries.value sub.name.text) (path.location ++ [.ofName sub.name])
  /-- The value of a sub-attribute in a record that is an item of a list, unless it was rejected before. -/
  | item {attr sub : Attribute} {path subPath : BoundPath} {items : List Value} {i : Nat} {entries : Record}
      (listed : attr ∈ attrs.all) (bound : attr.path = .bound path) (multiple : attr.traits.multiValued = true)
      (stored : record.get (Place.ofBound path) = .list items) (listedSub : sub ∈ (attr.subs?).getD [])
      (boundSub : sub.path = .bound subPath) (there : items[i]? = some (.record entries))
      (kept : (Record.value entries sub.name.text).isInvalid = false) :
      Judged attrs record sub subPath (entries.value sub.name.text)
        (path.location ++ [.index i, .ofName sub.name])

/-! ## What is examined -/

theorem inScope_iff (attrs : SchemaAttributes) (path : BoundPath) :
    (!path.extension || (attrs.extension? path.schema).any (·.required)) = true ↔ InScope attrs path := by
  rw [Bool.or_eq_true, Bool.not_eq_true', Option.any_eq_true]
  constructor
  · rintro (hown | ⟨set, hattached, hrequired⟩)
    · exact .own hown
    · exact .extension hattached hrequired
  · rintro (hown | ⟨hattached, hrequired⟩)
    · exact .inl hown
    · exact .inr ⟨_, hattached, hrequired⟩

theorem InScope.congr {path other : BoundPath} (hschema : path.schema = other.schema)
    (hextension : path.extension = other.extension) : InScope attrs path ↔ InScope attrs other := by
  rw [← inScope_iff, ← inScope_iff, hschema, hextension]

/-- What is examined of a sub-attribute in a numbered item of a list. -/
def examinedItem (inScope : Bool) (sub : Attribute) (path : BoundPath) (location : Location) :
    Value × Nat → List Examined
  | (.record entries, i) =>
    if (Record.value entries sub.name.text).isInvalid then []
    else [subIn inScope sub path (location ++ [.index i]) entries]
  | _ => []

theorem examinedSub_list {sub : Attribute} {path : BoundPath} (hpath : sub.path = .bound path) (inScope : Bool)
    (items : List Value) (location : Location) :
    examinedSub inScope true (.list items) location sub =
      items.zipIdx.flatMap (examinedItem inScope sub path location) := by
  unfold examinedSub
  rw [hpath]
  dsimp only
  congr 1
  funext numbered
  obtain ⟨item, i⟩ := numbered
  cases item <;> rfl

theorem mem_examinedItem_iff {inScope : Bool} {sub : Attribute} {path : BoundPath} {location : Location}
    {item : Value} {i : Nat} {seen : Examined} :
    seen ∈ examinedItem inScope sub path location (item, i) ↔
      ∃ entries, item = .record entries ∧ (Record.value entries sub.name.text).isInvalid = false ∧
        seen = subIn inScope sub path (location ++ [.index i]) entries := by
  cases item with
  | record entries =>
    cases hinvalid : (Record.value entries sub.name.text).isInvalid <;> simp [examinedItem, hinvalid]
  | _ => simp [examinedItem]

/-- What is examined of a sub-attribute. -/
theorem mem_examinedSub_iff {inScope multiValued : Bool} {value : Value} {location : Location} {sub : Attribute}
    {seen : Examined} :
    seen ∈ examinedSub inScope multiValued value location sub ↔
      ∃ path, sub.path = .bound path ∧
        ((∃ entries, multiValued = false ∧ value = .record entries ∧
            seen = subIn inScope sub path location entries) ∨
          ∃ items i entries, multiValued = true ∧ value = .list items ∧
            items[i]? = some (.record entries) ∧ (Record.value entries sub.name.text).isInvalid = false ∧
              seen = subIn inScope sub path (location ++ [.index i]) entries) := by
  cases hpath : sub.path with
  | unbound rep => simp [examinedSub, hpath]
  | bound path =>
    cases multiValued with
    | false => cases value <;> simp [examinedSub, hpath]
    | true =>
      cases value with
      | list items =>
        rw [examinedSub_list hpath, List.mem_flatMap]
        simp only [Prod.exists, List.mk_mem_zipIdx_iff_getElem?, mem_examinedItem_iff]
        constructor
        · rintro ⟨_, i, hitem, entries, rfl, hkept, hseen⟩
          exact ⟨path, rfl, .inr ⟨items, i, entries, trivial, rfl, hitem, hkept, hseen⟩⟩
        · rintro ⟨_, hbound, ⟨_, hsingle, -⟩ | ⟨_, i, entries, -, hitems, hitem, hkept, hseen⟩⟩
          · cases hsingle
          · cases Path.bound.inj hbound
            cases Value.list.inj hitems
            exact ⟨_, i, hitem, entries, rfl, hkept, hseen⟩
      | _ => simp [examinedSub, hpath]

/-- What is examined of an attribute. -/
theorem mem_examinedAttribute_iff {attr : Attribute} {seen : Examined} :
    seen ∈ examinedAttribute attrs record attr ↔
      ∃ path, attr.path = .bound path ∧
        let inScope := !path.extension || (attrs.extension? path.schema).any (·.required)
        let value := record.get (Place.ofBound path)
        (seen = ⟨attr, path, inScope, value, path.location⟩ ∨
          ∃ sub ∈ (attr.subs?).getD [], seen ∈ examinedSub inScope attr.traits.multiValued value path.location sub) := by
  unfold examinedAttribute
  cases attr.path with
  | unbound rep => simp
  | bound path =>
    simp only [Path.bound.injEq, exists_eq_left', List.mem_cons]
    refine or_congr_right ?_
    split
    · next hnone =>
      -- neither a record nor a list is absent or rejected
      refine iff_of_false (by simp) ?_
      rintro ⟨sub, -, hseen⟩
      obtain ⟨-, -, ⟨entries, -, hvalue, -⟩ | ⟨items, -, -, -, hvalue, -⟩⟩ := mem_examinedSub_iff.1 hseen
      all_goals
        rw [hvalue] at hnone
        cases hnone
    · exact List.mem_flatMap

/-- What is examined are the values that are judged, each in the scope of its path. -/
theorem mem_examined_iff {seen : Examined} :
    seen ∈ examined attrs record ↔
      Judged attrs record seen.attr seen.path seen.value seen.location ∧
        (seen.inScope = true ↔ InScope attrs seen.path) := by
  unfold examined
  rw [List.mem_flatMap]
  constructor
  · rintro ⟨attr, hlisted, hseen⟩
    obtain ⟨path, hpath, rfl | ⟨sub, hsub, hseen⟩⟩ := mem_examinedAttribute_iff.1 hseen
    · exact ⟨.attr hlisted hpath, inScope_iff attrs path⟩
    · obtain ⟨subPath, hbound, hvalue⟩ := mem_examinedSub_iff.1 hseen
      obtain ⟨hschema, hextension, -⟩ := SchemaAttributes.bound_sub hlisted hpath hsub hbound
      have hscope := (inScope_iff attrs path).trans (InScope.congr hschema hextension).symm
      rcases hvalue with ⟨entries, hsingle, hvalue, rfl⟩ | ⟨items, i, entries, hmultiple, hvalue, hitem, hkept, rfl⟩
      · exact ⟨.sub hlisted hpath hsingle hvalue hsub hbound, hscope⟩
      · refine ⟨?_, hscope⟩
        rw [subIn, List.append_assoc]
        exact .item hlisted hpath hmultiple hvalue hsub hbound hitem hkept
  · obtain ⟨attr, path, inScope, value, location⟩ := seen
    rintro ⟨hjudged, hscope⟩
    dsimp only at hjudged hscope
    have hwalk : ∀ other : BoundPath, path.schema = other.schema → path.extension = other.extension →
        inScope = (!other.extension || (attrs.extension? other.schema).any (·.required)) := by
      intro other hschema hextension
      rw [Bool.eq_iff_iff, inScope_iff, hscope, InScope.congr hschema hextension]
    cases hjudged with
    | attr hlisted hpath =>
      refine ⟨attr, hlisted, mem_examinedAttribute_iff.2 ⟨path, hpath, .inl ?_⟩⟩
      rw [hwalk path rfl rfl]
    | @sub parent _ parentPath _ entries hlisted hpath hsingle hvalue hsub hbound =>
      obtain ⟨hschema, hextension, -⟩ := SchemaAttributes.bound_sub hlisted hpath hsub hbound
      refine ⟨parent, hlisted, mem_examinedAttribute_iff.2 ⟨parentPath, hpath, .inr ⟨attr, hsub, ?_⟩⟩⟩
      refine mem_examinedSub_iff.2 ⟨path, hbound, .inl ⟨entries, hsingle, hvalue, ?_⟩⟩
      rw [hwalk parentPath hschema hextension]
      rfl
    | @item parent _ parentPath _ items i entries hlisted hpath hmultiple hvalue hsub hbound hitem hkept =>
      obtain ⟨hschema, hextension, -⟩ := SchemaAttributes.bound_sub hlisted hpath hsub hbound
      refine ⟨parent, hlisted, mem_examinedAttribute_iff.2 ⟨parentPath, hpath, .inr ⟨attr, hsub, ?_⟩⟩⟩
      refine mem_examinedSub_iff.2
        ⟨path, hbound, .inr ⟨items, i, entries, hmultiple, hvalue, hitem, hkept, ?_⟩⟩
      rw [hwalk parentPath hschema hextension, subIn, List.append_assoc]
      rfl

/-- What is judged is examined. -/
theorem exists_examined {attr : Attribute} {path : BoundPath} {value : Value} {location : Location}
    (h : Judged attrs record attr path value location) :
    ∃ inScope, (inScope = true ↔ InScope attrs path) ∧
      (⟨attr, path, inScope, value, location⟩ : Examined) ∈ examined attrs record :=
  ⟨_, inScope_iff attrs path, mem_examined_iff.2 ⟨h, inScope_iff attrs path⟩⟩

/-! ## No location is examined twice -/

/-- Two values are examined at different locations. -/
def Apart (a b : Examined) : Prop := (a.location == b.location) = false

/-- Values whose locations have different keys are examined at different locations. -/
theorem Apart.of_keys {a b : Examined} {start other : Location} (ha : Location.keys a.location = start)
    (hb : Location.keys b.location = other) (h : (start == other) = false) : Apart a b := by
  cases hsame : a.location == b.location with
  | false => exact hsame
  | true =>
    have hkeys := Location.keys_beq hsame
    rw [ha, hb, h] at hkeys
    cases hkeys

/-- All values of a sub-attribute have the keys of its location. -/
theorem keys_examinedSub {attr sub : Attribute} {path : BoundPath} (hlisted : attr ∈ attrs.all)
    (hpath : attr.path = .bound path) (hsub : sub ∈ (attr.subs?).getD []) {inScope multiValued : Bool}
    {value : Value} {seen : Examined} (h : seen ∈ examinedSub inScope multiValued value path.location sub) :
    Location.keys seen.location = sub.path.location := by
  obtain ⟨subPath, hbound, hvalue⟩ := mem_examinedSub_iff.1 h
  obtain ⟨-, -, hlocation⟩ := SchemaAttributes.bound_sub hlisted hpath hsub hbound
  rw [hbound, Path.location, hlocation]
  rcases hvalue with ⟨entries, -, -, rfl⟩ | ⟨items, i, entries, -, -, -, -, rfl⟩
  · rw [subIn, Location.keys_append, path.keys_location]
    rfl
  · rw [subIn, Location.keys_append, Location.keys_append, path.keys_location, List.append_assoc]
    rfl

/-- All values of an attribute have the keys of its location or of that of a sub-attribute. -/
theorem keys_examinedAttribute {attr : Attribute} (hlisted : attr ∈ attrs.all) {seen : Examined}
    (h : seen ∈ examinedAttribute attrs record attr) : Location.keys seen.location ∈ attr.locations := by
  obtain ⟨path, hpath, rfl | ⟨sub, hsub, hseen⟩⟩ := mem_examinedAttribute_iff.1 h
  · rw [Attribute.locations, hpath]
    exact List.mem_cons.2 (.inl path.keys_location)
  · rw [keys_examinedSub hlisted hpath hsub hseen, Attribute.locations]
    exact List.mem_cons_of_mem _ (List.mem_map_of_mem hsub)

/-- The values of one sub-attribute stand at different positions. -/
theorem distinct_examinedSub (inScope multiValued : Bool) (value : Value) (location : Location)
    (sub : Attribute) : (examinedSub inScope multiValued value location sub).Pairwise Apart := by
  cases hpath : sub.path with
  | unbound rep => simp [examinedSub, hpath]
  | bound path =>
    cases multiValued with
    | false => cases value <;> simp [examinedSub, hpath]
    | true =>
      cases value with
      | list items =>
        rw [examinedSub_list hpath, List.pairwise_flatMap]
        constructor
        · rintro ⟨item, i⟩ -
          unfold examinedItem
          split
          · split
            · exact .nil
            · exact List.pairwise_singleton _ _
          · exact .nil
        · have hpositions : (items.zipIdx.map Prod.snd).Nodup := by
            rw [List.zipIdx_map_snd]
            exact List.nodup_range'
          refine (List.pairwise_map.1 hpositions).imp ?_
          rintro ⟨item, i⟩ ⟨other, j⟩ hne seen hseen later hlater
          obtain ⟨entries, -, -, rfl⟩ := mem_examinedItem_iff.1 hseen
          obtain ⟨entries', -, -, rfl⟩ := mem_examinedItem_iff.1 hlater
          refine Bool.eq_false_iff.2 fun hsame => hne ?_
          simpa [subIn, Location.beq_iff, Location.folded, Segment.folded] using hsame
      | _ => simp [examinedSub, hpath]

/-- The values of one attribute and its sub-attributes are examined at different locations. -/
theorem distinct_examinedAttribute {attr : Attribute} (hlisted : attr ∈ attrs.all)
    (hdistinct : attr.locations.Pairwise fun a b => (a == b) = false) :
    (examinedAttribute attrs record attr).Pairwise Apart := by
  unfold examinedAttribute
  cases hpath : attr.path with
  | unbound rep => exact .nil
  | bound path =>
    rw [Attribute.locations, hpath, List.pairwise_cons, List.pairwise_map] at hdistinct
    obtain ⟨hhead, hsubs⟩ := hdistinct
    refine List.pairwise_cons.2 ⟨?_, ?_⟩
    · intro seen hseen
      split at hseen
      · cases hseen
      · obtain ⟨sub, hsub, hseen⟩ := List.mem_flatMap.1 hseen
        exact .of_keys path.keys_location (keys_examinedSub hlisted hpath hsub hseen)
          (hhead _ (List.mem_map_of_mem hsub))
    · split
      · exact .nil
      · refine List.pairwise_flatMap.2 ⟨fun sub _ => distinct_examinedSub _ _ _ _ sub, ?_⟩
        refine hsubs.imp_of_mem fun hsub hother hapart seen hseen later hlater => ?_
        exact .of_keys (keys_examinedSub hlisted hpath hsub hseen)
          (keys_examinedSub hlisted hpath hother hlater) hapart

/-- If no two attributes or sub-attributes have the same location, no location is examined twice. -/
theorem distinct_examined (h : attrs.DistinctLocations) : (examined attrs record).Pairwise Apart := by
  obtain ⟨hwithin, hacross⟩ := List.pairwise_flatMap.1 h
  refine List.pairwise_flatMap.2
    ⟨fun attr hlisted => distinct_examinedAttribute hlisted (hwithin attr hlisted), ?_⟩
  refine hacross.imp_of_mem fun hlisted hother hapart seen hseen later hlater => ?_
  exact .of_keys rfl rfl
    (hapart _ (keys_examinedAttribute hlisted hseen) _ (keys_examinedAttribute hother hlater))

/-! ## What is found about a value -/

/-- Of values that are examined at different locations one alone is examined at its location. -/
theorem filter_location_eq {seen : List Examined} (h : seen.Pairwise Apart) {one : Examined}
    (hone : one ∈ seen) : (seen.filter fun other => other.location == one.location) = [one] := by
  induction seen with
  | nil => cases hone
  | cons first seen ih =>
    obtain ⟨hfirst, hrest⟩ := List.pairwise_cons.1 h
    rw [List.filter_cons]
    rcases List.mem_cons.1 hone with rfl | hlater
    · have hnone : (seen.filter fun other => other.location == one.location) = [] := by
        rw [List.filter_eq_nil_iff]
        intro other hother
        rw [Location.beq_comm, hfirst other hother]
        simp
      rw [if_pos (Location.beq_iff.2 rfl), hnone]
    · rw [if_neg (by rw [hfirst one hlater]; simp), ih hrest hlater]

/-- What stands at the location of an examined value is what is found about this value. -/
theorem issuesAt_check_of_mem (h : attrs.DistinctLocations) {seen : Examined}
    (hseen : seen ∈ examined attrs record) :
    (presence.check message attrs record).violations.issuesAt seen.location =
      (presence.finding? message seen).toList := by
  rw [issuesAt_check, filter_location_eq (distinct_examined h) hseen]
  cases hfound : presence.finding? message seen <;> simp [hfound]

end Presence

end Scim
