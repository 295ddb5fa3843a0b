import Scim.Proofs.Attribute.Made
import Scim.Proofs.Number.Exact
import Scim.Proofs.Record.Spelling

/-!
# Converting values a second time

Without conversions of a service the two directions do the same, and what was converted once is not changed by a
second conversion in either of them.  Numbers have taken their form by then; and a record that was rebuilt holds, for
each of the declared sub-attributes that it has, the converted value and no other entry, so it is rebuilt to itself.
Values of a shape that the declaration does not ask for are not touched at all.

Which numbers an attribute converts as integers is said by going to them: through the items of the lists of
multi-valued attributes and the entries of the sub-attributes in records.  At each such place the converted value has
the number that an integer type makes of the number before.

## Main results

* `Attribute.convert_direction`: the two directions do the same.
* `Attribute.settles`: a second conversion changes nothing.
* `Attribute.integerAt?_convert`: what becomes of the numbers under attributes of an integer type.
-/

namespace Scim

open Text

variable {direction other : Direction} {attr : Attribute} {value : Value}

/-! ## Attributes without conversions -/

mutual

/-- Whether neither an attribute nor a sub-attribute at any depth has a conversion of a service. -/
def Attribute.isUnhooked : Attribute → Bool
  | ⟨_, kind, _, hooks⟩ => hooks.serialize.isNone && hooks.deserialize.isNone && kind.isUnhooked

/-- Whether none of the sub-attributes of a kind has one. -/
def Kind.isUnhooked : Kind → Bool
  | .complex subs => areUnhooked subs
  | _ => true

/-- Whether none of the attributes has one. -/
def areUnhooked : List Attribute → Bool
  | [] => true
  | attr :: attrs => attr.isUnhooked && areUnhooked attrs

end

theorem areUnhooked_iff {attrs : List Attribute} :
    areUnhooked attrs = true ↔ ∀ attr ∈ attrs, attr.isUnhooked = true := by
  induction attrs with
  | nil => simp [areUnhooked]
  | cons attr attrs ih => rw [areUnhooked, Bool.and_eq_true, ih, List.forall_mem_cons]

mutual

theorem Attribute.throughout_of_isUnhooked : ∀ attr : Attribute, attr.isUnhooked = true →
    attr.Throughout Attribute.Unhooked
  | ⟨_, kind, _, hooks⟩, h => by
    simp only [Attribute.isUnhooked, Bool.and_eq_true, Option.isNone_iff_eq_none] at h
    obtain ⟨⟨hserialize, hdeserialize⟩, hkind⟩ := h
    refine .intro ⟨hserialize, hdeserialize⟩ fun subs hsubs => ?_
    cases hsubs
    rw [Kind.isUnhooked] at hkind
    exact throughout_of_areUnhooked subs hkind

theorem throughout_of_areUnhooked : ∀ attrs : List Attribute, areUnhooked attrs = true →
    ∀ attr ∈ attrs, attr.Throughout Attribute.Unhooked
  | [], _ => fun _ hattr => absurd hattr List.not_mem_nil
  | attr :: attrs, h => by
    rw [areUnhooked, Bool.and_eq_true] at h
    exact List.forall_mem_cons.2 ⟨attr.throughout_of_isUnhooked h.1, throughout_of_areUnhooked attrs h.2⟩

end

theorem Attribute.isUnhooked_iff : attr.isUnhooked = true ↔ attr.Throughout Unhooked := by
  refine ⟨attr.throughout_of_isUnhooked, fun h => ?_⟩
  induction h with
  | @intro attr here _ ih =>
    obtain ⟨path, kind, traits, hooks⟩ := attr
    have hkind : kind.isUnhooked = true := by
      cases kind with
      | complex subs => exact areUnhooked_iff.2 (ih subs rfl)
      | _ => rfl
    rw [isUnhooked, here.serialize, here.deserialize, hkind]
    rfl

instance (attr : Attribute) : Decidable (attr.Throughout Attribute.Unhooked) :=
  decidable_of_iff _ Attribute.isUnhooked_iff

/-! ## Lists and single values -/

namespace Attribute

/-- The value is a list of which the attribute takes the items one by one. -/
def Spreads (attr : Attribute) (value : Value) : Prop :=
  attr.traits.multiValued = true ∧ ∃ items, value = .list items

theorem convert_items (h : attr.hooks.conversion? direction = none) (hmulti : attr.traits.multiValued = true)
    (items : List Value) :
    attr.convert direction (.list items) = .list (items.map (attr.kind.convertItem direction)) := by
  rcases convert_eq h (.list items) with ⟨_, -, hsame, hconvert⟩ | ⟨hnot, -⟩
  · cases hsame
    exact hconvert
  · exact absurd ⟨hmulti, items, rfl⟩ hnot

theorem convert_single (h : attr.hooks.conversion? direction = none) (hsingle : ¬ attr.Spreads value) :
    attr.convert direction value = attr.kind.convertItem direction value := by
  rcases convert_eq h value with ⟨items, hmulti, hlist, -⟩ | ⟨-, hconvert⟩
  · exact absurd ⟨hmulti, items, hlist⟩ hsingle
  · exact hconvert

/-- An attribute with sub-attributes rebuilds a record of their values, and any other leaves it as it is. -/
theorem convert_record_cases (h : attr.hooks.conversion? direction = none) (entries : Record) :
    (∃ subs, attr.kind = .complex subs ∧
      attr.convert direction (.record entries) = .record (convertSubs direction subs entries [])) ∨
    (∀ subs, attr.kind ≠ .complex subs) ∧ attr.convert direction (.record entries) = .record entries := by
  have hsingle : ¬ attr.Spreads (.record entries) := fun ⟨_, items, hlist⟩ => by cases hlist
  rw [convert_single h hsingle]
  cases hkind : attr.kind with
  | complex subs => exact .inl ⟨subs, rfl, by rw [Kind.convertItem]⟩
  | _ => exact .inr ⟨by simp, by simp [Kind.convertItem]⟩

end Attribute

/-- Nothing but a list is converted to a list. -/
theorem Kind.convertItem_list {kind : Kind} {items : List Value}
    (h : kind.convertItem direction value = .list items) : value = .list items := by
  rcases kind.convertItem_cases direction value with
    ⟨n, -, -, hconvert⟩ | ⟨n, -, -, hconvert⟩ | ⟨subs, entries, -, -, hconvert⟩ | hconvert
  · rw [hconvert] at h
    cases h
  · rw [hconvert] at h
    cases h
  · rw [hconvert] at h
    cases h
  · rw [← hconvert]
    exact h

theorem Kind.isMissing_convertItem (kind : Kind) (value : Value) :
    (kind.convertItem direction value).isMissing = value.isMissing := by
  rcases kind.convertItem_cases direction value with
    ⟨n, -, rfl, hconvert⟩ | ⟨n, -, rfl, hconvert⟩ | ⟨subs, entries, -, rfl, hconvert⟩ | hconvert
  · rw [hconvert]
    rfl
  · rw [hconvert]
    rfl
  · rw [hconvert]
    rfl
  · rw [hconvert]

/-- A value is not lost by its conversion, and none comes up. -/
theorem Attribute.isMissing_convert (h : attr.hooks.conversion? direction = none) (value : Value) :
    (attr.convert direction value).isMissing = value.isMissing := by
  by_cases hspreads : attr.Spreads value
  · obtain ⟨hmulti, items, rfl⟩ := hspreads
    rw [convert_items h hmulti]
    rfl
  · rw [convert_single h hspreads, Kind.isMissing_convertItem]

/-! ## Both directions -/

/-- Entries are the same if they are made of values that are there alike and are converted alike. -/
theorem convertedEntries_congr {read reread : Attribute → Value} {attrs : List Attribute}
    (hmissing : ∀ attr ∈ attrs, (reread attr).isMissing = (read attr).isMissing)
    (hvalue : ∀ attr ∈ attrs, attr.convert other (reread attr) = attr.convert direction (read attr)) :
    convertedEntries other reread attrs = convertedEntries direction read attrs := by
  refine List.filterMap_congr fun attr hattr => ?_
  rw [hmissing attr hattr, hvalue attr hattr]

theorem Kind.convertItem_direction {kind : Kind}
    (hsubs : ∀ subs, kind = .complex subs → ∀ sub ∈ subs, ∀ value, sub.convert other value = sub.convert direction value)
    (value : Value) : kind.convertItem other value = kind.convertItem direction value := by
  cases kind with
  | complex subs =>
    cases value with
    | record entries =>
      rw [convertItem, convertItem, convertSubs_eq_foldl, convertSubs_eq_foldl]
      rw [convertedEntries_congr (fun _ _ => rfl) fun sub hsub => hsubs subs rfl sub hsub _]
    | _ => simp [convertItem]
  | _ => cases value <;> simp [convertItem]

/-- Without conversions of a service a value is converted alike in both directions. -/
theorem Attribute.convert_direction (h : attr.Throughout Unhooked) (direction other : Direction) (value : Value) :
    attr.convert other value = attr.convert direction value := by
  induction h generalizing value with
  | @intro attr here _ ih =>
    have hitem : ∀ item, attr.kind.convertItem other item = attr.kind.convertItem direction item :=
      Kind.convertItem_direction ih
    by_cases hspreads : attr.Spreads value
    · obtain ⟨hmulti, items, rfl⟩ := hspreads
      rw [convert_items (here.conversion? other) hmulti, convert_items (here.conversion? direction) hmulti,
        List.map_congr_left fun item _ => hitem item]
    · rw [convert_single (here.conversion? other) hspreads, convert_single (here.conversion? direction) hspreads, hitem]

/-! ## A second conversion -/

/-- A conversion that neither loses nor makes up values, and does nothing the second time. -/
structure Attribute.Settles (direction : Direction) (attr : Attribute) : Prop where
  missing : ∀ value, (attr.convert direction value).isMissing = value.isMissing
  again : ∀ value, attr.convert direction (attr.convert direction value) = attr.convert direction value

theorem Attribute.Settles.of_missing (h : attr.Settles direction) : attr.convert direction .missing = .missing :=
  Value.eq_missing (h.missing .missing)

/-- Entries that are read from converted values are those of the values. -/
theorem convertedEntries_again {read reread : Attribute → Value} {attrs : List Attribute}
    (hattrs : ∀ attr ∈ attrs, attr.Settles direction)
    (hread : ∀ attr ∈ attrs, reread attr = attr.convert direction (read attr)) :
    convertedEntries direction reread attrs = convertedEntries direction read attrs := by
  refine convertedEntries_congr (fun attr hattr => ?_) fun attr hattr => ?_
  · rw [hread attr hattr, (hattrs attr hattr).missing]
  · rw [hread attr hattr, (hattrs attr hattr).again]

theorem Kind.convertItem_convertItem {kind : Kind}
    (hnames : ∀ subs, kind = .complex subs → Attributes.DistinctNames subs)
    (hsubs : ∀ subs, kind = .complex subs → ∀ sub ∈ subs, sub.Settles direction) (value : Value) :
    kind.convertItem direction (kind.convertItem direction value) = kind.convertItem direction value := by
  rcases kind.convertItem_cases direction value with
    ⟨n, rfl, rfl, hconvert⟩ | ⟨n, rfl, rfl, hconvert⟩ | ⟨subs, entries, rfl, rfl, hconvert⟩ | hconvert
  · rw [hconvert, convertItem, Number.preferFloat_preferFloat]
  · rw [hconvert, convertItem, Number.preferInt_preferInt]
  · -- the rebuilt record has the converted value of each sub-attribute under its name
    rw [hconvert, convertItem, convertSubs_eq (hnames subs rfl), convertSubs_eq (hnames subs rfl)]
    rw [convertedEntries_again (hsubs subs rfl) fun sub hsub =>
      value_convertedEntries (hnames subs rfl) hsub (hsubs subs rfl sub hsub).of_missing]
  · rw [hconvert, hconvert]

namespace Attribute

/-- An attribute that its declaration alone converts does nothing the second time. -/
theorem settles (h : attr.Throughout Structural) (direction : Direction) : attr.Settles direction := by
  induction h with
  | @intro attr here _ ih =>
    have hconversion := here.conversion? direction
    refine ⟨isMissing_convert hconversion, fun value => ?_⟩
    have hitem := Kind.convertItem_convertItem here.names ih
    by_cases hspreads : attr.Spreads value
    · obtain ⟨hmulti, items, rfl⟩ := hspreads
      rw [convert_items hconversion hmulti, convert_items hconversion hmulti, List.map_map]
      exact congrArg Value.list (List.map_congr_left fun item _ => hitem item)
    · have hagain : ¬ attr.Spreads (attr.kind.convertItem direction value) := fun ⟨hmulti, items, hlist⟩ =>
        hspreads ⟨hmulti, items, Kind.convertItem_list hlist⟩
      rw [convert_single hconversion hspreads, convert_single hconversion hagain, hitem]

/-- An attribute whose names differ is converted by its declaration alone, if there are no conversions of a
service. -/
theorem structural (hnames : attr.WellNamed) (h : attr.Throughout Unhooked) : attr.Throughout Structural := by
  induction h with
  | @intro attr here _ ih =>
    obtain ⟨hdistinct, hbelow⟩ := hnames
    exact .intro ⟨here, hdistinct⟩ fun subs hkind sub hsub => ih subs hkind sub hsub (hbelow subs hkind sub hsub)

end Attribute

/-! ## Integers -/

/-- The number at a location under a kind of items, or under lists of such items: under an integer type the number
itself, in a list that is taken item by item the one in the item, and in a record the one under a sub-attribute. -/
def integerAt? : Bool → Kind → Value → Location → Option Number
  | _, .integer, .number n, [] => some n
  | true, kind, .list items, .index position :: location =>
    items[position]?.bind fun item => integerAt? false kind item location
  | _, .complex subs, .record entries, .key key :: location =>
    (List.find? (fun sub : Attribute => sub.name.folded == lower key) subs).bind fun sub =>
      integerAt? sub.traits.multiValued sub.kind (Record.value entries key) location
  | _, _, _, _ => none

/-- The number at a location in a value that an attribute of an integer type converts, be it the attribute itself or
a sub-attribute. -/
def Attribute.integerAt? (attr : Attribute) : Value → Location → Option Number :=
  Scim.integerAt? attr.traits.multiValued attr.kind

/-- A value that is no list stands for itself, whether lists are taken item by item or not. -/
theorem integerAt?_single {multi : Bool} (hsingle : multi = true → ∀ items, value ≠ .list items) (kind : Kind)
    (location : Location) : integerAt? multi kind value location = integerAt? false kind value location := by
  cases multi with
  | false => rfl
  | true =>
    cases value with
    | list items => exact absurd rfl (hsingle rfl items)
    | _ => cases kind <;> rcases location with _ | ⟨_ | _, location⟩ <;> rfl

/-- What becomes of the numbers in an item, if the sub-attributes do so with theirs. -/
theorem integerAt?_convertItem {kind : Kind} (hnames : ∀ subs, kind = .complex subs → Attributes.DistinctNames subs)
    (hmissing : ∀ subs, kind = .complex subs → ∀ sub ∈ subs, sub.convert direction .missing = .missing)
    (hsubs : ∀ subs, kind = .complex subs → ∀ sub ∈ subs, ∀ value location,
      sub.integerAt? (sub.convert direction value) location = (sub.integerAt? value location).map Number.preferInt)
    (value : Value) (location : Location) :
    integerAt? false kind (kind.convertItem direction value) location =
      (integerAt? false kind value location).map Number.preferInt := by
  cases kind with
  | complex subs =>
    cases value with
    | record entries =>
      rw [Kind.convertItem, convertSubs_eq (hnames subs rfl)]
      cases location with
      | nil => simp [integerAt?]
      | cons segment location =>
        cases segment with
        | index position => simp [integerAt?]
        | key key =>
          rw [integerAt?, integerAt?, Option.map_bind]
          refine Option.bind_congr fun sub hfound => ?_
          have hsub := List.mem_of_find?_eq_some hfound
          have hhit := List.find?_some hfound
          have hkey : lower sub.name.text = lower key := beq_iff_eq.1 hhit
          rw [← Record.value_congr _ hkey, ← Record.value_congr _ hkey,
            value_convertedEntries (hnames subs rfl) hsub (hmissing subs rfl sub hsub)]
          exact hsubs subs rfl sub hsub _ location
    | _ => simp [Kind.convertItem, integerAt?]
  | integer =>
    cases value with
    | number n => cases location <;> simp [Kind.convertItem, integerAt?]
    | _ => simp [Kind.convertItem, integerAt?]
  | _ => cases value <;> simp [Kind.convertItem, integerAt?]

/-- A conversion makes integers of the numbers that an integer type has it make integers of, and leaves the places
where they stand. -/
theorem Attribute.integerAt?_convert (h : attr.Throughout Structural) (value : Value) (location : Location) :
    attr.integerAt? (attr.convert direction value) location =
      (attr.integerAt? value location).map Number.preferInt := by
  induction h generalizing value location with
  | @intro attr here below ih =>
    have hconversion := here.conversion? direction
    have hmissing : ∀ subs, attr.kind = .complex subs → ∀ sub ∈ subs, sub.convert direction .missing = .missing :=
      fun subs hkind sub hsub => (settles (below subs hkind sub hsub) direction).of_missing
    have hitem := integerAt?_convertItem here.names hmissing ih
    by_cases hspreads : attr.Spreads value
    · obtain ⟨hmulti, items, rfl⟩ := hspreads
      rw [convert_items hconversion hmulti, integerAt?, hmulti]
      cases location with
      | nil => simp [Scim.integerAt?]
      | cons segment location =>
        cases segment with
        | key key => simp [Scim.integerAt?]
        | index position =>
          rw [Scim.integerAt?, Scim.integerAt?, List.getElem?_map, Option.map_bind, Option.bind_map]
          exact Option.bind_congr fun item _ => hitem item location
    · have hsingle : attr.traits.multiValued = true → ∀ items, value ≠ .list items := fun hmulti items hlist =>
        hspreads ⟨hmulti, items, hlist⟩
      have hconverted : attr.traits.multiValued = true → ∀ items, attr.kind.convertItem direction value ≠ .list items :=
        fun hmulti items hlist => hsingle hmulti items (Kind.convertItem_list hlist)
      rw [convert_single hconversion hspreads, integerAt?, integerAt?_single hconverted, integerAt?_single hsingle,
        hitem]

/-- What both directions make of a value, which either of them leaves alone: under integer types it has the numbers that
such a type makes of those in the value. -/
structure Attribute.SettlesAs (attr : Attribute) (value converted : Value) : Prop where
  same : ∀ direction, attr.convert direction value = converted
  again : ∀ direction, attr.convert direction converted = converted
  integers : ∀ location,
    Option.Rel Number.AsInteger (attr.integerAt? value location) (attr.integerAt? converted location)

theorem Attribute.integers_convert (h : attr.Throughout Structural) (value : Value) (location : Location) :
    Option.Rel Number.AsInteger (attr.integerAt? value location)
      (attr.integerAt? (attr.convert direction value) location) := by
  rw [integerAt?_convert h]
  cases attr.integerAt? value location with
  | none => exact .none
  | some n => exact .some (Number.asInteger_preferInt n)

theorem Attribute.settlesAs (h : attr.Throughout Structural) (value : Value) :
    attr.SettlesAs value (attr.convert .serialize value) where
  same := fun direction => convert_direction (h.imp fun _ hone => hone.toUnhooked) .serialize direction value
  again := by
    intro direction
    rw [← convert_direction (h.imp fun _ hone => hone.toUnhooked) .serialize direction value]
    exact (settles h direction).again value
  integers := integers_convert h value

end Scim
