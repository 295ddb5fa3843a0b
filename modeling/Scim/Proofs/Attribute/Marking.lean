import Scim.Proofs.Attribute.Checks
import Scim.Proofs.Value.Marked

/-!
# Marks agree with what is reported

While a value is validated, two things are written: a report, and the value with rejected parts marked.  The
report of a part is moved below the location of the part and merged into the report of the whole; the part
itself is marked if its own report blocks it, and put back by a way of its own.  `Tracks` is the invariant
that keeps the two in step: parts are marked only at locations that the attribute declares and the report
blocks, and for every blocked location the value there, or something around it, is marked.

The root of a value is the exception.  Whether it is blocked shows in the report before the value is marked,
since it is for the caller to mark it.

The invariant is kept by two steps, a report about the value itself and a report about one of its parts.
Validation is a sequence of such steps.

## Main results

* `Tracks.mergeRoot` and `Tracks.mergeBelow`: the two steps.
* `Attribute.validate_tracks`: validation of an attribute keeps marks and report in step at every depth.
-/

namespace Scim

/-! ## Declared locations -/

mutual

/-- The locations in the value of an attribute that its declaration speaks of: the value, each element of a
list, and each sub-attribute of a record. -/
inductive Attribute.Declares : Attribute → Location → Prop where
  | whole (attr : Attribute) : Attribute.Declares attr []
  | single {attr : Attribute} {location : Location} (hsingle : attr.traits.multiValued = false)
      (h : Kind.Declares attr.kind location) : Attribute.Declares attr location
  | element {attr : Attribute} {location : Location} (hmulti : attr.traits.multiValued = true)
      (index : Nat) (h : Kind.Declares attr.kind location) :
      Attribute.Declares attr (.index index :: location)

/-- The locations in a single item of a kind that its declaration speaks of. -/
inductive Kind.Declares : Kind → Location → Prop where
  | whole (kind : Kind) : Kind.Declares kind []
  | sub {subs : List Attribute} {sub : Attribute} {location : Location} (hsub : sub ∈ subs)
      (h : Attribute.Declares sub location) :
      Kind.Declares (.complex subs) (.ofName sub.name :: location)

end

/-! ## The invariant -/

/-- The declared locations that a report blocks. -/
def Blocked (declared : Location → Prop) (report : Report) (location : Location) : Prop :=
  declared location ∧ report.blocks.has location = true

/-- The report on a value and the value as it was marked so far agree. -/
structure Tracks (declared : Location → Prop) (before : Value) (report : Report) (after : Value) :
    Prop where
  sound : report.Sound
  /-- Only declared locations are blocked. -/
  declares : ∀ block ∈ report.blocks, declared block.1
  /-- Only what is declared and blocked was marked. -/
  allowed : before.Marked (Blocked declared report) after
  /-- What is blocked was marked, unless it is the value as a whole. -/
  complete : ∀ block ∈ report.blocks, block.1 = [] ∨ after.Invalidated block.1

namespace Tracks

variable {declared below : Location → Prop} {before after part changed : Value} {report found : Report}

/-- A report that blocks the value as a whole or not at all asks for no marks yet. -/
theorem ofRootOnly (h : RootOnly report) (hroot : declared []) (value : Value) :
    Tracks declared value report value where
  sound := h.sound
  declares := by
    intro block hblock
    rw [h.root block hblock]
    exact hroot
  allowed := .kept value
  complete := fun block hblock => .inl (h.root block hblock)

theorem start (hroot : declared []) (value : Value) : Tracks declared value .empty value :=
  ofRootOnly .empty hroot value

/-- More may be declared. -/
theorem mono (h : Tracks below before report after) (hmore : ∀ location, below location → declared location) :
    Tracks declared before report after where
  sound := h.sound
  declares := fun block hblock => hmore _ (h.declares block hblock)
  allowed := h.allowed.mono fun location hin => ⟨hmore location hin.1, hin.2⟩
  complete := h.complete

/-- The keys of records stay different. -/
theorem wellKeyed (h : Tracks declared before report after) (hkeys : before.WellKeyed) :
    after.WellKeyed := h.allowed.wellKeyed hkeys

/-- A value in which nothing is blocked is left as it is. -/
theorem eq_of_free (h : Tracks declared before report after) (hfree : report.blocks = []) :
    after = before := by
  apply h.allowed.eq_of_none
  intro location hblocked
  have hhas := hblocked.2
  rw [hfree] at hhas
  cases hhas

/-! ### Marking the value itself -/

/-- A value as a whole is blocked at the empty location. -/
private theorem exists_root_of_blocked (hblocked : report.canProceed [] = false) :
    ∃ block ∈ report.blocks, block.1 = [] := by
  obtain ⟨block, hblock, hbelow⟩ := Report.canProceed_eq_false_iff.1 hblocked
  have hlength := (Location.startsWith_iff.1 hbelow).length_le
  rw [Location.length_folded, Location.length_folded, List.length_nil] at hlength
  exact ⟨block, hblock, List.eq_nil_of_length_eq_zero (Nat.le_zero.1 hlength)⟩

/-- Once the value as a whole is marked where it is blocked, its marks are allowed by the report. -/
theorem allowed_marked (h : Tracks declared before report after) :
    before.Marked (Blocked declared report) (marked report after) := by
  unfold marked
  cases hfree : report.canProceed [] with
  | true => exact h.allowed
  | false =>
    obtain ⟨block, hblock, hroot⟩ := exists_root_of_blocked hfree
    have hdeclared := h.declares block hblock
    rw [hroot] at hdeclared
    refine .invalid before ⟨hdeclared, Slots.has_iff.2 ⟨block, hblock, ?_⟩⟩
    rw [hroot]
    rfl

/-- And there is a mark for everything that the report blocks. -/
theorem complete_marked (h : Tracks declared before report after) {block : Location × List Nat}
    (hblock : block ∈ report.blocks) : (marked report after).Invalidated block.1 := by
  unfold marked
  cases hfree : report.canProceed [] with
  | false => exact Value.invalidated_invalid block.1
  | true =>
    rcases h.complete block hblock with hroot | hinvalid
    · have hnot := Report.canProceed_iff.1 hfree block hblock
      rw [hroot, Location.startsWith_nil] at hnot
      cases hnot
    · exact hinvalid

/-! ### The two steps -/

/-- What a report blocks stays blocked in a report that another one is merged into. -/
private theorem blocked_left {start location : Location} (h : Blocked declared report location) :
    Blocked declared (report.merge found start) location := by
  refine ⟨h.1, ?_⟩
  rw [Report.has_blocks_merge, h.2, Bool.true_or]

/-- What the other one blocks is blocked below the location at which it was merged. -/
private theorem blocked_right {start location : Location} (hdeclared : declared (start ++ location))
    (h : found.blocks.has location = true) :
    Blocked declared (report.merge found start) (start ++ location) := by
  refine ⟨hdeclared, ?_⟩
  rw [Report.has_blocks_merge, Slots.has_moved, h, Bool.or_true]

/-- What every step does: further marks, allowed by the merged report and made for all that it blocks
anew. -/
private theorem merged (h : Tracks declared before report after) {start : Location} {value : Value}
    (hsound : found.Sound) (hdeclares : ∀ new ∈ found.blocks, declared (start ++ new.1))
    (hstep : after.Marked (Blocked declared (report.merge found start)) value)
    (hcomplete : ∀ new ∈ found.blocks, start ++ new.1 = [] ∨ value.Invalidated (start ++ new.1)) :
    Tracks declared before (report.merge found start) value := by
  have hbefore : before.Marked (Blocked declared (report.merge found start)) after :=
    h.allowed.mono fun location hin => blocked_left hin
  refine ⟨h.sound.merge hsound start, ?_, hbefore.trans hstep, ?_⟩
  · intro block hblock
    rcases Report.mem_blocks_merge hblock with ⟨old, hold, hloc⟩ | ⟨new, hnew, hloc⟩
    · rw [hloc]
      exact h.declares old hold
    · rw [hloc]
      exact hdeclares new hnew
  · intro block hblock
    rcases Report.mem_blocks_merge hblock with ⟨old, hold, hloc⟩ | ⟨new, hnew, hloc⟩
    · rw [hloc]
      exact (h.complete old hold).imp id fun hinvalid => hstep.invalidated hinvalid
    · rw [hloc]
      exact hcomplete new hnew

/-- A further report on the value itself, which is not marked as a whole yet. -/
theorem mergeRoot (h : Tracks declared before report after) (h' : Tracks declared after found changed) :
    Tracks declared before (report.merge found []) changed := by
  have hstep : after.Marked (Blocked declared (report.merge found [])) changed :=
    h'.allowed.mono fun location hin => blocked_right hin.1 hin.2
  exact h.merged h'.sound h'.declares hstep h'.complete

/-- A report on a part of the value.  The part is put back after it was marked, which marks the value at the
locations of the part and is seen from these locations. -/
theorem mergeBelow (h : Tracks declared before report after) {start : Location} {value : Value}
    (h' : Tracks below part found changed)
    (hdeclared : ∀ location, below location → declared (start ++ location))
    (hput : ∀ allowed : Location → Prop,
      part.Marked (fun location => allowed (start ++ location)) (marked found changed) →
        after.Marked allowed value)
    (hseen : ∀ location, (marked found changed).Invalidated location →
      value.Invalidated (start ++ location)) :
    Tracks declared before (report.merge found start) value := by
  have hstep : after.Marked (Blocked declared (report.merge found start)) value :=
    hput _ (h'.allowed_marked.mono fun location hin => blocked_right (hdeclared location hin.1) hin.2)
  refine h.merged h'.sound ?_ hstep ?_
  · intro new hnew
    exact hdeclared new.1 (h'.declares new hnew)
  · intro new hnew
    exact .inr (hseen new.1 (h'.complete_marked hnew))

/-- Marks are not concerned by what else a report records. -/
theorem withBlocks (h : Tracks declared before report after) {more : Report} (hsound : more.Sound)
    (hblocks : more.blocks = report.blocks) : Tracks declared before more after := by
  refine ⟨hsound, ?_, ?_, ?_⟩
  · rw [hblocks]
    exact h.declares
  · unfold Blocked
    rw [hblocks]
    exact h.allowed
  · rw [hblocks]
    exact h.complete

/-- A report that blocks nothing asks for no marks, wherever it is merged. -/
theorem mergeFree (h : Tracks declared before report after) (hfound : found.Sound)
    (hfree : found.blocks = []) (start : Location) :
    Tracks declared before (report.merge found start) after := by
  apply h.withBlocks (h.sound.merge hfound start)
  rw [Report.merge, hfree]
  rfl

/-! ## Lists -/

/-- The items of a list are checked and marked one by one, each below its own index. -/
theorem checkItems {check : Value → Report × Value}
    (hcheck : ∀ item, item.WellKeyed → Tracks below item (check item).1 (check item).2)
    (hdeclared : ∀ index location, below location → declared (.index index :: location)) :
    ∀ (items checked : List Value) (report : Report), (∀ item ∈ items, item.WellKeyed) →
      Tracks declared before report (.list (checked ++ items)) →
        Tracks declared before (Scim.checkItems check report checked.length items).1
          (.list (checked ++ (Scim.checkItems check report checked.length items).2)) := by
  intro items
  induction items with
  | nil => exact fun checked report _ h => h
  | cons item items ih =>
    intro checked report hkeys h
    have hitem := hcheck item (hkeys item List.mem_cons_self)
    -- the item is found, and put back, at the index that counts those already checked
    have hat : (checked ++ item :: items)[checked.length]? = some item := by simp
    have hset : ∀ value, (checked ++ item :: items).set checked.length value =
        (checked ++ [value]) ++ items := by simp
    have hmerged : Tracks declared before (report.merge (check item).1 [.index checked.length])
        (.list ((checked ++ [marked (check item).1 (check item).2]) ++ items)) := by
      rw [← hset]
      refine h.mergeBelow hitem (hdeclared checked.length) ?_ ?_
      · intro allowed hmarked
        exact Value.Marked.list_set hat hmarked
      · intro location hinvalid
        exact .list_set hat hinvalid
    have hrest := ih (checked ++ [marked (check item).1 (check item).2]) _
      (fun later hlater => hkeys later (List.mem_cons_of_mem _ hlater)) hmerged
    simpa [Scim.checkItems] using hrest

/-! ## Attributes -/

/-- Checks run on a value change nothing of it. -/
theorem runChecks {checks : List Check} (hchecks : ∀ check ∈ checks, check.BlocksRootOnly)
    (hroot : declared []) (h : Tracks declared before report after) :
    Tracks declared before (Scim.runChecks checks after report) after := by
  unfold Scim.runChecks
  induction checks generalizing report with
  | nil => exact h
  | cons check checks ih =>
    rw [List.foldl_cons]
    apply ih (fun later hlater => hchecks later (List.mem_cons_of_mem _ hlater))
    split
    · have hrun : RootOnly (check.run after) := check.run_rootOnly (hchecks check List.mem_cons_self) after
      exact h.mergeRoot (.ofRootOnly hrun hroot after)
    · exact h

end Tracks

variable {catalog : Catalog}

/-- The types of a list are checked item by item. -/
theorem Attribute.checkTypes_tracks (attr : Attribute) (hmulti : attr.traits.multiValued = true)
    {items : List Value} (hkeys : (Value.list items).WellKeyed) :
    Tracks attr.Declares (.list items)
      (checkItems (fun item => (attr.kind.checkType item, item)) .empty 0 items).1
      (.list (checkItems (fun item => (attr.kind.checkType item, item)) .empty 0 items).2) := by
  have hdeclared : ∀ (index : Nat) (location : Location), attr.kind.Declares location →
      attr.Declares (.index index :: location) := fun index location h => .element hmulti index h
  have htype : ∀ item : Value, item.WellKeyed →
      Tracks attr.kind.Declares item (attr.kind.checkType item) item := fun item _ =>
    .ofRootOnly (attr.kind.checkType_rootOnly item) (.whole attr.kind) item
  exact @Tracks.checkItems _ _ _ (fun item => (attr.kind.checkType item, item)) htype hdeclared
    items [] .empty (Value.everywhere_list.1 hkeys) (.start (.whole attr) (.list items))

/-- A check that passes over invalid items keeps in step what the check does. -/
theorem unlessInvalid_tracks {declared : Location → Prop} (hroot : declared [])
    {check : Value → Report × Value} {item : Value}
    (hcheck : Tracks declared item (check item).1 (check item).2) :
    Tracks declared item (unlessInvalid check item).1 (unlessInvalid check item).2 := by
  unfold unlessInvalid
  split
  · exact .start hroot item
  · exact hcheck

section

variable {attr : Attribute} (hchecks : ∀ check ∈ attr.hooks.checks, check.BlocksRootOnly)
  (hitems : ∀ item : Value, item.WellKeyed →
    Tracks attr.kind.Declares item (attr.kind.validateItem catalog attr.traits item).1
      (attr.kind.validateItem catalog attr.traits item).2)

include hitems

include hchecks in
/-- If the rules of the kind keep marks and report in step, so does validating a single value. -/
private theorem Attribute.validate_tracks_of_single (hsingle : attr.traits.multiValued = false) {value : Value}
    (hkeys : value.WellKeyed) (habsent : value.isAbsent = false) :
    Tracks attr.Declares value (attr.validate catalog value).1 (attr.validate catalog value).2 := by
  have hroot : attr.Declares [] := .whole attr
  have htypes : Tracks attr.Declares value (attr.kind.checkType value) value :=
    .ofRootOnly (attr.kind.checkType_rootOnly value) hroot value
  have hrules : Tracks attr.Declares value (attr.kind.validateItem catalog attr.traits value).1
      (attr.kind.validateItem catalog attr.traits value).2 :=
    (hitems value hkeys).mono fun location h => .single hsingle h
  rw [attr.validate_single hsingle habsent]
  split
  · exact (htypes.mergeRoot hrules).runChecks hchecks hroot
  · exact htypes

/-- The rules are checked on a list item by item, after the types. -/
theorem Attribute.checkRules_tracks (hmulti : attr.traits.multiValued = true) {before : Value}
    {types : Report} {typed : List Value} (hkeys : before.WellKeyed)
    (htypes : Tracks attr.Declares before types (.list typed)) :
    Tracks attr.Declares before
      (checkItems (unlessInvalid (attr.kind.validateItem catalog attr.traits)) types 0 typed).1
      (.list (checkItems (unlessInvalid (attr.kind.validateItem catalog attr.traits)) types 0 typed).2) := by
  have hdeclared : ∀ (index : Nat) (location : Location), attr.kind.Declares location →
      attr.Declares (.index index :: location) := fun index location h => .element hmulti index h
  have htyped := Value.everywhere_list.1 (htypes.wellKeyed hkeys)
  exact Tracks.checkItems
    (fun item hitem => unlessInvalid_tracks (.whole attr.kind) (hitems item hitem)) hdeclared typed []
    types htyped htypes

include hchecks in
/-- And so does validating a list, item by item: first the types, then the rules. -/
private theorem Attribute.validate_tracks_of_list (hmulti : attr.traits.multiValued = true)
    {items : List Value} (hkeys : (Value.list items).WellKeyed) :
    Tracks attr.Declares (.list items) (attr.validate catalog (.list items)).1
      (attr.validate catalog (.list items)).2 := by
  have hrules := attr.checkRules_tracks hitems hmulti hkeys (attr.checkTypes_tracks hmulti hkeys)
  rw [attr.validate_list hmulti]
  dsimp only
  split
  · exact hrules.runChecks hchecks (.whole attr)
  · exact attr.checkTypes_tracks hmulti hkeys

include hchecks in
/-- If the rules of the kind keep marks and report in step, so does validating the attribute. -/
theorem Attribute.validate_tracks_of_items {value : Value} (hkeys : value.WellKeyed) :
    Tracks attr.Declares value (attr.validate catalog value).1 (attr.validate catalog value).2 := by
  have hroot : attr.Declares [] := .whole attr
  cases habsent : value.isAbsent with
  | true =>
    rw [attr.validate_absent habsent]
    exact .start hroot value
  | false =>
    cases hmulti : attr.traits.multiValued with
    | false => exact attr.validate_tracks_of_single hchecks hitems hmulti hkeys habsent
    | true =>
      cases hlist : value.list? with
      | none =>
        rw [attr.validate_not_list hmulti habsent hlist]
        exact .ofRootOnly (.ofViolation _ false) hroot value
      | some items =>
        rw [Value.list?_eq_some.1 hlist] at hkeys ⊢
        exact attr.validate_tracks_of_list hchecks hitems hmulti hkeys

end

/-- A single item that has no sub-attributes to check keeps its value, and is blocked as a whole or not. -/
theorem Kind.validateItem_tracks_of_simple {kind : Kind} (traits : Traits)
    (hsimple : ∀ subs, kind ≠ .complex subs) (value : Value) :
    Tracks kind.Declares value (kind.validateItem catalog traits value).1
      (kind.validateItem catalog traits value).2 := by
  have hroot : kind.Declares [] := .whole kind
  have hcanonical := traits.checkCanonical_rootOnly value
  rw [Kind.validateItem]
  · generalize traits.checkCanonical value = checked at hcanonical ⊢
    obtain ⟨report, final⟩ := checked
    dsimp only at hcanonical ⊢
    split
    · next text =>
      have htext := @Kind.checkText_rootOnly catalog kind text
      exact (Tracks.ofRootOnly hcanonical hroot _).mergeRoot (.ofRootOnly htext hroot _)
    · exact .ofRootOnly hcanonical hroot _
  · exact hsimple

mutual

/-- Validating a value against an attribute keeps marks and report in step. -/
theorem Attribute.validate_tracks : ∀ (attr : Attribute), attr.EveryCheck Check.BlocksRootOnly →
    ∀ {value : Value}, value.WellKeyed →
      Tracks attr.Declares value (attr.validate catalog value).1 (attr.validate catalog value).2
  | ⟨_, kind, traits, _⟩, hchecks, _, hkeys =>
    Attribute.validate_tracks_of_items hchecks.1
      (fun _ hitem => Kind.validateItem_tracks kind hchecks.2 traits hitem) hkeys

/-- So does checking a single item. -/
theorem Kind.validateItem_tracks : ∀ (kind : Kind), kind.EveryCheck Check.BlocksRootOnly →
    ∀ (traits : Traits) {value : Value}, value.WellKeyed →
      Tracks kind.Declares value (kind.validateItem catalog traits value).1
        (kind.validateItem catalog traits value).2
  | .complex subs, hchecks, traits, value, hkeys => by
    have hroot : Kind.Declares (.complex subs) [] := .whole _
    have hcanonical := traits.checkCanonical_rootOnly value
    rw [Kind.validateItem]
    generalize traits.checkCanonical value = checked at hcanonical ⊢
    obtain ⟨report, final⟩ := checked
    dsimp only at hcanonical ⊢
    split
    · next entries =>
      have hdeclared : ∀ sub ∈ subs, ∀ location, sub.Declares location →
          Kind.Declares (.complex subs) (.ofName sub.name :: location) :=
        fun sub hsub location h => .sub hsub h
      exact validateSubs_tracks subs hchecks hdeclared hkeys (.ofRootOnly hcanonical hroot _)
    · exact .ofRootOnly hcanonical hroot _
  | .unknown, _, traits, value, _ => Kind.validateItem_tracks_of_simple traits (by simp) value
  | .boolean, _, traits, value, _ => Kind.validateItem_tracks_of_simple traits (by simp) value
  | .integer, _, traits, value, _ => Kind.validateItem_tracks_of_simple traits (by simp) value
  | .decimal, _, traits, value, _ => Kind.validateItem_tracks_of_simple traits (by simp) value
  | .string, _, traits, value, _ => Kind.validateItem_tracks_of_simple traits (by simp) value
  | .binary, _, traits, value, _ => Kind.validateItem_tracks_of_simple traits (by simp) value
  | .dateTime, _, traits, value, _ => Kind.validateItem_tracks_of_simple traits (by simp) value
  | .reference _, _, traits, value, _ => Kind.validateItem_tracks_of_simple traits (by simp) value

/-- And so does checking the sub-attributes of a record one after the other. -/
theorem validateSubs_tracks : ∀ (subs : List Attribute), everyCheck Check.BlocksRootOnly subs →
    ∀ {declared : Location → Prop} {before : Value} {report : Report} {entries : Record},
      (∀ sub ∈ subs, ∀ location, sub.Declares location → declared (.ofName sub.name :: location)) →
      before.WellKeyed → Tracks declared before report (.record entries) →
      Tracks declared before (validateSubs catalog subs entries report).1
        (.record (validateSubs catalog subs entries report).2)
  | [], _, _, _, _, _, _, _, h => h
  | sub :: subs, hchecks, declared, before, report, entries, hdeclared, hkeys, h => by
    have hrest : ∀ other ∈ subs, ∀ location, other.Declares location →
        declared (.ofName other.name :: location) :=
      fun other hother => hdeclared other (List.mem_cons_of_mem _ hother)
    rw [validateSubs]
    dsimp only
    split
    · exact validateSubs_tracks subs hchecks.2 hrest hkeys h
    · next value hvalue =>
      split
      · exact validateSubs_tracks subs hchecks.2 hrest hkeys h
      · have hentries := h.wellKeyed hkeys
        obtain ⟨hdistinct, hvalues⟩ := Value.everywhere_record.1 hentries
        obtain ⟨stored, hstored, -⟩ := Entries.mem_of_get? hvalue
        have hsub := Attribute.validate_tracks sub hchecks.1 (hvalues _ hstored)
        apply validateSubs_tracks subs hchecks.2 hrest hkeys
        refine h.mergeBelow hsub (hdeclared sub List.mem_cons_self) ?_ ?_
        · intro allowed hmarked
          exact Value.Marked.record_replace hdistinct hvalue hmarked
        · intro location hinvalid
          exact .record_replace hvalue hinvalid

end

end Scim
