import Scim.Proofs.Report.History

/-!
# Reports of the elements of a list

A list is checked element by element, and what is found in an element is merged below its index.  Places of
different indexes do not meet, so each element has a part of the merged report to itself: selecting at its index
gives back what was found in it, so the elements and the parts of the report may be put in another order together.
And it makes no difference whether each element was checked twice in a row, or all of them in two rounds.

All of this holds up to the order in which locations are listed, that is for reports that answer alike.

## Main results

* `Agrees.mergeEach_mergeEach`: two rounds over a list are one in which each element is checked twice.
* `Agrees.partAt_mergeEach`: selecting at an index gives what was found in the element.
* `Agrees.mergeEach_parts`: for elements in another order, the parts are put in that order.
-/

namespace Scim

/-- A place at one index does not lie below another index. -/
theorem Location.index_apart {index other : Nat} (h : index ≠ other) :
    Location.startsWith [.index index] [.index other] = false := by
  show (other == index && true) = false
  simp [Ne.symm h]

namespace Report

variable {a b c d report found : Report} {reports others : List Report} {start place : Location} {index : Nat}

/-! ## Combining reports that answer alike -/

theorem Agrees.refl (a : Report) : Agrees a a := ⟨fun _ => rfl, fun _ => rfl, fun _ _ => Iff.rfl⟩

theorem Agrees.symm (h : Agrees a b) : Agrees b a :=
  ⟨fun asked => (h.violations asked).symm, fun asked => (h.advice asked).symm,
    fun asked code => (h.codes asked code).symm⟩

theorem Agrees.trans (hab : Agrees a b) (hbc : Agrees b c) : Agrees a c where
  violations asked := (hab.violations asked).trans (hbc.violations asked)
  advice asked := (hab.advice asked).trans (hbc.advice asked)
  codes asked code := (hab.codes asked code).trans (hbc.codes asked code)

/-- Merging looks only at the answers. -/
theorem Agrees.merge (hab : Agrees a b) (hcd : Agrees c d) (hc : Sound c) (hd : Sound d) (start : Location) :
    Agrees (a.merge c start) (b.merge d start) where
  violations asked := by
    refine (Slots.issuesAt_merge _ hc.violations start asked).trans ?_
    rw [hab.violations, hcd.violations]
    exact (Slots.issuesAt_merge _ hd.violations start asked).symm
  advice asked := by
    refine (Slots.issuesAt_merge _ hc.advice start asked).trans ?_
    rw [hab.advice, hcd.advice]
    exact (Slots.issuesAt_merge _ hd.advice start asked).symm
  codes asked code := by
    rw [mem_issuesAt_blocks_merge hc, mem_issuesAt_blocks_merge hd, hab.codes, hcd.codes]

/-- So does selecting. -/
theorem Agrees.select (h : Agrees a b) (ha : Sound a) (hb : Sound b) (start : Location) :
    Agrees (a.select none none start) (b.select none none start) where
  violations asked := by
    refine (Slots.issuesAt_under ha.violations start _ asked).trans ?_
    rw [h.violations]
    exact (Slots.issuesAt_under hb.violations start _ asked).symm
  advice asked := by
    refine (Slots.issuesAt_under ha.advice start _ asked).trans ?_
    rw [h.advice]
    exact (Slots.issuesAt_under hb.advice start _ asked).symm
  codes asked code := by
    rw [mem_issuesAt_blocks_select ha, mem_issuesAt_blocks_select hb, h.codes]

theorem Agrees.empty_merge (h : Sound a) : Agrees (empty.merge a []) a where
  violations asked := by
    refine (Slots.issuesAt_merge _ h.violations [] asked).trans ?_
    rw [Location.startsWith_nil]
    rfl
  advice asked := by
    refine (Slots.issuesAt_merge _ h.advice [] asked).trans ?_
    rw [Location.startsWith_nil]
    rfl
  codes asked code := by
    rw [mem_issuesAt_blocks_merge h, Location.startsWith_nil]
    simp [empty]

/-- What was merged at a place that does not meet another one is not selected there. -/
theorem Agrees.select_merge_apart (h : Sound report) (hfound : Sound found)
    (hstart : start.startsWith place = false) (hplace : place.startsWith start = false) :
    Agrees ((report.merge found place).select none none start) (report.select none none start) := by
  have hapart : ∀ asked : Location, Location.startsWith (start ++ asked) place = false := fun asked =>
    Location.startsWith_eq_false_of_apart hstart hplace (Location.append_startsWith start asked)
  have hmerged := h.merge hfound place
  refine ⟨fun asked => ?_, fun asked => ?_, fun asked code => ?_⟩
  · refine (Slots.issuesAt_under hmerged.violations start _ asked).trans ?_
    refine Eq.trans ?_ (Slots.issuesAt_under h.violations start _ asked).symm
    refine congrArg (List.filter _) ((Slots.issuesAt_merge _ hfound.violations place _).trans ?_)
    simp [hapart]
  · refine (Slots.issuesAt_under hmerged.advice start _ asked).trans ?_
    refine Eq.trans ?_ (Slots.issuesAt_under h.advice start _ asked).symm
    refine congrArg (List.filter _) ((Slots.issuesAt_merge _ hfound.advice place _).trans ?_)
    simp [hapart]
  · rw [mem_issuesAt_blocks_select hmerged, mem_issuesAt_blocks_select h, mem_issuesAt_blocks_merge hfound, hapart]
    simp

/-! ## Reports below consecutive indexes -/

/-- Merges reports below consecutive indexes, the first of which is given. -/
def mergeEach (report : Report) (index : Nat) : List Report → Report
  | [] => report
  | found :: reports => (report.merge found [.index index]).mergeEach (index + 1) reports

theorem Sound.mergeEach (h : Sound report) (hall : ∀ found ∈ reports, Sound found) (index : Nat) :
    Sound (report.mergeEach index reports) := by
  induction reports generalizing report index with
  | nil => exact h
  | cons found reports ih =>
    obtain ⟨hfound, hrest⟩ := List.forall_mem_cons.1 hall
    exact ih (h.merge hfound _) hrest _

/-- What is found in elements does not block the list. -/
theorem canProceed_mergeEach (report : Report) (index : Nat) (reports : List Report) :
    (report.mergeEach index reports).canProceed [] = report.canProceed [] := by
  induction reports generalizing report index with
  | nil => rfl
  | cons found reports ih =>
    rw [mergeEach, ih, canProceed_merge_part]

/-- Reports that answer alike may stand for each other. -/
theorem Agrees.mergeEach (h : Agrees a b) (heach : List.Forall₂ Agrees reports others)
    (hall : ∀ found ∈ reports, Sound found) (hothers : ∀ found ∈ others, Sound found) (index : Nat) :
    Agrees (a.mergeEach index reports) (b.mergeEach index others) := by
  induction heach generalizing a b index with
  | nil => exact h
  | cons hfirst hrest ih =>
    obtain ⟨hfound, hreports⟩ := List.forall_mem_cons.1 hall
    obtain ⟨hother, hothers⟩ := List.forall_mem_cons.1 hothers
    exact ih (h.merge hfirst hfound hother _) hreports hothers _

/-- The report that merging starts from may be changed. -/
theorem Agrees.mergeEach_left (h : Agrees a b) (hall : ∀ found ∈ reports, Sound found) (index : Nat) :
    Agrees (a.mergeEach index reports) (b.mergeEach index reports) :=
  h.mergeEach (List.forall₂_same.2 fun found _ => .refl found) hall hall index

/-! ### A second round -/

/-- A report below an earlier index may be merged before those below the later ones. -/
theorem Agrees.mergeEach_merge {first : Nat} (hfirst : first < index) (hfound : Sound found)
    (hall : ∀ found ∈ reports, Sound found) :
    Agrees ((a.mergeEach index reports).merge found [.index first])
      ((a.merge found [.index first]).mergeEach index reports) := by
  induction reports generalizing a index with
  | nil => exact .refl _
  | cons next reports ih =>
    obtain ⟨hnext, hrest⟩ := List.forall_mem_cons.1 hall
    have hswap : Agrees ((a.merge next [.index index]).merge found [.index first])
        ((a.merge found [.index first]).merge next [.index index]) :=
      .merge_comm hnext hfound (Location.index_apart (Nat.ne_of_gt hfirst)) (Location.index_apart (Nat.ne_of_lt hfirst))
    exact (ih (Nat.lt_succ_of_lt hfirst) hrest).trans (hswap.mergeEach_left hrest _)

/-- Two rounds over a list are one in which each element is checked twice. -/
theorem Agrees.mergeEach_mergeEach {α : Type} {first second : α → Report} (items : List α)
    (hfirst : ∀ item ∈ items, Sound (first item)) (hsecond : ∀ item ∈ items, Sound (second item)) :
    Agrees ((a.mergeEach index (items.map first)).mergeEach index (items.map second))
      (a.mergeEach index (items.map fun item => (first item).merge (second item) [])) := by
  induction items generalizing a index with
  | nil => exact .refl _
  | cons item items ih =>
    obtain ⟨hfound, hfirsts⟩ := List.forall_mem_cons.1 hfirst
    obtain ⟨hmore, hseconds⟩ := List.forall_mem_cons.1 hsecond
    have hseconds' : ∀ found ∈ items.map second, Sound found := List.forall_mem_map.2 hseconds
    have hboth : ∀ found ∈ items.map fun item => (first item).merge (second item) [], Sound found :=
      List.forall_mem_map.2 fun item hitem => (hfirsts item hitem).merge (hseconds item hitem) []
    -- the second report on the element goes before the first ones on those after it, and joins the first
    have hmoved : Agrees
        (((a.merge (first item) [.index index]).mergeEach (index + 1) (items.map first)).merge (second item)
          [.index index])
        (((a.merge (first item) [.index index]).merge (second item) [.index index]).mergeEach (index + 1)
          (items.map first)) :=
      .mergeEach_merge (Nat.lt_succ_self index) hmore (List.forall_mem_map.2 hfirsts)
    have hjoined : Agrees ((a.merge (first item) [.index index]).merge (second item) [.index index])
        (a.merge ((first item).merge (second item) []) [.index index]) :=
      (Agrees.merge_merge hfound hmore [.index index] []).symm
    exact (hmoved.mergeEach_left hseconds' (index + 1)).trans
      ((ih hfirsts hseconds).trans (hjoined.mergeEach_left hboth _))

/-! ### The part of an element -/

/-- What a report on a list holds of the element at an index. -/
def partAt (report : Report) (index : Nat) : Report := report.select none none [.index index]

/-- Below an index that the list does not reach, nothing is merged. -/
theorem Agrees.partAt_mergeEach_before {first : Nat} (hfirst : first < index) (h : Sound a)
    (hall : ∀ found ∈ reports, Sound found) : Agrees ((a.mergeEach index reports).partAt first) (a.partAt first) := by
  induction reports generalizing a index with
  | nil => exact .refl _
  | cons next reports ih =>
    obtain ⟨hnext, hrest⟩ := List.forall_mem_cons.1 hall
    refine (ih (Nat.lt_succ_of_lt hfirst) (h.merge hnext _) hrest).trans ?_
    exact .select_merge_apart h hnext (Location.index_apart (Nat.ne_of_lt hfirst))
      (Location.index_apart (Nat.ne_of_gt hfirst))

/-- Below the index of an element, its report joins what was there. -/
theorem Agrees.partAt_mergeEach_of_sound (h : Sound a) (hall : ∀ found ∈ reports, Sound found) {position : Nat}
    (hget : reports[position]? = some found) :
    Agrees ((a.mergeEach index reports).partAt (index + position))
      ((a.partAt (index + position)).merge found []) := by
  induction reports generalizing a index position with
  | nil => cases hget
  | cons next reports ih =>
    obtain ⟨hnext, hrest⟩ := List.forall_mem_cons.1 hall
    have hmerged : Sound (a.merge next [.index index]) := h.merge hnext _
    cases position with
    | zero =>
      cases hget
      have hrest' := Agrees.partAt_mergeEach_before (Nat.lt_succ_self index) hmerged hrest
      exact hrest'.trans (.select_merge h hnext _)
    | succ position =>
      have hfound : Sound found := hrest found (List.mem_of_getElem? hget)
      have hlater : index + (position + 1) = index + 1 + position := by omega
      have hne : index + 1 + position ≠ index := by omega
      rw [hlater]
      refine (ih hmerged hrest hget).trans (.merge ?_ (.refl found) hfound hfound [])
      exact .select_merge_apart h hnext (Location.index_apart hne) (Location.index_apart hne.symm)

/-- Selecting at an index gives what was found in the element. -/
theorem Agrees.partAt_mergeEach (hall : ∀ found ∈ reports, Sound found) {position : Nat}
    (hget : reports[position]? = some found) :
    Agrees ((empty.mergeEach 0 reports).partAt position) found := by
  have hat : Agrees ((empty.mergeEach 0 reports).partAt (0 + position)) _ :=
    .partAt_mergeEach_of_sound .empty hall hget
  rw [Nat.zero_add] at hat
  exact hat.trans (.empty_merge (hall found (List.mem_of_getElem? hget)))

/-- For elements in another order, the parts of the report on the list are put in that order. -/
theorem Agrees.mergeEach_parts {α : Type} {find : α → Report} {items : List α}
    (h : Agrees report (empty.mergeEach 0 (items.map find))) (hsound : Sound report)
    (hall : ∀ item, Sound (find item)) (order : List (Fin items.length)) :
    Agrees (empty.mergeEach 0 ((order.map items.get).map find))
      (empty.mergeEach 0 (order.map fun i : Fin items.length => report.partAt i.val)) := by
  have hfound : ∀ found ∈ items.map find, Sound found := List.forall_mem_map.2 fun item _ => hall item
  have hpart : ∀ i : Fin items.length, Agrees (report.partAt i.val) (find (items.get i)) := fun i =>
    (h.select hsound (.mergeEach .empty hfound 0) _).trans (.partAt_mergeEach hfound (by simp))
  refine (Agrees.refl _).mergeEach ?_ (List.forall_mem_map.2 fun item _ => hall item)
    (List.forall_mem_map.2 fun i _ => hsound.select none none _) 0
  rw [List.map_map, List.forall₂_map_left_iff, List.forall₂_map_right_iff]
  refine List.forall₂_same.2 fun i _ => ?_
  exact (hpart i).symm

end Report

end Scim
