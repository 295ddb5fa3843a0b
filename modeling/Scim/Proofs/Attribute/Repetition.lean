import Scim.Proofs.Attribute.Undeclared
import Scim.Proofs.Number.Exact
import Scim.Proofs.Schema.Collection

/-!
# Elements that repeat each other

Of the elements of a multi-valued complex attribute at most one should be the primary one, and no two should have the
same type and the same value.  The first is found out by counting the records that are marked.  For the second, the
pairs are counted in one pass over a table that grows: a pair that is in the table counts up there, and a new one is
put at its end.

What carries the second count from step to step is that the table is known as a whole: it has one row for each
different pair, in the order of first occurrence, with the number of its occurrences so far.  So what is reported
counts pairs and not repetitions of them, and the order of the list plays no part in it.  This holds of types and
values that are neither lists nor records, since these are equal only to themselves.

## Main results

* `Value.eq_of_same`: a value that is neither a list nor a record, and says something, is equal only to itself.
* `countPair_rows`: one step of the count.
* `tally_eq`: the table as a whole.
* `checkSinglePrimary_of_twice`, `checkDistinctPairs_eq`: what is reported.
* `reports_repetitions`: the whole statement.
-/

namespace Scim

/-! ## Twice in a list -/

section Twice

variable {α β : Type} {P : α → Prop} {items : List α}

/-- Two elements of a list, at different places in it, have a property. -/
def Twice (P : α → Prop) (items : List α) : Prop := ∃ first second, [first, second].Sublist items ∧ P first ∧ P second

theorem not_twice_iff : ¬ Twice P items ↔ items.Pairwise fun a b => ¬ (P a ∧ P b) := by
  rw [List.pairwise_iff_forall_sublist]
  constructor
  · exact fun h a b hsub hboth => h ⟨a, b, hsub, hboth⟩
  · rintro h ⟨a, b, hsub, hboth⟩
    exact h hsub hboth

theorem twice_filterMap {f : β → Option α} {items : List β} :
    Twice P (items.filterMap f) ↔ Twice (fun item => ∃ found, f item = some found ∧ P found) items := by
  rw [← not_iff_not, not_twice_iff, not_twice_iff, List.pairwise_filterMap]
  apply List.Pairwise.iff
  intro a b
  constructor
  · rintro h ⟨⟨x, hx, hfirst⟩, y, hy, hsecond⟩
    exact h x hx y hy ⟨hfirst, hsecond⟩
  · rintro h x hx y hy ⟨hfirst, hsecond⟩
    exact h ⟨⟨x, hx, hfirst⟩, y, hy, hsecond⟩

theorem twice_congr {Q : α → Prop} (h : ∀ item, P item ↔ Q item) : Twice P items ↔ Twice Q items := by
  rw [show P = Q from funext fun item => propext (h item)]

/-- An item stands twice in a list if it is counted there more than once. -/
theorem twice_eq_iff [BEq α] [LawfulBEq α] {item : α} : Twice (· = item) items ↔ 1 < items.count item := by
  rw [← Nat.succ_le_iff, ← List.replicate_sublist_iff]
  constructor
  · rintro ⟨_, _, hsub, rfl, rfl⟩
    exact hsub
  · exact fun hsub => ⟨item, item, hsub, rfl, rfl⟩

end Twice

/-! ## Values without parts -/

namespace Value

/-- The value is neither a list nor a record. -/
def Scalar (value : Value) : Prop := value.list? = none ∧ value.record? = none

/-- Such a value, if it says something, is equal only to itself. -/
theorem eq_of_same {a b : Value} (ha : a.Scalar) (htruthy : a.truthy = true) (h : a.same b = true) : a = b := by
  obtain ⟨hlist, hrecord⟩ := ha
  cases a with
  | list items => cases hlist
  | record entries => cases hrecord
  | bool p =>
    cases b with
    | bool q => rw [beq_iff_eq.1 h]
    | _ => cases h
  | text s =>
    cases b with
    | text t => rw [beq_iff_eq.1 h]
    | _ => cases h
  | number m =>
    cases b with
    | number n =>
      have hzero : m.isZero = false := by simpa [truthy] using htruthy
      rw [Number.eq_of_same h hzero]
    | _ => cases h
  | _ => cases htruthy

theorem Scalar.wellKeyed {a : Value} (ha : a.Scalar) : a.WellKeyed := by
  obtain ⟨hlist, hrecord⟩ := ha
  cases a with
  | list items => cases hlist
  | record entries => cases hrecord
  | _ => trivial

end Value

/-! ## Counting pairs -/

/-- A type and a value that both say something and are neither lists nor records. -/
structure PlainPair (pair : Value × Value) : Prop where
  kind : pair.1.Scalar ∧ pair.1.truthy = true
  value : pair.2.Scalar ∧ pair.2.truthy = true

/-- Such a pair is equal only to itself. -/
theorem PlainPair.same_iff {pair other : Value × Value} (h : PlainPair pair) :
    (pair.1.same other.1 && pair.2.same other.2) = true ↔ pair = other := by
  obtain ⟨⟨hkind, hkindTruthy⟩, hvalue, hvalueTruthy⟩ := h
  rw [Bool.and_eq_true]
  constructor
  · rintro ⟨hfirst, hsecond⟩
    exact Prod.ext (Value.eq_of_same hkind hkindTruthy hfirst) (Value.eq_of_same hvalue hvalueTruthy hsecond)
  · rintro rfl
    exact ⟨Value.same_refl_of_wellKeyed _ hkind.wellKeyed, Value.same_refl_of_wellKeyed _ hvalue.wellKeyed⟩

section Tally

open scoped Classical

variable {pairs : List (Value × Value)} {next : Value × Value}

/-- One step of the count: where a pair has a row, that counts up, and otherwise it is given a row at the end. -/
theorem countPair_rows {rows : List (Value × Value)} (hplain : ∀ pair ∈ rows, PlainPair pair) (hrows : rows.Nodup)
    (counts : Value × Value → Nat) (next : Value × Value) :
    countPair (rows.map fun pair => (pair, counts pair)) next =
      rows.map (fun pair => (pair, if pair = next then counts pair + 1 else counts pair)) ++
        if next ∈ rows then [] else [(next, 1)] := by
  induction rows with
  | nil => rfl
  | cons row rows ih =>
    obtain ⟨hrow, hrest⟩ := List.forall_mem_cons.1 hplain
    obtain ⟨hnew, hrows⟩ := List.nodup_cons.1 hrows
    rw [List.map_cons, countPair]
    by_cases hsame : row = next
    · -- the step ends at this row, and no row behind it is of the same pair
      subst hsame
      have hkept : rows.map (fun pair => (pair, if pair = row then counts pair + 1 else counts pair)) =
          rows.map fun pair => (pair, counts pair) := by
        refine List.map_congr_left fun pair hpair => ?_
        rw [if_neg (by rintro rfl; exact hnew hpair)]
      rw [if_pos (hrow.same_iff.2 rfl), List.map_cons, hkept, if_pos rfl, if_pos List.mem_cons_self, List.append_nil]
    · have hmem : next ∈ row :: rows ↔ next ∈ rows := by simp [Ne.symm hsame]
      rw [if_neg (fun h => hsame (hrow.same_iff.1 h)), ih hrest hrows, List.map_cons, if_neg hsame]
      simp only [hmem, List.cons_append]

/-- The table has one row for each different pair, in the order of first occurrence, with the number of its
occurrences. -/
theorem tally_eq (hplain : ∀ pair ∈ pairs, PlainPair pair) :
    pairs.foldl countPair [] = pairs.eraseDups.map fun pair => (pair, pairs.count pair) := by
  induction pairs using List.reverseRecOn with
  | nil => rfl
  | append_singleton pairs next ih =>
    have hbefore : ∀ pair ∈ pairs, PlainPair pair := fun pair hpair => hplain pair (List.mem_append_left _ hpair)
    have hrows : ∀ pair ∈ pairs.eraseDups, PlainPair pair := fun pair hpair => hbefore pair (List.mem_eraseDups.1 hpair)
    rw [List.foldl_append, List.foldl_cons, List.foldl_nil, ih hbefore,
      countPair_rows hrows (nodup_eraseDups pairs), eraseDups_concat, List.map_append]
    have hcount : ∀ pair,
        (pairs ++ [next]).count pair = if pair = next then pairs.count pair + 1 else pairs.count pair := by
      intro pair
      rw [List.count_append, List.count_singleton]
      by_cases hsame : pair = next
      · simp [hsame]
      · simp [hsame, Ne.symm hsame]
    simp only [hcount, List.mem_eraseDups]
    congr 1
    by_cases hold : next ∈ pairs
    · rw [if_pos hold, if_pos hold, List.map_nil]
    · rw [if_neg hold, if_neg hold, List.map_singleton, if_pos rfl, List.count_eq_zero.2 hold]

end Tally

/-! ## What is reported -/

/-- The report of so many repeated pairs: as much advice at the root, and nothing else. -/
def advisedAgainst (n : Nat) : Report where
  advice := if n = 0 then [] else [([], List.replicate n .repeatedPair)]

theorem addAdvice_advisedAgainst (n : Nat) :
    (advisedAgainst n).addAdvice .repeatedPair [] = advisedAgainst (n + 1) := by
  cases n with
  | zero => rfl
  | succ n =>
    rw [advisedAgainst, advisedAgainst, if_neg (Nat.succ_ne_zero _), if_neg (Nat.succ_ne_zero _),
      List.replicate_succ' (n := n + 1)]
    rfl

/-- The report tells how many pairs there were. -/
theorem issuesAt_advisedAgainst (n : Nat) :
    (advisedAgainst n).advice.issuesAt [] = List.replicate n .repeatedPair := by
  cases n <;> rfl

theorem foldl_addAdvice {α : Type} (rows : List α) (n : Nat) :
    rows.foldl (fun report _ => report.addAdvice .repeatedPair []) (advisedAgainst n) =
      advisedAgainst (n + rows.length) := by
  induction rows generalizing n with
  | nil => rfl
  | cons row rows ih =>
    rw [List.foldl_cons, addAdvice_advisedAgainst, ih, List.length_cons, Nat.add_assoc, Nat.add_comm 1]

variable {items others strangers : List Value} {pair : Value × Value}

/-- The element is a record that has this type and this value, in whatever casing, and both say something. -/
def Value.HoldsPair (pair : Value × Value) (item : Value) : Prop :=
  ∃ entries : Record, item = .record entries ∧ entries.value "type" = pair.1 ∧ entries.value "value" = pair.2 ∧
    pair.1.truthy = true ∧ pair.2.truthy = true

/-- The types and values of the records of a list are neither lists nor records. -/
def ScalarPairs (items : List Value) : Prop :=
  ∀ entries : Record, .record entries ∈ items → (entries.value "type").Scalar ∧ (entries.value "value").Scalar

/-- The pairs that the records of a list hold. -/
def pairsOf (items : List Value) : List (Value × Value) := (recordItems (.list items)).filterMap pair?

theorem pair?_eq_some_iff {item : Record} :
    pair? item = some pair ↔ item.value "type" = pair.1 ∧ item.value "value" = pair.2 ∧
      pair.1.truthy = true ∧ pair.2.truthy = true := by
  obtain ⟨kind, value⟩ := pair
  rw [pair?_eq]
  constructor
  · intro h
    split at h
    · next htruthy =>
      cases h
      exact ⟨rfl, rfl, Bool.and_eq_true_iff.1 htruthy⟩
    · cases h
  · rintro ⟨rfl, rfl, hkind, hvalue⟩
    rw [hkind, hvalue]
    rfl

theorem mem_pairsOf_iff : pair ∈ pairsOf items ↔ ∃ item ∈ items, item.HoldsPair pair := by
  show pair ∈ (items.filterMap Value.record?).filterMap pair? ↔ _
  simp only [List.mem_filterMap, pair?_eq_some_iff, Value.record?_eq_some]
  constructor
  · rintro ⟨entries, ⟨item, hitem, hrecord⟩, hpair⟩
    exact ⟨item, hitem, entries, hrecord, hpair⟩
  · rintro ⟨item, hitem, entries, hrecord, hpair⟩
    exact ⟨entries, ⟨item, hitem, hrecord⟩, hpair⟩

/-- Two records hold a pair if it stands twice among the pairs. -/
theorem twice_holdsPair : Twice (Value.HoldsPair pair) items ↔ Twice (· = pair) (pairsOf items) := by
  show _ ↔ Twice _ ((items.filterMap Value.record?).filterMap pair?)
  rw [twice_filterMap, twice_filterMap]
  refine twice_congr fun item => ?_
  simp only [Value.record?_eq_some, exists_eq_right, pair?_eq_some_iff]
  rfl

theorem plainPair_of_mem (h : ScalarPairs items) (hpair : pair ∈ pairsOf items) : PlainPair pair := by
  obtain ⟨item, hitem, entries, rfl, hkind, hvalue, hkindTruthy, hvalueTruthy⟩ := mem_pairsOf_iff.1 hpair
  obtain ⟨hkindScalar, hvalueScalar⟩ := h entries hitem
  exact ⟨⟨hkind ▸ hkindScalar, hkindTruthy⟩, hvalue ▸ hvalueScalar, hvalueTruthy⟩

open scoped Classical in
/-- Each pair that two elements hold is advised against once. -/
theorem checkDistinctPairs_eq (h : ScalarPairs items) : ∃ repeated : List (Value × Value), repeated.Nodup ∧
    (∀ pair, pair ∈ repeated ↔ Twice (Value.HoldsPair pair) items) ∧
      checkDistinctPairs (.list items) = advisedAgainst repeated.length := by
  refine ⟨(pairsOf items).eraseDups.filter fun pair => 1 < (pairsOf items).count pair,
    (nodup_eraseDups _).filter _, fun pair => ?_, ?_⟩
  · rw [twice_holdsPair, twice_eq_iff, List.mem_filter, List.mem_eraseDups, decide_eq_true_iff, and_iff_right_iff_imp]
    exact fun hmany => List.count_pos_iff.1 (Nat.zero_lt_of_lt hmany)
  · rw [checkDistinctPairs, ← pairsOf, tally_eq fun pair => plainPair_of_mem h]
    have hempty : Report.empty = advisedAgainst 0 := rfl
    rw [hempty, foldl_addAdvice, List.filter_map, List.length_map, Nat.zero_add]
    rfl

theorem twice_isPrimary_iff :
    Twice Value.IsPrimary items ↔ 1 < ((recordItems (.list items)).filter isPrimary).length := by
  rw [← not_iff_not, not_twice_iff, Nat.not_lt, ← onePrimary_list_iff]
  constructor
  · rintro h _ ⟨⟩
    exact h
  · exact fun h => h items rfl

theorem checkSinglePrimary_of_twice (h : Twice Value.IsPrimary items) :
    checkSinglePrimary (.list items) = { violations := [([], [.severalPrimaries])] } := by
  rw [checkSinglePrimary, if_pos (twice_isPrimary_iff.1 h)]
  rfl

theorem checkSinglePrimary_of_not_twice (h : ¬ Twice Value.IsPrimary items) :
    checkSinglePrimary (.list items) = .empty := by
  rw [checkSinglePrimary, if_neg fun hmany => h (twice_isPrimary_iff.2 hmany)]

/-! ## The order of the elements -/

/-- Elements that are not records do not count, and the others may be in any order. -/
theorem recordItems_perm (hstrangers : ∀ stranger ∈ strangers, stranger.record? = none)
    (h : others.Perm (items ++ strangers)) : (recordItems (.list others)).Perm (recordItems (.list items)) := by
  have hrecords := h.filterMap Value.record?
  rw [List.filterMap_append, List.filterMap_eq_nil_iff.2 hstrangers, List.append_nil] at hrecords
  exact hrecords

theorem checkSinglePrimary_perm (h : (recordItems (.list others)).Perm (recordItems (.list items))) :
    checkSinglePrimary (.list others) = checkSinglePrimary (.list items) := by
  rw [checkSinglePrimary, checkSinglePrimary, (h.filter isPrimary).length_eq]

open scoped Classical in
/-- Where the pairs are plain, their order plays no part. -/
theorem checkDistinctPairs_perm (hitems : ScalarPairs items) (hothers : ScalarPairs others)
    (h : (recordItems (.list others)).Perm (recordItems (.list items))) :
    checkDistinctPairs (.list others) = checkDistinctPairs (.list items) := by
  obtain ⟨repeated, hnodup, hrepeated, hreport⟩ := checkDistinctPairs_eq hitems
  obtain ⟨again, hnodupAgain, hagain, hreportAgain⟩ := checkDistinctPairs_eq hothers
  -- each list has every repeated pair once, so only membership counts
  have hsame : again.Perm repeated := by
    refine (List.perm_ext_iff_of_nodup hnodupAgain hnodup).2 fun pair => ?_
    rw [hagain, hrepeated, twice_holdsPair, twice_holdsPair, twice_eq_iff, twice_eq_iff]
    rw [pairsOf, pairsOf, (h.filterMap pair?).count_eq]
  rw [hreport, hreportAgain, hsame.length_eq]

/-- Whatever elements a list has: of primary ones it is reported if there are two, by one violation at the root after
which checking proceeds everywhere, and else nothing; where the types and values of the records are neither lists nor
records, no violation is reported for them, and as much advice at the root as there are different pairs of type and
value, both saying something, that two records hold.  Neither report changes if the elements are put in another order
and others, which are not records, are put among them. -/
theorem reports_repetitions (items : List Value) :
    ((Twice Value.IsPrimary items →
        checkSinglePrimary (.list items) = { violations := [([], [.severalPrimaries])] }) ∧
      (¬ Twice Value.IsPrimary items → checkSinglePrimary (.list items) = .empty) ∧
      Violation.severalPrimaries.code = 15 ∧
      ∀ location, (checkSinglePrimary (.list items)).canProceed location = true) ∧
    (ScalarPairs items → ∃ repeated : List (Value × Value), repeated.Nodup ∧
      (∀ pair, pair ∈ repeated ↔ Twice (Value.HoldsPair pair) items) ∧
      checkDistinctPairs (.list items) = advisedAgainst repeated.length ∧ Advice.repeatedPair.code = 2) ∧
    (∀ strangers others : List Value, (∀ stranger ∈ strangers, stranger.record? = none) →
      others.Perm (items ++ strangers) →
        checkSinglePrimary (.list others) = checkSinglePrimary (.list items) ∧
        (ScalarPairs items → checkDistinctPairs (.list others) = checkDistinctPairs (.list items))) ∧
    ∀ left strangers right : List Value, items = left ++ right →
      (∀ stranger ∈ strangers, stranger.record? = none) →
        checkSinglePrimary (.list (left ++ strangers ++ right)) = checkSinglePrimary (.list items) ∧
        checkDistinctPairs (.list (left ++ strangers ++ right)) = checkDistinctPairs (.list items) := by
  refine ⟨⟨checkSinglePrimary_of_twice, checkSinglePrimary_of_not_twice, rfl, fun location => ?_⟩, fun h => ?_, ?_, ?_⟩
  · by_cases h : Twice Value.IsPrimary items
    · rw [checkSinglePrimary_of_twice h]
      rfl
    · rw [checkSinglePrimary_of_not_twice h]
      rfl
  · obtain ⟨repeated, hnodup, hrepeated, hreport⟩ := checkDistinctPairs_eq h
    exact ⟨repeated, hnodup, hrepeated, hreport, rfl⟩
  · intro strangers others hstrangers hperm
    have hrecords := recordItems_perm hstrangers hperm
    refine ⟨checkSinglePrimary_perm hrecords, fun h => checkDistinctPairs_perm h (fun entries hentries => ?_) hrecords⟩
    rcases List.mem_append.1 (hperm.mem_iff.1 hentries) with hitem | hstranger
    · exact h entries hitem
    · cases hstrangers _ hstranger
  · rintro left strangers right rfl hstrangers
    have hrecords : recordItems (.list (left ++ strangers ++ right)) = recordItems (.list (left ++ right)) := by
      show (left ++ strangers ++ right).filterMap Value.record? = (left ++ right).filterMap Value.record?
      rw [List.filterMap_append, List.filterMap_append, List.filterMap_append, List.filterMap_eq_nil_iff.2 hstrangers,
        List.append_nil]
    rw [checkSinglePrimary, checkSinglePrimary, checkDistinctPairs, checkDistinctPairs, hrecords]
    exact ⟨rfl, rfl⟩

/-- Three numbers for work that are the same, of which two are the primary one, and another one. -/
def workNumbers : List Value := [
  .record [("TYPE", .text "work"), ("Value", .number (.int 7)), ("PRIMARY", .bool true)],
  .text "7",
  .record [("value", .number (.int 7)), ("type", .text "work"), ("Primary", .bool true)],
  .record [("type", .text "home"), ("value", .number (.int 7))],
  .record [("type", .text "work"), ("VALUE", .number (.int 7)), ("primary", .bool false)]]

/-- One pair is advised against, once, and so it is in the reverse order and with something in front. -/
theorem reports_repetitions_of_numbers :
    Twice Value.IsPrimary workNumbers ∧ ScalarPairs workNumbers ∧
      checkSinglePrimary (.list (.null :: workNumbers.reverse)) = { violations := [([], [.severalPrimaries])] } ∧
      (∃ repeated : List (Value × Value), repeated.Nodup ∧ repeated.length = 1 ∧
        ∀ pair, pair ∈ repeated ↔ Twice (Value.HoldsPair pair) workNumbers) ∧
      checkDistinctPairs (.list (.null :: workNumbers.reverse)) = advisedAgainst 1 := by
  obtain ⟨⟨hprimary, -⟩, hpairs, hperm, -⟩ := reports_repetitions workNumbers
  have htwice : Twice Value.IsPrimary workNumbers := twice_isPrimary_iff.2 (by decide +kernel)
  have hscalar : ScalarPairs workNumbers := by
    intro entries hentries
    simp only [workNumbers, List.mem_cons, Value.record.injEq, reduceCtorEq, false_or, List.not_mem_nil,
      or_false] at hentries
    rcases hentries with rfl | rfl | rfl | rfl <;> exact ⟨⟨rfl, rfl⟩, rfl, rfl⟩
  have hreport : checkDistinctPairs (.list workNumbers) = advisedAgainst 1 := by rfl
  have hothers : (Value.null :: workNumbers.reverse).Perm (workNumbers ++ [.null]) :=
    (List.Perm.cons _ (List.reverse_perm _)).trans (List.perm_append_singleton _ _).symm
  obtain ⟨hprimarySame, hpairsSame⟩ := hperm [.null] _ (List.forall_mem_singleton.2 rfl) hothers
  obtain ⟨repeated, hnodup, hrepeated, hcounted, -⟩ := hpairs hscalar
  have hlength : repeated.length = 1 := by
    have hissues := congrArg (fun report : Report => (report.advice.issuesAt []).length) (hcounted.symm.trans hreport)
    simpa only [issuesAt_advisedAgainst, List.length_replicate] using hissues
  exact ⟨htwice, hscalar, hprimarySame.trans (hprimary htwice), ⟨repeated, hnodup, hlength, hrepeated⟩,
    (hpairsSame hscalar).trans hreport⟩

end Scim
