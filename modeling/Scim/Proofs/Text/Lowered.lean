import Scim.Proofs.Text.Qualified

/-!
# Lower-casing once is enough

A text in lower case is its own lower-case form, whatever it was made from.  For single letters this is a property of
the case tables: no letter that a table gives is one that it changes.  The runs of the tables are compared pairwise
for that, since the letters of a run stand at equal distances and so do those that it gives.

Of a text this would follow at once, were it not for the capital sigma, whose form is seen from the letters around it.
But neither of its small forms is changed any more, in whatever surroundings, and no other letter becomes a capital
sigma.

## Main results

* `lowerChar_of_mem`: what a letter becomes is in lower case.
* `lower_lower`: so is the lower-case form of a text.
-/

namespace Scim.Text

/-! ## Runs -/

namespace CaseRun

/-- The least code that the run gives. -/
def low (run : CaseRun) : Nat := (run.first + run.shift).toNat

/-- The greatest code that the run gives. -/
def high (run : CaseRun) : Nat := (run.last + run.shift).toNat

/-- The codes that a run gives lie before those that another one holds, or after them, or between them. -/
def avoids (run other : CaseRun) : Bool :=
  run.high.blt other.first || other.last.blt run.low ||
    ((run.step == 2 || run.low == run.high) && other.step == 2 && run.low % 2 != other.first % 2)

/-- The run gives codes above ASCII, or one code of ASCII that stands for a letter in lower case, and none that stands
for a letter with a form of several characters. -/
def settles (run : CaseRun) : Bool :=
  ((Nat.ble 0x80 run.low && (0 : Int) ≤ run.first + run.shift) ||
      (run.low == run.high && run.low.blt 0x80 && (Char.ofNat run.low).toLower == Char.ofNat run.low)) &&
    lowerSpecial.all fun entry => entry.1.blt run.low || run.high.blt entry.1

variable {run other : CaseRun} {n image : Nat}

theorem map?_eq_some (h : run.map? n = some image) :
    run.first ≤ n ∧ n ≤ run.last ∧ (n - run.first) % run.step = 0 ∧ ((n : Int) + run.shift).toNat = image := by
  unfold map? at h
  split at h
  · next hholds =>
    simp only [Bool.and_eq_true, decide_eq_true_eq, beq_iff_eq] at hholds
    exact ⟨hholds.1.1, hholds.1.2, hholds.2, Option.some.inj h⟩
  · cases h

theorem low_le_of_map? (h : run.map? n = some image) : run.low ≤ image ∧ image ≤ run.high := by
  obtain ⟨hfirst, hlast, -, himage⟩ := map?_eq_some h
  unfold low high
  omega

/-- What a run gives is not held by a run that it avoids. -/
theorem map?_of_avoids (havoids : run.avoids other = true) (hpositive : 0 ≤ (run.first : Int) + run.shift)
    (h : run.map? n = some image) : other.map? image = none := by
  obtain ⟨hlow, hhigh⟩ := low_le_of_map? h
  obtain ⟨hfirst, -, hstep, himage⟩ := map?_eq_some h
  cases hmapped : other.map? image with
  | none => rfl
  | some twice =>
    obtain ⟨hbegins, hends, hholds, -⟩ := map?_eq_some hmapped
    simp only [avoids, Bool.or_eq_true, Bool.and_eq_true, Nat.blt_eq, beq_iff_eq, bne_iff_ne] at havoids
    exfalso
    rcases havoids with (hbefore | hafter) | ⟨⟨hsteps | hsingle, hother⟩, hparity⟩
    · omega
    · omega
    · -- both go in steps of two, one through the even codes and the other through the odd ones
      rw [hsteps] at hstep
      rw [hother] at hholds
      unfold low at hparity
      omega
    · rw [hother] at hholds
      omega

end CaseRun

theorem avoids_of_mem : ∀ run ∈ lowerRuns, ∀ other ∈ lowerRuns, run.avoids other = true := by
  have hall : (lowerRuns.all fun run => lowerRuns.all run.avoids) = true := by decide +kernel
  simpa only [List.all_eq_true] using hall

theorem settles_of_mem : ∀ run ∈ lowerRuns, run.settles = true := by
  have hall : lowerRuns.all CaseRun.settles = true := by decide +kernel
  simpa only [List.all_eq_true] using hall

/-! ## Letters -/

/-- A character that stands in no table is in lower case. -/
theorem lowerChar_of_untabled {c : Char} (hascii : ¬ c.toNat < 0x80) (hspecial : ∀ entry ∈ lowerSpecial, entry.1 ≠ c.toNat)
    (hruns : ∀ run ∈ lowerRuns, run.map? c.toNat = none) : lowerChar c = [c] := by
  have hlookup : lowerSpecial.lookup c.toNat = none := by
    refine List.lookup_eq_none_iff.2 fun entry hentry => ?_
    rw [bne_iff_ne]
    exact (hspecial entry hentry).symm
  have hfind : lowerRuns.findSome? (·.map? c.toNat) = none := List.findSome?_eq_none_iff.2 hruns
  rw [lowerChar, if_neg hascii, mapCase, hlookup]
  simp only [hfind]

/-- What a run gives is in lower case. -/
theorem lowerChar_of_run {run : CaseRun} (hrun : run ∈ lowerRuns) {n image : Nat} (h : run.map? n = some image) :
    lowerChar (Char.ofNat image) = [Char.ofNat image] := by
  have hsettles := settles_of_mem run hrun
  simp only [CaseRun.settles, Bool.and_eq_true, Bool.or_eq_true, Nat.ble_eq, Nat.blt_eq, beq_iff_eq, decide_eq_true_eq,
    List.all_eq_true] at hsettles
  obtain ⟨hcode, hspecial⟩ := hsettles
  obtain ⟨hlow, hhigh⟩ := CaseRun.low_le_of_map? h
  by_cases hvalid : image.isValidChar
  · have hnat : (Char.ofNat image).toNat = image := by
      rw [show Char.ofNat image = Char.ofNatAux image hvalid from dif_pos hvalid]
      rfl
    rcases hcode with ⟨habove, hpositive⟩ | ⟨⟨hsingle, hascii⟩, hsmall⟩
    · refine lowerChar_of_untabled (by omega) (fun entry hentry hsame => ?_) fun other hother => ?_
      · have hapart := hspecial entry hentry
        omega
      · rw [hnat]
        exact CaseRun.map?_of_avoids (avoids_of_mem run hrun other hother) hpositive h
    · have himage : image = run.low := by omega
      rw [himage] at hnat ⊢
      rw [lowerChar, if_pos (by omega), hsmall]
  · rw [show Char.ofNat image = Char.ofNat 0 from dif_neg hvalid]
    decide

/-- What a letter becomes is in lower case. -/
theorem lowerChar_of_mem {c d : Char} (h : d ∈ lowerChar c) : lowerChar d = [d] := by
  have hascii : ∀ n < 0x80, lowerChar (Char.ofNat n).toLower = [(Char.ofNat n).toLower] := by decide
  have hspecial : ∀ entry ∈ lowerSpecial, ∀ n ∈ entry.2, lowerChar (Char.ofNat n) = [Char.ofNat n] := by
    decide +kernel
  rcases lowerChar_cases c with ⟨hlow, hform⟩ | ⟨entry, hentry, hform⟩ | ⟨run, hrun, image, himage, hform⟩ | hform <;>
    rw [hform] at h
  · have hsmall := hascii c.toNat hlow
    rw [Char.ofNat_toNat] at hsmall
    rw [List.mem_singleton.1 h, hsmall]
  · obtain ⟨n, hn, rfl⟩ := List.mem_map.1 h
    exact hspecial entry hentry n hn
  · rw [List.mem_singleton.1 h]
    exact lowerChar_of_run hrun himage
  · rw [List.mem_singleton.1 h, hform]

/-! ## Texts -/

/-- A capital sigma is not in lower case. -/
theorem ne_sigma_of_lowerChar {c : Char} (h : lowerChar c = [c]) : c ≠ 'Σ' := by
  rintro rfl
  revert h
  decide +kernel

/-- All characters of a lower-case form are in lower case. -/
theorem lowerChar_of_mem_lowerAfter {before cs : List Char} {d : Char} (h : d ∈ lowerAfter before cs) :
    lowerChar d = [d] := by
  have hsigmas : lowerChar 'σ' = ['σ'] ∧ lowerChar 'ς' = ['ς'] := by decide +kernel
  induction cs generalizing before with
  | nil => cases h
  | cons c cs ih =>
    rw [lowerAfter, List.mem_append] at h
    rcases h with hfirst | hrest
    · split at hfirst
      · rw [List.mem_singleton.1 hfirst]
        split
        · exact hsigmas.2
        · exact hsigmas.1
      · exact lowerChar_of_mem hfirst
    · exact ih hrest

/-- A text of characters in lower case stays as it is, wherever it stands. -/
theorem lowerAfter_of_lowered (before : List Char) {cs : List Char} (h : ∀ c ∈ cs, lowerChar c = [c]) :
    lowerAfter before cs = cs := by
  have hsigma : 'Σ' ∉ cs := fun hmem => ne_sigma_of_lowerChar (h _ hmem) rfl
  rw [lowerAfter_of_noSigma before hsigma]
  induction cs with
  | nil => rfl
  | cons c cs ih =>
    obtain ⟨hfirst, hrest⟩ := List.forall_mem_cons.1 h
    rw [List.flatMap_cons, hfirst, ih hrest fun hmem => hsigma (List.mem_cons_of_mem c hmem), List.singleton_append]

/-- The lower-case form of a text is in lower case. -/
theorem lower_lower (s : String) : lower (lower s) = lower s := by
  have hlist : (lower s).toList = lowerAfter [] s.toList := String.toList_ofList
  rw [lower, hlist, lowerAfter_of_lowered [] fun _ => lowerChar_of_mem_lowerAfter, lower]

/-- A capital sigma at the end of a word, a letter of two characters, and the sign of a unit that becomes an ASCII
letter. -/
example : lower "ΟΔΟΣ İ 3\u212A" = "οδος i̇ 3k" ∧ lower "οδος i̇ 3k" = "οδος i̇ 3k" := by decide +kernel

end Scim.Text
