import Scim.Proofs.Text.Casing

/-!
# The two foldings and the sigmas

Names and keys are compared by the lower-case forms of whole texts, the segments of a location letter by letter.
The two foldings differ in one letter: a capital sigma is `ς` at the end of a word for the one and always `σ` for
the other.  So a text that ends in a capital sigma is equal up to case, as a whole, to the one that ends in `ς`,
and letter by letter to the one that ends in `σ`.

What decides is therefore the sigmas alone.  With both small sigmas read as one the foldings agree on every text,
and no other letter becomes a sigma; so of two texts that are equal as wholes the letters agree if the sigmas do.

## Main results

* `filter_foldEach`: the sigmas of a text are those of its form letter by letter.
* `map_oneSigma_lowerAfter`: up to the choice of the small sigma the two foldings are the same.
* `foldEach_eq_iff`: when texts that are equal up to case are so letter by letter.
-/

namespace Scim.Text

/-! ## Sigmas -/

/-- The two small sigmas. -/
def isSmallSigma (c : Char) : Bool := c == 'σ' || c == 'ς'

theorem isSmallSigma_iff {c : Char} : isSmallSigma c = true ↔ c = 'σ' ∨ c = 'ς' := by
  simp [isSmallSigma]

/-- The sigmas of a text in order, a capital one counted as the small one that stands inside words. -/
def sigmas (s : String) : List Char :=
  (s.toList.filter fun c => c == 'Σ' || isSmallSigma c).map fun c => if c = 'Σ' then 'σ' else c

/-- A small sigma comes from the capital one or from itself. -/
theorem eq_of_mem_lowerChar {c d : Char} (hd : isSmallSigma d = true) (h : d ∈ lowerChar c) :
    c = 'Σ' ∨ c = d := by
  have hascii : ∀ n < 0x80, isSmallSigma (Char.ofNat n).toLower = false := by decide
  have hspecial : ∀ entry ∈ lowerSpecial, ∀ n ∈ entry.2, isSmallSigma (Char.ofNat n) = false := by decide
  have hruns : ∀ run ∈ lowerRuns, ∀ image ∈ ([0x3c2, 0x3c3] : List Nat),
      (run.map? ((image : Int) - run.shift).toNat).isSome = true →
        ((image : Int) - run.shift).toNat = 0x3a3 := by decide +kernel
  rcases mem_lowerChar h with rfl | ⟨hlow, rfl⟩ | ⟨entry, hentry, n, hn, rfl⟩ | hrun
  · exact .inr rfl
  · have hnone := hascii c.toNat hlow
    rw [Char.ofNat_toNat, hd] at hnone
    cases hnone
  · rw [hspecial entry hentry n hn] at hd
    cases hd
  · obtain ⟨run, hrun, image, himage, rfl⟩ := hrun
    have hcode : image = 0x3c3 ∨ image = 0x3c2 :=
      (isSmallSigma_iff.1 hd).imp (eq_toNat_of_ofNat_eq (by decide)) (eq_toNat_of_ofNat_eq (by decide))
    have hback := CaseRun.eq_of_map? himage (by omega)
    have hcapital : c.toNat = 0x3a3 := by
      rw [hback] at himage ⊢
      refine hruns run hrun image ?_ (by rw [himage]; rfl)
      rcases hcode with rfl | rfl <;> simp
    exact .inl (Char.toNat_inj.1 hcapital)

theorem filter_lowerChar (c : Char) :
    (lowerChar c).filter isSmallSigma =
      if c = 'Σ' then ['σ'] else if isSmallSigma c = true then [c] else [] := by
  by_cases hcapital : c = 'Σ'
  · subst hcapital
    decide +kernel
  · rw [if_neg hcapital]
    by_cases hsmall : isSmallSigma c = true
    · rw [if_pos hsmall]
      rcases isSmallSigma_iff.1 hsmall with rfl | rfl <;> decide +kernel
    · rw [if_neg hsmall]
      refine List.filter_eq_nil_iff.2 fun d hd hsigma => ?_
      rcases eq_of_mem_lowerChar hsigma hd with h | rfl
      · exact hcapital h
      · exact hsmall hsigma

/-- The sigmas of a text are those of its form letter by letter. -/
theorem filter_foldEach (s : String) : (foldEach s).filter isSmallSigma = sigmas s := by
  unfold foldEach sigmas
  induction s.toList with
  | nil => rfl
  | cons c cs ih =>
    rw [List.flatMap_cons, List.filter_append, ih, filter_lowerChar, List.filter_cons]
    by_cases hcapital : c = 'Σ'
    · simp [hcapital]
    · by_cases hsmall : isSmallSigma c = true <;> simp [hcapital, hsmall]

/-! ## Foldings up to sigmas -/

/-- Both small sigmas read as the one that stands inside words. -/
def oneSigma (c : Char) : Char := if c = 'ς' then 'σ' else c

/-- The two foldings differ in the choice of the small sigma only. -/
theorem map_oneSigma_lowerAfter (before cs : List Char) :
    (lowerAfter before cs).map oneSigma = (cs.flatMap lowerChar).map oneSigma := by
  induction cs generalizing before with
  | nil => rfl
  | cons c cs ih =>
    rw [lowerAfter, List.flatMap_cons, List.map_append, List.map_append, ih (c :: before)]
    congr 1
    split
    · next hcapital =>
      have hform : lowerChar 'Σ' = ['σ'] := by decide +kernel
      rw [hcapital, hform]
      split <;> rfl
    · rfl

/-- Characters that agree with the small sigmas read as one, and as sigmas, are the same characters. -/
theorem eq_of_map_oneSigma {cs ds : List Char} (h : cs.map oneSigma = ds.map oneSigma)
    (hsigmas : cs.filter isSmallSigma = ds.filter isSmallSigma) : cs = ds := by
  induction cs generalizing ds with
  | nil => exact (List.map_eq_nil_iff.1 h.symm).symm
  | cons c cs ih =>
    cases ds with
    | nil => cases h
    | cons d ds =>
      obtain ⟨hfirst, hrest⟩ := List.cons.inj h
      have hkind : isSmallSigma c = isSmallSigma d := by
        unfold oneSigma at hfirst
        unfold isSmallSigma
        grind
      rw [List.filter_cons, List.filter_cons, ← hkind] at hsigmas
      cases hc : isSmallSigma c with
      | true =>
        rw [hc] at hsigmas
        obtain ⟨hsame, hsigmas⟩ := List.cons.inj hsigmas
        rw [hsame, ih hrest hsigmas]
      | false =>
        rw [hc] at hsigmas
        have hsame : c = d := by
          unfold oneSigma at hfirst
          unfold isSmallSigma at hkind hc
          grind
        rw [hsame, ih hrest hsigmas]

/-- Texts that are equal up to case are so letter by letter exactly if they have the same sigmas. -/
theorem foldEach_eq_iff {s t : String} (h : lower s = lower t) :
    foldEach s = foldEach t ↔ sigmas s = sigmas t := by
  have hlists : lowerAfter [] s.toList = lowerAfter [] t.toList := String.ofList_injective h
  rw [← filter_foldEach, ← filter_foldEach]
  constructor
  · exact fun hsame => by rw [hsame]
  · intro hsame
    refine eq_of_map_oneSigma ?_ hsame
    rw [foldEach, foldEach, ← map_oneSigma_lowerAfter [], hlists, map_oneSigma_lowerAfter]

end Scim.Text
