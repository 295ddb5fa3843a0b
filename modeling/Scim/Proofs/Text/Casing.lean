import Scim.Text.Casing

/-!
# Letters and lengths of lower-case forms

Lower-casing is not done letter by letter, since a capital sigma looks at its surroundings, and it does not
keep the length of a text, since one letter has a form of two characters.  So a beginning of a text need not
become a beginning of its lower-case form, and lengths cannot simply be counted.

What the surroundings decide is only which sigma is written, so the number of characters that a letter
becomes is its own, and it is never zero.  That is enough to tell a text from what it begins with.

Which letters become a given character is read off the case tables: each run has at most one.

## Main results

* `lowerChar_cases`, `mem_lowerChar`: where the form of a letter and its characters come from.
* `length_lowerAfter_append`: lengths of lower-case forms add up.
* `lower_ne_of_longer`: no text equals up to case a longer one that it begins.
-/

namespace Scim.Text

/-! ## Letters -/

/-- A character other than the first one is that of one code only. -/
theorem eq_toNat_of_ofNat_eq {n : Nat} {c : Char} (hc : c ≠ Char.ofNat 0) (h : Char.ofNat n = c) :
    n = c.toNat := by
  by_cases hvalid : n.isValidChar
  · have hchar : Char.ofNat n = Char.ofNatAux n hvalid := dif_pos hvalid
    exact congrArg Char.toNat (hchar.symm.trans h)
  · have hzero : Char.ofNat n = Char.ofNat 0 := dif_neg hvalid
    exact absurd (h.symm.trans hzero) hc

/-- Of one code only a run makes a given one. -/
theorem CaseRun.eq_of_map? {run : CaseRun} {n image : Nat} (h : run.map? n = some image) (hpos : 0 < image) :
    n = ((image : Int) - run.shift).toNat := by
  unfold CaseRun.map? at h
  split at h
  · have hvalue : ((n : Int) + run.shift).toNat = image := Option.some.inj h
    omega
  · cases h

/-- The form of a letter is the small letter of an ASCII one, or what a table says, or the letter itself. -/
theorem lowerChar_cases (c : Char) :
    (c.toNat < 0x80 ∧ lowerChar c = [c.toLower]) ∨
      (∃ entry ∈ lowerSpecial, lowerChar c = entry.2.map Char.ofNat) ∨
      (∃ run ∈ lowerRuns, ∃ image, run.map? c.toNat = some image ∧ lowerChar c = [Char.ofNat image]) ∨
      lowerChar c = [c] := by
  unfold lowerChar mapCase
  split
  · next hlow => exact .inl ⟨hlow, rfl⟩
  · split
    · next image hlookup =>
      obtain ⟨before, after, hsplit, -⟩ := List.lookup_eq_some_iff.1 hlookup
      have hmem : (c.toNat, image) ∈ lowerSpecial := hsplit ▸ List.mem_append_cons_self
      exact .inr (.inl ⟨_, hmem, rfl⟩)
    · split
      · next image hfound =>
        obtain ⟨run, hrun, himage⟩ := List.exists_of_findSome?_eq_some hfound
        exact .inr (.inr (.inl ⟨run, hrun, image, himage, rfl⟩))
      · exact .inr (.inr (.inr rfl))

/-- So are the characters of the form. -/
theorem mem_lowerChar {c d : Char} (h : d ∈ lowerChar c) :
    d = c ∨ (c.toNat < 0x80 ∧ d = c.toLower) ∨
      (∃ entry ∈ lowerSpecial, ∃ n ∈ entry.2, Char.ofNat n = d) ∨
      ∃ run ∈ lowerRuns, ∃ image, run.map? c.toNat = some image ∧ Char.ofNat image = d := by
  rcases lowerChar_cases c with ⟨hlow, hform⟩ | ⟨entry, hentry, hform⟩ | ⟨run, hrun, image, himage, hform⟩ | hform <;>
    rw [hform] at h
  · exact .inr (.inl ⟨hlow, List.mem_singleton.1 h⟩)
  · obtain ⟨n, hn, hd⟩ := List.mem_map.1 h
    exact .inr (.inr (.inl ⟨entry, hentry, n, hn, hd⟩))
  · exact .inr (.inr (.inr ⟨run, hrun, image, himage, (List.mem_singleton.1 h).symm⟩))
  · exact .inl (List.mem_singleton.1 h)

/-- No letter vanishes. -/
theorem lowerChar_ne_nil (c : Char) : lowerChar c ≠ [] := by
  have hspecial : ∀ entry ∈ lowerSpecial, entry.2 ≠ [] := by decide
  rcases lowerChar_cases c with ⟨-, hform⟩ | ⟨entry, hentry, hform⟩ | ⟨_, _, _, _, hform⟩ | hform <;> rw [hform]
  · exact List.cons_ne_nil _ _
  · simpa using hspecial entry hentry
  · exact List.cons_ne_nil _ _
  · exact List.cons_ne_nil _ _

/-! ## Lengths -/

/-- What stands before a text decides which letters its lower-case form has, but not how many. -/
theorem length_lowerAfter (before other cs : List Char) :
    (lowerAfter before cs).length = (lowerAfter other cs).length := by
  induction cs generalizing before other with
  | nil => rfl
  | cons c cs ih =>
    rw [lowerAfter, lowerAfter, List.length_append, List.length_append, ih (c :: before) (c :: other)]
    split <;> rfl

/-- The lower-case form of a text is as long as those of its parts together. -/
theorem length_lowerAfter_append (before cs ds : List Char) :
    (lowerAfter before (cs ++ ds)).length =
      (lowerAfter before cs).length + (lowerAfter before ds).length := by
  induction cs generalizing before with
  | nil => simp [lowerAfter]
  | cons c cs ih =>
    rw [List.cons_append, lowerAfter, lowerAfter, List.length_append, List.length_append, ih,
      length_lowerAfter (c :: before) before ds, ← Nat.add_assoc]
    -- the rest of the text only decides between the two small sigmas
    split <;> rfl

/-- A text that is not empty has a lower-case form that is not empty. -/
theorem lowerAfter_ne_nil (before : List Char) {cs : List Char} (h : cs ≠ []) :
    lowerAfter before cs ≠ [] := by
  cases cs with
  | nil => exact absurd rfl h
  | cons c cs =>
    rw [lowerAfter]
    split
    · exact List.cons_ne_nil _ _
    · exact List.append_ne_nil_of_left_ne_nil (lowerChar_ne_nil c) _

/-- A text is not equal up to case to a longer one that it begins. -/
theorem lower_ne_of_longer {short long : String} {rest : List Char} (hrest : rest ≠ [])
    (h : long.toList = short.toList ++ rest) : lower short ≠ lower long := by
  intro hsame
  have hlists : lowerAfter [] short.toList = lowerAfter [] long.toList := String.ofList_injective hsame
  have hlong := length_lowerAfter_append [] short.toList rest
  have hpos := List.length_pos_iff.2 (lowerAfter_ne_nil [] hrest)
  rw [← h, ← hlists] at hlong
  omega

end Scim.Text
