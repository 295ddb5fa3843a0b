import Mathlib.Data.List.Basic
import Scim.Text.Casing
import Scim.Text.Split

/-!
# Texts that differ in the case of ASCII letters

Lowering the ASCII capitals of a text first does not change its lower-case form.  That is more than a fact about
single letters, for a capital sigma looks at the letters around it; but what it looks for, letters with a case and
characters to read over, are the same whether an ASCII letter is a capital or not.

Nor does it change where a text is cut, because no separator is an ASCII letter.

## Main results

* `apply_toLower`: what is to be checked of a function on characters is its values on ASCII characters.
* `lower_lowerAscii`: the lower-case form does not see the case of ASCII letters.
* `splitFirst_map`, `splitLast_map` and `splitAll_map`: cutting a text whose characters were replaced.
-/

namespace Scim.Text

/-! ## Characters -/

/-- Only ASCII characters are lowered. -/
theorem toLower_of_not_ascii {c : Char} (h : ¬ c.toNat < 0x80) : c.toLower = c := by
  unfold Char.toLower
  rw [dif_neg]
  rintro ⟨-, hle⟩
  have hcode : c.toNat ≤ 'Z'.toNat := hle
  have hlast : 'Z'.toNat = 0x5a := rfl
  omega

/-- A function does not see the case of ASCII letters if it does not on ASCII characters. -/
theorem apply_toLower {α : Type} (f : Char → α)
    (h : ∀ n < 0x80, f (Char.ofNat n).toLower = f (Char.ofNat n)) (c : Char) : f c.toLower = f c := by
  by_cases hascii : c.toNat < 0x80
  · have hchar := h c.toNat hascii
    rwa [Char.ofNat_toNat] at hchar
  · rw [toLower_of_not_ascii hascii]

theorem lowerChar_toLower (c : Char) : lowerChar c.toLower = lowerChar c := apply_toLower lowerChar (by decide) c

theorem isCased_toLower (c : Char) : isCased c.toLower = isCased c := apply_toLower isCased (by decide) c

theorem isCaseIgnorable_toLower (c : Char) : isCaseIgnorable c.toLower = isCaseIgnorable c :=
  apply_toLower isCaseIgnorable (by decide) c

/-- No other character is lowered to one that is not an ASCII letter. -/
theorem toLower_eq_iff {sep : Char}
    (h : ∀ n < 0x80, ((Char.ofNat n).toLower == sep) = (Char.ofNat n == sep)) (c : Char) :
    c.toLower = sep ↔ c = sep := by
  rw [← beq_iff_eq, apply_toLower (· == sep) h, beq_iff_eq]

/-! ## Lower-case forms -/

theorem startsCased_map_toLower (cs : List Char) : startsCased (cs.map Char.toLower) = startsCased cs := by
  have hread : isCaseIgnorable ∘ Char.toLower = isCaseIgnorable := funext isCaseIgnorable_toLower
  rw [startsCased, startsCased, List.dropWhile_map, hread]
  cases cs.dropWhile isCaseIgnorable with
  | nil => rfl
  | cons c rest => exact isCased_toLower c

/-- Neither the text nor what stands before it needs to keep the case of its ASCII letters. -/
theorem lowerAfter_map_toLower (before cs : List Char) :
    lowerAfter (before.map Char.toLower) (cs.map Char.toLower) = lowerAfter before cs := by
  induction cs generalizing before with
  | nil => rfl
  | cons c cs ih =>
    have hsigma : c.toLower = 'Σ' ↔ c = 'Σ' := toLower_eq_iff (by decide) c
    rw [List.map_cons, lowerAfter, lowerAfter, ← List.map_cons, ih (c :: before), startsCased_map_toLower,
      startsCased_map_toLower, lowerChar_toLower]
    simp only [hsigma]

theorem lower_lowerAscii (s : String) : lower (lowerAscii s) = lower s := by
  rw [lower, lowerAscii, String.toList_ofList]
  exact congrArg String.ofList (lowerAfter_map_toLower [] s.toList)

/-- Texts that differ in the case of ASCII letters only are equal up to case. -/
theorem lower_congr_ascii {s t : String} (h : lowerAscii s = lowerAscii t) : lower s = lower t := by
  rw [← lower_lowerAscii s, h, lower_lowerAscii]

/-! ## Cuts -/

variable {f : Char → Char} {sep : Char}

theorem splitFirst_map (h : ∀ c, f c = sep ↔ c = sep) (cs : List Char) :
    splitFirst sep (cs.map f) = (splitFirst sep cs).map (Prod.map (List.map f) (List.map f)) := by
  induction cs with
  | nil => rfl
  | cons c cs ih =>
    rw [List.map_cons, splitFirst, splitFirst, ih]
    simp only [h]
    split
    · rfl
    · cases splitFirst sep cs <;> rfl

theorem splitLast_map (h : ∀ c, f c = sep ↔ c = sep) (cs : List Char) :
    splitLast sep (cs.map f) = (splitLast sep cs).map (Prod.map (List.map f) (List.map f)) := by
  induction cs with
  | nil => rfl
  | cons c cs ih =>
    rw [List.map_cons, splitLast, splitLast, ih]
    simp only [h]
    cases splitLast sep cs with
    | none =>
      simp only [Option.map_none]
      split <;> rfl
    | some parts => rfl

theorem splitAll_map (h : ∀ c, f c = sep ↔ c = sep) (cs : List Char) :
    splitAll sep (cs.map f) = (splitAll sep cs).map (List.map f) := by
  induction cs with
  | nil => rfl
  | cons c cs ih =>
    rw [List.map_cons, splitAll, splitAll, ih]
    simp only [h]
    split
    · rfl
    · cases splitAll sep cs <;> rfl

end Scim.Text
