import Mathlib.Data.List.TakeWhile
import Scim.Proofs.Text.Casing
import Scim.Text.Split

/-!
# Texts qualified by a colon

A key `schema:attr` is looked up by its lower-case form.  As long as no capital sigma occurs, lower-casing
goes letter by letter, so the form of the whole is made of the forms of the two parts; and a colon comes only
from a colon, so two equal forms are cut at the same place.  A capital sigma spoils this, because whether it
ends a word is seen across the colon.

From behind the colon nothing is seen if the second part begins with a letter, as a name does.  Then the form
of the whole ends with that of the second part, sigma or not.

## Main results

* `lower_append`: without a capital sigma lower-casing goes part by part.
* `lower_qualified_inj`: parts of qualified texts that are equal up to case are equal up to case.
* `exists_qualified_of_lower_eq`: a text equal up to case to a qualified one is qualified.
* `lower_eq_of_append`: behind the same first part, second parts that stand on their own are equal up to case
  if the wholes are.
-/

namespace Scim.Text

/-! ## Letters -/

/-- No other character becomes a colon. -/
theorem colon_mem_lowerChar {c : Char} (h : ':' ∈ lowerChar c) : c = ':' := by
  have hascii : ∀ n < 0x80, ':' = (Char.ofNat n).toLower → Char.ofNat n = ':' := by decide
  have hspecial : ∀ entry ∈ lowerSpecial, ∀ n ∈ entry.2, Char.ofNat n ≠ ':' := by decide
  have hruns : ∀ run ∈ lowerRuns, run.map? ((0x3a : Int) - run.shift).toNat = none := by decide +kernel
  rcases mem_lowerChar h with hself | ⟨hlow, hsmall⟩ | ⟨entry, hentry, n, hn, hcode⟩ | hrun
  · exact hself.symm
  · have hchar := hascii c.toNat hlow
    rw [Char.ofNat_toNat] at hchar
    exact hchar hsmall
  · exact absurd hcode (hspecial entry hentry n hn)
  · obtain ⟨run, hrun, image, himage, hcode⟩ := hrun
    have himageCode : image = 0x3a := eq_toNat_of_ofNat_eq (by decide) hcode
    subst himageCode
    have hback := CaseRun.eq_of_map? himage (by decide)
    have hnone := hruns run hrun
    rw [hback] at himage
    rw [show ((0x3a : Nat) : Int) = 0x3a from rfl, hnone] at himage
    cases himage

/-! ## Texts without a capital sigma -/

/-- The lower-case form of such a text does not depend on its surroundings. -/
def NoSigma (s : String) : Prop := 'Σ' ∉ s.toList

instance (s : String) : Decidable (NoSigma s) := inferInstanceAs (Decidable ('Σ' ∉ s.toList))

theorem noSigma_append {a b : String} : NoSigma (a ++ b) ↔ NoSigma a ∧ NoSigma b := by
  simp [NoSigma, not_or]

theorem noSigma_colon : NoSigma ":" := by
  decide

theorem noSigma_qualified {schema attr : String} :
    NoSigma (schema ++ ":" ++ attr) ↔ NoSigma schema ∧ NoSigma attr := by
  rw [noSigma_append, noSigma_append]
  exact ⟨fun h => ⟨h.1.1, h.2⟩, fun h => ⟨⟨h.1, noSigma_colon⟩, h.2⟩⟩

theorem lowerAfter_of_noSigma (before : List Char) {cs : List Char} (h : 'Σ' ∉ cs) :
    lowerAfter before cs = cs.flatMap lowerChar := by
  induction cs generalizing before with
  | nil => rfl
  | cons c cs ih =>
    have hfirst : c ≠ 'Σ' := fun e => h (e ▸ List.mem_cons_self)
    have hrest : 'Σ' ∉ cs := fun hmem => h (List.mem_cons_of_mem c hmem)
    rw [lowerAfter, if_neg hfirst, ih (c :: before) hrest, List.flatMap_cons]

theorem toList_lower {s : String} (h : NoSigma s) : (lower s).toList = s.toList.flatMap lowerChar := by
  rw [lower, String.toList_ofList, lowerAfter_of_noSigma [] h]

/-- The lower-case form of two texts in a row is that of the one followed by that of the other. -/
theorem lower_append {a b : String} (ha : NoSigma a) (hb : NoSigma b) :
    lower (a ++ b) = lower a ++ lower b := by
  apply String.toList_injective
  rw [toList_lower (noSigma_append.2 ⟨ha, hb⟩), String.toList_append, String.toList_append, toList_lower ha,
    toList_lower hb, List.flatMap_append]

theorem lower_qualified {schema attr : String} (hschema : NoSigma schema) (hattr : NoSigma attr) :
    lower (schema ++ ":" ++ attr) = lower schema ++ ":" ++ lower attr := by
  have hcolon : lower ":" = ":" := by decide +kernel
  rw [lower_append (noSigma_append.2 ⟨hschema, noSigma_colon⟩) hattr, lower_append hschema noSigma_colon, hcolon]

/-- Parts that are equal up to case make qualified texts that are. -/
theorem lower_qualified_congr {schema attr schema' attr' : String} (hschema : NoSigma schema)
    (hattr : NoSigma attr) (hschema' : NoSigma schema') (hattr' : NoSigma attr')
    (hfirst : lower schema = lower schema') (hsecond : lower attr = lower attr') :
    lower (schema ++ ":" ++ attr) = lower (schema' ++ ":" ++ attr') := by
  rw [lower_qualified hschema hattr, lower_qualified hschema' hattr', hfirst, hsecond]

/-- A text that is qualified is different from the one that qualifies it. -/
theorem lower_ne_qualified (schema attr : String) : lower schema ≠ lower (schema ++ ":" ++ attr) :=
  lower_ne_of_longer (List.cons_ne_nil ':' attr.toList) (by simp)

/-! ## Cutting at the last colon -/

/-- A colon in the lower-case form is one in the text. -/
theorem colon_mem_lower {s : String} (h : NoSigma s) : ':' ∈ (lower s).toList ↔ ':' ∈ s.toList := by
  rw [toList_lower h, List.mem_flatMap]
  constructor
  · rintro ⟨c, hc, hcolon⟩
    exact colon_mem_lowerChar hcolon ▸ hc
  · intro hmem
    have hself : ':' ∈ lowerChar ':' := by decide
    exact ⟨':', hmem, hself⟩

/-- A qualified text is cut into the parts that it is made of. -/
theorem splitLast_qualified {schema attr : String} (hattr : ':' ∉ attr.toList) :
    splitLast ':' (schema ++ ":" ++ attr).toList = some (schema.toList, attr.toList) := by
  have hwhole : (schema ++ ":" ++ attr).toList = schema.toList ++ ':' :: attr.toList := by simp
  exact splitLast_eq_some.2 ⟨hwhole, hattr⟩

theorem qualified_inj {schema attr schema' attr' : String} (hattr : ':' ∉ attr.toList)
    (hattr' : ':' ∉ attr'.toList) (h : schema ++ ":" ++ attr = schema' ++ ":" ++ attr') :
    schema = schema' ∧ attr = attr' := by
  have hcut : splitLast ':' (schema ++ ":" ++ attr).toList = some (schema.toList, attr.toList) :=
    splitLast_qualified hattr
  rw [h, splitLast_qualified hattr'] at hcut
  have hparts := Prod.mk.inj (Option.some.inj hcut)
  exact ⟨String.toList_injective hparts.1.symm, String.toList_injective hparts.2.symm⟩

/-- A text with a colon is one that is qualified. -/
theorem exists_qualified {s : String} (h : ':' ∈ s.toList) :
    ∃ schema attr, s = schema ++ ":" ++ attr ∧ ':' ∉ attr.toList := by
  cases hcut : splitLast ':' s.toList with
  | none => exact absurd h (splitLast_eq_none.1 hcut)
  | some parts =>
    obtain ⟨schema, attr⟩ := parts
    obtain ⟨hwhole, hattr⟩ := splitLast_eq_some.1 hcut
    refine ⟨String.ofList schema, String.ofList attr, ?_, by simpa using hattr⟩
    apply String.toList_injective
    simpa using hwhole

/-- Qualified texts that are equal up to case have parts that are. -/
theorem lower_qualified_inj {schema attr schema' attr' : String} (hsigma : NoSigma (schema ++ ":" ++ attr))
    (hsigma' : NoSigma (schema' ++ ":" ++ attr')) (hattr : ':' ∉ attr.toList) (hattr' : ':' ∉ attr'.toList)
    (h : lower (schema ++ ":" ++ attr) = lower (schema' ++ ":" ++ attr')) :
    lower schema = lower schema' ∧ lower attr = lower attr' := by
  obtain ⟨hschema, hname⟩ := noSigma_qualified.1 hsigma
  obtain ⟨hschema', hname'⟩ := noSigma_qualified.1 hsigma'
  rw [lower_qualified hschema hname, lower_qualified hschema' hname'] at h
  exact qualified_inj (fun hmem => hattr ((colon_mem_lower hname).1 hmem))
    (fun hmem => hattr' ((colon_mem_lower hname').1 hmem)) h

/-- A text that is equal up to case to a qualified one is qualified, and its parts are equal up to case. -/
theorem exists_qualified_of_lower_eq {s schema attr : String} (hs : NoSigma s)
    (hsigma : NoSigma (schema ++ ":" ++ attr)) (hattr : ':' ∉ attr.toList)
    (h : lower s = lower (schema ++ ":" ++ attr)) :
    ∃ schema' attr', s = schema' ++ ":" ++ attr' ∧ ':' ∉ attr'.toList ∧ lower schema' = lower schema ∧
      lower attr' = lower attr := by
  have hcolon : ':' ∈ s.toList := by
    rw [← colon_mem_lower hs, h, colon_mem_lower hsigma]
    simp
  obtain ⟨schema', attr', rfl, hattr'⟩ := exists_qualified hcolon
  exact ⟨schema', attr', rfl, hattr', lower_qualified_inj hs hsigma hattr' hattr h⟩

/-! ## Texts that stand on their own -/

/-- The text begins with a character whose form does not depend on what stands before it, and beyond which no
letter of the text looks. -/
def Standalone (s : String) : Prop := ∃ c cs, s.toList = c :: cs ∧ c ≠ 'Σ' ∧ isCaseIgnorable c = false

/-- What comes before a character that is not read over is not looked at. -/
theorem startsCased_append {near : List Char} (before : List Char)
    (h : ∃ c ∈ near, isCaseIgnorable c = false) : startsCased (near ++ before) = startsCased near := by
  have hstop : near.dropWhile isCaseIgnorable ≠ [] := by
    obtain ⟨c, hc, hread⟩ := h
    intro hall
    rw [List.dropWhile_eq_nil_iff] at hall
    rw [hall c hc] at hread
    cases hread
  rw [startsCased, startsCased, List.dropWhile_append, if_neg (by simpa using hstop)]
  cases hrest : near.dropWhile isCaseIgnorable with
  | nil => exact absurd hrest hstop
  | cons c rest => rfl

theorem lowerAfter_append_before {near : List Char} (before cs : List Char)
    (h : ∃ c ∈ near, isCaseIgnorable c = false) : lowerAfter (near ++ before) cs = lowerAfter near cs := by
  induction cs generalizing near with
  | nil => rfl
  | cons c cs ih =>
    obtain ⟨d, hd, hread⟩ := h
    have hnext : lowerAfter (c :: near ++ before) cs = lowerAfter (c :: near) cs :=
      ih ⟨d, List.mem_cons_of_mem c hd, hread⟩
    rw [lowerAfter, lowerAfter, startsCased_append before ⟨d, hd, hread⟩, ← List.cons_append, hnext]

theorem lowerAfter_of_standalone {s : String} (h : Standalone s) (before : List Char) :
    lowerAfter before s.toList = lowerAfter [] s.toList := by
  obtain ⟨c, cs, hs, hsigma, hread⟩ := h
  have hrest : lowerAfter (c :: before) cs = lowerAfter [c] cs :=
    lowerAfter_append_before before cs ⟨c, List.mem_singleton_self c, hread⟩
  rw [hs, lowerAfter, lowerAfter, if_neg hsigma, if_neg hsigma, hrest]

/-- The lower-case form of two texts in a row ends with that of the second one, and its beginning has as many
characters as that of the first one. -/
theorem exists_lowerAfter_append (before cs ds : List Char) :
    ∃ first, lowerAfter before (cs ++ ds) = first ++ lowerAfter (cs.reverse ++ before) ds ∧
      first.length = (lowerAfter before cs).length := by
  induction cs generalizing before with
  | nil => exact ⟨[], rfl, rfl⟩
  | cons c cs ih =>
    obtain ⟨first, hfirst, hlength⟩ := ih (c :: before)
    rw [List.cons_append, lowerAfter, lowerAfter, hfirst, List.reverse_cons, List.append_assoc,
      List.singleton_append]
    refine ⟨_, (List.append_assoc _ _ _).symm, ?_⟩
    rw [List.length_append, List.length_append, hlength]
    split <;> rfl

/-- Texts that stand on their own are equal up to case if they are behind the same text, whatever that is. -/
theorem lower_eq_of_append {schema attr other : String} (hattr : Standalone attr) (hother : Standalone other)
    (h : lower (schema ++ attr) = lower (schema ++ other)) : lower attr = lower other := by
  have hlists : lowerAfter [] (schema.toList ++ attr.toList) = lowerAfter [] (schema.toList ++ other.toList) := by
    simpa using String.ofList_injective h
  obtain ⟨first, hfirst, hlength⟩ := exists_lowerAfter_append [] schema.toList attr.toList
  obtain ⟨second, hsecond, hlength'⟩ := exists_lowerAfter_append [] schema.toList other.toList
  rw [hfirst, hsecond, lowerAfter_of_standalone hattr, lowerAfter_of_standalone hother] at hlists
  have hparts := (List.append_inj hlists (hlength.trans hlength'.symm)).2
  rw [lower, lower, hparts]

end Scim.Text
