/-!
# Cutting text at a separator

Identifiers are sequences of parts: a schema identifier is cut at every colon, a qualified path at its
last colon, a path with a sub-attribute at its first full stop.  The three cuts are defined here on
lists of characters.

## Main results

* `splitFirst_eq_some`, `splitLast_eq_some`: a cut loses nothing but the separator, and it is the first
  or the last one in the text.
* `splitFirst_eq_none`, `splitLast_eq_none`: a text is not cut exactly when the separator is absent.
* `splitAll_eq_iff`: the parts are the only texts without a separator that make the whole.
-/

namespace Scim.Text

/-- All parts between separators; a text without a separator is one part. -/
def splitAll (sep : Char) : List Char → List (List Char)
  | [] => [[]]
  | c :: cs =>
    if c = sep then [] :: splitAll sep cs
    else
      match splitAll sep cs with
      | [] => [[c]]
      | part :: parts => (c :: part) :: parts

/-- What stands before and after the first separator. -/
def splitFirst (sep : Char) : List Char → Option (List Char × List Char)
  | [] => none
  | c :: cs =>
    if c = sep then some ([], cs)
    else (splitFirst sep cs).map fun (left, right) => (c :: left, right)

/-- What stands before and after the last separator. -/
def splitLast (sep : Char) : List Char → Option (List Char × List Char)
  | [] => none
  | c :: cs =>
    match splitLast sep cs with
    | some (left, right) => some (c :: left, right)
    | none => if c = sep then some ([], cs) else none

/-- Whether a text occurs within another one. -/
def contains (part : List Char) : List Char → Bool
  | [] => part.isEmpty
  | c :: cs => part.isPrefixOf (c :: cs) || contains part cs

theorem splitFirst_eq_none {sep : Char} {cs : List Char} :
    splitFirst sep cs = none ↔ sep ∉ cs := by
  induction cs with
  | nil => simp [splitFirst]
  | cons c cs ih =>
    by_cases h : c = sep
    · simp [splitFirst, h]
    · simp [splitFirst, h, ih, Ne.symm h]

theorem splitLast_eq_none {sep : Char} {cs : List Char} :
    splitLast sep cs = none ↔ sep ∉ cs := by
  induction cs with
  | nil => simp [splitLast]
  | cons c cs ih =>
    simp only [splitLast, List.mem_cons, not_or]
    cases h : splitLast sep cs with
    | none =>
      have hc := ih.1 h
      by_cases e : c = sep
      · simp [e]
      · simp [e, hc, Ne.symm e]
    | some p =>
      have hc : sep ∈ cs := by simpa [h] using not_congr ih
      simp [hc]

theorem splitFirst_eq_some {sep : Char} {cs left right : List Char} :
    splitFirst sep cs = some (left, right) ↔ cs = left ++ sep :: right ∧ sep ∉ left := by
  induction cs generalizing left with
  | nil => simp [splitFirst]
  | cons c cs ih =>
    by_cases h : c = sep
    · subst h
      cases left <;> simp [splitFirst, eq_comm]
      grind
    · cases left with
      | nil => simp [splitFirst, h]
      | cons d left => simp [splitFirst, h, ih]; grind

theorem splitLast_eq_some {sep : Char} {cs left right : List Char} :
    splitLast sep cs = some (left, right) ↔ cs = left ++ sep :: right ∧ sep ∉ right := by
  induction cs generalizing left with
  | nil => simp [splitLast]
  | cons c cs ih =>
    cases left with
    | nil =>
      have hn := @splitLast_eq_none sep cs
      cases h : splitLast sep cs <;> by_cases e : c = sep <;> simp_all [splitLast] <;> grind
    | cons d left =>
      cases h : splitLast sep cs with
      | none =>
        have hn := splitLast_eq_none.1 h
        by_cases e : c = sep
        · simp_all [splitLast]
          grind
        · simp_all [splitLast]
      | some p =>
        obtain ⟨l, r⟩ := p
        simp [splitLast, h]
        grind

theorem splitAll_ne_nil (sep : Char) (cs : List Char) : splitAll sep cs ≠ [] := by
  cases cs with
  | nil => exact List.cons_ne_nil _ _
  | cons c cs =>
    rw [splitAll]
    split
    · exact List.cons_ne_nil _ _
    · split <;> exact List.cons_ne_nil _ _

/-- The parts between separators are those texts without a separator that spell the whole if each is ended by one. -/
theorem splitAll_eq_iff {sep : Char} {cs : List Char} {parts : List (List Char)} :
    splitAll sep cs = parts ↔ parts.flatMap (· ++ [sep]) = cs ++ [sep] ∧ ∀ part ∈ parts, sep ∉ part := by
  induction cs generalizing parts with
  | nil => rcases parts with _ | ⟨_ | ⟨d, part⟩, _ | ⟨next, parts⟩⟩ <;> simp [splitAll]
  | cons c cs ih =>
    rw [splitAll]
    by_cases hsep : c = sep
    · -- the separator ends a part that is empty
      rw [if_pos hsep]
      rcases parts with _ | ⟨_ | ⟨d, part⟩, parts⟩
      · simp
      · simp [hsep, ih]
      · simp [hsep]; grind
    · rw [if_neg hsep]
      obtain ⟨first, rest, hcut⟩ := List.exists_cons_of_ne_nil (splitAll_ne_nil sep cs)
      rcases parts with _ | ⟨_ | ⟨d, part⟩, parts⟩
      · simp [hcut]
      · simp [hcut, Ne.symm hsep]
      · have hrest := @ih (part :: parts)
        simp only [hcut, List.flatMap_cons, List.forall_mem_cons, List.cons.injEq] at hrest ⊢
        grind

end Scim.Text
