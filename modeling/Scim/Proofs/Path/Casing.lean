import Scim.Proofs.Path
import Scim.Proofs.Text.Ascii

/-!
# Paths in other ASCII casings

Two texts that differ in the case of ASCII letters are read as equal paths, or neither of them is a path.  The
grammar of identifiers does not ask whether an ASCII letter is a capital, with one exception: `$ref` is a name and
`$REF` is none.  So the texts have to be cut at the same places, each part has to be read or refused as its
counterpart is, and what was read has to be equal up to case.

## Main results

* `AttrName.parse_alike` and `SchemaUri.parse_alike`: the same for names and identifiers.
* `Path.parse_alike`: texts that differ in the case of ASCII letters and have no component `$ref` are read alike.
-/

namespace Scim

open Text

/-! ## Characters of identifiers -/

theorem isNameChar_toLower (c : Char) : isNameChar c.toLower = isNameChar c := apply_toLower isNameChar (by decide) c

theorem isUriChar_toLower (c : Char) : isUriChar c.toLower = isUriChar c := apply_toLower isUriChar (by decide) c

theorem isAlpha_toLower (c : Char) : c.toLower.isAlpha = c.isAlpha := apply_toLower Char.isAlpha (by decide) c

theorem toLower_eq_colon (c : Char) : c.toLower = ':' ↔ c = ':' := toLower_eq_iff (by decide) c

theorem toLower_eq_stop (c : Char) : c.toLower = '.' ↔ c = '.' := toLower_eq_iff (by decide) c

/-! ## Names and identifiers -/

/-- A text other than `$ref` begins with a letter if it is a name. -/
theorem isAttrName_map_toLower {cs : List Char} (h : cs ≠ ['$', 'r', 'e', 'f']) :
    isAttrName cs =
      match cs.map Char.toLower with
      | [] => false
      | c :: cs => c.isAlpha && cs.all isNameChar := by
  cases cs with
  | nil => rfl
  | cons c cs =>
    have hname : isNameChar ∘ Char.toLower = isNameChar := funext isNameChar_toLower
    have hother : (c :: cs == ['$', 'r', 'e', 'f']) = false := beq_eq_false_iff_ne.2 h
    rw [isAttrName, hother, Bool.or_false]
    simp only [List.map_cons, isAlpha_toLower, List.all_map, hname]

theorem isSchemaUri_map_toLower (cs : List Char) : isSchemaUri (cs.map Char.toLower) = isSchemaUri cs := by
  have huri : isUriChar ∘ Char.toLower = isUriChar := funext isUriChar_toLower
  rw [isSchemaUri, isSchemaUri, splitAll_map toLower_eq_colon, List.all_map]
  refine congrArg (splitAll ':' cs).all (funext fun part => ?_)
  simp [List.all_map, huri]

theorem lowerAscii_eq_iff {s t : String} :
    lowerAscii s = lowerAscii t ↔ s.toList.map Char.toLower = t.toList.map Char.toLower :=
  ⟨fun h => String.ofList_injective h, fun h => congrArg String.ofList h⟩

theorem AttrName.parse_alike {s t : String} (h : lowerAscii s = lowerAscii t) (hs : s ≠ "$ref") (ht : t ≠ "$ref") :
    Alike (fun a b : AttrName => (a == b) = true) (parse s) (parse t) := by
  have hplain : ∀ u : String, u ≠ "$ref" → u.toList ≠ ['$', 'r', 'e', 'f'] := by
    intro u hu hlist
    exact hu (String.toList_injective hlist)
  have hsame : isAttrName s.toList = isAttrName t.toList := by
    rw [isAttrName_map_toLower (hplain s hs), isAttrName_map_toLower (hplain t ht), lowerAscii_eq_iff.1 h]
  unfold parse
  by_cases hname : isAttrName s.toList = true
  · rw [dif_pos hname, dif_pos (hsame ▸ hname)]
    exact .done (AttrName.beq_iff.2 (lower_congr_ascii h))
  · rw [dif_neg hname, dif_neg (hsame ▸ hname)]
    exact .refused _ _

theorem SchemaUri.parse_alike {s t : String} (h : lowerAscii s = lowerAscii t) :
    Alike (fun a b : SchemaUri => (a == b) = true) (parse s) (parse t) := by
  have hsame : isSchemaUri s.toList = isSchemaUri t.toList := by
    rw [← isSchemaUri_map_toLower, lowerAscii_eq_iff.1 h, isSchemaUri_map_toLower]
  unfold parse
  by_cases huri : isSchemaUri s.toList = true
  · rw [dif_pos huri, dif_pos (hsame ▸ huri)]
    exact .done (SchemaUri.beq_iff.2 (lower_congr_ascii h))
  · rw [dif_neg huri, dif_neg (hsame ▸ huri)]
    exact .refused _ _

/-! ## Paths within a schema -/

/-- The name and the name of the sub-attribute in the part of a path after the last colon. -/
def LocalPath.components (cs : List Char) : List String :=
  match splitFirst '.' cs with
  | none => [String.ofList cs]
  | some (attr, sub) => [String.ofList attr, String.ofList sub]

theorem LocalPath.ofTexts_alike {attr otherAttr : String} {sub otherSub : Option String}
    (hattr : Alike (fun a b : AttrName => (a == b) = true) (AttrName.parse attr) (AttrName.parse otherAttr))
    (hsub : Option.Rel (fun s t => Alike (fun a b : AttrName => (a == b) = true) (AttrName.parse s)
      (AttrName.parse t)) sub otherSub) :
    Alike (fun a b : LocalPath => (a == b) = true) (ofTexts attr sub) (ofTexts otherAttr otherSub) := by
  refine hattr.bind fun a b hab => ?_
  cases hsub with
  | none => exact .done (beq_iff.2 ⟨AttrName.beq_iff.1 hab, rfl⟩)
  | some hparse =>
    refine hparse.bind fun c d hcd => ?_
    exact .done (beq_iff.2 ⟨AttrName.beq_iff.1 hab, congrArg some (AttrName.beq_iff.1 hcd)⟩)

/-- What becomes equal under a function was both absent or becomes so value by value. -/
theorem rel_of_map_eq {α β : Type} {f : α → β} {a b : Option α} (h : a.map f = b.map f) :
    Option.Rel (fun x y => f x = f y) a b := by
  cases a <;> cases b
  · exact .none
  · cases h
  · cases h
  · exact .some (Option.some.inj h)

/-- Lists that are equal after their ASCII letters were lowered make texts that are. -/
theorem lowerAscii_ofList {cs ds : List Char} (h : cs.map Char.toLower = ds.map Char.toLower) :
    lowerAscii (String.ofList cs) = lowerAscii (String.ofList ds) := by
  rw [lowerAscii_eq_iff, String.toList_ofList, String.toList_ofList, h]

namespace Path

theorem splitLocal_alike {cs ds : List Char} (h : cs.map Char.toLower = ds.map Char.toLower)
    (hcs : "$ref" ∉ LocalPath.components cs) (hds : "$ref" ∉ LocalPath.components ds) :
    Option.Rel (fun a b : LocalPath => (a == b) = true) (splitLocal cs) (splitLocal ds) := by
  have hcut := rel_of_map_eq <|
    (splitFirst_map toLower_eq_stop cs).symm.trans (h ▸ splitFirst_map toLower_eq_stop ds)
  unfold splitLocal
  unfold LocalPath.components at hcs hds
  generalize splitFirst '.' cs = cut at *
  generalize splitFirst '.' ds = otherCut at *
  cases hcut with
  | none =>
    have hattr := AttrName.parse_alike (lowerAscii_ofList h) (Ne.symm (by simpa using hcs))
      (Ne.symm (by simpa using hds))
    exact (LocalPath.ofTexts_alike hattr .none).toOption
  | some hparts =>
    obtain ⟨hattrs, hsubs⟩ := Prod.mk.inj hparts
    simp only [List.mem_cons, List.not_mem_nil, or_false, not_or] at hcs hds
    have hattr := AttrName.parse_alike (lowerAscii_ofList hattrs) (Ne.symm hcs.1) (Ne.symm hds.1)
    have hsub := AttrName.parse_alike (lowerAscii_ofList hsubs) (Ne.symm hcs.2) (Ne.symm hds.2)
    exact (LocalPath.ofTexts_alike hattr (.some hsub)).toOption

/-! ## Paths -/

/-- The parts of a path in writing: the identifier of a schema, the name, and the name of the sub-attribute. -/
def components (text : String) : List String :=
  match splitLast ':' text.toList with
  | none => LocalPath.components text.toList
  | some (schema, names) => String.ofList schema :: LocalPath.components names

theorem split?_alike {s t : String} (h : lowerAscii s = lowerAscii t) (hs : "$ref" ∉ components s)
    (ht : "$ref" ∉ components t) :
    Option.Rel (fun a b : Option SchemaUri × LocalPath => (a.1 == b.1) = true ∧ (a.2 == b.2) = true)
      (split? s) (split? t) := by
  have hlists := lowerAscii_eq_iff.1 h
  have hcut := rel_of_map_eq <|
    (splitLast_map toLower_eq_colon s.toList).symm.trans (hlists ▸ splitLast_map toLower_eq_colon t.toList)
  unfold split?
  unfold components at hs ht
  generalize splitLast ':' s.toList = cut at *
  generalize splitLast ':' t.toList = otherCut at *
  cases hcut with
  | none =>
    have hrep := splitLocal_alike hlists hs ht
    generalize splitLocal s.toList = rep at hrep ⊢
    generalize splitLocal t.toList = other at hrep ⊢
    cases hrep with
    | none => exact .none
    | some hrep => exact .some ⟨rfl, hrep⟩
  | @some parts otherParts hparts =>
    obtain ⟨hschemas, hnames⟩ := Prod.mk.inj hparts
    have hrep := splitLocal_alike hnames (fun hmem => hs (List.mem_cons_of_mem _ hmem))
      (fun hmem => ht (List.mem_cons_of_mem _ hmem))
    have huri := (SchemaUri.parse_alike (lowerAscii_ofList hschemas)).toOption
    dsimp only
    generalize splitLocal parts.2 = rep at hrep ⊢
    generalize splitLocal otherParts.2 = otherRep at hrep ⊢
    generalize (SchemaUri.parse (String.ofList parts.1)).toOption = uri at huri ⊢
    generalize (SchemaUri.parse (String.ofList otherParts.1)).toOption = otherUri at huri ⊢
    cases hrep with
    | none => exact .none
    | some hrep =>
      cases huri with
      | none => exact .none
      | some huri => exact .some ⟨huri, hrep⟩

/-- Texts that differ in the case of ASCII letters and have no component `$ref` are read as equal paths or not at
all. -/
theorem parse_alike (catalog : Catalog) {s t : String} (h : lowerAscii s = lowerAscii t)
    (hs : "$ref" ∉ components s) (ht : "$ref" ∉ components t) :
    Alike (fun p q : Path => (p == q) = true) (parse catalog s) (parse catalog t) := by
  have hsplit : Alike (fun a b : Option SchemaUri × LocalPath => (a.1 == b.1) = true ∧ (a.2 == b.2) = true)
      (split s) (split t) := by
    have hparts := split?_alike h hs ht
    unfold split
    generalize split? s = parts at hparts ⊢
    generalize split? t = otherParts at hparts ⊢
    cases hparts with
    | none => exact .refused _ _
    | some hparts => exact .done hparts
  refine hsplit.bind ?_
  rintro ⟨schema, rep⟩ ⟨other, otherRep⟩ ⟨hschema, hrep⟩
  cases schema with
  | none =>
    cases other with
    | none => exact .done hrep
    | some other => cases hschema
  | some schema =>
    cases other with
    | none => cases hschema
    | some other =>
      have hfolded : schema.folded = other.folded := SchemaUri.beq_iff.1 hschema
      have hbind : Alike (fun a b : BoundPath => (a == b) = true) (BoundPath.bind catalog schema rep)
          (BoundPath.bind catalog other otherRep) := by
        have hflag : catalog.isExtension? schema = catalog.isExtension? other := by
          rw [Catalog.isExtension?, Catalog.entry?_congr catalog hfolded, Catalog.isExtension?]
        unfold BoundPath.bind
        rw [hflag]
        cases catalog.isExtension? other with
        | none => exact .refused _ _
        | some extension => exact .done (BoundPath.beq_iff.2 ⟨hschema, hrep⟩)
      exact hbind.bind fun a b hab => .done hab

end Path

end Scim
