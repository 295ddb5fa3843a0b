import Scim.Proofs.Path.Casing
import Scim.Proofs.Value.Equality
import Scim.Proofs.Value.Respelled

/-!
# Equality does not see the spelling of keys

Whether two values are equal is the same for their respelled forms.  An entry finds its counterpart under a key that
is compared up to case; and where the data of an extension is spread over keys `schema:attr`, such a key is put
together from two keys, or cut in two, and either way its parts are spelled as the whole is.

So is equality with a document, whose own keys differ.

## Main results

* `Value.Respelled.same`: values that are the same up to spelling are equal to the same values.
* `Value.Respelled.sameJson`: and to the same documents.
-/

namespace Scim

open Text

/-! ## Parts of keys -/

theorem lowerAscii_append (s t : String) : lowerAscii (s ++ t) = lowerAscii s ++ lowerAscii t := by
  simp [lowerAscii]

/-- Keys that differ in the case of ASCII letters are cut at the same colon, into such parts. -/
theorem splitLast_rel {key other : String} (h : lowerAscii key = lowerAscii other) :
    Option.Rel (fun a b => lowerAscii (String.ofList a.1) = lowerAscii (String.ofList b.1) ∧
        lowerAscii (String.ofList a.2) = lowerAscii (String.ofList b.2))
      (splitLast ':' key.toList) (splitLast ':' other.toList) := by
  have hcut := rel_of_map_eq <| (splitLast_map toLower_eq_colon key.toList).symm.trans
    (lowerAscii_eq_iff.1 h ▸ splitLast_map toLower_eq_colon other.toList)
  generalize splitLast ':' key.toList = cut at hcut ⊢
  generalize splitLast ':' other.toList = otherCut at hcut ⊢
  cases hcut with
  | none => exact .none
  | some hparts =>
    obtain ⟨hschema, hattr⟩ := Prod.mk.inj hparts
    exact .some ⟨lowerAscii_ofList hschema, lowerAscii_ofList hattr⟩

/-! ## Counterparts -/

namespace Record.Respelled

variable {same : Value → Value → Bool} {as bs : Record} {a b : Value} {key other : String}

section

variable (hsame : ∀ {a b x y : Value}, a.Respelled b → x.Respelled y → same a x = same b y)

include hsame

theorem holds (h : as.Respelled bs) (hkey : lower key = lower other) (hab : a.Respelled b) :
    as.holds same key a = bs.holds same other b := by
  have hfound := h.get? hkey
  unfold Record.holds
  generalize as.get? key = found at hfound ⊢
  generalize bs.get? other = respelled at hfound ⊢
  cases hfound with
  | none => rfl
  | some hvalue => exact hsame hvalue hab

theorem holdsQualified (h : as.Respelled bs) (hkey : lowerAscii key = lowerAscii other) (hab : a.Respelled b) :
    as.holdsQualified same key a = bs.holdsQualified same other b := by
  have hcut := splitLast_rel hkey
  unfold Record.holdsQualified
  generalize splitLast ':' key.toList = cut at hcut ⊢
  generalize splitLast ':' other.toList = otherCut at hcut ⊢
  cases hcut with
  | none => rfl
  | @some parts otherParts hparts =>
    have hinner := h.get? (lower_congr_ascii hparts.1)
    dsimp only
    generalize as.get? (String.ofList parts.1) = found at hinner ⊢
    generalize bs.get? (String.ofList otherParts.1) = respelled at hinner ⊢
    cases hinner with
    | none => rfl
    | some hvalue =>
      cases hvalue with
      | record distinct keys values order =>
        exact holds hsame (.record distinct keys values order) (lower_congr_ascii hparts.2) hab
      | _ => rfl

theorem hasCounterpart (h : as.Respelled bs) {entry respelled : String × Value}
    (hentry : RespelledEntry entry respelled) :
    Record.hasCounterpart same as entry = Record.hasCounterpart same bs respelled := by
  obtain ⟨key, value⟩ := entry
  obtain ⟨other, otherValue⟩ := respelled
  obtain ⟨hkey, hvalue⟩ := hentry
  have hfound := h.get? (lower_congr_ascii hkey)
  unfold Record.hasCounterpart
  dsimp only at hkey hvalue hfound ⊢
  generalize as.get? key = found at hfound ⊢
  generalize bs.get? other = respelled at hfound ⊢
  cases hfound with
  | some hstored => exact hsame hstored hvalue
  | none =>
    have hqualified := holdsQualified hsame h hkey hvalue
    cases hvalue with
    | record distinct keys values order =>
      refine all_congr (.record distinct keys values order) fun part otherPart hpart => ?_
      refine holds hsame h (lower_congr_ascii ?_) hpart.2
      rw [lowerAscii_append, lowerAscii_append, hkey, hpart.1, lowerAscii_append, lowerAscii_append]
    | _ => exact hqualified

theorem containedIn {cs ds : Record} (hleft : as.Respelled bs) (hright : cs.Respelled ds) :
    Record.containedIn same as cs = Record.containedIn same bs ds :=
  hleft.all_congr fun _ _ hentry => hasCounterpart hsame hright hentry

end

end Record.Respelled

/-! ## Equal values -/

/-- Two pairs of related lists are related item by item. -/
theorem forall₂_pairs {α β γ δ : Type} {left : α → β → Prop} {right : γ → δ → Prop} {as : List α} {bs : List β}
    {cs : List γ} {ds : List δ} (hleft : List.Forall₂ left as bs) (hright : List.Forall₂ right cs ds) :
    List.Forall₂ (fun a b => left a.1 b.1 ∧ right a.2 b.2) (as.zip cs) (bs.zip ds) := by
  induction hleft generalizing cs ds with
  | nil => exact .nil
  | cons hab _ ih =>
    cases hright with
    | nil => exact .nil
    | cons hcd hrest => exact .cons ⟨hab, hcd⟩ (ih hrest)

namespace Value.Respelled

variable {a b x y : Value}

/-- By induction on the depth to which values are compared; values of different shapes are not equal at any. -/
theorem sameWithin (n : Nat) (hab : a.Respelled b) (hxy : x.Respelled y) :
    Value.sameWithin n a x = Value.sameWithin n b y := by
  induction n generalizing a b x y with
  | zero => rfl
  | succ n ih =>
    cases hab with
    | list items =>
      cases hxy with
      | list others =>
        rw [Value.sameWithin, Value.sameWithin, items.length_eq, others.length_eq]
        congr 1
        exact all_congr_of_forall₂ (forall₂_pairs items others) fun _ _ hpair => ih hpair.1 hpair.2
      | _ => rfl
    | record distinct keys values order =>
      cases hxy with
      | record otherDistinct otherKeys otherValues otherOrder =>
        have hleft : Record.Respelled _ _ := .record distinct keys values order
        have hright : Record.Respelled _ _ := .record otherDistinct otherKeys otherValues otherOrder
        rw [Value.sameWithin, Value.sameWithin, Record.Respelled.containedIn ih hleft hright,
          Record.Respelled.containedIn ih hright hleft]
      | _ => rfl
    | _ => cases hxy <;> rfl

/-- Equality does not see the spelling of keys, on either side. -/
theorem same (hab : a.Respelled b) (hxy : x.Respelled y) : a.same x = b.same y := by
  rw [← sameWithin_eq_same (n := max a.depth b.depth) (Or.inl (Nat.le_max_left _ _)), sameWithin _ hab hxy]
  exact sameWithin_eq_same (Or.inl (Nat.le_max_right _ _))

end Value.Respelled

/-! ## Equal documents -/

mutual

/-- Nor does equality with a document. -/
theorem Value.Respelled.sameJson {a b : Value} (h : a.Respelled b) (json : Json) :
    a.sameJson json = b.sameJson json := by
  cases h with
  | list items =>
    cases json with
    | list jsons => exact sameJsonItems_congr items jsons
    | _ => rfl
  | record distinct keys values order =>
    cases json with
    | object members =>
      have hmembers := Value.respelled_refl _ (Value.fromJson_ofMembers members).wellKeyed
      exact Value.Respelled.same (.record distinct keys values order) hmembers
    | _ => rfl
  | _ => rfl

theorem sameJsonItems_congr {as bs : List Value} (h : List.Forall₂ Value.Respelled as bs) (jsons : List Json) :
    Value.sameJsonItems as jsons = Value.sameJsonItems bs jsons := by
  cases h with
  | nil => rfl
  | cons hitem hitems =>
    cases jsons with
    | nil => rfl
    | cons json jsons =>
      rw [Value.sameJsonItems, Value.sameJsonItems, hitem.sameJson json, sameJsonItems_congr hitems jsons]

end

end Scim
