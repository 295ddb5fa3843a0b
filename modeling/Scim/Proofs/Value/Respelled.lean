import Mathlib.Data.List.Forall2
import Scim.Proofs.Text.Ascii
import Scim.Proofs.Value.Everywhere
import Scim.Record.Address
import Scim.Value.Equality

/-!
# Values up to the spelling of their keys

Two values are the same to a reader who looks keys up: they have the same shape and the same texts, but the
entries of their records, at every depth, stand in another order, and the ASCII letters in their keys have another
case.  `Respelled` says so.  The keys within each record differ, as those of any record that was read do.

What is read from a record under a key is then the same up to spelling again, and so is what is left when the value
under a key is replaced.

## Main results

* `Value.respelled_refl`: a value whose keys differ is the same as itself.
* `Record.Respelled.get?`, `Record.Respelled.replace`: looking up a key, and replacing the value under it.
* `Record.Respelled.get`: reading under any address.
-/

namespace Scim

open Text

/-! ## Respelled values -/

/-- Two values differ in nothing but the order of entries and the case of ASCII letters in keys, at every depth. -/
inductive Value.Respelled : Value → Value → Prop
  | missing : Respelled .missing .missing
  | invalid : Respelled .invalid .invalid
  | null : Respelled .null .null
  | bool (value : Bool) : Respelled (.bool value) (.bool value)
  | number (value : Number) : Respelled (.number value) (.number value)
  | text (value : String) : Respelled (.text value) (.text value)
  /-- The items of a list are the same one by one. -/
  | list {as bs : List Value} (items : List.Forall₂ Respelled as bs) : Respelled (.list as) (.list bs)
  /-- The keys of a record are spelled in another way, and then the entries are put into another order. -/
  | record {as spelled bs : Record} (distinct : as.DistinctKeys)
      (keys : as.keys.map lowerAscii = spelled.keys.map lowerAscii)
      (values : List.Forall₂ (fun a b => Respelled a.2 b.2) as spelled) (order : spelled.Perm bs) :
      Respelled (.record as) (.record bs)

/-- Two records that are the same up to spelling. -/
def Record.Respelled (as bs : Record) : Prop := (Value.record as).Respelled (.record bs)

/-- An entry that is the same up to spelling. -/
def RespelledEntry (a b : String × Value) : Prop := lowerAscii a.1 = lowerAscii b.1 ∧ a.2.Respelled b.2

theorem forall₂_respelledEntry_iff {as spelled : Record} :
    List.Forall₂ RespelledEntry as spelled ↔
      as.keys.map lowerAscii = spelled.keys.map lowerAscii ∧
        List.Forall₂ (fun a b => a.2.Respelled b.2) as spelled := by
  constructor
  · intro h
    refine ⟨?_, h.imp fun _ _ hentry => hentry.2⟩
    induction h with
    | nil => rfl
    | cons hentry _ ih => exact List.cons_eq_cons.2 ⟨hentry.1, ih⟩
  · rintro ⟨hkeys, hvalues⟩
    induction hvalues with
    | nil => exact .nil
    | cons hvalue _ ih =>
      obtain ⟨hkey, hrest⟩ := List.cons_eq_cons.1 hkeys
      exact .cons ⟨hkey, hvalue⟩ (ih hrest)

namespace Value

variable {a b : Value}

/-! ### The shape of a value -/

theorem Respelled.isMissing (h : a.Respelled b) : a.isMissing = b.isMissing := by cases h <;> rfl

theorem Respelled.isInvalid (h : a.Respelled b) : a.isInvalid = b.isInvalid := by cases h <;> rfl

theorem Respelled.isAbsent (h : a.Respelled b) : a.isAbsent = b.isAbsent := by cases h <;> rfl

theorem Respelled.text? (h : a.Respelled b) : a.text? = b.text? := by cases h <;> rfl

theorem Respelled.bool? (h : a.Respelled b) : a.bool? = b.bool? := by cases h <;> rfl

theorem Respelled.list? (h : a.Respelled b) : Option.Rel (List.Forall₂ Respelled) a.list? b.list? := by
  cases h with
  | list items => exact .some items
  | _ => exact .none

theorem Respelled.list?_eq_none (h : a.Respelled b) (hlist : a.list? = none) : b.list? = none := by
  cases h with
  | list => cases hlist
  | _ => rfl

theorem Respelled.record? (h : a.Respelled b) : Option.Rel Record.Respelled a.record? b.record? := by
  cases h with
  | record distinct keys values order => exact .some (.record distinct keys values order)
  | _ => exact .none

end Value

/-! ## Respelled records -/

/-- What is asked alike of related items is true of all of the one list or not of all of the other. -/
theorem all_congr_of_forall₂ {α β : Type} {related : α → β → Prop} {as : List α} {bs : List β} {p : α → Bool}
    {q : β → Bool} (h : List.Forall₂ related as bs) (hpq : ∀ a b, related a b → p a = q b) :
    as.all p = bs.all q := by
  induction h with
  | nil => rfl
  | cons hab _ ih => rw [List.all_cons, List.all_cons, hpq _ _ hab, ih]

/-- Going through two lists of related items in the same way ends in the same state. -/
theorem foldl_congr_of_forall₂ {α β σ : Type} {related : α → β → Prop} {as : List α} {bs : List β} {f : σ → α → σ}
    {g : σ → β → σ} (h : List.Forall₂ related as bs) (hfg : ∀ state a b, related a b → f state a = g state b)
    (state : σ) : as.foldl f state = bs.foldl g state := by
  induction h generalizing state with
  | nil => rfl
  | cons hab _ ih => rw [List.foldl_cons, List.foldl_cons, hfg _ _ _ hab, ih]

namespace RespelledEntry

variable {as spelled : Record} {key other : String}

theorem keys_eq (h : List.Forall₂ RespelledEntry as spelled) :
    as.keys.map lower = (Entries.keys spelled).map lower := by
  induction h with
  | nil => rfl
  | cons hentry _ ih => exact List.cons_eq_cons.2 ⟨lower_congr_ascii hentry.1, ih⟩

/-- Entries spelled in another way are found under the same keys, spelled in any way. -/
theorem get? (h : List.Forall₂ RespelledEntry as spelled) (hkey : lower key = lower other) :
    Option.Rel Value.Respelled (as.get? key) (Entries.get? spelled other) := by
  induction h with
  | nil => exact .none
  | cons hentry _ ih =>
    rw [Entries.get?_cons, Entries.get?_cons, lower_congr_ascii hentry.1, hkey]
    split
    · exact .some hentry.2
    · exact ih

theorem replace (h : List.Forall₂ RespelledEntry as spelled) (hkey : lower key = lower other) {a b : Value}
    (hab : a.Respelled b) :
    List.Forall₂ RespelledEntry (as.replace key a) (Entries.replace spelled other b) := by
  rw [Entries.replace, Entries.replace, ← Entries.hasKey_congr hkey, List.forall₂_map_left_iff,
    List.forall₂_map_right_iff]
  refine h.imp fun entry respelled hentry => ?_
  have hfound : Entries.hasKey key entry = Entries.hasKey key respelled := by
    rw [Entries.hasKey, Entries.hasKey, lower_congr_ascii hentry.1]
  rw [hfound]
  split
  · exact ⟨hentry.1, hab⟩
  · exact hentry

end RespelledEntry

namespace Record.Respelled

variable {as bs : Record} {key other : String}

/-- The keys are spelled in another way first, and then the entries are put into another order. -/
theorem iff_exists : as.Respelled bs ↔
    as.DistinctKeys ∧ ∃ spelled, List.Forall₂ RespelledEntry as spelled ∧ spelled.Perm bs := by
  constructor
  · intro h
    cases h with
    | record distinct keys values order =>
      exact ⟨distinct, _, forall₂_respelledEntry_iff.2 ⟨keys, values⟩, order⟩
  · rintro ⟨hdistinct, spelled, hentries, horder⟩
    obtain ⟨hkeys, hvalues⟩ := forall₂_respelledEntry_iff.1 hentries
    exact .record hdistinct hkeys hvalues horder

/-- The keys are the same up to case, in some order. -/
theorem keys_perm (h : as.Respelled bs) : (as.keys.map lower).Perm (bs.keys.map lower) := by
  obtain ⟨-, spelled, hentries, horder⟩ := iff_exists.1 h
  rw [RespelledEntry.keys_eq hentries]
  exact (horder.map Prod.fst).map lower

theorem get? (h : as.Respelled bs) (hkey : lower key = lower other) :
    Option.Rel Value.Respelled (as.get? key) (bs.get? other) := by
  obtain ⟨hdistinct, spelled, hentries, horder⟩ := iff_exists.1 h
  have hkeys : (as.keys.map lower).Nodup := List.pairwise_map.2 (Entries.distinctKeys_iff_keys.1 hdistinct)
  rw [RespelledEntry.keys_eq hentries] at hkeys
  have hspelled : Entries.DistinctKeys spelled := Entries.distinctKeys_iff_keys.2 (List.pairwise_map.1 hkeys)
  rw [← Entries.get?_of_perm hspelled horder]
  exact RespelledEntry.get? hentries hkey

theorem value (h : as.Respelled bs) (hkey : lower key = lower other) :
    (as.value key).Respelled (bs.value other) := by
  have hfound := h.get? hkey
  unfold Record.value
  generalize as.get? key = found at hfound ⊢
  generalize bs.get? other = respelled at hfound ⊢
  cases hfound with
  | none => exact .missing
  | some hvalue => exact hvalue

theorem replace (h : as.Respelled bs) (hkey : lower key = lower other) {a b : Value} (hab : a.Respelled b) :
    Record.Respelled (as.replace key a) (bs.replace other b) := by
  obtain ⟨hdistinct, spelled, hentries, horder⟩ := iff_exists.1 h
  refine iff_exists.2 ⟨hdistinct.replace key a, _, RespelledEntry.replace hentries hkey hab, ?_⟩
  exact horder.map _

/-- What is asked of all entries alike is true of all entries of both or of neither. -/
theorem all_congr (h : as.Respelled bs) {p q : String × Value → Bool}
    (hpq : ∀ entry respelled, RespelledEntry entry respelled → p entry = q respelled) : as.all p = bs.all q := by
  obtain ⟨-, spelled, hentries, horder⟩ := iff_exists.1 h
  rw [← horder.all_eq]
  exact all_congr_of_forall₂ hentries hpq

theorem isEmpty (h : as.Respelled bs) : as.isEmpty = bs.isEmpty := by
  have hlength : as.length = bs.length := by
    simpa [Entries.keys] using h.keys_perm.length_eq
  rw [Bool.eq_iff_iff, List.isEmpty_iff_length_eq_zero, hlength, List.isEmpty_iff_length_eq_zero]

end Record.Respelled

theorem Value.Respelled.truthy {a b : Value} (h : a.Respelled b) : a.truthy = b.truthy := by
  cases h with
  | list items => cases items <;> rfl
  | record distinct keys values order =>
    exact congrArg (!·) (Record.Respelled.isEmpty (.record distinct keys values order))
  | _ => rfl

/-! ### A value is the same as itself -/

/-- A value whose keys differ at every depth is the same as itself. -/
theorem Value.respelled_refl : ∀ value : Value, value.WellKeyed → value.Respelled value
  | .missing, _ => .missing
  | .invalid, _ => .invalid
  | .null, _ => .null
  | .bool b, _ => .bool b
  | .number n, _ => .number n
  | .text s, _ => .text s
  | .list items, h => by
    have hitems := everywhere_list.1 h
    exact .list (List.forall₂_same.2 fun item hitem => respelled_refl item (hitems item hitem))
  | .record entries, h => by
    obtain ⟨hkeys, hvalues⟩ := everywhere_record.1 h
    refine .record hkeys rfl (List.forall₂_same.2 fun entry hentry => ?_) (.refl entries)
    exact respelled_refl entry.2 (hvalues entry hentry)
termination_by value => value.depth
decreasing_by
  · exact depth_item_lt hitem
  · exact depth_entry_lt hentry

/-! ## Reading -/

namespace Record.Respelled

variable {as bs : Record}

/-- A text addresses the same in both records. -/
theorem resolve? (h : as.Respelled bs) (text : String) : as.resolve? text = bs.resolve? text := by
  have hfound := h.get? (rfl : lower text = lower text)
  unfold Record.resolve?
  generalize as.get? text = found at hfound ⊢
  generalize bs.get? text = respelled at hfound ⊢
  cases hfound with
  | some _ => rfl
  | none =>
    dsimp only
    split
    · rfl
    · rfl
    · next uri rep _ =>
      have hinner := h.get? (rfl : uri.folded = uri.folded)
      generalize as.get? uri.text = found at hinner ⊢
      generalize bs.get? uri.text = respelled at hinner ⊢
      cases hinner with
      | none => rfl
      | some hvalue => cases hvalue <;> rfl

theorem resolve (h : as.Respelled bs) (key : Key) : as.resolve key = bs.resolve key := by
  cases key with
  | place place => rfl
  | path text => rw [Record.resolve, Record.resolve, h.resolve? text]

theorem subOf (sub : AttrName) {a b : Value} (h : a.Respelled b) :
    (Record.subOf sub a).Respelled (Record.subOf sub b) := by
  cases h with
  | record distinct keys values order => exact value (.record distinct keys values order) rfl
  | _ => exact .missing

theorem getAttr (h : as.Respelled bs) (rep : LocalPath) : (as.getAttr rep).Respelled (bs.getAttr rep) := by
  have hfound := h.get? (rfl : rep.attr.folded = rep.attr.folded)
  unfold Record.getAttr
  generalize as.get? rep.attr.text = found at hfound ⊢
  generalize bs.get? rep.attr.text = respelled at hfound ⊢
  cases hfound with
  | none => exact .missing
  | some hvalue =>
    cases rep.sub with
    | none => exact hvalue
    | some sub =>
      cases hvalue with
      | list items =>
        refine .list (List.forall₂_map_left_iff.2 (List.forall₂_map_right_iff.2 ?_))
        exact items.imp fun _ _ hitem => subOf sub hitem
      | record distinct keys values order => exact value (.record distinct keys values order) rfl
      | _ => exact .missing

/-- What an address leads to is the same up to spelling. -/
theorem get (h : as.Respelled bs) (key : Key) : (as.get key).Respelled (bs.get key) := by
  rw [Record.get, Record.get, h.resolve key]
  cases bs.resolve key with
  | entry text => exact h.value rfl
  | schema uri => exact h.value rfl
  | attr rep => exact h.getAttr rep
  | extension uri rep =>
    have hinner := h.get? (rfl : uri.folded = uri.folded)
    dsimp only
    generalize as.get? uri.text = found at hinner ⊢
    generalize bs.get? uri.text = respelled at hinner ⊢
    cases hinner with
    | none => exact .missing
    | some hvalue =>
      cases hvalue with
      | record distinct keys values order => exact getAttr (.record distinct keys values order) rep
      | _ => exact .missing

end Record.Respelled

end Scim
