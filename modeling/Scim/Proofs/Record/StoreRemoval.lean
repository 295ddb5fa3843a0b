import Scim.Proofs.Record.StoreAddress

/-!
# Taking values out of stores

A value is taken out of a store in one go: the table leads to the entry, its value is kept and the entry is
removed from its position.  Below a list this is done to each element, and the values that come out are put
into a list side by side with the elements that stay.

That the value which comes out is the one that reading would have given, and that what stays is what removing
leaves, are two facts about two walks through the store; neither walk is made of the other.

## Main results

* `Store.take_snd`: what stays is the store with the value removed.
* `Store.take_agrees`: what comes out and what stays are those of the plain record.
-/

namespace Scim

/-! ## Taking out -/

/-- Takes the entry under a key out, with the value that stood there. -/
def Indexed.takeOut {α : Type} (store : Indexed α) (key : String) : Option α × Indexed α :=
  match store.position? key with
  | none => (none, store)
  | some removed =>
    (store.entries[removed]?.map (·.2),
      { entries := store.entries.eraseIdx removed
        table := (store.table.erase (Text.lower key)).map fun _ i => shift removed i })

/-- Takes the sub-attribute of one element out. -/
def Cell.takeSub (sub : AttrName) : Cell → Cell × Cell
  | .record contents =>
    let (found, rest) := contents.takeOut sub.text
    (found.getD .missing, .record rest)
  | item => (.missing, item)

namespace Store

/-- Takes the value of an entry out. -/
def takeEntry (store : Store) (key : String) : Cell × Store :=
  let (found, rest) := store.takeOut key
  (found.getD .missing, rest)

/-- Takes the value of an attribute out. -/
def takeAttr (store : Store) (rep : LocalPath) : Cell × Store :=
  match rep.sub with
  | none => store.takeEntry rep.attr.text
  | some sub =>
    match store.get? rep.attr.text with
    | some (.record inner) =>
      let (found, rest) := takeEntry inner sub.text
      (found, store.replace rep.attr.text (.record rest))
    | some (.list items) =>
      let taken := items.map (Cell.takeSub sub)
      (.list (taken.map (·.1)), store.replace rep.attr.text (.list (taken.map (·.2))))
    | _ => (.missing, store)

/-- Takes the value at an address out. -/
def take (store : Store) (key : Key) : Cell × Store :=
  match store.resolve key with
  | .entry text => store.takeEntry text
  | .schema uri => store.takeEntry uri.text
  | .attr rep => store.takeAttr rep
  | .extension uri rep =>
    match store.get? uri.text with
    | some (.record inner) =>
      let (found, rest) := takeAttr inner rep
      (found, store.replace uri.text (.record rest))
    | _ => (.missing, store)

end Store

/-! ## What stays -/

theorem Indexed.takeOut_eq {α : Type} (store : Indexed α) (key : String) :
    store.takeOut key = (store.get? key, store.erase key) := by
  rw [takeOut, Indexed.get?, Indexed.erase]
  cases store.position? key <;> rfl

theorem Cell.takeSub_snd (sub : AttrName) (item : Cell) : (takeSub sub item).2 = dropSubOf sub item := by
  cases item with
  | record contents => rw [takeSub, Indexed.takeOut_eq, dropSubOf]
  | _ => rfl

namespace Store

variable {store : Store}

theorem takeEntry_snd (store : Store) (key : String) : (store.takeEntry key).2 = store.erase key := by
  rw [takeEntry, Indexed.takeOut_eq]

theorem takeAttr_snd (store : Store) (rep : LocalPath) : (store.takeAttr rep).2 = store.dropAttr rep := by
  obtain ⟨attr, _ | sub⟩ := rep
  · exact takeEntry_snd store attr.text
  simp only [takeAttr, dropAttr]
  cases store.get? attr.text with
  | none => rfl
  | some parent =>
    cases parent with
    | record inner => simp only [takeEntry_snd]
    | list items =>
      have hstay : (·.2) ∘ Cell.takeSub sub = Cell.dropSubOf sub := funext (Cell.takeSub_snd sub)
      simp only [List.map_map, hstay]
    | _ => rfl

/-- What stays when a value is taken out is the store without it. -/
theorem take_snd (store : Store) (key : Key) : (store.take key).2 = store.drop key := by
  rw [take, drop]
  cases store.resolve key with
  | entry text => exact takeEntry_snd store text
  | schema uri => exact takeEntry_snd store uri.text
  | attr rep => exact takeAttr_snd store rep
  | extension uri rep =>
    simp only
    cases store.get? uri.text with
    | none => rfl
    | some parent =>
      cases parent with
      | record inner => simp only [takeAttr_snd]
      | _ => rfl

/-! ## What comes out -/

theorem plain_takeEntry (h : store.Sound) (key : String) :
    (store.takeEntry key).1.plain = store.plain.value key := by
  rw [takeEntry, Indexed.takeOut_eq, Record.value, h.plain_get?]
  cases store.get? key <;> rfl

theorem plain_takeSub (sub : AttrName) {item : Cell} (h : item.Sound) :
    (Cell.takeSub sub item).1.plain = Record.subOf sub item.plain := by
  cases item with
  | record contents =>
    rw [plain_record]
    exact plain_takeEntry h sub.text
  | _ => rfl

theorem plain_takeAttr (h : store.Sound) (rep : LocalPath) :
    (store.takeAttr rep).1.plain = store.plain.getAttr rep := by
  obtain ⟨attr, _ | sub⟩ := rep
  · show (store.takeEntry attr.text).1.plain = _
    rw [plain_takeEntry h, Record.value, Record.getAttr]
    cases store.plain.get? attr.text <;> rfl
  simp only [takeAttr, Record.getAttr]
  rw [h.plain_get?]
  cases hget : store.get? attr.text with
  | none => rfl
  | some parent =>
    have hparent := h.of_get? hget
    cases parent with
    | record inner =>
      rw [Option.map_some, plain_record]
      exact plain_takeEntry hparent sub.text
    | list items =>
      have hitems := Cell.sound_list.1 hparent
      rw [Option.map_some, Cell.plain_list]
      simp only [Cell.plain_list, List.map_map]
      exact congrArg _ (List.map_congr_left fun item hmem => plain_takeSub sub (hitems item hmem))
    | _ => rfl

theorem plain_take (h : store.Sound) (key : Key) : (store.take key).1.plain = store.plain.get key := by
  rw [take, Record.get, resolve_plain h]
  cases store.resolve key with
  | entry text => exact plain_takeEntry h text
  | schema uri => exact plain_takeEntry h uri.text
  | attr rep => exact plain_takeAttr h rep
  | extension uri rep =>
    simp only
    rw [h.plain_get?]
    cases hget : store.get? uri.text with
    | none => rfl
    | some parent =>
      have hparent := h.of_get? hget
      cases parent with
      | record inner =>
        rw [Option.map_some, plain_record]
        exact plain_takeAttr hparent rep
      | list items =>
        rw [Option.map_some, Cell.plain_list]
        rfl
      | _ => rfl

/-- Taking a value out gives what reading the plain record gives and leaves what removing from it leaves, and
the tables of what stays are exact again. -/
theorem take_agrees (h : store.Sound) (key : Key) :
    ((store.take key).1.plain, (store.take key).2.plain) = store.plain.pop key ∧
      (store.take key).2.Sound := by
  obtain ⟨hsound, hplain⟩ := drop_agrees h key
  rw [take_snd, plain_take h, hplain]
  exact ⟨rfl, hsound⟩

end Store

end Scim
