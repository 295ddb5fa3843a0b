import Scim.Name
import Scim.Proofs.Value.Equality

/-!
# The two ways of writing the data of an extension

A record holds the data of an extension gathered in one entry, or spread over one entry `schema:attr` per
attribute.  Both records are compared here as they come about by writing: the one entry is put into a record,
or the others are, one after the other.

As no name of an attribute has a colon, and none depends on what stands before it, the keys of different
attributes stay different when they are qualified.  So the spread entries stand behind the record side by side
(`withSpread_eq`), and each finds its own value.

From the gathered record to the spread one everything has its counterpart (`contained_withSpread`).  In the
other direction a spread value that is a record itself does not look for its counterpart in the data of the
extension: it is taken for the data of an extension whose entries are spread one level deeper.

## Main results

* `withSpread_eq`: spreading entries appends them.
* `gathered_same_spread_iff`: the two records are equal exactly if all records among the spread values find
  their parts in this way.
-/

namespace Scim

open Text

/-! ## Names as parts of keys -/

theorem colon_not_mem_of_isAttrName {s : String} (h : isAttrName s.toList = true) : ':' ∉ s.toList :=
  not_mem_of_isAttrName h (by decide) (by decide)

private theorem toNat_lt_of_isAlpha {c : Char} (h : c.isAlpha = true) : c.toNat < 0x80 := by
  show c.val.toNat < 0x80
  rcases Bool.or_eq_true_iff.1 h with hupper | hlower
  · have hle : c.val ≤ 'Z'.val := (of_decide_eq_true hupper).2
    exact Nat.lt_of_le_of_lt (UInt32.le_iff_toNat_le.1 hle) (by decide)
  · have hle : c.val ≤ 'z'.val := of_decide_eq_true (Bool.and_eq_true_iff.1 hlower).2
    exact Nat.lt_of_le_of_lt (UInt32.le_iff_toNat_le.1 hle) (by decide)

/-- A name begins with a letter or a dollar sign, and neither is read over. -/
theorem standalone_of_isAttrName {s : String} (h : isAttrName s.toList = true) : Standalone s := by
  have hletters : ∀ n < 0x80, (Char.ofNat n).isAlpha = true → isCaseIgnorable (Char.ofNat n) = false := by
    decide
  cases hs : s.toList with
  | nil =>
    rw [hs] at h
    cases h
  | cons c cs =>
    rw [hs, isAttrName, Bool.or_eq_true, Bool.and_eq_true, beq_iff_eq] at h
    refine ⟨c, cs, hs, ?_⟩
    rcases h with ⟨hfirst, -⟩ | hname
    · have hascii : c.toNat < 0x80 := toNat_lt_of_isAlpha hfirst
      have hread := hletters c.toNat hascii
      rw [Char.ofNat_toNat] at hread
      refine ⟨?_, hread hfirst⟩
      rintro rfl
      exact absurd hascii (by decide)
    · rw [(List.cons.inj hname).1]
      decide

namespace Record

open Value (same_comm same_refl_of_wellKeyed)

/-- The entries of an extension under qualified keys. -/
def qualified (uri : SchemaUri) (inner : Record) : Record :=
  inner.map fun part => (uri.text ++ ":" ++ part.1, part.2)

/-- A record with the data of an extension written into it as one entry. -/
def withGathered (record : Record) (uri : SchemaUri) (inner : Record) : Record :=
  record.insert uri.text (.record inner)

/-- A record with the data of an extension written into it as one entry per attribute. -/
def withSpread (record : Record) (uri : SchemaUri) (inner : Record) : Record :=
  (qualified uri inner).foldl (fun spread entry => spread.insert entry.1 entry.2) record

variable {record inner : Record} {uri : SchemaUri}

/-! ## What the two records hold -/

theorem mem_qualified {key : String} {value : Value} : (key, value) ∈ qualified uri inner ↔
    ∃ attr, (attr, value) ∈ inner ∧ key = uri.text ++ ":" ++ attr := by
  rw [qualified, List.mem_map]
  constructor
  · rintro ⟨⟨attr, _⟩, hmem, hentry⟩
    cases hentry
    exact ⟨attr, hmem, rfl⟩
  · rintro ⟨attr, hmem, rfl⟩
    exact ⟨(attr, value), hmem, rfl⟩

/-- A key that goes on from that of the extension finds the same as before. -/
theorem get?_withGathered (record : Record) (uri : SchemaUri) (inner : Record) (rest : String) :
    (record.withGathered uri inner).get? (uri.text ++ ":" ++ rest) = record.get? (uri.text ++ ":" ++ rest) := by
  rw [withGathered, Entries.get?_insert, if_neg (lower_ne_qualified uri.text rest)]

/-- Qualified keys of different attributes are different. -/
theorem distinctKeys_qualified (uri : SchemaUri) (hinner : inner.DistinctKeys)
    (hnames : ∀ part ∈ inner, isAttrName part.1.toList = true) : (qualified uri inner).DistinctKeys := by
  refine List.pairwise_map.2 (List.Pairwise.imp_of_mem ?_ hinner)
  intro a b ha hb hdifferent hsame
  exact hdifferent (lower_eq_of_append (standalone_of_isAttrName (hnames a ha))
    (standalone_of_isAttrName (hnames b hb)) hsame)

section

variable (hrecord : (Value.record record).WellKeyed) (hinner : (Value.record inner).WellKeyed)
  (hnames : ∀ part ∈ inner, isAttrName part.1.toList = true) (hfree : record.get? uri.text = none)
  (hfreeParts : ∀ part ∈ inner, record.get? (uri.text ++ ":" ++ part.1) = none)

include hinner hnames hfreeParts in
/-- Spreading entries over keys that are not in use appends them. -/
theorem withSpread_eq : record.withSpread uri inner = record ++ qualified uri inner := by
  obtain ⟨hkeys, -⟩ := Value.everywhere_record.1 hinner
  have hfreeKeys : ∀ entry ∈ qualified uri inner, record.get? entry.1 = none := by
    intro entry hentry
    obtain ⟨part, hpart, rfl⟩ := List.mem_map.1 hentry
    exact hfreeParts part hpart
  rw [withSpread, Entries.foldl_insert_eq (distinctKeys_qualified uri hkeys hnames) hfreeKeys]

include hfree in
theorem withGathered_eq : record.withGathered uri inner = record ++ [(uri.text, .record inner)] :=
  Entries.insert_of_get?_eq_none hfree

include hrecord in
/-- An entry of a record has its counterpart in every record that goes on from it. -/
theorem counterpart_append (more : Record) {entry : String × Value} (hentry : entry ∈ record) :
    Counterpart (record ++ more) entry.1 entry.2 := by
  obtain ⟨hkeys, hvalues⟩ := Value.everywhere_record.1 hrecord
  have hown : record.get? entry.1 = some entry.2 := Entries.get?_of_mem hkeys hentry
  have hfound : Entries.get? (record ++ more) entry.1 = some entry.2 := by
    rw [Entries.get?_append, hown]
    rfl
  exact .stored hfound (same_refl_of_wellKeyed entry.2 (hvalues entry hentry))

/-! ## From the gathered record to the spread one -/

include hrecord hinner hnames hfree hfreeParts

/-- All gathered entries have their counterparts among the spread ones. -/
theorem contained_withSpread : Contained (record.withGathered uri inner) (record.withSpread uri inner) := by
  obtain ⟨hkeys, hvalues⟩ := Value.everywhere_record.1 hinner
  rw [withGathered_eq hfree, withSpread_eq hinner hnames hfreeParts]
  intro entry hentry
  rcases List.mem_append.1 hentry with hold | hnew
  · exact counterpart_append hrecord _ hold
  · rw [List.mem_singleton.1 hnew]
    refine .spread ?_ ?_
    · have hlonger : Entries.get? (qualified uri inner) uri.text = none := by
        rw [Entries.get?_eq_none_iff]
        rintro ⟨key, value⟩ hqualified
        obtain ⟨attr, -, rfl⟩ := mem_qualified.1 hqualified
        exact (lower_ne_qualified uri.text attr).symm
      rw [Entries.get?_append, hfree, hlonger]
      rfl
    · rintro ⟨attr, value⟩ hpart
      have hfound : Entries.get? (qualified uri inner) (uri.text ++ ":" ++ attr) = some value :=
        Entries.get?_of_mem (distinctKeys_qualified uri hkeys hnames) (mem_qualified.2 ⟨attr, hpart, rfl⟩)
      refine ⟨value, ?_, same_refl_of_wellKeyed value (hvalues _ hpart)⟩
      rw [Entries.get?_append, hfreeParts _ hpart, hfound]
      rfl

/-! ## From the spread record to the gathered one -/

omit hrecord hfree in
/-- A spread value has its counterpart in the data of the extension, unless it is a record: then its parts have
to stand under still longer keys. -/
theorem counterpart_withGathered_iff {attr : String} {value : Value} (hpart : (attr, value) ∈ inner) :
    Counterpart (record.withGathered uri inner) (uri.text ++ ":" ++ attr) value ↔
      ∀ parts, value = .record parts → record.HoldsSpread (uri.text ++ ":" ++ attr) parts := by
  have habsent : (record.withGathered uri inner).get? (uri.text ++ ":" ++ attr) = none := by
    rw [get?_withGathered, hfreeParts _ hpart]
  have hdeeper : ∀ name, (record.withGathered uri inner).get? (uri.text ++ ":" ++ attr ++ ":" ++ name) =
      record.get? (uri.text ++ ":" ++ attr ++ ":" ++ name) := by
    intro name
    have hrest := get?_withGathered record uri inner (attr ++ ":" ++ name)
    simpa only [String.append_assoc] using hrest
  constructor
  · rintro hcounterpart parts rfl part hmem
    cases hcounterpart with
    | stored hfound =>
      rw [habsent] at hfound
      cases hfound
    | spread _ each =>
      rw [← hdeeper]
      exact each part hmem
    | gathered _ noRecord => cases noRecord
  · intro hparts
    cases hvalue : value.record? with
    | some parts =>
      rw [Value.record?_eq_some.1 hvalue]
      refine .spread habsent fun part hmem => ?_
      rw [hdeeper]
      exact hparts parts (Value.record?_eq_some.1 hvalue) part hmem
    | none =>
      obtain ⟨hkeys, hvalues⟩ := Value.everywhere_record.1 hinner
      have hgathered : (record.withGathered uri inner).get? uri.text = some (.record inner) := by
        rw [withGathered, Entries.get?_insert, if_pos rfl]
      have hfound : Entries.get? inner attr = some value := Entries.get?_of_mem hkeys hpart
      exact .gathered habsent hvalue rfl (colon_not_mem_of_isAttrName (hnames _ hpart)) hgathered hfound
        (same_refl_of_wellKeyed value (hvalues _ hpart))

/-- The spread entries have their counterparts in the gathered record as far as records among their values find
their parts. -/
theorem contained_withGathered_iff :
    Contained (record.withSpread uri inner) (record.withGathered uri inner) ↔
      ∀ attr parts, (attr, .record parts) ∈ inner → record.HoldsSpread (uri.text ++ ":" ++ attr) parts := by
  rw [withSpread_eq hinner hnames hfreeParts]
  constructor
  · intro hcontained attr parts hpart
    have hentry : (uri.text ++ ":" ++ attr, Value.record parts) ∈ record ++ qualified uri inner :=
      List.mem_append_right _ (mem_qualified.2 ⟨attr, hpart, rfl⟩)
    exact (counterpart_withGathered_iff hinner hnames hfreeParts hpart).1 (hcontained _ hentry) parts rfl
  · intro hparts entry hentry
    rcases List.mem_append.1 hentry with hold | hnew
    · rw [withGathered_eq hfree]
      exact counterpart_append hrecord _ hold
    · obtain ⟨key, value⟩ := entry
      obtain ⟨attr, hpart, rfl⟩ := mem_qualified.1 hnew
      refine (counterpart_withGathered_iff hinner hnames hfreeParts hpart).2 ?_
      rintro parts rfl
      exact hparts attr parts hpart

/-- Where neither the identifier of the extension nor a qualified key is in use, writing the data of the
extension in either way gives equal records, in both directions, exactly if each record among the values is
written to the record once more, one entry per part under a still longer key.  So the two ways are the same for
all data whose values are no records, or empty ones. -/
theorem gathered_same_spread_iff :
    ((record.withGathered uri inner).same (record.withSpread uri inner) = true ↔
      ∀ attr parts, (attr, .record parts) ∈ inner → record.HoldsSpread (uri.text ++ ":" ++ attr) parts) ∧
    (record.withSpread uri inner).same (record.withGathered uri inner) =
      (record.withGathered uri inner).same (record.withSpread uri inner) := by
  have hinto := contained_withSpread hrecord hinner hnames hfree hfreeParts
  refine ⟨?_, same_comm _ _⟩
  rw [← contained_withGathered_iff hrecord hinner hnames hfree hfreeParts, Record.same, same_record_iff]
  exact and_iff_right hinto

end

/-- A number, two titles and an empty office of a member of staff, beside a name: both ways of writing them
give equal records. -/
theorem gathered_same_spread_of_staff :
    (withGathered [("name", .text "Ada")] ⟨"urn:Staff", by decide⟩
        [("number", .text "7"), ("titles", .list [.text "Dr", .text "Prof"]), ("office", .record [])]).same
      (withSpread [("name", .text "Ada")] ⟨"urn:Staff", by decide⟩
        [("number", .text "7"), ("titles", .list [.text "Dr", .text "Prof"]), ("office", .record [])]) = true := by
  have hrecord : (Value.record [("name", .text "Ada")]).WellKeyed :=
    Value.wellKeyed_ofJson (.object [("name", .text "Ada")])
  have hinner : (Value.record [("number", .text "7"), ("titles", .list [.text "Dr", .text "Prof"]),
      ("office", .record [])]).WellKeyed :=
    Value.wellKeyed_ofJson (.object [("number", .text "7"), ("titles", .list [.text "Dr", .text "Prof"]),
      ("office", .object [])])
  refine (gathered_same_spread_iff hrecord hinner (by decide) (by decide) (by decide)).1.2 ?_
  intro attr parts hpart part hmem
  have hoffice : attr = "office" ∧ parts = [] := by simpa using hpart
  rw [hoffice.2] at hmem
  cases hmem

/-- The manager of a member of staff is a record, and it is not found: the spread entry is taken for the data
of an extension `urn:Staff:manager`, although the gathered one holds it. -/
theorem gathered_differs_from_spread :
    (withGathered [] ⟨"urn:Staff", by decide⟩ [("manager", .record [("value", .text "1")])]).same
        (withSpread [] ⟨"urn:Staff", by decide⟩ [("manager", .record [("value", .text "1")])]) = false ∧
      (withSpread [] ⟨"urn:Staff", by decide⟩ [("manager", .record [("value", .text "1")])]).same
        (withGathered [] ⟨"urn:Staff", by decide⟩ [("manager", .record [("value", .text "1")])]) = false := by
  decide +kernel

end Record

end Scim
