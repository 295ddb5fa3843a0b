import Scim.Location

/-!
# Locations up to case

Two segments are the same step when their keys agree letter by letter up to case, or when their indexes are
equal.  That is no equality, so nothing that is known of lists with a decidable equality applies to
locations as they stand.  `folded` is the way around it: it gives every segment a normal form such that
equal steps are those of equal normal forms, and locations are then compared as lists of normal forms.

## Main results

* `Location.beq_iff` and `Location.startsWith_iff`: comparing locations, and asking whether one lies below
  another, is equality and being a prefix of the normal forms.
* `Location.startsWith_append_iff`: what lies below a location that was put under another one.
-/

namespace Scim

/-! ## Segments -/

/-- The normal form of a segment: the letters of a key in lower case, or an index. -/
def Segment.folded : Segment → List Char ⊕ Nat
  | .key text => .inl (Text.foldEach text)
  | .index position => .inr position

theorem Segment.beq_iff {a b : Segment} : (a == b) = true ↔ a.folded = b.folded := by
  show Segment.same a b = true ↔ _
  cases a <;> cases b <;> simp [Segment.same, Segment.folded]

/-! ## Comparing locations -/

namespace Location

/-- The normal form of a location. -/
def folded (location : Location) : List (List Char ⊕ Nat) := location.map Segment.folded

@[simp] theorem folded_append (a b : Location) : folded (a ++ b) = folded a ++ folded b := by
  simp [folded]

@[simp] theorem folded_drop (a : Location) (n : Nat) : folded (a.drop n) = (folded a).drop n := by
  simp [folded]

@[simp] theorem folded_take (a : Location) (n : Nat) : folded (a.take n) = (folded a).take n := by
  simp [folded]

@[simp] theorem length_folded (a : Location) : (folded a).length = a.length := by
  simp [folded]

theorem beq_iff {a b : Location} : (a == b) = true ↔ folded a = folded b := by
  induction a generalizing b with
  | nil => cases b <;> simp [folded]
  | cons step a ih =>
    cases b with
    | nil => simp [folded]
    | cons other b =>
      rw [List.cons_beq_cons, Bool.and_eq_true, Segment.beq_iff, ih]
      simp [folded]

/-- Two locations that differ only in case are told apart from a third one alike. -/
theorem beq_congr_left {a b : Location} (h : (a == b) = true) (c : Location) : (a == c) = (b == c) := by
  rw [Bool.eq_iff_iff, beq_iff, beq_iff, beq_iff.1 h]

theorem beq_comm (a b : Location) : (a == b) = (b == a) := by
  rw [Bool.eq_iff_iff, beq_iff, beq_iff, eq_comm]

/-- A way may be cut off where it starts with the same steps. -/
theorem append_beq_append (start a b : Location) : ((start ++ a) == (start ++ b)) = (a == b) := by
  rw [Bool.eq_iff_iff, beq_iff, beq_iff, folded_append, folded_append, List.append_cancel_left_eq]

/-! ## Lying below a location -/

theorem startsWith_iff {location start : Location} :
    location.startsWith start = true ↔ folded start <+: folded location := by
  unfold startsWith
  induction start generalizing location with
  | nil => simp [folded]
  | cons step start ih =>
    cases location with
    | nil => simp [folded]
    | cons other location =>
      rw [List.isPrefixOf_cons_cons, Bool.and_eq_true, Segment.beq_iff, ih]
      simp [folded, List.cons_prefix_cons]

@[simp] theorem startsWith_nil (location : Location) : location.startsWith [] = true := by
  simp [startsWith]

theorem append_startsWith (start rest : Location) : Location.startsWith (start ++ rest) start = true := by
  rw [startsWith_iff, folded_append]
  exact List.prefix_append _ _

/-- What lies below a location does so under any casing of it. -/
theorem startsWith_congr {a b : Location} (h : (a == b) = true) (location : Location) :
    location.startsWith a = location.startsWith b := by
  rw [Bool.eq_iff_iff, startsWith_iff, startsWith_iff, beq_iff.1 h]

/-- Below a location that was put under another one lies what starts with the other one and goes on below
the first. -/
theorem startsWith_append_iff {location start rest : Location} :
    location.startsWith (start ++ rest) = true ↔
      location.startsWith start = true ∧ Location.startsWith (location.drop start.length) rest = true := by
  simp only [startsWith_iff, folded_append, folded_drop]
  constructor
  · rintro ⟨tail, h⟩
    rw [← h, List.append_assoc]
    refine ⟨List.prefix_append _ _, ?_⟩
    rw [List.drop_left' (length_folded start)]
    exact List.prefix_append _ _
  · rintro ⟨⟨below, h⟩, hrest⟩
    rw [← h, List.drop_left' (length_folded start)] at hrest
    rw [← h]
    exact (List.prefix_append_right_inj _).2 hrest

/-- A location lies below another one exactly if it begins with that one in some casing. -/
theorem startsWith_iff_take {location start : Location} :
    location.startsWith start = true ↔ (location.take start.length == start) = true := by
  rw [startsWith_iff, beq_iff, folded_take, List.prefix_iff_eq_take, length_folded, eq_comm]

/-- Of two locations that are equally deep one lies below the other only if they are equal. -/
theorem startsWith_eq_beq {location start : Location} (h : location.length = start.length) :
    location.startsWith start = (start == location) := by
  rw [Bool.eq_iff_iff, startsWith_iff, beq_iff]
  refine ⟨fun hprefix => hprefix.eq_of_length (by simp [h]), fun hsame => hsame ▸ List.prefix_rfl⟩

/-- The way from a location on to one below it leads there. -/
theorem append_drop_beq {location start : Location} (h : location.startsWith start = true) :
    ((start ++ location.drop start.length) == location) = true := by
  obtain ⟨rest, hrest⟩ := startsWith_iff.1 h
  rw [beq_iff, folded_append, folded_drop, ← hrest, List.drop_left' (length_folded start)]

/-- A way that starts with some steps is told from another one by what comes after them. -/
theorem append_beq_iff {start rest location : Location} :
    ((start ++ rest) == location) = true ↔
      location.startsWith start = true ∧ (rest == location.drop start.length) = true := by
  rw [beq_iff, startsWith_iff, beq_iff, folded_append, folded_drop]
  constructor
  · intro h
    rw [← h, List.drop_left' (length_folded start)]
    exact ⟨List.prefix_append _ _, rfl⟩
  · rintro ⟨⟨below, h⟩, hrest⟩
    rw [hrest, ← h, List.drop_left' (length_folded start)]

end Location

end Scim
