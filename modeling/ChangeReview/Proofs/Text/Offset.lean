import ChangeReview.Json.Failure
import ChangeReview.Proofs.Text.Occurrence
import ChangeReview.Text.Ascii

/-!
# Byte offsets

A text that is stored as UTF-8 is cut at byte offsets, and a cut past its end or inside a character
is no cut. A search gives an offset at which the text can be cut. Lowering ASCII letters keeps the
length of each character, so an offset into the lowered text is one into the text.
-/

namespace ChangeReview.Text

open Json (byteCount)

variable {s a b : List Char} {c : Char} {n : Nat}

/-! ## Lengths -/

@[simp]
theorem byteCount_nil : byteCount [] = 0 := rfl

@[simp]
theorem byteCount_cons (c : Char) (s : List Char) :
    byteCount (c :: s) = c.utf8Size + byteCount s := rfl

@[simp]
theorem byteCount_append (a b : List Char) : byteCount (a ++ b) = byteCount a + byteCount b := by
  induction a with
  | nil => rw [List.nil_append, byteCount_nil, Nat.zero_add]
  | cons c a ih => rw [List.cons_append, byteCount_cons, byteCount_cons, ih, Nat.add_assoc]

theorem utf8ByteSize_ofList (s : List Char) : (String.ofList s).utf8ByteSize = byteCount s := by
  induction s with
  | nil => rfl
  | cons c s ih =>
    rw [String.ofList_cons, String.utf8ByteSize_append, String.utf8ByteSize_singleton, ih,
      byteCount_cons]

theorem utf8Size_toLower (c : Char) : c.toLower.utf8Size = c.utf8Size := by
  by_cases hupper : c.isUpper
  · have hascii : c.toNat < 128 := Nat.lt_of_le_of_lt (toNat_of_isUpper hupper).2 (by decide)
    exact forall_ascii (p := fun c ↦ c.toLower.utf8Size = c.utf8Size) (by decide) hascii
  · rw [toLower_of_not_isUpper hupper]

@[simp]
theorem byteCount_lowerAscii (s : List Char) : byteCount (lowerAscii s) = byteCount s := by
  induction s with
  | nil => rfl
  | cons c s ih =>
    rw [lowerAscii, List.map_cons, byteCount_cons, byteCount_cons, utf8Size_toLower, ← lowerAscii,
      ih]

/-! ## Cuts -/

/-- A text up to a byte offset and from there on; none when the offset lies past the end or inside
a character. -/
def cutAt? : List Char → Nat → Option (List Char × List Char)
  | s, 0 => some ([], s)
  | [], _ + 1 => none
  | c :: s, n + 1 =>
    if c.utf8Size ≤ n + 1 then
      (cutAt? s (n + 1 - c.utf8Size)).map fun parts ↦ (c :: parts.1, parts.2)
    else none

theorem cutAt?_append (a b : List Char) : cutAt? (a ++ b) (byteCount a) = some (a, b) := by
  induction a with
  | nil => rw [List.nil_append, byteCount_nil, cutAt?]
  | cons c a ih =>
    have hpos : 0 < c.utf8Size := c.utf8Size_pos
    obtain ⟨k, hk⟩ : ∃ k, c.utf8Size + byteCount a = k + 1 := ⟨_, (Nat.succ_pred (by omega)).symm⟩
    have hfits : c.utf8Size ≤ k + 1 := by omega
    have hrest : k + 1 - c.utf8Size = byteCount a := by omega
    rw [List.cons_append, byteCount_cons, hk, cutAt?, if_pos hfits, hrest, ih]
    rfl

/-- A cut gives two parts of the text, and the offset is the length of the first. -/
theorem cutAt?_eq_some_iff : cutAt? s n = some (a, b) ↔ s = a ++ b ∧ byteCount a = n := by
  constructor
  · intro h
    fun_induction cutAt? s n generalizing a b with
    | case1 s =>
      obtain ⟨rfl, rfl⟩ := Prod.mk.inj (Option.some.inj h)
      exact ⟨rfl, rfl⟩
    | case2 n => cases h
    | case3 c s n hfits ih =>
      obtain ⟨⟨a', b'⟩, hcut, hparts⟩ := Option.map_eq_some_iff.mp h
      obtain ⟨rfl, rfl⟩ := Prod.mk.inj hparts
      obtain ⟨rfl, hn⟩ := ih hcut
      exact ⟨rfl, by rw [byteCount_cons, hn]; omega⟩
    | case4 c s n hfits => cases h
  · rintro ⟨rfl, rfl⟩
    exact cutAt?_append a b

/-- An offset inside a character is no cut. -/
example : cutAt? ['é', '!'] 1 = none ∧ cutAt? ['é', '!'] 2 = some (['é'], ['!']) := by decide

/-- The offsets at which a string can be cut are its valid positions. -/
theorem isSome_cutAt?_iff (s : String) :
    (cutAt? s.toList n).isSome ↔ (String.Pos.Raw.mk n).IsValid s := by
  simp only [Option.isSome_iff_exists, Prod.exists, cutAt?_eq_some_iff,
    String.Pos.Raw.isValid_iff_exists_append, String.Pos.Raw.ext_iff]
  constructor
  · rintro ⟨a, b, h, rfl⟩
    refine ⟨String.ofList a, String.ofList b, ?_, (utf8ByteSize_ofList a).symm⟩
    rw [← String.ofList_append, ← h, String.ofList_toList]
  · rintro ⟨s₁, s₂, rfl, rfl⟩
    refine ⟨s₁.toList, s₂.toList, String.toList_append .., ?_⟩
    rw [← utf8ByteSize_ofList, String.ofList_toList]
    rfl

/-- A lowered text can be cut where the text can. -/
theorem cutAt?_lowerAscii (s : List Char) (n : Nat) :
    cutAt? (lowerAscii s) n =
      (cutAt? s n).map fun parts ↦ (lowerAscii parts.1, lowerAscii parts.2) := by
  fun_induction cutAt? s n with
  | case1 s => rw [cutAt?]; rfl
  | case2 n => rfl
  | case3 c s n hfits ih =>
    rw [lowerAscii, List.map_cons, ← lowerAscii, cutAt?, utf8Size_toLower, if_pos hfits, ih,
      Option.map_map, Option.map_map]
    rfl
  | case4 c s n hfits =>
    rw [lowerAscii, List.map_cons, cutAt?, utf8Size_toLower, if_neg hfits]
    rfl

/-- The text from an offset on. -/
def suffixAt? (s : List Char) (start : Nat) : Option (List Char) := (cutAt? s start).map (·.2)

/-- The text between two offsets. -/
def slice? (s : List Char) (start stop : Nat) : Option (List Char) :=
  (cutAt? s stop).bind fun parts ↦ suffixAt? parts.1 start

theorem suffixAt?_append (a b : List Char) : suffixAt? (a ++ b) (byteCount a) = some b := by
  rw [suffixAt?, cutAt?_append]
  rfl

theorem suffixAt?_lowerAscii (s : List Char) (n : Nat) :
    suffixAt? (lowerAscii s) n = (suffixAt? s n).map lowerAscii := by
  rw [suffixAt?, cutAt?_lowerAscii, suffixAt?, Option.map_map, Option.map_map]
  rfl

theorem suffixAt?_eq_some_iff : suffixAt? s n = some b ↔ ∃ a, s = a ++ b ∧ byteCount a = n := by
  simp only [suffixAt?, Option.map_eq_some_iff, Prod.exists, cutAt?_eq_some_iff]
  constructor
  · rintro ⟨a, b', h, rfl⟩
    exact ⟨a, h⟩
  · rintro ⟨a, h⟩
    exact ⟨a, b, h, rfl⟩

theorem slice?_append (a b t : List Char) :
    slice? (a ++ (b ++ t)) (byteCount a) (byteCount a + byteCount b) = some b := by
  rw [slice?, ← byteCount_append, ← List.append_assoc, cutAt?_append, Option.bind_some,
    suffixAt?_append]

/-! ## Searches -/

/-- The offset of the first place of a text that has a property. -/
def find? (here : List Char → Bool) : List Char → Option Nat
  | [] => if here [] then some 0 else none
  | c :: s => if here (c :: s) then some 0 else (find? here s).map (c.utf8Size + ·)

/-- The offset of the last place of a text at which a character stands. -/
def findLast? (c : Char) : List Char → Option Nat
  | [] => none
  | d :: s => ((findLast? c s).map (d.utf8Size + ·)).or (if d = c then some 0 else none)

variable {here : List Char → Bool}

/-- A search by offset ends where the text is split. -/
theorem find?_eq (s : List Char) :
    find? here s = (splitWhere? here s).map fun parts ↦ byteCount parts.1 := by
  induction s with
  | nil => rw [find?, splitWhere?]; split <;> rfl
  | cons c s ih =>
    rw [find?, splitWhere?, ih]
    split
    · rfl
    · rw [Option.map_map, Option.map_map]
      rfl

theorem find?_lowerAscii (s : List Char) :
    find? here (lowerAscii s) = find? (fun t ↦ here (lowerAscii t)) s := by
  induction s with
  | nil => rfl
  | cons c s ih =>
    rw [lowerAscii, List.map_cons, find?, find?, utf8Size_toLower, ← lowerAscii, ih]
    rfl

theorem find?_of_not_mem (h : c ∉ s) : find? [c].isPrefixOf s = none := by
  induction s with
  | nil => rfl
  | cons d s ih =>
    rw [List.mem_cons, not_or] at h
    rw [find?, ih h.2, if_neg (by simpa using h.1)]
    rfl

theorem find?_append_cons (h : c ∉ a) (b : List Char) :
    find? [c].isPrefixOf (a ++ c :: b) = some (byteCount a) := by
  induction a with
  | nil => simp [find?]
  | cons d a ih =>
    rw [List.mem_cons, not_or] at h
    rw [List.cons_append, find?, ih h.2, if_neg (by simpa using h.1)]
    rfl

theorem findLast?_of_not_mem (h : c ∉ s) : findLast? c s = none := by
  induction s with
  | nil => rfl
  | cons d s ih =>
    rw [List.mem_cons, not_or] at h
    rw [findLast?, ih h.2, if_neg (Ne.symm h.1)]
    rfl

theorem findLast?_append_cons (a : List Char) (h : c ∉ b) :
    findLast? c (a ++ c :: b) = some (byteCount a) := by
  induction a with
  | nil => rw [List.nil_append, findLast?, findLast?_of_not_mem h, if_pos rfl]; rfl
  | cons d a ih => rw [List.cons_append, findLast?, ih]; rfl

end ChangeReview.Text
