import Mathlib.Data.String.Basic

/-!
# The order of strings by their bytes

Strings are compared by their characters. Encoded as UTF-8, a lesser character gives lesser bytes,
at a place where neither encoding has ended. So strings are ordered as their bytes are.
-/

namespace ChangeReview.Text

/-- The UTF-8 encoding of a string. -/
def utf8 (s : String) : List UInt8 := s.toByteArray.data.toList

theorem utf8_eq (s : String) : utf8 s = s.toList.flatMap String.utf8EncodeChar := by
  rw [utf8, ← String.utf8Encode_toList, List.utf8Encode, List.toList_data_toByteArray]

theorem utf8_append (s t : String) : utf8 (s ++ t) = utf8 s ++ utf8 t := by
  rw [utf8_eq, String.toList_append, List.flatMap_append, utf8_eq, utf8_eq]

/-! ## Bytes of a character -/

/-- Some byte decides that one text comes before another, however the two go on. -/
def Precedes (x y : List UInt8) : Prop := ∀ s t, x ++ s < y ++ t

theorem precedes_cons {p q : Nat} {x y : List UInt8} (hle : p ≤ q) (hq : q < 256)
    (hrest : p = q → Precedes x y) : Precedes (UInt8.ofNat p :: x) (UInt8.ofNat q :: y) := by
  intro s t
  rw [List.cons_append, List.cons_append, List.cons_lt_cons_iff]
  rcases Nat.lt_or_eq_of_le hle with hlt | heq
  · left
    rw [UInt8.lt_iff_toNat_lt, UInt8.toNat_ofNat', UInt8.toNat_ofNat']
    omega
  · exact .inr ⟨by rw [heq], hrest heq s t⟩

theorem precedes_of_lt {p q : Nat} (h : p < q) (hq : q < 256) (x y : List UInt8) :
    Precedes (UInt8.ofNat p :: x) (UInt8.ofNat q :: y) :=
  precedes_cons (Nat.le_of_lt h) hq fun he ↦ absurd he (Nat.ne_of_lt h)

/-- A character that comes before another has an encoding that precedes that of the other. -/
theorem precedes_utf8EncodeChar {c d : Char} (h : c < d) :
    Precedes (String.utf8EncodeChar c) (String.utf8EncodeChar d) := by
  have hlt : c.val.toNat < d.val.toNat := UInt32.lt_iff_toNat_lt.mp (Char.lt_def.mp h)
  have hmax : d.val.toNat < 0x110000 := by
    have hvalid := d.valid
    simp only [UInt32.isValidChar, Nat.isValidChar] at hvalid
    omega
  simp only [String.utf8EncodeChar]
  generalize c.val.toNat = m at *
  generalize d.val.toNat = n at *
  have hm : m / 4096 = m / 64 / 64 ∧ m / 262144 = m / 64 / 64 / 64 := by omega
  have hn : n / 4096 = n / 64 / 64 ∧ n / 262144 = n / 64 / 64 / 64 := by omega
  rw [hm.1, hm.2, hn.1, hn.2]
  -- the first byte decides unless both encodings have the same length, of two to four bytes
  repeat' split
  all_goals try exact precedes_of_lt (by omega) (by omega) _ _
  · refine precedes_cons (by omega) (by omega) fun h ↦ ?_
    exact precedes_of_lt (by omega) (by omega) _ _
  · refine precedes_cons (by omega) (by omega) fun h ↦ ?_
    refine precedes_cons (by omega) (by omega) fun h' ↦ ?_
    exact precedes_of_lt (by omega) (by omega) _ _
  · refine precedes_cons (by omega) (by omega) fun h ↦ ?_
    refine precedes_cons (by omega) (by omega) fun h' ↦ ?_
    refine precedes_cons (by omega) (by omega) fun h'' ↦ ?_
    exact precedes_of_lt (by omega) (by omega) _ _

/-! ## Bytes of a string -/

theorem flatMap_utf8EncodeChar_lt {l m : List Char} (h : l < m) :
    l.flatMap String.utf8EncodeChar < m.flatMap String.utf8EncodeChar := by
  induction h with
  | @nil d m =>
    obtain ⟨b, bytes, hbytes⟩ := List.exists_cons_of_ne_nil (String.utf8EncodeChar_ne_nil (c := d))
    rw [List.flatMap_cons, hbytes]
    exact List.nil_lt_cons b _
  | rel h => exact precedes_utf8EncodeChar h _ _
  | cons _ ih => exact List.append_left_lt ih

/-- Strings are ordered as their bytes are. -/
theorem lt_iff_utf8_lt {a b : String} : a < b ↔ utf8 a < utf8 b := by
  have hlt : ∀ {a b : String}, a < b → utf8 a < utf8 b := by
    intro a b h
    rw [utf8_eq, utf8_eq]
    exact flatMap_utf8EncodeChar_lt (String.lt_iff.mp h)
  constructor
  · exact hlt
  · intro h
    rcases Std.lt_trichotomy a b with hab | rfl | hba
    · exact hab
    · exact absurd h (List.lt_irrefl _)
    · exact absurd h (List.lt_asymm (hlt hba))

end ChangeReview.Text
