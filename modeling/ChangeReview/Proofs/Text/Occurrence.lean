import Mathlib.Data.List.Forall2
import Mathlib.Data.List.Infix
import ChangeReview.Text.Folding
import ChangeReview.Text.Search

/-!
# Occurrences of words

A word occurs where it is written in any case. A search from the left that goes on behind each
occurrence meets them all, if no end of the word is a start of it.
-/

namespace ChangeReview.Text

/-! ## Spelling -/

/-- The ways to write a character under simple case folding. -/
inductive Writes (w : Char) : Char → Prop
  | plain : Writes w w
  | capital (letter : w.isLower) : Writes w w.toUpper
  | kelvin (letter : w = 'k') : Writes w '\u212A'
  | longS (letter : w = 's') : Writes w '\u017F'

/-- A word, written character by character. -/
def Spells (word w : List Char) : Prop := List.Forall₂ Writes word w

/-- Folding takes a word to itself. -/
def IsFolded (word : List Char) : Prop := ∀ w ∈ word, foldChar w = w

instance (word : List Char) : Decidable (IsFolded word) :=
  decidable_of_iff (word.all fun w ↦ foldChar w == w) (by simp [IsFolded])

/-- A property of the ASCII characters can be checked code by code. -/
theorem forall_ascii {p : Char → Prop} (h : ∀ code < 128, p (Char.ofNat code)) {c : Char}
    (hc : c.toNat < 128) : p c := by
  rw [← Char.ofNat_toNat c]
  exact h c.toNat hc

theorem toNat_of_isUpper {c : Char} (h : c.isUpper) : 65 ≤ c.toNat ∧ c.toNat ≤ 90 := by
  have hcodes : 'A'.val ≤ c.val ∧ c.val ≤ 'Z'.val := of_decide_eq_true h
  simpa [UInt32.le_iff_toNat_le, ← Char.toNat_val] using hcodes

theorem toNat_of_isLower {c : Char} (h : c.isLower) : 97 ≤ c.toNat ∧ c.toNat ≤ 122 := by
  have hcodes : (decide ('a'.val ≤ c.val) && decide (c.val ≤ 'z'.val)) = true := h
  simpa [UInt32.le_iff_toNat_le, ← Char.toNat_val] using hcodes

theorem toLower_of_isUpper {c : Char} (h : c.isUpper) :
    c.toLower.isLower ∧ c.toLower.toUpper = c := by
  have hascii : c.toNat < 128 := Nat.lt_of_le_of_lt (toNat_of_isUpper h).2 (by decide)
  exact forall_ascii (p := fun c ↦ c.isUpper → c.toLower.isLower ∧ c.toLower.toUpper = c)
    (by decide) hascii h

theorem toLower_of_not_isUpper {c : Char} (h : ¬ c.isUpper) : c.toLower = c := by
  unfold Char.toLower
  exact dif_neg (of_decide_eq_false (Bool.eq_false_iff.mpr h))

theorem toLower_toLower (c : Char) : c.toLower.toLower = c.toLower := by
  by_cases hupper : c.isUpper
  · have hascii : c.toNat < 128 := Nat.lt_of_le_of_lt (toNat_of_isUpper hupper).2 (by decide)
    exact forall_ascii (p := fun c ↦ c.toLower.toLower = c.toLower) (by decide) hascii
  · rw [toLower_of_not_isUpper hupper, toLower_of_not_isUpper hupper]

theorem foldChar_toUpper {w : Char} (h : w.isLower) : foldChar w.toUpper = w := by
  have hascii : w.toNat < 128 := Nat.lt_of_le_of_lt (toNat_of_isLower h).2 (by decide)
  exact forall_ascii (p := fun w ↦ w.isLower → foldChar w.toUpper = w) (by decide) hascii h

theorem foldChar_eq_iff {w c : Char} (hw : foldChar w = w) : foldChar c = w ↔ Writes w c := by
  constructor
  · intro hc
    unfold foldChar at hc
    split at hc
    · next hkelvin =>
      obtain rfl : c = '\u212A' := Char.toNat_inj.mp hkelvin
      exact .kelvin hc.symm
    · split at hc
      · next hlong =>
        obtain rfl : c = '\u017F' := Char.toNat_inj.mp hlong
        exact .longS hc.symm
      · by_cases hupper : c.isUpper
        · obtain ⟨hlower, hback⟩ := toLower_of_isUpper hupper
          rw [hc] at hlower hback
          exact hback ▸ .capital hlower
        · rw [toLower_of_not_isUpper hupper] at hc
          exact hc ▸ .plain
  · rintro (_ | hletter | rfl | rfl)
    · exact hw
    · exact foldChar_toUpper hletter
    · rfl
    · rfl

theorem map_foldChar_eq_iff {word w : List Char} (h : IsFolded word) :
    w.map foldChar = word ↔ Spells word w := by
  induction word generalizing w with
  | nil => simp [Spells]
  | cons d word ih =>
    obtain ⟨hd, hword⟩ := List.forall_mem_cons.mp h
    cases w with
    | nil => simp [Spells]
    | cons c w =>
      rw [List.map_cons, List.cons.injEq, foldChar_eq_iff hd, ih hword, Spells, Spells,
        List.forall₂_cons]

/-- A spelling has no character but those that fold into the word. -/
theorem Spells.not_mem {word w : List Char} (h : Spells word w) (hword : IsFolded word) {c : Char}
    (hc : foldChar c = c) (hmem : c ∉ word) : c ∉ w := by
  intro hw
  rw [← map_foldChar_eq_iff hword] at h
  exact hmem (h ▸ hc ▸ List.mem_map_of_mem hw)

theorem afterFolded?_eq_some {word s rest : List Char} :
    afterFolded? word s = some rest ↔ ∃ w, s = w ++ rest ∧ w.map foldChar = word := by
  induction word generalizing s with
  | nil => simp [afterFolded?, eq_comm]
  | cons d word ih =>
    cases s with
    | nil => simp [afterFolded?]
    | cons c s =>
      rw [afterFolded?]
      constructor
      · intro h
        split at h
        · next hc =>
          obtain ⟨w, rfl, rfl⟩ := ih.mp h
          exact ⟨c :: w, rfl, by rw [List.map_cons, hc]⟩
        · cases h
      · rintro ⟨w, hs, hw⟩
        obtain ⟨e, w, rfl, hc, rfl⟩ := List.map_eq_cons_iff.mp hw
        obtain ⟨rfl, rfl⟩ := List.cons.inj hs
        rw [if_pos hc, ih]
        exact ⟨w, rfl, rfl⟩

/-! ## Searching -/

theorem someSuffix_iff {here : List Char → Bool} {s : List Char} :
    someSuffix here s ↔ ∃ a b, s = a ++ b ∧ here b := by
  induction s with
  | nil => simp [someSuffix]
  | cons c s ih =>
    rw [someSuffix, Bool.or_eq_true, ih]
    constructor
    · rintro (h | ⟨a, b, rfl, h⟩)
      · exact ⟨[], c :: s, rfl, h⟩
      · exact ⟨c :: a, b, rfl, h⟩
    · rintro ⟨a, b, hs, h⟩
      cases a with
      | nil =>
        rw [List.nil_append] at hs
        exact .inl (hs ▸ h)
      | cons d a => exact .inr ⟨a, b, (List.cons.inj hs).2, h⟩

theorem any_afterFolded?_iff {word : List Char} (h : IsFolded word) {p : List Char → Bool}
    {s : List Char} :
    (afterFolded? word s).any p ↔ ∃ w rest, s = w ++ rest ∧ Spells word w ∧ p rest := by
  simp only [Option.any_eq_true, afterFolded?_eq_some, map_foldChar_eq_iff h]
  constructor
  · rintro ⟨rest, ⟨w, hs, hw⟩, hrest⟩
    exact ⟨w, rest, hs, hw, hrest⟩
  · rintro ⟨w, rest, hs, hw, hrest⟩
    exact ⟨rest, ⟨w, hs, hw⟩, hrest⟩

/-- A search for a word and something behind it finds any occurrence. -/
theorem someSuffix_afterFolded? {word : List Char} (h : IsFolded word) {p : List Char → Bool}
    {s : List Char} :
    someSuffix (fun here ↦ (afterFolded? word here).any p) s ↔
      ∃ a w rest, s = a ++ w ++ rest ∧ Spells word w ∧ p rest := by
  simp only [someSuffix_iff, any_afterFolded?_iff h]
  constructor
  · rintro ⟨a, _, rfl, w, rest, rfl, hw, hrest⟩
    exact ⟨a, w, rest, (List.append_assoc a w rest).symm, hw, hrest⟩
  · rintro ⟨a, w, rest, rfl, hw, hrest⟩
    exact ⟨a, w ++ rest, List.append_assoc a w rest, w, rest, rfl, hw, hrest⟩

/-- One of some words, written in any case. -/
def SpellsOne (words : List String) (w : List Char) : Prop := ∃ word ∈ words, Spells word.toList w

/-- One of some words stands at the start of a text, and something behind it. -/
theorem any_words_iff {words : List String} (h : ∀ word ∈ words, IsFolded word.toList)
    {p : List Char → Bool} {s : List Char} :
    ((words.map String.toList).any fun w ↦ (afterFolded? w s).any p) ↔
      ∃ w rest, s = w ++ rest ∧ SpellsOne words w ∧ p rest := by
  rw [List.any_map, List.any_eq_true]
  constructor
  · rintro ⟨word, hword, hs⟩
    obtain ⟨w, rest, hs, hw, hrest⟩ := (any_afterFolded?_iff (h word hword)).mp hs
    exact ⟨w, rest, hs, ⟨word, hword, hw⟩, hrest⟩
  · rintro ⟨w, rest, hs, ⟨word, hword, hw⟩, hrest⟩
    exact ⟨word, hword, (any_afterFolded?_iff (h word hword)).mpr ⟨w, rest, hs, hw, hrest⟩⟩

/-! ## Searching on behind each occurrence -/

/-- No end of a word is a start of it, the whole word apart. -/
def Unbordered (word : List Char) : Prop :=
  ∀ t ∈ word.tails, t ≠ [] → t ≠ word → ¬ t <+: word

instance (word : List Char) : Decidable (Unbordered word) :=
  inferInstanceAs (Decidable (∀ t ∈ word.tails, t ≠ [] → t ≠ word → ¬ t <+: word))

theorem exists_of_mem_afterEachFolded {word rest : List Char} {skip : Nat} {s : List Char}
    (h : rest ∈ afterEachFolded word skip s) :
    ∃ a b, s = a ++ b ∧ afterFolded? word b = some rest := by
  fun_induction afterEachFolded word skip s with
  | case1 => cases h
  | case2 skip c s ih =>
    obtain ⟨a, b, rfl, hb⟩ := ih h
    exact ⟨c :: a, b, rfl, hb⟩
  | case3 c s r hr ih =>
    rcases List.mem_cons.mp h with rfl | h
    · exact ⟨[], c :: s, rfl, hr⟩
    · obtain ⟨a, b, rfl, hb⟩ := ih h
      exact ⟨c :: a, b, rfl, hb⟩
  | case4 c s hnone ih =>
    obtain ⟨a, b, rfl, hb⟩ := ih h
    exact ⟨c :: a, b, rfl, hb⟩

theorem prefix_of_afterFolded? {word s rest : List Char} (h : afterFolded? word s = some rest) :
    word <+: s.map foldChar := by
  obtain ⟨w, rfl, rfl⟩ := afterFolded?_eq_some.mp h
  rw [List.map_append]
  exact List.prefix_append _ _

/-- The search from the left meets every occurrence. The characters that it passes over are an end
`t` of the word, so that no occurrence starts there. -/
theorem mem_afterEachFolded {word : List Char} (hne : word ≠ []) (hword : Unbordered word)
    {s a b rest t : List Char} (hs : s = a ++ b) (hb : afterFolded? word b = some rest)
    (ht : t <:+ word) (htne : t ≠ word) (hstart : t <+: s.map foldChar) :
    rest ∈ afterEachFolded word t.length s := by
  induction s generalizing a t with
  | nil =>
    obtain ⟨-, rfl⟩ := List.append_eq_nil_iff.mp hs.symm
    exact absurd (List.prefix_nil.mp (prefix_of_afterFolded? hb)) hne
  | cons c s ih =>
    cases a with
    | nil =>
      obtain rfl : c :: s = b := hs
      cases t with
      | nil =>
        rw [List.length_nil, afterEachFolded, hb]
        exact List.mem_cons_self
      | cons d t =>
        -- `s` would start with the word and with an end of it
        have hborder : d :: t <+: word :=
          List.prefix_of_prefix_length_le hstart (prefix_of_afterFolded? hb) ht.length_le
        exact absurd hborder (hword _ ((List.mem_tails _ _).mpr ht) (List.cons_ne_nil d t) htne)
    | cons d a =>
      have hrest : s = a ++ b := (List.cons.inj hs).2
      cases t with
      | nil =>
        rw [List.length_nil, afterEachFolded]
        split
        · next r hr =>
          obtain ⟨e, t, rfl⟩ := List.exists_cons_of_ne_nil hne
          have htail : t <+: s.map foldChar :=
            (List.cons_prefix_cons.mp (prefix_of_afterFolded? hr)).2
          exact List.mem_cons_of_mem r
            (ih hrest (List.suffix_cons e t) (List.cons_ne_self e t).symm htail)
        · exact ih hrest List.nil_suffix hne.symm List.nil_prefix
      | cons e t =>
        have hshorter : t ≠ word := by
          rintro rfl
          exact absurd ht.length_le (by simp)
        have htail : t <+: s.map foldChar := (List.cons_prefix_cons.mp hstart).2
        exact ih hrest ((List.suffix_cons e t).trans ht) hshorter htail

theorem mem_afterEachFolded_iff {word s rest : List Char} (hne : word ≠ [])
    (hfolded : IsFolded word) (hword : Unbordered word) :
    rest ∈ afterEachFolded word 0 s ↔ ∃ a w, s = a ++ w ++ rest ∧ Spells word w := by
  constructor
  · intro h
    obtain ⟨a, b, rfl, hb⟩ := exists_of_mem_afterEachFolded h
    obtain ⟨w, rfl, hw⟩ := afterFolded?_eq_some.mp hb
    exact ⟨a, w, (List.append_assoc a w rest).symm, (map_foldChar_eq_iff hfolded).mp hw⟩
  · rintro ⟨a, w, rfl, hw⟩
    have hb : afterFolded? word (w ++ rest) = some rest :=
      afterFolded?_eq_some.mpr ⟨w, rfl, (map_foldChar_eq_iff hfolded).mpr hw⟩
    exact mem_afterEachFolded hne hword (List.append_assoc a w rest) hb List.nil_suffix hne.symm
      List.nil_prefix

end ChangeReview.Text
