import ChangeReview.Text.Blank

/-!
# What trimming removes

A text is its trimmed form with blanks around it, and the trimmed form neither starts nor ends
with a blank. A string with no blank at either end is said to be unpadded.
-/

namespace ChangeReview.Text

/-- A text of blanks only. -/
def AllBlank (s : List Char) : Prop := ∀ c ∈ s, isBlank c

instance (s : List Char) : Decidable (AllBlank s) :=
  decidable_of_iff (s.all isBlank) List.all_eq_true

theorem allBlank_append {s t : List Char} : AllBlank (s ++ t) ↔ AllBlank s ∧ AllBlank t := by
  simp only [AllBlank, List.forall_mem_append]

theorem allBlank_reverse {s : List Char} : AllBlank s.reverse ↔ AllBlank s := by
  simp only [AllBlank, List.mem_reverse]

/-- The character in front of blank text is a blank. -/
theorem AllBlank.head {c : Char} {s : List Char} (h : AllBlank (c :: s)) : isBlank c :=
  h c List.mem_cons_self

/-- Blank text that starts with no blank is empty. -/
theorem AllBlank.eq_nil_of_head? {s : List Char} (h : AllBlank s)
    (hs : ∀ c, s.head? = some c → isBlank c = false) : s = [] := by
  cases s with
  | nil => rfl
  | cons c s => exact absurd h.head (by simp [hs c rfl])

/-- Blank text that ends with no blank is empty. -/
theorem AllBlank.eq_nil_of_getLast? {s : List Char} (h : AllBlank s)
    (hs : ∀ c, s.getLast? = some c → isBlank c = false) : s = [] := by
  rw [← List.reverse_eq_nil_iff]
  apply (allBlank_reverse.mpr h).eq_nil_of_head?
  intro c hc
  rw [List.head?_reverse] at hc
  exact hs c hc

theorem append_trimStart (s : List Char) : ∃ x, s = x ++ trimStart s ∧ AllBlank x :=
  ⟨s.takeWhile isBlank, List.takeWhile_append_dropWhile.symm,
    fun c hc ↦ List.all_eq_true.mp List.all_takeWhile c hc⟩

theorem trimStart_blank_append {x : List Char} (hx : AllBlank x) {c : Char} (hc : isBlank c = false)
    (s : List Char) : trimStart (x ++ c :: s) = c :: s := by
  rw [trimStart, List.dropWhile_append_of_pos hx,
    List.dropWhile_cons_of_neg (by rw [hc]; decide)]

theorem append_trimEnd (s : List Char) : ∃ y, s = trimEnd s ++ y ∧ AllBlank y := by
  obtain ⟨x, hs, hx⟩ := append_trimStart s.reverse
  refine ⟨x.reverse, ?_, allBlank_reverse.mpr hx⟩
  rw [← List.reverse_inj, hs]
  simp [trimEnd, trimStart]

/-- A text is its trimmed form between blanks. -/
theorem append_trim (s : List Char) :
    ∃ x y, s = x ++ trim s ++ y ∧ AllBlank x ∧ AllBlank y := by
  obtain ⟨x, hs, hx⟩ := append_trimStart s
  obtain ⟨y, ht, hy⟩ := append_trimEnd (trimStart s)
  refine ⟨x, y, ?_, hx, hy⟩
  rw [trim, List.append_assoc, ← ht, ← hs]

theorem isBlank_of_trimStart {c : Char} {s t : List Char} (h : trimStart s = c :: t) :
    isBlank c = false := by
  have hhead := List.head?_dropWhile_not isBlank s
  rw [show s.dropWhile isBlank = c :: t from h] at hhead
  exact hhead

theorem isBlank_of_trimEnd {c : Char} {s t : List Char} (h : trimEnd s = t ++ [c]) :
    isBlank c = false := by
  have hreverse : trimStart s.reverse = c :: t.reverse := by
    rw [← List.reverse_inj]
    simpa [trimEnd, trimStart] using h
  exact isBlank_of_trimStart hreverse

/-- Blanks in front of a part of a trimmed text are none. -/
theorem eq_nil_of_trim_left {s x t : List Char} (h : trim s = x ++ t) (hx : AllBlank x) :
    x = [] := by
  apply hx.eq_nil_of_head?
  intro c hc
  obtain ⟨x, rfl⟩ := List.head?_eq_some_iff.mp hc
  obtain ⟨y, hy, -⟩ := append_trimEnd (trimStart s)
  rw [show trimEnd (trimStart s) = c :: (x ++ t) from h] at hy
  exact isBlank_of_trimStart hy

/-- Blanks after a part of a trimmed text are none. -/
theorem eq_nil_of_trim_right {s t y : List Char} (h : trim s = t ++ y) (hy : AllBlank y) :
    y = [] := by
  apply hy.eq_nil_of_getLast?
  intro c hc
  obtain ⟨y, rfl⟩ := List.getLast?_eq_some_iff.mp hc
  rw [← List.append_assoc] at h
  exact isBlank_of_trimEnd h

theorem trimStart_append_of_not {s : List Char} (hs : ¬ AllBlank s) (t : List Char) :
    trimStart (s ++ t) = trimStart s ++ t := by
  have hne : trimStart s ≠ [] := by
    intro h
    obtain ⟨x, hx, hblank⟩ := append_trimStart s
    rw [h, List.append_nil] at hx
    exact hs (hx ▸ hblank)
  rw [trimStart, List.dropWhile_append, ← trimStart, if_neg (by simpa using hne)]

theorem trimEnd_append_of_not {t : List Char} (ht : ¬ AllBlank t) (s : List Char) :
    trimEnd (s ++ t) = s ++ trimEnd t := by
  have hreverse := trimStart_append_of_not (fun h ↦ ht (allBlank_reverse.mp h)) s.reverse
  rw [trimEnd, List.reverse_append, ← trimStart, hreverse, List.reverse_append, List.reverse_reverse]
  rfl

/-- Trimming changes nothing between two parts that are not blank. -/
theorem trim_append {x y : List Char} (hx : ¬ AllBlank x) (hy : ¬ AllBlank y) (s : List Char) :
    trim (x ++ s ++ y) = trimStart x ++ s ++ trimEnd y := by
  rw [trim, List.append_assoc, trimStart_append_of_not hx, ← List.append_assoc,
    trimEnd_append_of_not hy]

/-- A text keeps a first character that is no blank. -/
theorem exists_trimEnd_cons {c : Char} (hc : isBlank c = false) (s : List Char) :
    ∃ t, trimEnd (c :: s) = c :: t := by
  obtain ⟨y, hs, hy⟩ := append_trimEnd (c :: s)
  cases h : trimEnd (c :: s) with
  | nil =>
    rw [h, List.nil_append] at hs
    rw [← hs] at hy
    exact absurd hy.head (by simp [hc])
  | cons d t =>
    rw [h, List.cons_append] at hs
    obtain ⟨rfl, -⟩ := List.cons.inj hs
    exact ⟨t, rfl⟩

/-- Blanks after a text are trimmed with those of the text. -/
theorem trim_append_blank {s y : List Char} (hs : ¬ AllBlank s) (hy : AllBlank y) :
    trim (s ++ y) = trim s := by
  rw [trim, trimStart_append_of_not hs, trimEnd, List.reverse_append,
    List.dropWhile_append_of_pos fun c hc ↦ hy c (List.mem_reverse.mp hc)]
  rfl

/-- A text with no blank at either end is trimmed. -/
theorem trim_eq_self {s : List Char} (hhead : ∀ c, s.head? = some c → isBlank c = false)
    (hlast : ∀ c, s.getLast? = some c → isBlank c = false) : trim s = s := by
  obtain ⟨x, y, hs, hx, hy⟩ := append_trim s
  have hxnil : x = [] := hx.eq_nil_of_head? fun c hc ↦ hhead c <| by
    rw [hs, List.append_assoc, List.head?_append, hc, Option.some_or]
  have hynil : y = [] := hy.eq_nil_of_getLast? fun c hc ↦ hlast c <| by
    rw [hs, List.getLast?_append, hc, Option.some_or]
  rw [hxnil, hynil, List.nil_append, List.append_nil] at hs
  exact hs.symm

/-! ## Strings -/

/-- No blank stands at either end of a string. -/
structure Unpadded (s : String) : Prop where
  head : ∀ c ∈ s.toList.head?, isBlank c = false
  last : ∀ c ∈ s.toList.getLast?, isBlank c = false

theorem unpadded_iff {s : String} :
    Unpadded s ↔
      s.toList.head?.all (!isBlank ·) = true ∧ s.toList.getLast?.all (!isBlank ·) = true := by
  simp only [Option.all_eq_true, Bool.not_eq_true']
  exact ⟨fun h ↦ ⟨h.head, h.last⟩, fun h ↦ ⟨h.1, h.2⟩⟩

instance (s : String) : Decidable (Unpadded s) := decidable_of_iff' _ unpadded_iff

theorem unpadded_empty : Unpadded "" := by decide

theorem Unpadded.trimmed_eq {s : String} (h : Unpadded s) : trimmed s = s := by
  rw [trimmed, trim_eq_self h.head h.last, String.ofList_toList]

theorem unpadded_trimmed (s : String) : Unpadded (trimmed s) where
  head c hc := by
    rw [trimmed, String.toList_ofList, Option.mem_def, List.head?_eq_some_iff] at hc
    obtain ⟨t, ht⟩ := hc
    rw [Bool.eq_false_iff]
    intro hblank
    exact absurd (eq_nil_of_trim_left (x := [c]) ht (by simpa [AllBlank])) (by simp)
  last c hc := by
    rw [trimmed, String.toList_ofList, Option.mem_def, List.getLast?_eq_some_iff] at hc
    obtain ⟨t, ht⟩ := hc
    rw [Bool.eq_false_iff]
    intro hblank
    exact absurd (eq_nil_of_trim_right (y := [c]) ht (by simpa [AllBlank])) (by simp)

/-- No blank stands in a text. -/
def BlankFree (s : List Char) : Prop := ∀ c ∈ s, isBlank c = false

instance (s : List Char) : Decidable (BlankFree s) :=
  decidable_of_iff (s.all (!isBlank ·)) (by simp [BlankFree])

theorem blankFree_append {s t : List Char} : BlankFree (s ++ t) ↔ BlankFree s ∧ BlankFree t := by
  simp only [BlankFree, List.forall_mem_append]

theorem BlankFree.take {s : List Char} (h : BlankFree s) (n : Nat) : BlankFree (s.take n) :=
  fun c hc ↦ h c (List.mem_of_mem_take hc)

theorem BlankFree.drop {s : List Char} (h : BlankFree s) (n : Nat) : BlankFree (s.drop n) :=
  fun c hc ↦ h c (List.mem_of_mem_drop hc)

/-- A string is unpadded when it starts with no blank and ends with a part that has none. -/
theorem unpadded_append {s t : String} (hs : ∃ c ∈ s.toList.head?, isBlank c = false)
    (ht : BlankFree t.toList) (htne : t.toList ≠ []) : Unpadded (s ++ t) where
  head c hc := by
    obtain ⟨d, hd, hblank⟩ := hs
    rw [String.toList_append, List.head?_append, Option.mem_def.mp hd, Option.some_or] at hc
    exact Option.some.inj hc ▸ hblank
  last c hc := by
    rw [String.toList_append, List.getLast?_append, List.getLast?_eq_some_getLast htne,
      Option.some_or] at hc
    exact Option.some.inj hc ▸ ht _ (List.getLast_mem htne)

end ChangeReview.Text
