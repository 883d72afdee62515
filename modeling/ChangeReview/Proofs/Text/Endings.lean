import ChangeReview.Text.Lines

/-!
# Line endings

Splitting a text into lines treats a line feed and a carriage return before it alike. So the lines
of a text are those of its unified form, in which every line ending is a line feed alone.
-/

namespace ChangeReview.Text

/-- The text without the carriage returns that stand right before a line feed. -/
def unifyEndings : List Char → List Char
  | [] => []
  | c :: s => if c = '\r' ∧ s.head? = some '\n' then unifyEndings s else c :: unifyEndings s

theorem unifyEndings_nil : unifyEndings [] = [] := rfl

theorem unifyEndings_cons {c : Char} (hc : c ≠ '\r') (s : List Char) :
    unifyEndings (c :: s) = c :: unifyEndings s := by
  rw [unifyEndings, if_neg fun h ↦ hc h.1]

/-- A text keeps its start, a carriage return before a line feed apart. -/
theorem unifyEndings_return (s : List Char) :
    (∃ w, s = '\n' :: w ∧ unifyEndings ('\r' :: s) = '\n' :: unifyEndings w) ∨
      unifyEndings ('\r' :: s) = '\r' :: unifyEndings s := by
  rw [unifyEndings]
  split
  · next h =>
    obtain ⟨w, rfl⟩ := List.head?_eq_some_iff.mp h.2
    exact .inl ⟨w, rfl, unifyEndings_cons (by decide) w⟩
  · exact .inr rfl

theorem unifyEndings_sublist (s : List Char) : (unifyEndings s).Sublist s := by
  induction s with
  | nil => exact List.Sublist.slnil
  | cons c s ih =>
    rw [unifyEndings]
    split
    · exact ih.cons c
    · exact ih.cons_cons c

/-- Where a text has no line feed right at the start, nothing in front of it changes. -/
theorem unifyEndings_append {s t : List Char} (h : t.head? ≠ some '\n') :
    unifyEndings (s ++ t) = unifyEndings s ++ unifyEndings t := by
  induction s with
  | nil => rfl
  | cons c s ih =>
    have hhead : (s ++ t).head? = some '\n' ↔ s.head? = some '\n' := by
      cases s with
      | nil => simp [h]
      | cons d s => rfl
    rw [List.cons_append, unifyEndings, unifyEndings, ih]
    simp only [hhead]
    split
    · rfl
    · rfl

/-- Every cut of a unified text comes from a cut of the text. -/
theorem exists_append_of_unifyEndings {s x y : List Char} (h : unifyEndings s = x ++ y) :
    ∃ a b, s = a ++ b ∧ unifyEndings a = x ∧ unifyEndings b = y := by
  induction s generalizing x with
  | nil =>
    obtain ⟨rfl, rfl⟩ := List.append_eq_nil_iff.mp h.symm
    exact ⟨[], [], rfl, rfl, rfl⟩
  | cons c s ih =>
    cases x with
    | nil => exact ⟨[], c :: s, rfl, rfl, h⟩
    | cons d x =>
      rw [unifyEndings] at h
      split at h
      · next hc =>
        -- The return stays with the line feed that it stands before.
        obtain ⟨a, b, rfl, ha, hb⟩ := ih h
        refine ⟨c :: a, b, rfl, ?_, hb⟩
        cases a with
        | nil => exact absurd ha (by simp [unifyEndings])
        | cons e a => rw [unifyEndings, if_pos ⟨hc.1, hc.2⟩, ha]
      · next hc =>
        obtain ⟨rfl, hs⟩ := List.cons.inj h
        obtain ⟨a, b, rfl, ha, hb⟩ := ih hs
        refine ⟨c :: a, b, rfl, ?_, hb⟩
        rw [unifyEndings, if_neg, ha]
        rintro ⟨rfl, hhead⟩
        refine hc ⟨rfl, ?_⟩
        rw [List.head?_append, hhead, Option.some_or]

/-! ## Lines -/

/-- A text has no line feed or starts with a line that a line feed closes. -/
theorem lines_induction {motive : List Char → Prop} (last : ∀ s, '\n' ∉ s → motive s)
    (line : ∀ l s, '\n' ∉ l → motive s → motive (l ++ '\n' :: s)) (s : List Char) : motive s := by
  suffices h : ∀ l, '\n' ∉ l → motive (l ++ s) from h [] List.not_mem_nil
  induction s with
  | nil =>
    intro l hl
    rw [List.append_nil]
    exact last l hl
  | cons c s ih =>
    intro l hl
    by_cases hc : c = '\n'
    · subst hc
      exact line l s hl (ih [] List.not_mem_nil)
    · have hmem : '\n' ∉ l ++ [c] := by simp [hl, Ne.symm hc]
      have h := ih (l ++ [c]) hmem
      rwa [List.append_assoc] at h

theorem splitFeeds_ne_nil (s : List Char) : splitFeeds s ≠ [] := by
  cases s with
  | nil => simp [splitFeeds]
  | cons c s =>
    rw [splitFeeds]
    split
    · simp
    · split <;> simp

theorem splitFeeds_of_not_mem {s : List Char} (h : '\n' ∉ s) : splitFeeds s = [s] := by
  induction s with
  | nil => rfl
  | cons c s ih =>
    rw [List.mem_cons, not_or] at h
    rw [splitFeeds, if_neg (Ne.symm h.1), ih h.2]

theorem splitFeeds_line {l : List Char} (h : '\n' ∉ l) (s : List Char) :
    splitFeeds (l ++ '\n' :: s) = l :: splitFeeds s := by
  induction l with
  | nil => rw [List.nil_append, splitFeeds, if_pos rfl]
  | cons c l ih =>
    rw [List.mem_cons, not_or] at h
    rw [List.cons_append, splitFeeds, if_neg (Ne.symm h.1), ih h.2]

/-- What stands in a line stands in the text and holds no line feed, and the other way around. -/
theorem exists_infix_splitFeeds {x s : List Char} :
    (∃ l ∈ splitFeeds s, x <:+: l) ↔ x <:+: s ∧ '\n' ∉ x := by
  induction s using lines_induction with
  | last s hs =>
    rw [splitFeeds_of_not_mem hs]
    simp only [List.mem_singleton, exists_eq_left]
    exact ⟨fun h ↦ ⟨h, fun hmem ↦ hs (h.subset hmem)⟩, And.left⟩
  | line l s hl ih =>
    have hfeed {y : List Char} (hy : y <+: '\n' :: s) (hfree : '\n' ∉ y) : y = [] := by
      cases y with
      | nil => rfl
      | cons c y =>
        obtain ⟨rfl, -⟩ := List.cons_prefix_cons.mp hy
        exact absurd List.mem_cons_self hfree
    rw [splitFeeds_line hl]
    constructor
    · rintro ⟨line, hline, h⟩
      rcases List.mem_cons.mp hline with rfl | hline
      · exact ⟨h.trans (List.prefix_append _ _).isInfix, fun hmem ↦ hl (h.subset hmem)⟩
      · obtain ⟨hs, hx⟩ := ih.mp ⟨line, hline, h⟩
        exact ⟨hs.trans ((List.suffix_cons _ s).trans (List.suffix_append l _)).isInfix, hx⟩
    · rintro ⟨h, hx⟩
      rcases List.infix_append_iff.mp h with h | h | ⟨y, z, rfl, hy, hz⟩
      · exact ⟨l, List.mem_cons_self, h⟩
      · rcases List.infix_cons_iff.mp h with h | h
        · exact ⟨l, List.mem_cons_self, hfeed h hx ▸ List.nil_infix⟩
        · obtain ⟨line, hline, h⟩ := ih.mpr ⟨h, hx⟩
          exact ⟨line, List.mem_cons_of_mem l hline, h⟩
      · obtain rfl : z = [] := hfeed hz fun hmem ↦ hx (List.mem_append_right y hmem)
        exact ⟨l, List.mem_cons_self, by rw [List.append_nil]; exact hy.isInfix⟩

/-- What stands at the start of a text within its first line. -/
theorem prefix_takeWhile_iff {x s : List Char} :
    x <+: s.takeWhile (· ≠ '\n') ↔ x <+: s ∧ '\n' ∉ x := by
  constructor
  · intro h
    refine ⟨h.trans (List.takeWhile_prefix _), fun hmem ↦ ?_⟩
    exact absurd (List.all_eq_true.mp List.all_takeWhile _ (h.subset hmem)) (by decide)
  · rintro ⟨⟨r, rfl⟩, hx⟩
    have hpos : ∀ c ∈ x, decide (c ≠ '\n') = true := fun c hc ↦
      decide_eq_true fun h ↦ hx (h ▸ hc)
    rw [List.takeWhile_append_of_pos hpos]
    exact List.prefix_append _ _

/-- A text without a line feed is one line, or none when it is empty. -/
theorem lines_of_not_mem {s : List Char} (h : '\n' ∉ s) :
    lines s = if s.isEmpty then [] else [s] := by
  rw [lines, splitFeeds_of_not_mem h, linesOfParts]

theorem lines_line {l : List Char} (h : '\n' ∉ l) (s : List Char) :
    lines (l ++ '\n' :: s) = dropReturn l :: lines s := by
  obtain ⟨part, parts, hparts⟩ := List.exists_cons_of_ne_nil (splitFeeds_ne_nil s)
  rw [lines, splitFeeds_line h, lines, hparts, linesOfParts]

/-- Lines do not reach over the line feed at the end of a text. -/
theorem lines_append {s t : List Char} (h : s = [] ∨ s.getLast? = some '\n') :
    lines (s ++ t) = lines s ++ lines t := by
  induction s using lines_induction with
  | last s hs =>
    rcases h with rfl | h
    · rfl
    · exact absurd (List.mem_of_getLast? h) hs
  | line l s hl ih =>
    have hend : s = [] ∨ s.getLast? = some '\n' := by
      rcases h with h | h
      · exact absurd h (by simp)
      · cases s with
        | nil => exact .inl rfl
        | cons c s => exact .inr (by simpa [List.getLast?_append] using h)
    rw [List.append_assoc, List.cons_append, lines_line hl, lines_line hl, ih hend,
      List.cons_append]

theorem unifyEndings_of_not_mem {s : List Char} (h : '\n' ∉ s) : unifyEndings s = s := by
  induction s with
  | nil => rfl
  | cons c s ih =>
    rw [List.mem_cons, not_or] at h
    rw [unifyEndings, if_neg, ih h.2]
    rintro ⟨-, hhead⟩
    exact h.2 (List.mem_of_head? hhead)

theorem unifyEndings_line {l : List Char} (h : '\n' ∉ l) (s : List Char) :
    unifyEndings (l ++ '\n' :: s) = dropReturn l ++ '\n' :: unifyEndings s := by
  rcases List.eq_nil_or_concat l with rfl | ⟨l, c, rfl⟩
  · exact unifyEndings_cons (by decide) s
  · rw [List.concat_eq_append] at h ⊢
    have hl : '\n' ∉ l := fun hmem ↦ h (List.mem_append_left [c] hmem)
    have hc : c ≠ '\n' := fun hc ↦ h (List.mem_append_right l (List.mem_singleton.mpr hc.symm))
    rw [List.append_assoc, unifyEndings_append (by simpa using hc), unifyEndings_of_not_mem hl]
    by_cases hr : c = '\r'
    · subst hr
      simp [unifyEndings, dropReturn]
    · simp [unifyEndings, dropReturn, hr]

end ChangeReview.Text
