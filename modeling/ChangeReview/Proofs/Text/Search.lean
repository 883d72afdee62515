import Mathlib.Data.List.TakeWhile
import ChangeReview.Text.Search

/-!
# Where a search ends

A search passes over a text in which nothing is found, whatever follows, and ends at the latest
where something stands. A text without its start up to a character begins where the character
stands first.
-/

namespace ChangeReview.Text

variable {here : List Char → Bool}

/-- A search ends at a place that has the property or before it. -/
theorem exists_splitWhere?_append (a : List Char) {b : List Char} (hb : here b) :
    ∃ x y, a = x ++ y ∧ splitWhere? here (a ++ b) = some (x, y ++ b) := by
  induction a with
  | nil =>
    refine ⟨[], [], rfl, ?_⟩
    cases b with
    | nil => simp only [List.append_nil, splitWhere?, hb, if_true]
    | cons c b => simp only [List.nil_append, splitWhere?, hb, if_true]
  | cons c a ih =>
    by_cases hc : here (c :: (a ++ b))
    · refine ⟨[], c :: a, rfl, ?_⟩
      simp only [List.cons_append, splitWhere?, hc, if_true]
    · obtain ⟨x, y, ha, hsplit⟩ := ih
      refine ⟨c :: x, y, congrArg (c :: ·) ha, ?_⟩
      simp only [List.cons_append, splitWhere?, hc, hsplit, Option.map_some]
      rfl

/-- A search passes over a text at no place of which the property holds. -/
theorem splitWhere?_append {a b : List Char}
    (ha : ∀ y, y <:+ a → y ≠ [] → here (y ++ b) = false) :
    splitWhere? here (a ++ b) = (splitWhere? here b).map fun parts ↦ (a ++ parts.1, parts.2) := by
  induction a with
  | nil => simp
  | cons c a ih =>
    have hc := ha (c :: a) List.suffix_rfl (List.cons_ne_nil c a)
    rw [List.cons_append] at hc
    rw [List.cons_append, splitWhere?, hc,
      ih fun y hy ↦ ha y (hy.trans (List.suffix_cons c a)), Option.map_map]
    rfl

/-- A search over a text at no place of which the property holds finds nothing. -/
theorem splitWhere?_eq_none {a : List Char} (ha : ∀ y, y <:+ a → here y = false) :
    splitWhere? here a = none := by
  cases h : splitWhere? here a with
  | none => rfl
  | some parts =>
    have hsuffix : parts.2 <:+ a := ⟨parts.1, append_of_splitWhere? h⟩
    have hhere := holds_of_splitWhere? h
    rw [ha parts.2 hsuffix] at hhere
    exact absurd hhere (by decide)

/-! ## Characters -/

section

variable {a s : List Char} {c : Char}

theorem dropWhile_ne_append_cons (h : c ∉ a) (b : List Char) :
    (a ++ c :: b).dropWhile (· ≠ c) = c :: b := by
  rw [List.dropWhile_append_of_pos, List.dropWhile_cons_of_neg (by simp)]
  exact fun d hd ↦ decide_eq_true fun he ↦ h (he ▸ hd)

theorem dropWhile_ne_of_not_mem (h : c ∉ s) : s.dropWhile (· ≠ c) = [] :=
  List.dropWhile_eq_nil_iff.mpr fun d hd ↦ decide_eq_true fun (he : d = c) ↦ h (he ▸ hd)

/-- A character of a text stands somewhere for the last time. -/
theorem exists_last (h : c ∈ s) : ∃ a b, s = a ++ c :: b ∧ c ∉ b := by
  obtain ⟨b, a, hs, hb⟩ := List.eq_append_cons_of_mem (List.mem_reverse.mpr h)
  refine ⟨a.reverse, b.reverse, ?_, fun hmem ↦ hb (List.mem_reverse.mp hmem)⟩
  rw [← List.reverse_reverse s, hs]
  simp

end

end ChangeReview.Text
