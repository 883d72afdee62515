import ChangeReview.Proofs.Json.Extent
import ChangeReview.Proofs.Text.Search
import ChangeReview.Reply.Decode

/-!
# Where a candidate stands in its reply

The first three strategies cut out a part of the reply that is surrounded, blanks aside, by the
ends of the reply or by the line feed and the fence of a fenced block. The brace span of a text is
what lies between braces that no brace of the same kind precedes or follows.
-/

namespace ChangeReview.Reply

open Text Json

/-- Only blanks stand at the end of a text, back to its start or to a line feed. -/
def EndsBlank (s : List Char) : Prop :=
  AllBlank s ∨ ∃ x t, s = x ++ '\n' :: t ∧ AllBlank t

/-- Only blanks stand at the start of a text, up to its end or to a backtick. -/
def StartsBlank (s : List Char) : Prop :=
  AllBlank s ∨ ∃ t y, s = t ++ '\x60' :: y ∧ AllBlank t

/-! ## Fenced blocks -/

theorem exists_of_startsFence {s : List Char} (h : startsFence s) : ∃ y, s = '\x60' :: y := by
  obtain ⟨t, rfl⟩ := List.isPrefixOf_iff_prefix.mp h
  exact ⟨_, rfl⟩

/-- The interior of a fence stands between a line feed and a backtick. -/
theorem exists_of_fenceInterior {s c : List Char} (h : fenceInterior s = some c) :
    ∃ x y, s = x ++ '\n' :: (c ++ '\x60' :: y) := by
  unfold fenceInterior at h
  split at h
  · exact absurd h (by simp)
  · next d body hbody =>
    obtain ⟨⟨c', rest⟩, hsplit, rfl⟩ := Option.map_eq_some_iff.mp h
    obtain ⟨y, rfl⟩ := exists_of_startsFence (holds_of_splitWhere? hsplit)
    have hd : d = '\n' := by
      have hhead := List.head?_dropWhile_not (· ≠ '\n') (s.drop fence.length)
      rw [hbody] at hhead
      simpa using hhead
    refine ⟨s.take fence.length ++ (s.drop fence.length).takeWhile (· ≠ '\n'), y, ?_⟩
    calc s = s.take fence.length ++ s.drop fence.length := (List.take_append_drop _ _).symm
      _ = s.take fence.length ++ ((s.drop fence.length).takeWhile (· ≠ '\n') ++ d :: body) := by
        rw [← hbody, List.takeWhile_append_dropWhile]
      _ = _ := by rw [← append_of_splitWhere? hsplit, hd, List.append_assoc]

/-- What is found behind a mark of the reply and stands in a fence, stands in a fence of the
reply. -/
theorem exists_of_bind_fenceInterior {here : List Char → Bool} {s c : List Char}
    (h : ((splitWhere? here s).bind fun parts ↦ fenceInterior parts.2) = some c) :
    ∃ x y, s = x ++ '\n' :: (c ++ '\x60' :: y) := by
  obtain ⟨⟨a, b⟩, hsplit, hc⟩ := Option.bind_eq_some_iff.mp h
  obtain ⟨x, y, rfl⟩ := exists_of_fenceInterior hc
  refine ⟨a ++ x, y, ?_⟩
  rw [← append_of_splitWhere? hsplit, List.append_assoc]

/-- The candidates of the first three strategies, trimmed, with what surrounds them. -/
theorem exists_of_candidate {strategy : Strategy} {raw c : List Char}
    (hs : strategy ∈ [Strategy.direct, .labelledFence, .anyFence])
    (h : strategy.candidate raw = some c) :
    ∃ x y, raw = x ++ trim c ++ y ∧ EndsBlank x ∧ StartsBlank y := by
  obtain ⟨u, w, hc, hu, hw⟩ := append_trim c
  have hfence : (∃ x y, raw = x ++ '\n' :: (c ++ '\x60' :: y)) →
      ∃ x y, raw = x ++ trim c ++ y ∧ EndsBlank x ∧ StartsBlank y := by
    rintro ⟨x, y, rfl⟩
    refine ⟨x ++ '\n' :: u, w ++ '\x60' :: y, ?_, .inr ⟨x, u, rfl, hu⟩, .inr ⟨w, y, rfl, hw⟩⟩
    calc x ++ '\n' :: (c ++ '\x60' :: y)
        = x ++ '\n' :: (u ++ trim c ++ w ++ '\x60' :: y) := by rw [← hc]
      _ = _ := by simp only [List.append_assoc, List.cons_append]
  simp only [List.mem_cons, List.not_mem_nil, or_false] at hs
  rcases hs with rfl | rfl | rfl
  · obtain rfl := Option.some.inj h
    exact ⟨u, w, hc, .inl hu, .inl hw⟩
  · exact hfence (exists_of_bind_fenceInterior h)
  · exact hfence (exists_of_bind_fenceInterior h)

/-! ## Brace spans -/

/-- The brace span of a text with an enclosed part that no closing brace follows ends with that
part and starts with the first opening brace before it. -/
theorem braceSpan_append_eq {p post : List Char} (pre : List Char) (hpost : '\x7d' ∉ post)
    (hp : Enclosed p) :
    braceSpan (pre ++ p ++ post) = some (pre.dropWhile (· ≠ '\x7b') ++ p) := by
  obtain ⟨u, hu⟩ := List.head?_eq_some_iff.mp hp.head?_eq
  obtain ⟨w, hw⟩ := List.getLast?_eq_some_iff.mp hp.getLast?_eq
  have hopen : (pre ++ (p ++ post)).dropWhile (· ≠ '\x7b') =
      pre.dropWhile (· ≠ '\x7b') ++ p ++ post := by
    rw [List.dropWhile_append]
    split
    · next hnone =>
      rw [List.isEmpty_iff.mp hnone, hu, List.cons_append, List.dropWhile_cons_of_neg (by simp)]
      rfl
    · rw [List.append_assoc]
  have hclose : (pre.dropWhile (· ≠ '\x7b') ++ p ++ post).reverse.dropWhile (· ≠ '\x7d') =
      (pre.dropWhile (· ≠ '\x7b') ++ p).reverse := by
    rw [List.reverse_append, List.dropWhile_append_of_pos, hw, ← List.append_assoc,
      List.reverse_append, List.reverse_singleton, List.singleton_append,
      List.dropWhile_cons_of_neg (by simp)]
    intro c hc
    exact decide_eq_true fun he ↦ hpost (he ▸ List.mem_reverse.mp hc)
  rw [braceSpan, List.append_assoc, hopen, hclose, List.reverse_reverse]
  simp [hp.ne_nil]

/-- The brace span reaches from the first opening brace to the last closing brace. -/
theorem braceSpan_append {pre p post : List Char} (hpre : '\x7b' ∉ pre) (hpost : '\x7d' ∉ post)
    (hp : Enclosed p) : braceSpan (pre ++ p ++ post) = some p := by
  rw [braceSpan_append_eq pre hpost hp, dropWhile_ne_of_not_mem hpre, List.nil_append]

section

variable {a b s : List Char}

theorem braceSpan_split {x y : List Char} (ha : '\x7b' ∉ a) (hy : '\x7d' ∉ y) :
    braceSpan (a ++ '\x7b' :: (x ++ '\x7d' :: y)) = some ('\x7b' :: (x ++ ['\x7d'])) := by
  have hback : ('\x7b' :: (x ++ '\x7d' :: y)).reverse =
      y.reverse ++ '\x7d' :: ('\x7b' :: x).reverse := by simp
  rw [braceSpan, dropWhile_ne_append_cons ha, hback,
    dropWhile_ne_append_cons (by simpa using hy)]
  simp

/-- A text has no brace span when no closing brace follows its first opening brace. -/
theorem braceSpan_unclosed (ha : '\x7b' ∉ a) (hb : '\x7d' ∉ b) :
    braceSpan (a ++ '\x7b' :: b) = none := by
  rw [braceSpan, dropWhile_ne_append_cons ha, dropWhile_ne_of_not_mem (by simpa using hb)]
  rfl

theorem braceSpan_unopened (h : '\x7b' ∉ s) : braceSpan s = none := by
  rw [braceSpan, dropWhile_ne_of_not_mem h]
  rfl

/-- A text in which no closing brace comes after an opening one has no brace span. -/
theorem braceSpan_eq_none (h : ¬ ['\x7b', '\x7d'].Sublist s) : braceSpan s = none := by
  by_cases hopen : '\x7b' ∈ s
  · obtain ⟨a, b, rfl, ha⟩ := List.eq_append_cons_of_mem hopen
    refine braceSpan_unclosed ha fun hclose ↦ h ?_
    have hpair : ['\x7b', '\x7d'].Sublist ('\x7b' :: b) :=
      (List.singleton_sublist.mpr hclose).cons_cons '\x7b'
    exact hpair.trans (List.sublist_append_right a _)
  · exact braceSpan_unopened hopen

end

end ChangeReview.Reply
