import ChangeReview.Proofs.Text.Search
import ChangeReview.Reply.Strategy

/-!
# Fences and their removal

Where a fence can start, what the block behind it is, and what is left of a text when its fence
markers are removed. The removal goes through a text once, so a text in which no marker starts,
whatever follows it, stays, and each cut of what is left comes from a cut of the text.
-/

namespace ChangeReview.Reply

open Text

/-- No fence marker starts in a text, whatever follows it. -/
def Unfenced (a : List Char) : Prop :=
  ∀ y, y <:+ a → y ≠ [] → ∀ b, startsFence (y ++ b) = false

variable {a b s x y lab : List Char} {c : Char}

theorem startsFence_iff : startsFence s ↔ fence <+: s := List.isPrefixOf_iff_prefix

theorem startsFence_fence (s : List Char) : startsFence (fence ++ s) :=
  startsFence_iff.mpr (List.prefix_append fence s)

namespace Unfenced

/-- A text without a marker whose end begins none. -/
theorem of_getLast? (h : ¬ fence <:+: a) (hlast : a.getLast? ≠ some '\x60') : Unfenced a := by
  intro y hy hne b
  rw [Bool.eq_false_iff]
  intro hstart
  rcases List.prefix_or_prefix_of_prefix (startsFence_iff.mp hstart) (List.prefix_append y b)
    with hfence | hbegin
  · exact h (hfence.isInfix.trans hy.isInfix)
  · obtain ⟨x, rfl⟩ := hy
    obtain ⟨y, c, rfl⟩ := (List.eq_nil_or_concat y).resolve_left hne
    rw [List.concat_eq_append] at hbegin hlast
    have hc : c ∈ fence := hbegin.mem (List.mem_append_right y (List.mem_singleton.mpr rfl))
    refine hlast ?_
    rw [← List.append_assoc, List.getLast?_concat]
    exact congrArg some (by simpa [fence] using hc)

theorem head (h : Unfenced (c :: a)) (b : List Char) : startsFence (c :: (a ++ b)) = false :=
  h (c :: a) List.suffix_rfl (List.cons_ne_nil c a) b

theorem tail (h : Unfenced (c :: a)) : Unfenced a :=
  fun y hy ↦ h y (hy.trans (List.suffix_cons c a))

theorem append (ha : Unfenced a) (hb : Unfenced b) : Unfenced (a ++ b) := by
  intro y ⟨x, hy⟩ hne z
  rcases List.append_eq_append_iff.mp hy with ⟨w, rfl, rfl⟩ | ⟨w, rfl, rfl⟩
  · rw [List.append_assoc]
    by_cases hw : w = []
    · subst hw
      exact hb b List.suffix_rfl (by simpa using hne) z
    · exact ha w (List.suffix_append x w) hw (b ++ z)
  · exact hb y (List.suffix_append w y) hne z

end Unfenced

/-- Of the text before a place at which a mark is found across its end, only a beginning of the
mark belongs to it. -/
theorem not_mem_of_mark {m : List Char} (hm : '\n' ∉ m) (hxy : ¬ m <:+: x ++ y)
    (h : m <+: y ++ s) : '\n' ∉ y := by
  rcases List.prefix_or_prefix_of_prefix h (List.prefix_append y s) with hmark | hbegin
  · exact absurd (hmark.isInfix.trans (List.suffix_append x y).isInfix) hxy
  · exact fun hmem ↦ hm (hbegin.mem hmem)

/-! ## Labels -/

theorem not_mem_of_lowerAscii (hc : c.toLower = c)
    (h : c ∉ lowerAscii s) : c ∉ s :=
  fun hmem ↦ h (hc ▸ List.mem_map_of_mem hmem)

/-- A label is still one when more follows. -/
theorem startsLabel_append (h : startsLabel a) (b : List Char) : startsLabel (a ++ b) := by
  have hlower : lowerAscii (a.take label.length) = label := eq_of_beq h
  have hlength : label.length ≤ a.length := by
    have := congrArg List.length hlower
    rw [length_lowerAscii, List.length_take] at this
    omega
  rw [startsLabel, List.take_append_of_le_length hlength]
  exact h

theorem startsLabel_of_lowerAscii (h : lowerAscii lab = label) (s : List Char) :
    startsLabel (lab ++ s) := by
  apply startsLabel_append
  have hlength : lab.length = label.length := by rw [← h, length_lowerAscii]
  rw [startsLabel, ← hlength, List.take_length, h]
  rfl

theorem startsLabelled_of_lowerAscii (h : lowerAscii lab = label) (s : List Char) :
    startsLabelled (fence ++ (lab ++ s)) := by
  rw [startsLabelled, startsFence_fence, List.drop_left, startsLabel_of_lowerAscii h]
  rfl

/-- A text that starts with a label is the label and the rest. -/
theorem exists_of_startsLabel (h : startsLabel s) :
    ∃ lab r, s = lab ++ r ∧ lowerAscii lab = label :=
  ⟨_, _, (List.take_append_drop label.length s).symm, eq_of_beq h⟩

theorem startsFence_of_startsLabelled (s : List Char) (h : startsLabelled s) : startsFence s :=
  (Bool.and_eq_true_iff.mp h).1

/-- A labelled marker is found in the lowered text. -/
theorem prefix_of_startsLabelled (h : startsLabelled s) : fence ++ label <+: lowerAscii s := by
  rw [startsLabelled, Bool.and_eq_true] at h
  obtain ⟨t, rfl⟩ := startsFence_iff.mp h.1
  rw [List.drop_left] at h
  obtain ⟨lab, r, rfl, hlab⟩ := exists_of_startsLabel h.2
  refine ⟨lowerAscii r, ?_⟩
  rw [← hlab]
  simp [lowerAscii, fence]

/-! ## Blocks -/

/-- The block of a fence reaches from the line feed after its marker to the next marker. -/
theorem fenceInterior_append {head body rest : List Char} (hhead : '\n' ∉ head)
    (hlength : fence.length ≤ head.length) (hbody : Unfenced body) :
    fenceInterior (head ++ '\n' :: (body ++ (fence ++ rest))) = some body := by
  have hdrop : ((head ++ '\n' :: (body ++ (fence ++ rest))).drop fence.length).dropWhile
      (· ≠ '\n') = '\n' :: (body ++ (fence ++ rest)) := by
    rw [List.drop_append_of_le_length hlength, List.dropWhile_append_of_pos]
    · rfl
    · intro c hc
      exact decide_eq_true fun he ↦ hhead (he ▸ List.mem_of_mem_drop hc)
  have hsplit : splitWhere? startsFence (body ++ (fence ++ rest)) = some (body, fence ++ rest) := by
    rw [splitWhere?_append fun y hy hne ↦ hbody y hy hne _]
    simp [splitWhere?, fence, startsFence]
  rw [fenceInterior, hdrop]
  simp only [hsplit, Option.map_some]

/-! ## Removal -/

theorem unfence_nil : unfence [] = [] := by rw [unfence]

theorem unfence_cons (h : startsFence (c :: s) = false) : unfence (c :: s) = c :: unfence s := by
  rw [unfence, h, if_neg (by decide)]

/-- A marker goes, with the label after it. -/
theorem unfence_mark (s : List Char) :
    unfence (fence ++ s) = unfence (if startsLabel s then s.drop label.length else s) := by
  have hstart : startsFence ('\x60' :: '\x60' :: '\x60' :: s) := startsFence_fence s
  change unfence ('\x60' :: '\x60' :: '\x60' :: s) = _
  rw [unfence, if_pos hstart]
  rfl

theorem unfence_fence (h : startsLabel s = false) : unfence (fence ++ s) = unfence s := by
  rw [unfence_mark, h, if_neg (by decide)]

theorem unfence_labelled (h : lowerAscii lab = label) (s : List Char) :
    unfence (fence ++ (lab ++ s)) = unfence s := by
  have hlength : lab.length = label.length := by rw [← h, length_lowerAscii]
  rw [unfence_mark, if_pos (startsLabel_of_lowerAscii h s), List.drop_left' hlength]

/-- A text is empty, or starts with a character that the removal keeps, or with a marker. -/
theorem unfence_induction {motive : List Char → Prop} (nil : motive [])
    (keep : ∀ c s, startsFence (c :: s) = false → motive s → motive (c :: s))
    (mark : ∀ s, startsLabel s = false → motive s → motive (fence ++ s))
    (labelled : ∀ lab s, lowerAscii lab = label → motive s → motive (fence ++ (lab ++ s)))
    (s : List Char) : motive s := by
  induction hn : s.length using Nat.strongRecOn generalizing s with
  | ind n ih =>
    subst hn
    cases s with
    | nil => exact nil
    | cons c s =>
      cases hstart : startsFence (c :: s) with
      | false => exact keep c s hstart (ih s.length (Nat.lt_succ_self _) s rfl)
      | true =>
        obtain ⟨t, ht⟩ := startsFence_iff.mp hstart
        rw [← ht] at ih ⊢
        cases hlabel : startsLabel t with
        | false => exact mark t hlabel (ih t.length (by simp [fence]; omega) t rfl)
        | true =>
          obtain ⟨lab, r, rfl, hlab⟩ := exists_of_startsLabel hlabel
          exact labelled lab r hlab (ih r.length (by simp [fence]; omega) r rfl)

/-- A text in which no marker starts is kept. -/
theorem unfence_append (ha : Unfenced a) (b : List Char) : unfence (a ++ b) = a ++ unfence b := by
  induction a with
  | nil => rfl
  | cons c a ih => rw [List.cons_append, unfence_cons (ha.head b), ih ha.tail, List.cons_append]

/-- A text without a marker is kept. -/
theorem unfence_eq_self (h : ¬ fence <:+: s) : unfence s = s := by
  induction s with
  | nil => exact unfence_nil
  | cons c s ih =>
    have hstart : startsFence (c :: s) = false := by
      rw [Bool.eq_false_iff]
      exact fun hstart ↦ h (startsFence_iff.mp hstart).isInfix
    rw [unfence_cons hstart, ih fun hs ↦ h (hs.trans (List.suffix_cons c s).isInfix)]

theorem unfence_sublist (s : List Char) : (unfence s).Sublist s := by
  induction s using unfence_induction with
  | nil => simp [unfence_nil]
  | keep c s hstart ih =>
    rw [unfence_cons hstart]
    exact ih.cons_cons c
  | mark s hlabel ih =>
    rw [unfence_fence hlabel]
    exact ih.trans (List.sublist_append_right fence s)
  | labelled lab s hlab ih =>
    rw [unfence_labelled hlab]
    exact ih.trans ((List.sublist_append_right lab s).trans (List.sublist_append_right fence _))

/-- Every cut of what the removal leaves comes from a cut of the text. -/
theorem exists_append_of_unfence (h : unfence s = x ++ y) :
    ∃ a b, s = a ++ b ∧ unfence a = x ∧ unfence b = y := by
  induction s using unfence_induction generalizing x with
  | nil =>
    rw [unfence_nil] at h
    obtain ⟨rfl, rfl⟩ := List.append_eq_nil_iff.mp h.symm
    exact ⟨[], [], rfl, unfence_nil, unfence_nil⟩
  | keep c s hstart ih =>
    cases x with
    | nil => exact ⟨[], c :: s, rfl, unfence_nil, h⟩
    | cons d x =>
      rw [unfence_cons hstart] at h
      obtain ⟨rfl, hs⟩ := List.cons.inj h
      obtain ⟨a, b, rfl, ha, hb⟩ := ih hs
      have hkeep : startsFence (c :: a) = false := by
        rw [Bool.eq_false_iff] at hstart ⊢
        intro hmark
        exact hstart (startsFence_iff.mpr ((startsFence_iff.mp hmark).trans (List.prefix_append _ b)))
      exact ⟨c :: a, b, rfl, by rw [unfence_cons hkeep, ha], hb⟩
  | mark s hlabel ih =>
    rw [unfence_fence hlabel] at h
    obtain ⟨a, b, rfl, ha, hb⟩ := ih h
    have hbare : startsLabel a = false := by
      rw [Bool.eq_false_iff] at hlabel ⊢
      exact fun hlab ↦ hlabel (startsLabel_append hlab b)
    exact ⟨fence ++ a, b, (List.append_assoc _ _ _).symm, by rw [unfence_fence hbare, ha], hb⟩
  | labelled lab s hlab ih =>
    rw [unfence_labelled hlab] at h
    obtain ⟨a, b, rfl, ha, hb⟩ := ih h
    exact ⟨fence ++ (lab ++ a), b, by simp only [List.append_assoc],
      by rw [unfence_labelled hlab, ha], hb⟩

end ChangeReview.Reply
