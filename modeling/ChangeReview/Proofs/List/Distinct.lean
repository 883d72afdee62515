import Mathlib.Data.List.Induction

/-!
# Distinct elements in the order of first appearance

A list without its repetitions holds each element once, in the order in which they first appear. An
element that has appeared before makes no difference, and a cut keeps the elements that come first.
-/

namespace ChangeReview

/-- What a cut leaves out stands behind all that it keeps. -/
theorem rel_of_not_mem_take {α : Type} {R : α → α → Prop} {l : List α} (h : l.Pairwise R) {n : Nat}
    {a b : α} (ha : a ∈ l.take n) (hb : b ∈ l) (hcut : b ∉ l.take n) : R a b := by
  rw [← List.take_append_drop n l] at h hb
  have hdrop : b ∈ l.drop n := (List.mem_append.mp hb).resolve_left hcut
  exact (List.pairwise_append.mp h).2.2 a ha b hdrop

variable {α : Type} [DecidableEq α]

theorem eraseDups_concat (l : List α) (a : α) :
    (l ++ [a]).eraseDups = if a ∈ l then l.eraseDups else l.eraseDups ++ [a] := by
  rw [List.eraseDups_append]
  by_cases ha : a ∈ l <;> simp [List.removeAll, List.eraseDups_cons, ha]

/-- An element that has appeared before is no further element. -/
theorem eraseDups_of_mem {before : List α} {a : α} (ha : a ∈ before) (after : List α) :
    (before ++ a :: after).eraseDups = (before ++ after).eraseDups := by
  have hdropped : (a :: after).removeAll before = after.removeAll before := by
    simp [List.removeAll, ha]
  rw [List.eraseDups_append, List.eraseDups_append, hdropped]

/-- The distinct elements stand in the order in which they first appear. -/
theorem pairwise_idxOf_eraseDups (l : List α) :
    l.eraseDups.Pairwise fun a b ↦ l.idxOf a < l.idxOf b := by
  induction l using List.reverseRecOn with
  | nil => exact List.Pairwise.nil
  | append_singleton l a ih =>
    have hkept : ∀ b ∈ l, (l ++ [a]).idxOf b = l.idxOf b := fun b hb ↦ by
      rw [List.idxOf_append, if_pos hb]
    have hbefore : l.eraseDups.Pairwise fun b c ↦ (l ++ [a]).idxOf b < (l ++ [a]).idxOf c := by
      refine ih.imp_of_mem fun {b c} hb hc hlt ↦ ?_
      rw [hkept b (List.mem_eraseDups.mp hb), hkept c (List.mem_eraseDups.mp hc)]
      exact hlt
    rw [eraseDups_concat]
    split
    · exact hbefore
    · next ha =>
      refine List.pairwise_append.mpr ⟨hbefore, List.pairwise_singleton _ _, fun b hb c hc ↦ ?_⟩
      obtain rfl := List.mem_singleton.mp hc
      have hb := List.mem_eraseDups.mp hb
      have hlast : (l ++ [c]).idxOf c = l.length := by
        rw [List.idxOf_append, if_neg ha, List.idxOf_cons_self, Nat.zero_add]
      rw [hkept b hb, hlast]
      exact List.idxOf_lt_length_of_mem hb

theorem nodup_eraseDups (l : List α) : l.eraseDups.Nodup :=
  (pairwise_idxOf_eraseDups l).imp fun {a b} (hlt : l.idxOf a < l.idxOf b) (he : a = b) ↦
    Nat.lt_irrefl _ (he ▸ hlt)

/-- Lists with the same elements have the same distinct elements, in some order. -/
theorem eraseDups_perm {l m : List α} (h : ∀ a, a ∈ l ↔ a ∈ m) : l.eraseDups.Perm m.eraseDups := by
  apply (List.perm_ext_iff_of_nodup (nodup_eraseDups l) (nodup_eraseDups m)).mpr
  intro a
  rw [List.mem_eraseDups, List.mem_eraseDups]
  exact h a

end ChangeReview
