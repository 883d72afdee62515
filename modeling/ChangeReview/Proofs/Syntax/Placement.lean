import Mathlib.Data.List.Chain
import ChangeReview.Proofs.Syntax.Address

/-!
# Trees in the order of their text

Positions in a text are compared by row and then by column. A tree is in the order of its text when
no node starts behind one that it holds, and nothing in a child starts behind the next child. Then
the nodes of the tree in preorder start one after the other.
-/

namespace ChangeReview.Syntax

namespace Position

instance : LE Position where
  le p q := p.row < q.row ∨ p.row = q.row ∧ p.column ≤ q.column

theorem le_def {p q : Position} : p ≤ q ↔ p.row < q.row ∨ p.row = q.row ∧ p.column ≤ q.column :=
  Iff.rfl

instance (p q : Position) : Decidable (p ≤ q) := decidable_of_iff _ le_def.symm

theorem le_refl (p : Position) : p ≤ p := .inr ⟨rfl, Nat.le_refl _⟩

theorem le_trans {p q r : Position} (hpq : p ≤ q) (hqr : q ≤ r) : p ≤ r := by
  rw [le_def] at hpq hqr ⊢
  omega

end Position

namespace Node

/-- A tree in the order of its text. -/
structure InOrder (root : Node) : Prop where
  /-- A node starts no later than any node that it holds. -/
  within : ∀ n ∈ root.preorder, ∀ m ∈ n.preorder, n.start ≤ m.start
  /-- Every node in a child starts no later than the next child. -/
  between : ∀ n ∈ root.preorder, n.children.IsChain fun c d ↦ ∀ m ∈ c.preorder, m.start ≤ d.start

theorem self_mem_preorder (n : Node) : n ∈ n.preorder := by
  rw [preorder_eq]
  exact List.mem_cons_self

theorem mem_preorder_of_mem_children {n c m : Node} (hc : c ∈ n.children) (hm : m ∈ c.preorder) :
    m ∈ n.preorder := by
  rw [preorder_eq, preorderAll_eq_flatMap]
  exact List.mem_cons_of_mem n (List.mem_flatMap.mpr ⟨c, hc, hm⟩)

theorem InOrder.child {n c : Node} (h : n.InOrder) (hc : c ∈ n.children) : c.InOrder where
  within m hm := h.within m (mem_preorder_of_mem_children hc hm)
  between m hm := h.between m (mem_preorder_of_mem_children hc hm)

/-- Everything in a child starts no later than anything in a child behind it. -/
theorem InOrder.pairwise_children {n : Node} (h : n.InOrder) :
    n.children.Pairwise fun c d ↦ ∀ x ∈ c.preorder, ∀ y ∈ d.preorder, x.start ≤ y.start := by
  have hchain := h.between n n.self_mem_preorder
  have hwithin : ∀ c ∈ n.children, ∀ m ∈ c.preorder, c.start ≤ m.start :=
    fun c hc ↦ h.within c (mem_preorder_of_mem_children hc c.self_mem_preorder)
  generalize n.children = trees at hchain hwithin
  induction trees with
  | nil => exact .nil
  | cons c trees ih =>
    have hlater := ih hchain.tail fun d hd ↦ hwithin d (List.mem_cons_of_mem c hd)
    refine List.pairwise_cons.mpr ⟨?_, hlater⟩
    intro d hd x hx y hy
    cases trees with
    | nil => cases hd
    | cons next trees =>
      -- the next child starts between what is in the first and what is behind it
      have hnext : x.start ≤ next.start := (List.isChain_cons_cons.mp hchain).1 x hx
      refine Position.le_trans hnext ?_
      rcases List.mem_cons.mp hd with rfl | hd
      · exact hwithin d (List.mem_cons_of_mem c List.mem_cons_self) y hy
      · exact List.rel_of_pairwise_cons hlater hd next next.self_mem_preorder y hy

/-- The nodes of a tree in the order of its text start one after the other. -/
theorem InOrder.pairwise_preorder {root : Node} (h : root.InOrder) :
    root.preorder.Pairwise fun m n ↦ m.start ≤ n.start := by
  induction root using induction_children with
  | step n ih =>
    rw [preorder_eq, preorderAll_eq_flatMap, List.pairwise_cons, List.pairwise_flatMap]
    refine ⟨?below, fun c hc ↦ ih c hc (h.child hc), h.pairwise_children⟩
    case below =>
      intro m hm
      obtain ⟨c, hc, hm⟩ := List.mem_flatMap.mp hm
      exact h.within n n.self_mem_preorder m (mem_preorder_of_mem_children hc hm)

end Node

end ChangeReview.Syntax
