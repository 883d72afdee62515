import ChangeReview.Syntax.Node

/-!
# Addresses in a tree

A node of a tree is told apart from the others by its address, the numbers of the children on the
way to it. The addresses of a tree in preorder ascend strictly in the lexicographic order, so that
none occurs twice, a node comes before those below it, and the children are taken from left to right.
-/

namespace ChangeReview.Syntax

/-- The way from the root of a tree to one of its nodes: the number of the child at each step. -/
abbrev Address := List Nat

namespace Node

/-- The node at an address, if the address leads to one. -/
def at? (n : Node) : Address → Option Node
  | [] => some n
  | i :: a => n.children[i]?.bind (·.at? a)

/-- The nodes on the way to an address, from the root to the parent of the node there. -/
def above (n : Node) : Address → List Node
  | [] => []
  | i :: a => n :: n.children[i]?.elim [] (·.above a)

mutual

/-- The addresses of a tree in preorder. -/
def addresses : Node → List Address
  | mk _ _ _ _ _ children => [] :: addressesFrom 0 children

/-- The addresses of trees in preorder, each behind the number of its tree. -/
def addressesFrom : (first : Nat) → List Node → List Address
  | _, [] => []
  | first, n :: rest => n.addresses.map (first :: ·) ++ addressesFrom (first + 1) rest

end

theorem addresses_eq (n : Node) : n.addresses = [] :: addressesFrom 0 n.children := by
  cases n
  rfl

theorem at?_cons (n : Node) (i : Nat) (a : Address) :
    n.at? (i :: a) = n.children[i]?.bind (·.at? a) := rfl

theorem above_cons_of_getElem? {n c : Node} {i : Nat} (h : n.children[i]? = some c) (a : Address) :
    n.above (i :: a) = n :: c.above a := by
  rw [above, h, Option.elim_some]

/-- The nodes on the way to an address, the node there included. -/
def pathTo (n : Node) (a : Address) : List Node := n.above a ++ (n.at? a).toList

theorem at?_append (n : Node) (a b : Address) : n.at? (a ++ b) = (n.at? a).bind (·.at? b) := by
  induction a generalizing n with
  | nil => rfl
  | cons i a ih =>
    rw [List.cons_append, at?_cons, at?_cons]
    cases n.children[i]? with
    | none => rfl
    | some c => exact ih c

/-- What stands above a child is what stands on the way to its parent. -/
theorem above_concat (n : Node) (a : Address) (i : Nat) : n.above (a ++ [i]) = n.pathTo a := by
  induction a generalizing n with
  | nil =>
    rw [List.nil_append, above, pathTo, above]
    cases n.children[i]? with
    | none => rfl
    | some c => rfl
  | cons j a ih =>
    rw [List.cons_append, above, pathTo, above, at?_cons]
    cases n.children[j]? with
    | none => rfl
    | some c => exact congrArg (n :: ·) (ih c)

/-! ## Induction over a tree -/

theorem size_le_of_mem {c : Node} {trees : List Node} (h : c ∈ trees) : c.size ≤ sizeAll trees := by
  induction trees with
  | nil => cases h
  | cons n rest ih =>
    rw [sizeAll]
    rcases List.mem_cons.mp h with rfl | h
    · omega
    · have := ih h
      omega

/-- What holds of a node as soon as it holds of its children holds of every node. -/
theorem induction_children {motive : Node → Prop}
    (step : ∀ n : Node, (∀ c ∈ n.children, motive c) → motive n) (n : Node) : motive n := by
  induction hsize : n.size using Nat.strongRecOn generalizing n with
  | ind k ih =>
    subst hsize
    apply step
    intro c hc
    have hle := size_le_of_mem hc
    exact ih c.size (by rw [size_eq n]; omega) c rfl

/-! ## The addresses are those of the nodes -/

theorem mem_addressesFrom {first : Nat} {trees : List Node} {a : Address} :
    a ∈ addressesFrom first trees ↔
      ∃ i c b, trees[i]? = some c ∧ b ∈ c.addresses ∧ a = (first + i) :: b := by
  induction trees generalizing first with
  | nil => simp [addressesFrom]
  | cons n rest ih =>
    rw [addressesFrom, List.mem_append, List.mem_map, ih]
    constructor
    · rintro (⟨b, hb, rfl⟩ | ⟨i, c, b, hc, hb, rfl⟩)
      · exact ⟨0, n, b, rfl, hb, rfl⟩
      · exact ⟨i + 1, c, b, hc, hb, by rw [Nat.add_right_comm, Nat.add_assoc]⟩
    · rintro ⟨_ | i, c, b, hc, hb, rfl⟩
      · obtain rfl := Option.some.inj hc
        exact .inl ⟨b, hb, rfl⟩
      · exact .inr ⟨i, c, b, hc, hb, by rw [Nat.add_right_comm, Nat.add_assoc]⟩

/-- The addresses of a tree are those that lead to a node. -/
theorem mem_addresses {n : Node} {a : Address} : a ∈ n.addresses ↔ (n.at? a).isSome := by
  induction n using induction_children generalizing a with
  | step n ih =>
    rw [addresses_eq, List.mem_cons, mem_addressesFrom]
    cases a with
    | nil => simp [at?]
    | cons i a =>
      simp only [List.cons_ne_nil, false_or, Nat.zero_add, List.cons.injEq, at?_cons]
      cases hi : n.children[i]? with
      | none =>
        simp only [Option.bind_none, Option.isSome_none, Bool.false_eq_true, iff_false]
        rintro ⟨_, c, _, hc, -, rfl, rfl⟩
        rw [hi] at hc
        cases hc
      | some c =>
        rw [Option.bind_some, ← ih c (List.mem_of_getElem? hi)]
        constructor
        · rintro ⟨_, d, _, hd, hb, rfl, rfl⟩
          rw [hi] at hd
          rwa [Option.some.inj hd]
        · exact fun ha ↦ ⟨i, c, a, hi, ha, rfl, rfl⟩

theorem pairwise_addressesFrom {trees : List Node}
    (h : ∀ c ∈ trees, c.addresses.Pairwise (· < ·)) (first : Nat) :
    (addressesFrom first trees).Pairwise (· < ·) := by
  induction trees generalizing first with
  | nil => exact .nil
  | cons n rest ih =>
    rw [addressesFrom, List.pairwise_append]
    refine ⟨?own, ih (fun c hc ↦ h c (List.mem_cons_of_mem n hc)) (first + 1), ?apart⟩
    case own =>
      rw [List.pairwise_map]
      exact (h n List.mem_cons_self).imp fun hlt ↦ List.cons_lt_cons_iff.mpr (.inr ⟨rfl, hlt⟩)
    case apart =>
      -- the addresses of a later tree begin with a greater number
      intro a ha b hb
      obtain ⟨a, -, rfl⟩ := List.mem_map.mp ha
      obtain ⟨i, -, b, -, -, rfl⟩ := mem_addressesFrom.mp hb
      exact List.cons_lt_cons_iff.mpr (.inl (by omega))

/-- The addresses of a tree ascend strictly. -/
theorem pairwise_addresses (n : Node) : n.addresses.Pairwise (· < ·) := by
  induction n using induction_children with
  | step n ih =>
    rw [addresses_eq, List.pairwise_cons]
    refine ⟨?_, pairwise_addressesFrom ih 0⟩
    intro a ha
    obtain ⟨i, -, b, -, -, rfl⟩ := mem_addressesFrom.mp ha
    exact List.nil_lt_cons _ _

/-! ## The nodes at the addresses -/

theorem filterMap_addressesFrom {β : Type} {f : Address → Option β} {g : Node → List β}
    {first : Nat} {trees : List Node}
    (h : ∀ i c, trees[i]? = some c → c.addresses.filterMap (fun a ↦ f ((first + i) :: a)) = g c) :
    (addressesFrom first trees).filterMap f = trees.flatMap g := by
  induction trees generalizing first with
  | nil => rfl
  | cons n rest ih =>
    have hrest : (addressesFrom (first + 1) rest).filterMap f = rest.flatMap g := by
      refine ih fun i c hc ↦ ?_
      rw [← h (i + 1) c hc, Nat.add_assoc, Nat.add_comm 1 i]
    rw [addressesFrom, List.filterMap_append, List.filterMap_map, List.flatMap_cons, hrest,
      ← h 0 n rfl]
    rfl

theorem preorderAll_eq_flatMap (trees : List Node) : preorderAll trees = trees.flatMap preorder := by
  induction trees with
  | nil => rfl
  | cons n rest ih => rw [preorderAll, ih, List.flatMap_cons]

/-- The nodes of a tree in preorder stand at its addresses. -/
theorem filterMap_at?_addresses (n : Node) : n.addresses.filterMap n.at? = n.preorder := by
  induction n using induction_children with
  | step n ih =>
    rw [addresses_eq, preorder_eq, preorderAll_eq_flatMap]
    refine congrArg (n :: ·) (filterMap_addressesFrom fun i c hc ↦ ?_)
    simp only [Nat.zero_add, at?_cons, hc, Option.bind_some]
    exact ih c (List.mem_of_getElem? hc)

/-- A node of a tree stands at one of its addresses. -/
theorem mem_preorder_iff {n m : Node} : m ∈ n.preorder ↔ ∃ a, n.at? a = some m := by
  rw [← filterMap_at?_addresses, List.mem_filterMap]
  refine exists_congr fun a ↦ and_iff_right_of_imp fun h ↦ ?_
  rw [mem_addresses, h]
  rfl

end Node

end ChangeReview.Syntax
