import ChangeReview.Scan.Catalog
import ChangeReview.Scan.Metrics

/-!
# Walking a tree

One pass over a tree in preorder gathers the findings of a catalog and the measures. The nodes that
are still to be visited wait on a stack, each with the number of nesting constructs above it, so
that the depth of a tree costs no recursion.
-/

namespace ChangeReview.Scan

open Syntax

/-- The nodes to be visited, each with the number of nesting constructs above it. -/
abbrev Pending := List (Node × Nat)

/-- Number of nodes in waiting trees. -/
def Pending.size (p : Pending) : Nat := Node.sizeAll (p.map (·.1))

/-- The number of nesting constructs above the children of a node. -/
def childDepth (n : Node) (depth : Nat) : Nat := if opensNesting n.kind then depth + 1 else depth

/-- What a walk has gathered: findings, last first, and counts. -/
structure Gathered where
  findings : List Finding
  tally : Tally
  deriving DecidableEq, Repr

/-- Visit one node. -/
def Gathered.visit (g : Gathered) (evaluate : Node → Except Fault (List Finding)) (n : Node)
    (depth : Nat) : Except Fault Gathered := do
  let found ← evaluate n
  .ok ⟨found.reverse ++ g.findings, g.tally.visit n depth⟩

theorem Pending.size_step (n : Node) (depth : Nat) (rest : Pending) :
    Pending.size (n.children.map (·, childDepth n depth) ++ rest) < Pending.size ((n, depth) :: rest) := by
  have h : (n.children.map (·, childDepth n depth)).map (·.1) = n.children := by
    simp [Function.comp_def]
  simp only [Pending.size, List.map_append, h, List.map_cons, Node.sizeAll, Node.sizeAll_append,
    Node.size_eq n]
  omega

/-- Visit the waiting nodes, each before its children. -/
def walkPending (evaluate : Node → Except Fault (List Finding)) (g : Gathered) (waiting : Pending) :
    Except Fault Gathered :=
  match waiting with
  | [] => .ok g
  | (n, depth) :: rest =>
    match g.visit evaluate n depth with
    | .error fault => .error fault
    | .ok g => walkPending evaluate g (n.children.map (·, childDepth n depth) ++ rest)
termination_by waiting.size
decreasing_by exact Pending.size_step n depth rest

/-- Walk a tree: its findings in source order, and the counts. -/
def walk (catalog : Catalog) (source filename : String) (root : Node) :
    Except Fault (List Finding × Tally) := do
  let g ← walkPending (catalog.evaluate source filename) ⟨[], .zero⟩ [(root, 0)]
  .ok (g.findings.reverse, g.tally)

end ChangeReview.Scan
