import Mathlib.Data.List.Basic
import Mathlib.Data.List.Induction
import Mathlib.Order.Bounds.Basic
import Mathlib.Order.MinMax
import ChangeReview.Proofs.Syntax.Address
import ChangeReview.Scan.FileScan

/-!
# What a walk visits

A walk takes the waiting nodes from a stack, but visits the nodes of a tree as a recursion over the
tree would: each address once, in preorder, with the number of nesting constructs above it. So its
findings are those of the nodes one after the other, and its counts are counts of nodes.
-/

namespace ChangeReview.Scan

open Syntax

/-- Whether a node opens a level of nesting. -/
def nests (n : Node) : Bool := opensNesting n.kind

mutual

/-- The visits of a tree below `depth` nesting constructs, by recursion: the node itself, then its
children's trees from left to right. -/
def visits : (depth : Nat) → Node → List (Node × Nat)
  | depth, .mk kind named role start text children =>
    let n := .mk kind named role start text children
    (n, depth) :: visitsAll (childDepth n depth) children

/-- The visits of trees that follow each other. -/
def visitsAll : (depth : Nat) → List Node → List (Node × Nat)
  | _, [] => []
  | depth, n :: rest => visits depth n ++ visitsAll depth rest

end

theorem visits_eq (depth : Nat) (n : Node) :
    visits depth n = (n, depth) :: visitsAll (childDepth n depth) n.children := by
  cases n
  rfl

theorem visitsAll_eq_flatMap (depth : Nat) (trees : List Node) :
    visitsAll depth trees = trees.flatMap (visits depth) := by
  induction trees with
  | nil => rfl
  | cons n rest ih => rw [visitsAll, ih, List.flatMap_cons]

theorem childDepth_eq (n : Node) (depth : Nat) :
    childDepth n depth = depth + if nests n then 1 else 0 := by
  rw [childDepth, ← nests]
  split <;> rfl

/-- The visits of a tree are its addresses in preorder: the node there, and how many nodes above it
open a level of nesting. -/
theorem visits_eq_filterMap (depth : Nat) (n : Node) :
    visits depth n =
      n.addresses.filterMap fun a ↦ (n.at? a).map (·, depth + (n.above a).countP nests) := by
  induction n using Node.induction_children generalizing depth with
  | step n ih =>
    rw [visits_eq, visitsAll_eq_flatMap, Node.addresses_eq]
    refine congrArg ((n, depth) :: ·) (Node.filterMap_addressesFrom fun i c hc ↦ ?_).symm
    rw [ih c (List.mem_of_getElem? hc), childDepth_eq]
    refine List.filterMap_congr fun a _ ↦ ?_
    rw [Nat.zero_add, Node.at?_cons, hc, Option.bind_some, Node.above_cons_of_getElem? hc,
      List.countP_cons, Nat.add_assoc, Nat.add_comm (List.countP nests (c.above a))]

theorem map_fst_visits (depth : Nat) (n : Node) : (visits depth n).map (·.1) = n.preorder := by
  rw [visits_eq_filterMap, List.map_filterMap, ← Node.filterMap_at?_addresses]
  simp only [Option.map_map, Function.comp_def, Option.map_id']

/-- Count visits, one after the other. -/
def Tally.visitAll (t : Tally) (vs : List (Node × Nat)) : Tally :=
  vs.foldl (fun t v ↦ t.visit v.1 v.2) t

theorem Tally.visitAll_cons (t : Tally) (v : Node × Nat) (vs : List (Node × Nat)) :
    t.visitAll (v :: vs) = (t.visit v.1 v.2).visitAll vs := rfl

/-! ## The stack follows the recursion -/

section

variable (evaluate : Node → Except Fault (List Finding))

/-- A walk makes the visits of the waiting trees, one tree after the other. -/
theorem walkPending_eq_foldlM (g : Gathered) (waiting : Pending) :
    walkPending evaluate g waiting =
      (waiting.flatMap fun w ↦ visits w.2 w.1).foldlM (fun g v ↦ g.visit evaluate v.1 v.2) g := by
  fun_induction walkPending evaluate g waiting with
  | case1 g => rfl
  | case2 g n depth rest fault hvisit =>
    rw [List.flatMap_cons, visits_eq, List.cons_append, List.foldlM_cons, hvisit]
    rfl
  | case3 g n depth rest g' hvisit ih =>
    -- the children wait before the rest, each with the depth that the recursion gives it
    rw [ih, List.flatMap_cons, List.flatMap_append, List.flatMap_map, visits_eq,
      visitsAll_eq_flatMap, List.cons_append, List.foldlM_cons, hvisit]
    rfl

/-- Visits evaluate their nodes in turn, gather what is found and count. -/
theorem foldlM_visit (g : Gathered) (vs : List (Node × Nat)) :
    vs.foldlM (fun g v ↦ g.visit evaluate v.1 v.2) g =
      ((vs.map (·.1)).mapM evaluate).map fun found ↦
        ⟨found.flatten.reverse ++ g.findings, g.tally.visitAll vs⟩ := by
  induction vs generalizing g with
  | nil => rfl
  | cons v vs ih =>
    rw [List.foldlM_cons, List.map_cons, List.mapM_cons, Gathered.visit]
    cases evaluate v.1 with
    | error fault => rfl
    | ok found =>
      show vs.foldlM _ (⟨found.reverse ++ g.findings, g.tally.visit v.1 v.2⟩ : Gathered) = _
      rw [ih]
      cases (vs.map (·.1)).mapM evaluate with
      | error fault => rfl
      | ok later =>
        have hfound : later.flatten.reverse ++ (found.reverse ++ g.findings) =
            (found :: later).flatten.reverse ++ g.findings := by
          rw [List.flatten_cons, List.reverse_append, List.append_assoc]
        exact congrArg (fun fs ↦ Except.ok (⟨fs, _⟩ : Gathered)) hfound

end

/-- A walk gives what the evaluations of the nodes give in preorder, up to the first that breaks
off, and counts its visits. -/
theorem walk_eq_mapM_preorder (catalog : Catalog) (source filename : String) (root : Node) :
    walk catalog source filename root =
      (root.preorder.mapM (catalog.evaluate source filename)).map fun found ↦
        (found.flatten, Tally.zero.visitAll (visits 0 root)) := by
  rw [walk, walkPending_eq_foldlM, List.flatMap_singleton, foldlM_visit, map_fst_visits]
  cases root.preorder.mapM (catalog.evaluate source filename) with
  | error fault => rfl
  | ok found =>
    simp only [Except.map, List.append_nil]
    show Except.ok (found.flatten.reverse.reverse, _) = _
    rw [List.reverse_reverse]

/-! ## Counts -/

section

variable (t : Tally) (kind : String)

/-- A kind that is a function is neither a loop nor a branch, and a loop is no branch. -/
theorem kinds_apart :
    (∀ k ∈ functionKinds, k ∉ loopKinds ∧ k ∉ branchKinds) ∧ ∀ k ∈ loopKinds, k ∉ branchKinds := by
  decide

theorem functions_count :
    (t.count kind).functions = t.functions + if functionKinds.contains kind then 1 else 0 := by
  unfold Tally.count
  split_ifs <;> rfl

theorem loops_count :
    (t.count kind).loops = t.loops + if loopKinds.contains kind then 1 else 0 := by
  have hfunction : functionKinds.contains kind → loopKinds.contains kind = false := by
    simpa using fun h ↦ (kinds_apart.1 kind h).1
  unfold Tally.count
  split_ifs <;> simp_all

theorem branches_count :
    (t.count kind).branches = t.branches + if branchKinds.contains kind then 1 else 0 := by
  have hfunction : functionKinds.contains kind → branchKinds.contains kind = false := by
    simpa using fun h ↦ (kinds_apart.1 kind h).2
  have hloop : loopKinds.contains kind → branchKinds.contains kind = false := by
    simpa using kinds_apart.2 kind
  unfold Tally.count
  split_ifs <;> simp_all

/-- The kinds that complexity is made of. -/
def isUnit (kind : String) : Bool :=
  functionKinds.contains kind || loopKinds.contains kind || branchKinds.contains kind ||
    kind == conditionalKind

theorem units_count : (t.count kind).units = t.units + if isUnit kind then 1 else 0 := by
  unfold Tally.count isUnit
  split_ifs <;> simp_all

theorem nestingDepth_count : (t.count kind).nestingDepth = t.nestingDepth := by
  unfold Tally.count
  split_ifs <;> rfl

theorem deepen_eq (depth : Nat) :
    t.deepen kind depth =
      { t with nestingDepth := if opensNesting kind then max t.nestingDepth (depth + 1)
                               else t.nestingDepth } := by
  unfold Tally.deepen
  split <;> rfl

theorem nestingDepth_visit (n : Node) (depth : Nat) :
    (t.visit n depth).nestingDepth =
      if n.named ∧ nests n then max t.nestingDepth (depth + 1) else t.nestingDepth := by
  unfold Tally.visit
  split
  · next hnamed => simp only [deepen_eq, nestingDepth_count, hnamed, nests, true_and]
  · next hnamed => rw [if_neg fun h ↦ hnamed h.1]

end

/-- A field that only named nodes of certain kinds raise, by one each, counts those nodes. -/
theorem visitAll_eq_countP {field : Tally → Nat} {counts : String → Bool}
    (hcount : ∀ t kind, field (t.count kind) = field t + if counts kind then 1 else 0)
    (hdeepen : ∀ t kind depth, field (t.deepen kind depth) = field t) (t : Tally)
    (vs : List (Node × Nat)) :
    field (t.visitAll vs) =
      field t + (vs.map (·.1)).countP fun n ↦ n.named && counts n.kind := by
  induction vs generalizing t with
  | nil => rfl
  | cons v vs ih =>
    rw [Tally.visitAll_cons, ih, List.map_cons, List.countP_cons, Tally.visit]
    cases v.1.named with
    | false => simp
    | true => simp only [if_true, hdeepen, hcount, Bool.true_and]; omega

/-- `visitAll_eq_countP` for the visits of a tree. -/
theorem visits_eq_countP {field : Tally → Nat} {counts : String → Bool}
    (hcount : ∀ t kind, field (t.count kind) = field t + if counts kind then 1 else 0)
    (hdeepen : ∀ t kind depth, field (t.deepen kind depth) = field t) (hzero : field .zero = 0)
    (root : Node) :
    field (Tally.zero.visitAll (visits 0 root)) =
      root.preorder.countP fun n ↦ n.named && counts n.kind := by
  rw [visitAll_eq_countP hcount hdeepen, hzero, Nat.zero_add, map_fst_visits]

/-! ## Depth of nesting -/

/-- The depth of nesting is at least what it was, and more than the depth at each nesting node. -/
theorem le_nestingDepth_visitAll (t : Tally) (vs : List (Node × Nat)) :
    let deepest := (t.visitAll vs).nestingDepth
    t.nestingDepth ≤ deepest ∧ ∀ v ∈ vs, v.1.named → nests v.1 → v.2 + 1 ≤ deepest := by
  induction vs generalizing t with
  | nil => exact ⟨le_rfl, by simp⟩
  | cons v vs ih =>
    obtain ⟨hfirst, hrest⟩ := ih (t.visit v.1 v.2)
    rw [nestingDepth_visit] at hfirst
    refine ⟨?start, ?nodes⟩
    case start =>
      refine le_trans ?_ hfirst
      split
      · exact le_max_left _ _
      · exact le_rfl
    case nodes =>
      intro w hw hnamed hnests
      rcases List.mem_cons.mp hw with rfl | hw
      · rw [if_pos ⟨hnamed, hnests⟩] at hfirst
        exact (le_max_right _ _).trans hfirst
      · exact hrest w hw hnamed hnests

/-- The depth of nesting is what it was, or one more than the depth at some nesting node. -/
theorem nestingDepth_visitAll_cases (t : Tally) (vs : List (Node × Nat)) :
    let deepest := (t.visitAll vs).nestingDepth
    deepest = t.nestingDepth ∨ ∃ v ∈ vs, v.1.named ∧ nests v.1 ∧ deepest = v.2 + 1 := by
  induction vs generalizing t with
  | nil => exact .inl rfl
  | cons v vs ih =>
    rcases ih (t.visit v.1 v.2) with h | ⟨w, hw, hnests⟩
    · rw [nestingDepth_visit] at h
      split at h
      · next hv =>
        rcases max_choice t.nestingDepth (v.2 + 1) with hmax | hmax
        · exact .inl (h.trans hmax)
        · exact .inr ⟨v, List.mem_cons_self, hv.1, hv.2, h.trans hmax⟩
      · exact .inl h
    · exact .inr ⟨w, List.mem_cons_of_mem v hw, hnests⟩

theorem countP_pathTo_of_at? {root n : Node} {a : Address} (h : root.at? a = some n) :
    (root.pathTo a).countP nests = (root.above a).countP nests + if nests n then 1 else 0 := by
  rw [Node.pathTo, h, List.countP_append, Option.toList_some, List.countP_singleton]

/-- A way through a tree has no more nesting nodes than the way to its last one. -/
theorem countP_pathTo_le {root : Node} {bound : Nat}
    (h : ∀ a n, root.at? a = some n → nests n → (root.above a).countP nests + 1 ≤ bound)
    {a : Address} {n : Node} (ha : root.at? a = some n) : (root.pathTo a).countP nests ≤ bound := by
  induction a using List.reverseRecOn generalizing n with
  | nil =>
    rw [countP_pathTo_of_at? ha]
    split
    · next hnests => exact h [] n ha hnests
    · exact Nat.zero_le bound
  | append_singleton a i ih =>
    rw [countP_pathTo_of_at? ha]
    split
    · next hnests => exact h (a ++ [i]) n ha hnests
    · rw [Node.above_concat, Nat.add_zero]
      rw [Node.at?_append, Option.bind_eq_some_iff] at ha
      obtain ⟨m, hm, -⟩ := ha
      exact ih hm

theorem mem_visits_iff {root n : Node} {depth : Nat} :
    (n, depth) ∈ visits 0 root ↔
      ∃ a, root.at? a = some n ∧ (root.above a).countP nests = depth := by
  simp only [visits_eq_filterMap, List.mem_filterMap, Option.map_eq_some_iff, Prod.mk.injEq,
    Nat.zero_add]
  constructor
  · rintro ⟨a, -, n, hn, rfl, hdepth⟩
    exact ⟨a, hn, hdepth⟩
  · rintro ⟨a, hn, hdepth⟩
    exact ⟨a, Node.mem_addresses.mpr (hn ▸ rfl), n, hn, rfl, hdepth⟩

/-- The depth of nesting of a tree whose nesting nodes are named is the greatest number of nesting
nodes on a way from the root to a node. -/
theorem isGreatest_nestingDepth {root : Node}
    (hnamed : ∀ a n, root.at? a = some n → nests n → n.named) :
    IsGreatest {d | ∃ a, (root.at? a).isSome ∧ d = (root.pathTo a).countP nests}
      (Tally.zero.visitAll (visits 0 root)).nestingDepth := by
  obtain ⟨-, hbound⟩ := le_nestingDepth_visitAll .zero (visits 0 root)
  have hupper {a : Address} {n : Node} (ha : root.at? a = some n) :
      (root.pathTo a).countP nests ≤ (Tally.zero.visitAll (visits 0 root)).nestingDepth := by
    refine countP_pathTo_le (fun b m hb hnests ↦ ?_) ha
    exact hbound (m, _) (mem_visits_iff.mpr ⟨b, hb, rfl⟩) (hnamed b m hb hnests) hnests
  constructor
  · rcases nestingDepth_visitAll_cases .zero (visits 0 root) with h | ⟨⟨n, depth⟩, hv, -, hnests, h⟩
    · -- nothing nests, and the way to the root shows it
      refine ⟨[], rfl, Nat.le_antisymm (h.trans_le (Nat.zero_le _)) (hupper rfl)⟩
    · obtain ⟨a, ha, hdepth⟩ := mem_visits_iff.mp hv
      refine ⟨a, ha ▸ rfl, ?_⟩
      rw [h, countP_pathTo_of_at? ha, if_pos hnests, hdepth]
  · rintro _ ⟨a, ha, rfl⟩
    obtain ⟨n, hn⟩ := Option.isSome_iff_exists.mp ha
    exact hupper hn

/-! ## What a scan reports -/

/-- Measures that tell of the nodes of a tree: how many of its named nodes are functions, loops and
branches, and, where the nesting nodes are named, the greatest number of them on a way from the root
to a node. -/
structure Measures (root : Node) (m : CodeMetrics) : Prop where
  functions : m.functions = root.preorder.countP fun n ↦ n.named && functionKinds.contains n.kind
  loops : m.loops = root.preorder.countP fun n ↦ n.named && loopKinds.contains n.kind
  branches : m.branches = root.preorder.countP fun n ↦ n.named && branchKinds.contains n.kind
  nestingDepth : (∀ a n, root.at? a = some n → opensNesting n.kind → n.named) →
    IsGreatest {d | ∃ a, (root.at? a).isSome ∧
      d = (root.pathTo a).countP fun n ↦ opensNesting n.kind} m.nestingDepth

/-- The measures that a file with this tree is given. -/
theorem measures_visits (root : Node) (content : String) :
    Measures root ((Tally.zero.visitAll (visits 0 root)).metrics content) where
  functions := visits_eq_countP functions_count (by simp [deepen_eq]) rfl root
  loops := visits_eq_countP loops_count (by simp [deepen_eq]) rfl root
  branches := visits_eq_countP branches_count (by simp [deepen_eq]) rfl root
  nestingDepth := isGreatest_nestingDepth

/-- The analysis of a file with a tree: what the evaluations of the nodes give in preorder, up to the
first that breaks off, then the heuristics, and the measures of the visits. -/
theorem scanTree_eq_mapM_preorder (s : Scanner) (content filename : String) (root : Node) :
    s.scanTree content filename root =
      (root.preorder.mapM (s.catalog.evaluate content filename)).map fun found ↦
        { filename
          findings := found.flatten ++ heuristicFindings content
          complexity := (Tally.zero.visitAll (visits 0 root)).complexity
          metrics := (Tally.zero.visitAll (visits 0 root)).metrics content
          parsed := true } := by
  rw [Scanner.scanTree, walk_eq_mapM_preorder]
  cases root.preorder.mapM (s.catalog.evaluate content filename) with
  | error fault => rfl
  | ok found => rfl

/-- The walk with the stack is the recursion over the tree. It visits each address of the tree once
and in preorder, and tells each node how many nodes above it open a level of nesting. So its
findings are those of the nodes in preorder, unless the evaluation of a node breaks off; and the
analysis of the file reports them with the measures of the tree: functions, loops and branches are
counts of named nodes, and the depth of nesting is the greatest number of nesting nodes on a way from
the root, where all of these are named. -/
theorem walk_refines_preorder (s : Scanner) (source filename : String) (root : Node) :
    ((∀ a, a ∈ root.addresses ↔ (root.at? a).isSome) ∧ root.addresses.Pairwise (· < ·) ∧
      root.preorder = root.addresses.filterMap root.at?) ∧
    visits 0 root = root.addresses.filterMap (fun a ↦
      (root.at? a).map (·, (root.above a).countP fun n ↦ opensNesting n.kind)) ∧
    (∀ g, walkPending (s.catalog.evaluate source filename) g [(root, 0)] =
      (visits 0 root).foldlM
        (fun g v ↦ g.visit (s.catalog.evaluate source filename) v.1 v.2) g) ∧
    ∃ tally,
      walk s.catalog source filename root =
        (root.preorder.mapM (s.catalog.evaluate source filename)).map (fun found ↦
          (found.flatten, tally)) ∧
      s.scanTree source filename root =
        (root.preorder.mapM (s.catalog.evaluate source filename)).map (fun found ↦
          { filename
            findings := found.flatten ++ heuristicFindings source
            complexity := tally.complexity
            metrics := tally.metrics source
            parsed := true }) ∧
      tally.units = root.preorder.countP (fun n ↦ n.named && isUnit n.kind) ∧
      Measures root (tally.metrics source) := by
  refine ⟨⟨fun a ↦ Node.mem_addresses, root.pairwise_addresses,
    root.filterMap_at?_addresses.symm⟩, ?depths, fun g ↦ ?visits, _,
    walk_eq_mapM_preorder s.catalog source filename root,
    scanTree_eq_mapM_preorder s source filename root, ?units, measures_visits root source⟩
  case depths =>
    rw [visits_eq_filterMap]
    simp only [Nat.zero_add]
    rfl
  case visits => rw [walkPending_eq_foldlM, List.flatMap_singleton]
  case units => exact visits_eq_countP units_count (by simp [deepen_eq]) rfl root

/-- A loop in a branch, beside a loop that stands alone, is nested two deep. -/
theorem walk_refines_preorder_loop_in_branch :
    let leaf (kind : String) (named : Bool) : Node := .mk kind named none ⟨0, 0⟩ kind []
    let root : Node := .mk "program" true none ⟨0, 0⟩ "" [
      .mk "if_statement" true none ⟨0, 0⟩ "" [leaf "if" false, leaf "identifier" true,
        .mk "for_statement" true none ⟨1, 2⟩ "" [leaf "for" false, leaf "break_statement" true]],
      .mk "while_statement" true none ⟨2, 0⟩ "" [leaf "while" false]]
    (∀ a n, root.at? a = some n → opensNesting n.kind → n.named) ∧
      ∃ a, Scanner.scanTree ⟨fun _ _ ↦ none, []⟩ "" "a.js" root = .ok a ∧
        a.metrics.functions = 0 ∧ a.metrics.loops = 2 ∧ a.metrics.branches = 1 ∧
        a.metrics.nestingDepth = 2 ∧
        IsGreatest {d | ∃ a, (root.at? a).isSome ∧
          d = (root.pathTo a).countP fun n ↦ opensNesting n.kind} a.metrics.nestingDepth := by
  intro leaf root
  have hnamed : ∀ a n, root.at? a = some n → opensNesting n.kind → n.named := by
    have hall : ∀ n ∈ root.preorder, opensNesting n.kind → n.named := by decide
    exact fun a n h ↦ hall n (Node.mem_preorder_iff.mpr ⟨a, h⟩)
  obtain ⟨-, -, -, tally, hwalk, hscan, -, hmeasures⟩ :=
    walk_refines_preorder ⟨fun _ _ ↦ none, []⟩ "" "a.js" root
  have htally : tally = ⟨3, 0, 2, 1, 2⟩ := by
    have hok : walk [] "" "a.js" root = .ok ([], ⟨3, 0, 2, 1, 2⟩) := by with_unfolding_all rfl
    rw [hwalk] at hok
    exact congrArg Prod.snd (Except.ok.inj hok)
  refine ⟨hnamed, _, hscan, hmeasures.functions, hmeasures.loops, hmeasures.branches, ?depth,
    hmeasures.nestingDepth hnamed⟩
  case depth =>
    rw [htally]
    rfl

end ChangeReview.Scan
