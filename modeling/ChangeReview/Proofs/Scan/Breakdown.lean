import ChangeReview.Scan.FileScan

/-!
# Scans that break off

A walk breaks off exactly when a test of the catalog does at some node of the tree, and then the
whole scan does, so that nothing is left of what the walk had gathered before. A scan that does not
break off names the file it was given.
-/

namespace ChangeReview.Scan

open Syntax

/-- A visit breaks off exactly when the evaluation of its node does. -/
theorem Gathered.visit_eq_error_iff (g : Gathered) (evaluate : Node → Except Fault (List Finding))
    (n : Node) (depth : Nat) (fault : Fault) :
    g.visit evaluate n depth = .error fault ↔ evaluate n = .error fault := by
  unfold Gathered.visit
  cases evaluate n with
  | error e => simp [bind, Except.bind]
  | ok found => simp [bind, Except.bind]

/-- A walk breaks off exactly when the evaluation of one of the nodes does that it still has to
visit. -/
theorem walkPending_breaks_iff (evaluate : Node → Except Fault (List Finding)) (g : Gathered)
    (waiting : Pending) :
    (∃ fault, walkPending evaluate g waiting = .error fault) ↔
      ∃ n ∈ Node.preorderAll (waiting.map (·.1)), ∃ fault, evaluate n = .error fault := by
  fun_induction walkPending evaluate g waiting with
  | case1 g => simp [Node.preorderAll]
  | case2 g n depth rest fault hvisit =>
    have hn := (g.visit_eq_error_iff evaluate n depth fault).mp hvisit
    refine iff_of_true ⟨fault, rfl⟩ ⟨n, ?_, fault, hn⟩
    rw [List.map_cons, Node.preorderAll, Node.preorder_eq]
    exact List.mem_append_left _ List.mem_cons_self
  | case3 g n depth rest g' hvisit ih =>
    -- the node itself is done with, and its children wait before the rest
    have hn : ¬ ∃ fault, evaluate n = .error fault := by
      rintro ⟨fault, hfault⟩
      rw [(g.visit_eq_error_iff evaluate n depth fault).mpr hfault] at hvisit
      exact Except.noConfusion rfl rfl (heq_of_eq hvisit)
    have hchildren : (n.children.map (·, childDepth n depth)).map (·.1) = n.children := by
      simp [Function.comp_def]
    rw [ih, List.map_append, hchildren, Node.preorderAll_append, List.map_cons, Node.preorderAll,
      Node.preorder_eq, List.cons_append]
    simp [hn]

/-- The walk of a tree breaks off exactly when the catalog does at one of its nodes. -/
theorem walk_breaks_iff (catalog : Catalog) (source filename : String) (root : Node) :
    (∃ fault, walk catalog source filename root = .error fault) ↔
      ∃ n ∈ root.preorder, ∃ fault, catalog.evaluate source filename n = .error fault := by
  have hpending := walkPending_breaks_iff (catalog.evaluate source filename) ⟨[], .zero⟩ [(root, 0)]
  rw [List.map_singleton, Node.preorderAll, Node.preorderAll, List.append_nil] at hpending
  rw [← hpending, walk]
  cases walkPending (catalog.evaluate source filename) ⟨[], .zero⟩ [(root, 0)] with
  | error fault => simp [bind, Except.bind]
  | ok g => simp [bind, Except.bind]

namespace Scanner

variable (s : Scanner) (content filename : String)

/-- A scan breaks off exactly when the file has a tree and the catalog does at one of its nodes. -/
theorem scan_breaks_iff :
    (∃ fault, s.scan content filename = .error fault) ↔
      ∃ tree, s.tree? content filename = some tree ∧
        ∃ n ∈ tree.preorder, ∃ fault, s.catalog.evaluate content filename n = .error fault := by
  unfold scan
  cases s.tree? content filename with
  | none => simp
  | some tree =>
    simp only [Option.some.injEq, exists_eq_left', ← walk_breaks_iff, scanTree]
    cases walk s.catalog content filename tree with
    | error fault => simp [bind, Except.bind]
    | ok walked => simp [bind, Except.bind]

variable {s content filename}

/-- An analysis is filed under the name of the scanned file. -/
theorem filename_of_scan {a : FileAnalysis} (h : s.scan content filename = .ok a) :
    a.filename = filename := by
  unfold scan at h
  split at h
  · next tree htree =>
    unfold scanTree at h
    cases hwalk : walk s.catalog content filename tree with
    | error fault => simp [hwalk, bind, Except.bind] at h
    | ok walked =>
      rw [hwalk] at h
      rw [← Except.ok.inj h]
  · rw [← Except.ok.inj h]
    rfl

end Scanner

end ChangeReview.Scan
