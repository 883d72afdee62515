import Mathlib.Tactic.ByContra
import ChangeReview.Proofs.Scan.Traversal

/-!
# What a catalog whose tests answer finds at a node

Where no test breaks off, the findings at a node are those of the patterns that accept it, entry
after entry and pattern after pattern.
-/

namespace ChangeReview.Scan

open Syntax

/-- The patterns of a catalog in the order of their evaluation, each with its entry. -/
def Catalog.rows (c : Catalog) : List (CatalogEntry × NodePattern) :=
  c.flatMap fun e ↦ e.patterns.map (e, ·)

/-- The answer of a pattern at a node. A test that breaks off does not accept. -/
def NodePattern.accepts (p : NodePattern) (source : String) (n : Node) : Bool :=
  match p.holds source n with
  | .ok b => b
  | .error _ => false

/-- A pattern answers when its test does not break off. -/
def NodePattern.Answers (p : NodePattern) (source : String) (n : Node) : Prop :=
  p.holds source n = .ok (p.accepts source n)

/-- A pattern accepts nodes of its kind only. -/
theorem NodePattern.kind_of_accepts {p : NodePattern} {source : String} {n : Node}
    (h : p.accepts source n) : p.kind = n.kind := by
  by_contra hkind
  rw [accepts, holds, if_neg hkind] at h
  exact absurd h (by decide)

section

variable {α ε : Type} {p : α → Except ε Bool} {q : α → Bool}

theorem filterAuxM_eq_ok {l : List α} (h : ∀ a ∈ l, p a = .ok (q a)) (kept : List α) :
    l.filterAuxM p kept = .ok ((l.filter q).reverse ++ kept) := by
  induction l generalizing kept with
  | nil => rfl
  | cons a l ih =>
    have hrest := ih fun b hb ↦ h b (List.mem_cons_of_mem a hb)
    rw [List.filterAuxM, h a List.mem_cons_self, List.filter_cons]
    show List.filterAuxM p l (cond (q a) (a :: kept) kept) = _
    cases q a with
    | true => rw [cond_true, hrest, if_pos rfl, List.reverse_cons, List.append_assoc]; rfl
    | false => exact hrest kept

/-- A filter whose test always answers is a filter by the answers. -/
theorem filterM_eq_ok {l : List α} (h : ∀ a ∈ l, p a = .ok (q a)) :
    l.filterM p = .ok (l.filter q) := by
  rw [List.filterM, filterAuxM_eq_ok h, List.append_nil]
  show Except.ok _ = _
  rw [List.reverse_reverse]

/-- A map whose function always answers is a map to the answers. -/
theorem mapM_eq_ok {β : Type} {f : α → Except ε β} {g : α → β} {l : List α}
    (h : ∀ a ∈ l, f a = .ok (g a)) : l.mapM f = .ok (l.map g) := by
  induction l with
  | nil => rfl
  | cons a l ih =>
    rw [List.mapM_cons, h a List.mem_cons_self, ih fun b hb ↦ h b (List.mem_cons_of_mem a hb)]
    rfl

end

variable {source filename : String} {n : Node}

theorem CatalogEntry.evaluate_eq_ok {e : CatalogEntry}
    (h : ∀ p ∈ e.patterns, p.Answers source n) :
    e.evaluate source filename n =
      .ok ((e.patterns.filter (·.accepts source n)).map fun _ ↦ e.finding filename n) := by
  rw [evaluate, filterM_eq_ok h]
  rfl

/-- Where every pattern answers, a catalog finds at a node what its accepting patterns report. -/
theorem Catalog.evaluate_eq_ok {c : Catalog} (h : ∀ r ∈ c.rows, r.2.Answers source n) :
    c.evaluate source filename n =
      .ok ((c.rows.filter (·.2.accepts source n)).map (·.1.finding filename n)) := by
  induction c with
  | nil => rfl
  | cons e c ih =>
    rw [rows, List.flatMap_cons, ← rows] at h ⊢
    have hentry : e.evaluate source filename n = _ := e.evaluate_eq_ok fun p hp ↦
      h (e, p) (List.mem_append_left _ (List.mem_map_of_mem hp))
    have hrest := ih fun r hr ↦ h r (List.mem_append_right _ hr)
    have hown : ((e.patterns.map (e, ·)).filter (·.2.accepts source n)).map
        (·.1.finding filename n) =
          (e.patterns.filter (·.accepts source n)).map fun _ ↦ e.finding filename n := by
      rw [List.filter_map, List.map_map]
      rfl
    rw [List.filter_append, List.map_append, hown]
    rw [evaluate] at hrest ⊢
    rw [List.mapM_cons, hentry]
    cases hfound : c.mapM fun e ↦ e.evaluate source filename n with
    | error fault =>
      rw [hfound] at hrest
      exact Except.noConfusion rfl rfl (heq_of_eq hrest)
    | ok found =>
      rw [hfound] at hrest
      rw [← Except.ok.inj hrest]
      rfl

/-! ## Reports -/

/-- What a catalog reports in a tree, in the order of a walk: the key of an entry, and the node that
one of its patterns accepts. -/
def Catalog.reports (c : Catalog) (source filename : String) (root : Node) :
    Except Fault (List (String × Node)) :=
  (root.preorder.mapM fun n ↦
    (c.evaluate source filename n).map (·.map fun f ↦ (f.pattern, n))).map List.flatten

/-- The reports of a catalog whose patterns answer at a node. -/
def Catalog.reportsAt (c : Catalog) (source : String) (n : Node) : List (String × Node) :=
  (c.rows.filter (·.2.accepts source n)).map fun r ↦ (r.1.key, n)

theorem Catalog.reports_eq_ok {c : Catalog} {root : Node}
    (h : ∀ r ∈ c.rows, ∀ n, r.2.Answers source n) :
    c.reports source filename root = .ok (root.preorder.flatMap (c.reportsAt source)) := by
  have heach (n : Node) : (c.evaluate source filename n).map (·.map fun f ↦ (f.pattern, n)) =
      .ok (c.reportsAt source n) := by
    rw [evaluate_eq_ok fun r hr ↦ h r hr n, Except.map, List.map_map]
    rfl
  rw [reports, mapM_eq_ok fun n _ ↦ heach n, Except.map, ← List.flatMap_def]

/-- What a finding tells of a report: the key and the position of the node. -/
def told (report : String × Node) : String × Location :=
  (report.1, .position (report.2.start.row + 1) report.2.start.column)

/-- The findings of a walk tell the reports, in their order. -/
theorem Catalog.walk_tells {c : Catalog} {root : Node}
    (h : ∀ r ∈ c.rows, ∀ n, r.2.Answers source n) :
    ∃ findings tally, walk c source filename root = .ok (findings, tally) ∧
      findings.map (fun f ↦ (f.pattern, f.location)) =
        (root.preorder.flatMap (c.reportsAt source)).map told := by
  have hwalk := walk_eq_mapM_preorder c source filename root
  rw [mapM_eq_ok fun n _ ↦ evaluate_eq_ok fun r hr ↦ h r hr n] at hwalk
  refine ⟨_, _, hwalk, ?_⟩
  rw [← List.flatMap_def, List.map_flatMap, List.map_flatMap]
  refine List.flatMap_congr fun n _ ↦ ?_
  rw [reportsAt, List.map_map, List.map_map]
  rfl

end ChangeReview.Scan
