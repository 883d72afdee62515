import ChangeReview.Proofs.Scan.FileShape
import ChangeReview.Proofs.Syntax.Placement

/-!
# Findings in the order of the text

A walk sees the nodes of a tree in preorder and the entries of the catalog in their order, so the
findings of a file whose tree is in the order of its text come in that order as well.
-/

namespace ChangeReview.Scan

open Syntax

namespace Catalog

variable {c : Catalog} {source : String} {root : Node}

/-- Sightings at one node come in the order of the entries. -/
theorem pairwise_sightingsAt (a : Address) (n : Node) :
    (c.sightingsAt source a n).Pairwise fun x y ↦
      x.address = y.address ∧ x.node = y.node ∧ x.place ≤ y.place := by
  have hplaces : c.zipIdx.Pairwise fun e e' ↦ e.2 < e'.2 := by
    rw [← List.pairwise_map (f := Prod.snd), List.zipIdx_map_snd]
    exact List.pairwise_lt_range'
  rw [sightingsAt, List.pairwise_flatMap]
  refine ⟨fun e _ ↦ ?same, hplaces.imp fun hlt x hx y hy ↦ ?later⟩
  case same => exact List.pairwise_replicate.mpr (.inr ⟨rfl, rfl, Nat.le_refl _⟩)
  case later =>
    rw [CatalogEntry.eq_of_mem_sightingsAt hx, CatalogEntry.eq_of_mem_sightingsAt hy]
    exact ⟨rfl, rfl, Nat.le_of_lt hlt⟩

/-- Sightings come in the order of their nodes in the tree, and at one node in the order of the
entries. -/
theorem pairwise_sightings : (c.sightings source root).Pairwise fun x y ↦
    x.address < y.address ∨ x.address = y.address ∧ x.place ≤ y.place := by
  rw [sightings, List.pairwise_flatMap]
  refine ⟨fun a _ ↦ ?same, root.pairwise_addresses.imp fun hlt x hx y hy ↦ ?later⟩
  case same =>
    cases root.at? a with
    | none => exact .nil
    | some n => exact (pairwise_sightingsAt a n).imp fun h ↦ .inr ⟨h.1, h.2.2⟩
  case later =>
    rw [(of_mem_elim hx).1, (of_mem_elim hy).1]
    exact .inl hlt

/-- In a tree in the order of its text, no sighting is made at a node that starts behind that of a
later sighting. -/
theorem pairwise_start_sightings (h : root.InOrder) :
    (c.sightings source root).Pairwise fun x y ↦ x.node.start ≤ y.node.start := by
  have hstarts := h.pairwise_preorder
  rw [← root.filterMap_at?_addresses, List.pairwise_filterMap] at hstarts
  rw [sightings, List.pairwise_flatMap]
  refine ⟨fun a _ ↦ ?same, hstarts.imp fun hle x hx y hy ↦ ?later⟩
  case same =>
    cases root.at? a with
    | none => exact .nil
    | some n =>
      refine (pairwise_sightingsAt a n).imp fun hsame ↦ ?_
      rw [hsame.2.1]
      exact Position.le_refl _
  case later => exact hle x.node (of_mem_elim hx).2.1 y.node (of_mem_elim hy).2.1

end Catalog

/-- The findings of a file whose tree is in the order of its text are those of the catalog and then
those of the heuristics. Those of the catalog come with nondecreasing lines, and with nondecreasing
columns within a line. Lines count from one. Each is made by an entry at a node of the tree, and
those made at one node come in the order of their entries. -/
theorem findings_in_source_order {s : Scanner} {content filename : String} {tree : Node}
    (htree : s.tree? content filename = some tree) (horder : tree.InOrder) :
    ((∃ a, s.scan content filename = .ok a) ↔ s.catalog.Answers content tree) ∧
    ∀ a, s.scan content filename = .ok a →
      let seen := s.catalog.sightings content tree
      a.parsed ∧
      a.findings = seen.map (·.finding filename) ++ heuristicFindings content ∧
      (∃ places : List (Nat × Nat),
        (seen.map (·.finding filename)).map (·.location) =
          places.map (fun p ↦ .position p.1 p.2) ∧
        (∀ p ∈ places, 1 ≤ p.1) ∧
        places.Pairwise fun p q ↦ p.1 < q.1 ∨ p.1 = q.1 ∧ p.2 ≤ q.2) ∧
      (∀ x ∈ seen, tree.at? x.address = some x.node ∧ s.catalog[x.place]? = some x.entry) ∧
      seen.Pairwise fun x y ↦
        x.address < y.address ∨ x.address = y.address ∧ x.place ≤ y.place := by
  constructor
  case left =>
    constructor
    · rintro ⟨a, ha⟩
      exact Scanner.answers_of_scan htree ha
    · intro h
      exact ⟨_, Scanner.scan_of_tree? htree h⟩
  case right =>
    intro a ha seen
    have hanswers := Scanner.answers_of_scan htree ha
    obtain rfl := Except.ok.inj (ha.symm.trans (Scanner.scan_of_tree? htree hanswers))
    refine ⟨rfl, rfl, ⟨seen.map fun x ↦ (x.node.start.row + 1, x.node.start.column), ?same, ?lines,
      ?ascend⟩, fun x hx ↦ ?own, Catalog.pairwise_sightings⟩
    case same =>
      rw [List.map_map, List.map_map]
      rfl
    case lines =>
      intro p hp
      obtain ⟨x, -, rfl⟩ := List.mem_map.mp hp
      exact Nat.succ_pos _
    case ascend =>
      rw [List.pairwise_map]
      refine (Catalog.pairwise_start_sightings horder).imp fun hle ↦ ?_
      rw [Position.le_def] at hle
      omega
    case own =>
      obtain ⟨hnode, hentry, -⟩ := Catalog.of_mem_sightings hx
      exact ⟨hnode, hentry⟩

/-- A call and two names, the last on a line of its own, are told by their lines and columns, and
the finding without a position comes last. -/
theorem findings_in_source_order_nested_call :
    let always : NodeTest := fun _ _ ↦ .ok true
    let names : CatalogEntry := ⟨"names", .codeInjection, .low, "CWE-0", [⟨"name", always⟩]⟩
    let calls : CatalogEntry :=
      ⟨"calls", .weakCryptography, .critical, "CWE-1", [⟨"call", always⟩, ⟨"name", always⟩]⟩
    let tree : Node := .mk "program" true none ⟨0, 0⟩ "" [
      .mk "call" true none ⟨0, 0⟩ "" [.mk "name" true none ⟨0, 2⟩ "g" []],
      .mk "name" true none ⟨1, 0⟩ "md5" []]
    let s : Scanner := ⟨fun _ _ ↦ some tree, [names, calls]⟩
    s.tree? "f(g)\nmd5" "a.js" = some tree ∧ tree.InOrder ∧
      ∃ a, s.scan "f(g)\nmd5" "a.js" = .ok a ∧
        a.findings.map (fun f ↦ (f.pattern, f.location)) =
          [("calls", .position 1 0), ("names", .position 1 2), ("calls", .position 1 2),
            ("names", .position 2 0), ("calls", .position 2 0),
            ("weakHash", .described "Cryptographic functions")] := by
  intro always names calls tree s
  have htree : s.tree? "f(g)\nmd5" "a.js" = some tree := by with_unfolding_all rfl
  have horder : tree.InOrder := ⟨by decide, by decide⟩
  have hanswers : s.catalog.Answers "f(g)\nmd5" tree := by
    simp [Catalog.Answers, s, names, calls, always]
  obtain ⟨hok, hfindings⟩ := findings_in_source_order htree horder
  obtain ⟨a, ha⟩ := hok.mpr hanswers
  obtain ⟨-, hall, -⟩ := hfindings a ha
  refine ⟨htree, horder, a, ha, ?_⟩
  rw [hall]
  with_unfolding_all rfl

end ChangeReview.Scan
