import Mathlib.Data.List.Basic
import ChangeReview.Proofs.Scan.Evaluation

/-!
# What a walk sees

A walk gets through a tree when no test breaks off on it, and then its findings are told by its
sightings: for each node in preorder, for each entry of the catalog in its order, one for every
pattern of the entry that accepts the node. Sightings keep apart what findings do not tell, namely
which node was seen and which entry saw it.
-/

namespace ChangeReview.Scan

open Syntax

/-- One match of a pattern: the node and its address, the entry and its place in the catalog. -/
structure Sighting where
  address : Address
  node : Node
  place : Nat
  entry : CatalogEntry

/-- The finding that reports a sighting. -/
def Sighting.finding (filename : String) (x : Sighting) : Finding := x.entry.finding filename x.node

/-- A test answers at every node of a tree that it is made on. -/
def Catalog.Answers (c : Catalog) (source : String) (root : Node) : Prop :=
  ∀ e ∈ c, ∀ p ∈ e.patterns, ∀ n ∈ root.preorder, p.kind = n.kind → ∃ b, p.test n source = .ok b

/-- The sightings of an entry at a node, one for each pattern that accepts the node. -/
def CatalogEntry.sightingsAt (e : CatalogEntry) (source : String) (a : Address) (n : Node)
    (place : Nat) : List Sighting :=
  List.replicate (e.patterns.countP (·.accepts source n)) ⟨a, n, place, e⟩

/-- The sightings at a node, entry after entry. -/
def Catalog.sightingsAt (c : Catalog) (source : String) (a : Address) (n : Node) : List Sighting :=
  c.zipIdx.flatMap fun e ↦ e.1.sightingsAt source a n e.2

/-- The sightings in a tree, node after node. -/
def Catalog.sightings (c : Catalog) (source : String) (root : Node) : List Sighting :=
  root.addresses.flatMap fun a ↦ (root.at? a).elim [] (c.sightingsAt source a)

/-! ## When a walk gets through -/

section

variable {α ε : Type}

theorem exists_ok_of_filterAuxM {p : α → Except ε Bool} {l kept result : List α}
    (h : l.filterAuxM p kept = .ok result) : ∀ a ∈ l, ∃ b, p a = .ok b := by
  induction l generalizing kept with
  | nil => simp
  | cons a l ih =>
    rw [List.filterAuxM] at h
    cases hp : p a with
    | error e =>
      rw [hp] at h
      cases h
    | ok b =>
      rw [hp] at h
      exact List.forall_mem_cons.mpr ⟨⟨b, hp⟩, ih h⟩

/-- A filter that gives a result has got an answer on every item. -/
theorem exists_ok_of_filterM {p : α → Except ε Bool} {l result : List α}
    (h : l.filterM p = .ok result) : ∀ a ∈ l, ∃ b, p a = .ok b := by
  rw [List.filterM] at h
  cases hkept : l.filterAuxM p [] with
  | error e =>
    rw [hkept] at h
    cases h
  | ok kept => exact exists_ok_of_filterAuxM hkept

/-- A map that gives a result has got one from every item. -/
theorem exists_ok_of_mapM {β : Type} {f : α → Except ε β} {l : List α} {result : List β}
    (h : l.mapM f = .ok result) : ∀ a ∈ l, ∃ b, f a = .ok b := by
  induction l generalizing result with
  | nil => simp
  | cons a l ih =>
    rw [List.mapM_cons] at h
    cases hf : f a with
    | error e =>
      rw [hf] at h
      cases h
    | ok b =>
      rw [hf] at h
      cases hrest : l.mapM f with
      | error e =>
        rw [hrest] at h
        cases h
      | ok rest => exact List.forall_mem_cons.mpr ⟨⟨b, hf⟩, ih hrest⟩

end

theorem Catalog.mem_rows {c : Catalog} {r : CatalogEntry × NodePattern} :
    r ∈ c.rows ↔ r.1 ∈ c ∧ r.2 ∈ r.1.patterns := by
  rw [rows, List.mem_flatMap]
  constructor
  · rintro ⟨e, he, hr⟩
    obtain ⟨p, hp, rfl⟩ := List.mem_map.mp hr
    exact ⟨he, hp⟩
  · rintro ⟨he, hp⟩
    exact ⟨r.1, he, List.mem_map_of_mem hp⟩

variable {source filename : String} {root n : Node}

theorem NodePattern.answers_iff {p : NodePattern} :
    p.Answers source n ↔ ∃ b, p.holds source n = .ok b := by
  constructor
  · intro h
    exact ⟨_, h⟩
  · rintro ⟨b, hb⟩
    rw [Answers, accepts, hb]

theorem NodePattern.accepts_iff {p : NodePattern} :
    p.accepts source n ↔ p.kind = n.kind ∧ p.test n source = .ok true := by
  unfold accepts holds
  by_cases hkind : p.kind = n.kind
  · cases htest : p.test n source with
    | error fault => simp [hkind]
    | ok b => simp [hkind]
  · simp [hkind]

theorem Catalog.answers_iff {c : Catalog} :
    c.Answers source root ↔ ∀ n ∈ root.preorder, ∀ r ∈ c.rows, r.2.Answers source n := by
  have hholds (p : NodePattern) (n : Node) :
      p.Answers source n ↔ (p.kind = n.kind → ∃ b, p.test n source = .ok b) := by
    rw [NodePattern.answers_iff, NodePattern.holds]
    by_cases hkind : p.kind = n.kind
    · simp [hkind]
    · simp [hkind]
  simp only [hholds, mem_rows]
  constructor
  · intro h n hn r hr
    exact h r.1 hr.1 r.2 hr.2 n hn
  · intro h e he p hp n hn
    exact h n hn (e, p) ⟨he, hp⟩

/-- Where the evaluation of a catalog gives findings, every pattern has answered. -/
theorem Catalog.answers_of_evaluate {c : Catalog} {found : List Finding}
    (h : c.evaluate source filename n = .ok found) : ∀ r ∈ c.rows, r.2.Answers source n := by
  intro r hr
  obtain ⟨he, hp⟩ := mem_rows.mp hr
  rw [evaluate] at h
  cases hall : c.mapM fun e ↦ e.evaluate source filename n with
  | error fault =>
    rw [hall] at h
    cases h
  | ok found =>
    obtain ⟨own, hown⟩ := exists_ok_of_mapM hall r.1 he
    rw [CatalogEntry.evaluate] at hown
    cases hheld : r.1.patterns.filterM fun p ↦ p.holds source n with
    | error fault =>
      rw [hheld] at hown
      cases hown
    | ok held =>
      obtain ⟨b, hb⟩ := exists_ok_of_filterM hheld r.2 hp
      exact NodePattern.answers_iff.mpr ⟨b, hb⟩

/-- A walk gets through only where every test answers. -/
theorem Catalog.answers_of_walk {c : Catalog} {walked : List Finding × Tally}
    (h : walk c source filename root = .ok walked) : c.Answers source root := by
  rw [answers_iff]
  intro n hn
  rw [walk_eq_mapM_preorder] at h
  cases hfound : root.preorder.mapM (c.evaluate source filename) with
  | error fault =>
    rw [hfound] at h
    cases h
  | ok found =>
    obtain ⟨own, hown⟩ := exists_ok_of_mapM hfound n hn
    exact answers_of_evaluate hown

/-! ## Where sightings are made -/

theorem CatalogEntry.eq_of_mem_sightingsAt {e : CatalogEntry} {a : Address} {place : Nat}
    {x : Sighting} (hx : x ∈ e.sightingsAt source a n place) : x = ⟨a, n, place, e⟩ :=
  List.eq_of_mem_replicate hx

/-- What is seen at an address is seen at the node there, by the entry at its place. -/
theorem Catalog.of_mem_elim {es : Catalog} {a : Address} {x : Sighting}
    (hx : x ∈ (root.at? a).elim [] (es.sightingsAt source a)) :
    x.address = a ∧ root.at? a = some x.node ∧ es[x.place]? = some x.entry ∧
      ∃ p ∈ x.entry.patterns, p.accepts source x.node := by
  cases hn : root.at? a with
  | none =>
    rw [hn] at hx
    cases hx
  | some n =>
    rw [hn, Option.elim_some, sightingsAt, List.mem_flatMap] at hx
    obtain ⟨⟨e, i⟩, he, hx⟩ := hx
    obtain ⟨hcount, rfl⟩ := List.mem_replicate.mp hx
    have hpos := List.countP_pos_iff.mp (Nat.pos_of_ne_zero hcount)
    exact ⟨rfl, rfl, List.mem_zipIdx_iff_getElem?.mp he, hpos⟩

/-- A sighting tells the node at its address and the entry at its place. -/
theorem Catalog.of_mem_sightings {es : Catalog} {x : Sighting} (hx : x ∈ es.sightings source root) :
    root.at? x.address = some x.node ∧ es[x.place]? = some x.entry ∧
      ∃ p ∈ x.entry.patterns, p.accepts source x.node := by
  obtain ⟨a, -, hx⟩ := List.mem_flatMap.mp hx
  obtain ⟨rfl, h⟩ := of_mem_elim hx
  exact h

/-! ## Findings tell the sightings -/

/-- The findings of an entry at a node. -/
def CatalogEntry.findingsAt (e : CatalogEntry) (source filename : String) (n : Node) :
    List Finding :=
  List.replicate (e.patterns.countP (·.accepts source n)) (e.finding filename n)

theorem CatalogEntry.map_finding_sightingsAt (e : CatalogEntry) (a : Address) (place : Nat) :
    (e.sightingsAt source a n place).map (·.finding filename) = e.findingsAt source filename n := by
  rw [sightingsAt, List.map_replicate]
  rfl

theorem Catalog.map_finding_sightingsAt (c : Catalog) (a : Address) :
    (c.sightingsAt source a n).map (·.finding filename) =
      c.flatMap (·.findingsAt source filename n) := by
  rw [sightingsAt, List.map_flatMap]
  simp only [CatalogEntry.map_finding_sightingsAt]
  calc (c.zipIdx.flatMap fun e ↦ e.1.findingsAt source filename n)
      = (c.zipIdx.map Prod.fst).flatMap (·.findingsAt source filename n) := by
        rw [List.flatMap_map]
    _ = c.flatMap (·.findingsAt source filename n) := by rw [List.zipIdx_map_fst]

theorem flatMap_filterMap {α β γ : Type} (f : α → Option β) (g : β → List γ) (l : List α) :
    (l.filterMap f).flatMap g = l.flatMap fun a ↦ (f a).elim [] g := by
  induction l with
  | nil => rfl
  | cons a l ih =>
    rw [List.filterMap_cons, List.flatMap_cons, ← ih]
    cases f a with
    | none => rfl
    | some b => rw [List.flatMap_cons, Option.elim_some]

theorem Catalog.map_finding_sightings (c : Catalog) :
    (c.sightings source root).map (·.finding filename) =
      root.preorder.flatMap fun n ↦ c.flatMap (·.findingsAt source filename n) := by
  rw [sightings, List.map_flatMap, ← root.filterMap_at?_addresses, flatMap_filterMap]
  refine List.flatMap_congr fun a _ ↦ ?_
  cases root.at? a with
  | none => rfl
  | some n => exact c.map_finding_sightingsAt a

/-- Where every test answers, a walk gets through and its findings tell the sightings. -/
theorem Catalog.Answers.walk_eq {c : Catalog} (h : c.Answers source root) :
    walk c source filename root =
      .ok ((c.sightings source root).map (·.finding filename),
        Tally.zero.visitAll (visits 0 root)) := by
  have hrows : ∀ n ∈ root.preorder, c.evaluate source filename n =
      .ok (c.flatMap (·.findingsAt source filename n)) := by
    intro n hn
    rw [evaluate_eq_ok (answers_iff.mp h n hn), rows, List.filter_flatMap, List.map_flatMap]
    refine congrArg Except.ok (List.flatMap_congr fun e _ ↦ ?_)
    rw [List.filter_map, List.map_map, CatalogEntry.findingsAt, List.countP_eq_length_filter,
      ← List.map_const']
    rfl
  rw [walk_eq_mapM_preorder, mapM_eq_ok hrows, map_finding_sightings, List.flatMap_def]
  rfl

end ChangeReview.Scan
