import Mathlib.Data.List.Perm.Basic
import ChangeReview.Proofs.Scan.Sighting

/-!
# The order of entries in a catalog

Each entry of a catalog matches by itself: what it finds in a tree depends neither on the other
entries nor on its place among them. Another order of the entries gives the same findings in
another order, and further entries only put theirs in between.
-/

namespace ChangeReview.Scan

open Syntax

/-- Lists put together that differ in a key are told apart by the key. -/
theorem filter_flatMap_of_key {α β κ : Type} [DecidableEq κ] {l : List α} {f : α → List β}
    {key : β → κ} {of : α → κ} (hkey : ∀ a ∈ l, ∀ x ∈ f a, key x = of a)
    (hnodup : (l.map of).Nodup) {a : α} (ha : a ∈ l) :
    (l.flatMap f).filter (fun x ↦ key x = of a) = f a := by
  induction l with
  | nil => cases ha
  | cons b l ih =>
    have hrest : ∀ a ∈ l, ∀ x ∈ f a, key x = of a :=
      fun a ha ↦ hkey a (List.mem_cons_of_mem b ha)
    rw [List.map_cons, List.nodup_cons] at hnodup
    rw [List.flatMap_cons, List.filter_append]
    rcases List.mem_cons.mp ha with rfl | ha
    · have hself : (f a).filter (fun x ↦ key x = of a) = f a := by
        apply List.filter_eq_self.mpr
        intro x hx
        exact decide_eq_true (hkey a List.mem_cons_self x hx)
      have hnone : (l.flatMap f).filter (fun x ↦ key x = of a) = [] := by
        apply List.filter_eq_nil_iff.mpr
        intro x hx hof
        obtain ⟨c, hc, hx⟩ := List.mem_flatMap.mp hx
        apply hnodup.1
        rw [← of_decide_eq_true hof, hrest c hc x hx]
        exact List.mem_map_of_mem hc
      rw [hself, hnone, List.append_nil]
    · have hnone : (f b).filter (fun x ↦ key x = of a) = [] := by
        apply List.filter_eq_nil_iff.mpr
        intro x hx hof
        apply hnodup.1
        rw [← hkey b List.mem_cons_self x hx, of_decide_eq_true hof]
        exact List.mem_map_of_mem ha
      rw [hnone, List.nil_append, ih hrest hnodup.2 ha]

namespace Catalog

variable {es d : Catalog} {source filename : String} {root n : Node} {a : Address}

/-! ## The share of an entry -/

/-- The sightings at an address are those at the node there. -/
theorem filter_address_sightings (ha : root.at? a = some n) :
    (es.sightings source root).filter (·.address = a) = es.sightingsAt source a n := by
  have hnodup : (root.addresses.map id).Nodup := by
    rw [List.map_id]
    refine root.pairwise_addresses.imp ?_
    rintro a _ hlt rfl
    exact List.lt_irrefl a hlt
  have hkey : ∀ a ∈ root.addresses,
      ∀ x ∈ (root.at? a).elim [] (es.sightingsAt source a), x.address = id a :=
    fun a _ x hx ↦ (of_mem_elim hx).1
  have hmem : a ∈ root.addresses := Node.mem_addresses.mpr (ha ▸ rfl)
  have hfilter := filter_flatMap_of_key hkey hnodup hmem
  rw [ha] at hfilter
  exact hfilter

/-- The sightings of an entry at a node, among those of all entries. -/
theorem filter_place_sightingsAt {i : Nat} {e : CatalogEntry} (he : es[i]? = some e) :
    (es.sightingsAt source a n).filter (·.place = i) = e.sightingsAt source a n i := by
  have hnodup : (es.zipIdx.map Prod.snd).Nodup := by
    rw [List.zipIdx_map_snd]
    exact List.nodup_range'
  have hkey : ∀ e ∈ es.zipIdx, ∀ x ∈ e.1.sightingsAt source a n e.2, x.place = e.2 := by
    intro e _ x hx
    rw [CatalogEntry.eq_of_mem_sightingsAt hx]
  have hmem : (e, i) ∈ es.zipIdx := List.mem_zipIdx_iff_getElem?.mpr he
  exact filter_flatMap_of_key hkey hnodup hmem

/-- What an entry finds in a tree, among what all entries find, is settled by the entry alone. -/
theorem map_finding_filter_place {i : Nat} {e : CatalogEntry} (he : es[i]? = some e) :
    ((es.sightings source root).filter (·.place = i)).map (·.finding filename) =
      root.preorder.flatMap (e.findingsAt source filename) := by
  rw [sightings, List.filter_flatMap, List.map_flatMap, ← root.filterMap_at?_addresses,
    flatMap_filterMap]
  refine List.flatMap_congr fun a _ ↦ ?_
  cases root.at? a with
  | none => rfl
  | some n =>
    rw [Option.elim_some, Option.elim_some, filter_place_sightingsAt he,
      CatalogEntry.map_finding_sightingsAt]

/-- The sightings of the first of two catalogs, among those of both. -/
theorem filter_place_sightings_append :
    ((es ++ d).sightings source root).filter (·.place < es.length) = es.sightings source root := by
  rw [sightings, List.filter_flatMap]
  refine List.flatMap_congr fun a _ ↦ ?_
  cases root.at? a with
  | none => rfl
  | some n =>
    rw [Option.elim_some, Option.elim_some, sightingsAt, List.zipIdx_append, List.flatMap_append,
      List.filter_append, sightingsAt]
    have hfirst : ∀ x ∈ es.zipIdx.flatMap (fun e ↦ e.1.sightingsAt source a n e.2),
        x.place < es.length := by
      intro x hx
      obtain ⟨e, he, hx⟩ := List.mem_flatMap.mp hx
      rw [CatalogEntry.eq_of_mem_sightingsAt hx]
      exact (List.getElem?_eq_some_iff.mp (List.mem_zipIdx_iff_getElem?.mp he)).1
    have hlast : ∀ x ∈ (d.zipIdx (0 + es.length)).flatMap (fun e ↦ e.1.sightingsAt source a n e.2),
        ¬ x.place < es.length := by
      intro x hx
      obtain ⟨e, he, hx⟩ := List.mem_flatMap.mp hx
      have hle := List.le_snd_of_mem_zipIdx he
      rw [CatalogEntry.eq_of_mem_sightingsAt hx]
      show ¬ e.2 < es.length
      omega
    rw [List.filter_eq_self.mpr fun x hx ↦ decide_eq_true (hfirst x hx),
      List.filter_eq_nil_iff.mpr fun x hx h ↦ hlast x hx (of_decide_eq_true h), List.append_nil]

theorem answers_of_perm {es' : Catalog} (hperm : es.Perm es') (h : es.Answers source root) :
    es'.Answers source root := by
  intro e he
  exact h e (hperm.mem_iff.mpr he)

theorem answers_append (hc : es.Answers source root) (hd : d.Answers source root) :
    (es ++ d).Answers source root := by
  intro e he
  rcases List.mem_append.mp he with he | he
  · exact hc e he
  · exact hd e he

/-- Another order of the entries finds the same at every node. -/
theorem map_finding_sightings_perm {es' : Catalog} (hperm : es.Perm es') :
    ((es.sightings source root).map (·.finding filename)).Perm
      ((es'.sightings source root).map (·.finding filename)) := by
  rw [map_finding_sightings, map_finding_sightings]
  exact List.Perm.flatMap_left _ fun n _ ↦ hperm.flatMap_right _

theorem walk_gets_through_iff :
    (∃ walked, walk es source filename root = .ok walked) ↔ es.Answers source root :=
  ⟨fun ⟨_, h⟩ ↦ answers_of_walk h, fun h ↦ ⟨_, h.walk_eq⟩⟩

end Catalog

/-- A walk with the entries of a catalog in another order gets through where a walk with the catalog
does, with the same findings in another order and the same counts. Each entry finds the same in the
same order, wherever it stands: at every node as often as patterns of it are of the kind of the node
and hold there. A walk with further entries behind those of a catalog finds, leaving out what these
find, just what a walk with the catalog finds. -/
theorem walk_of_perm {es es' : Catalog} (hperm : es.Perm es') (source filename : String)
    (root : Node) :
    ((∃ walked, walk es source filename root = .ok walked) ↔ es.Answers source root) ∧
    ((∃ walked, walk es' source filename root = .ok walked) ↔ es.Answers source root) ∧
    (es.Answers source root → ∃ found found' tally,
      walk es source filename root = .ok (found, tally) ∧
      walk es' source filename root = .ok (found', tally) ∧
      found.Perm found' ∧
      found = (es.sightings source root).map (·.finding filename) ∧
      found' = (es'.sightings source root).map (·.finding filename) ∧
      (∀ i j e, es[i]? = some e → es'[j]? = some e →
        ((es.sightings source root).filter (·.place = i)).map (·.finding filename) =
          ((es'.sightings source root).filter (·.place = j)).map (·.finding filename)) ∧
      (∀ a n i e, root.at? a = some n → es[i]? = some e →
        (es.sightings source root).filter (fun x ↦ x.address = a ∧ x.place = i) =
          List.replicate
            (e.patterns.countP fun p ↦ p.kind = n.kind ∧ p.test n source = .ok true)
            ⟨a, n, i, e⟩) ∧
      ∀ d : Catalog, d.Answers source root → ∃ more,
        walk (es ++ d) source filename root = .ok (more, tally) ∧
        more = ((es ++ d).sightings source root).map (·.finding filename) ∧
        (((es ++ d).sightings source root).filter (·.place < es.length)).map (·.finding filename) =
          found) := by
  have hiff : es'.Answers source root ↔ es.Answers source root :=
    ⟨Catalog.answers_of_perm hperm.symm, Catalog.answers_of_perm hperm⟩
  refine ⟨Catalog.walk_gets_through_iff, Catalog.walk_gets_through_iff.trans hiff, fun h ↦ ?_⟩
  refine ⟨_, _, _, h.walk_eq, (hiff.mpr h).walk_eq, Catalog.map_finding_sightings_perm hperm, rfl,
    rfl, ?each, ?count, fun d hd ↦ ⟨_, (Catalog.answers_append h hd).walk_eq, rfl, ?first⟩⟩
  case each =>
    intro i j e hi hj
    rw [Catalog.map_finding_filter_place hi, Catalog.map_finding_filter_place hj]
  case count =>
    intro a n i e hn he
    have hboth : (es.sightings source root).filter (fun x ↦ x.address = a ∧ x.place = i) =
        ((es.sightings source root).filter (·.address = a)).filter (·.place = i) := by
      rw [List.filter_filter]
      apply List.filter_congr
      intro x _
      rw [Bool.decide_and, Bool.and_comm]
    have hcount : e.patterns.countP (fun p ↦ p.kind = n.kind ∧ p.test n source = .ok true) =
        e.patterns.countP (·.accepts source n) := by
      apply List.countP_congr
      intro p _
      rw [decide_eq_true_iff, NodePattern.accepts_iff]
    rw [hboth, Catalog.filter_address_sightings hn, Catalog.filter_place_sightingsAt he, hcount]
    rfl
  case first => rw [Catalog.filter_place_sightings_append]

/-- An entry with two patterns for calls and one with a pattern for calls and one for names, on two
calls: the findings interleave in both orders, and each order tells the calls twice. -/
theorem walk_of_perm_doubled_pattern :
    let always : NodeTest := fun _ _ ↦ .ok true
    let calls : CatalogEntry :=
      ⟨"calls", .codeInjection, .low, "CWE-0", [⟨"call", always⟩, ⟨"call", always⟩]⟩
    let names : CatalogEntry :=
      ⟨"names", .weakCryptography, .critical, "CWE-1", [⟨"call", always⟩, ⟨"name", always⟩]⟩
    let call (row : Nat) : Node :=
      .mk "call" true none ⟨row, 0⟩ "" [.mk "name" true none ⟨row, 0⟩ "f" []]
    let root : Node := .mk "program" true none ⟨0, 0⟩ "" [call 0, call 1]
    [calls, names].Perm [names, calls] ∧ Catalog.Answers [calls, names] "f" root ∧
      ∃ found found' tally, walk [calls, names] "f" "a.js" root = .ok (found, tally) ∧
        walk [names, calls] "f" "a.js" root = .ok (found', tally) ∧ found.Perm found' ∧
        found.map (·.pattern) =
          ["calls", "calls", "names", "names", "calls", "calls", "names", "names"] ∧
        found'.map (·.pattern) =
          ["names", "calls", "calls", "names", "names", "calls", "calls", "names"] := by
  intro always calls names call root
  have hperm : [calls, names].Perm [names, calls] := List.Perm.swap names calls []
  have hanswers : Catalog.Answers [calls, names] "f" root := by
    simp [Catalog.Answers, calls, names, always]
  obtain ⟨found, found', tally, hfound, hfound', hsame, -⟩ :=
    (walk_of_perm hperm "f" "a.js" root).2.2 hanswers
  refine ⟨hperm, hanswers, found, found', tally, hfound, hfound', hsame, ?first, ?second⟩
  case first =>
    have hpatterns : (walk [calls, names] "f" "a.js" root).map (·.1.map (·.pattern)) =
        .ok ["calls", "calls", "names", "names", "calls", "calls", "names", "names"] := by
      with_unfolding_all rfl
    rw [hfound] at hpatterns
    exact Except.ok.inj hpatterns
  case second =>
    have hpatterns : (walk [names, calls] "f" "a.js" root).map (·.1.map (·.pattern)) =
        .ok ["names", "calls", "calls", "names", "names", "calls", "calls", "names"] := by
      with_unfolding_all rfl
    rw [hfound'] at hpatterns
    exact Except.ok.inj hpatterns

end ChangeReview.Scan
