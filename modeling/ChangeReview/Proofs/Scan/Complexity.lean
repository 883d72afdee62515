import Mathlib.Algebra.BigOperators.Group.List.Basic
import Mathlib.Algebra.Group.Action.Defs
import Mathlib.Algebra.Order.BigOperators.Group.List
import ChangeReview.Proofs.Number.Quotient
import ChangeReview.Proofs.Scan.Traversal
import ChangeReview.Run

/-!
# Complexity is rounded exactly

The complexity of a file and the mean complexity of a run are quotients that are taken as doubles
and rounded. For counts of 32 bits the doubles make no difference: both are the nearest integers to
the quotients themselves, with halves rounded up. So a mean lies between the least and the greatest
of its terms.
-/

namespace ChangeReview.Scan

open Syntax Binary64

theorem roundedQuotient_eq {num den : Nat} (hnum : num < 2 ^ 52) (hden : den < 2 ^ 52)
    (hpos : 0 < den) : Tally.roundedQuotient num den = roundHalfUp num den := by
  obtain ⟨q, hq, hround⟩ := exists_div?_round hnum hden hpos
  rw [Tally.roundedQuotient, hq]
  simp only [hround, Int.toNat_natCast]

/-! ## The complexity of a file -/

/-- The nodes of a tree that complexity is made of. -/
def unitsOf (tree : Node) : Nat := tree.preorder.countP fun n ↦ n.named && isUnit n.kind

/-- The functions of a tree. -/
def functionsOf (tree : Node) : Nat :=
  tree.preorder.countP fun n ↦ n.named && functionKinds.contains n.kind

theorem functionsOf_le_unitsOf (tree : Node) : functionsOf tree ≤ unitsOf tree := by
  apply List.countP_mono_left
  intro n _ hn
  rw [Bool.and_eq_true] at hn
  rw [isUnit, hn.1, hn.2, Bool.true_or, Bool.true_or, Bool.true_or, Bool.and_self]

/-- The complexity that counting a tree ends with. -/
theorem complexity_visits (tree : Node) :
    (Tally.zero.visitAll (visits 0 tree)).complexity =
      Tally.roundedQuotient (unitsOf tree) (max 1 (functionsOf tree)) := by
  have hunits := visits_eq_countP units_count (by simp [deepen_eq]) rfl tree
  have hfunctions := visits_eq_countP functions_count (by simp [deepen_eq]) rfl tree
  rw [Tally.complexity, hunits, hfunctions]
  rfl

/-- A file with a tree has the complexity of the tree, unless its scan breaks off. -/
theorem complexity_scanTree (s : Scanner) (content filename : String) (tree : Node) :
    (s.scanTree content filename tree).map (·.complexity) =
      (tree.preorder.mapM (s.catalog.evaluate content filename)).map fun _ ↦
        Tally.roundedQuotient (unitsOf tree) (max 1 (functionsOf tree)) := by
  rw [scanTree_eq_mapM_preorder, ← complexity_visits]
  cases tree.preorder.mapM (s.catalog.evaluate content filename) with
  | error fault => rfl
  | ok found => rfl

/-- A rounded quotient is zero when its numerator is, and no other when it is one at least. -/
theorem roundHalfUp_eq_zero_iff {units functions : Nat} (h : functions ≤ units) :
    roundHalfUp units (max 1 functions) = 0 ↔ units = 0 := by
  rw [roundHalfUp_eq_iff (by omega)]
  omega

/-! ## The mean of a run -/

section

variable {analyses : List FileAnalysis}

theorem aggregateComplexity_of_ne_nil (h : analyses ≠ []) :
    Run.aggregateComplexity analyses =
      Tally.roundedQuotient (analyses.map (·.complexity)).sum analyses.length := by
  rw [Run.aggregateComplexity, if_neg (by rwa [List.isEmpty_iff]), List.sum, List.foldr_map]

/-- The mean does not depend on the order of the files. -/
theorem aggregateComplexity_perm {analyses' : List FileAnalysis} (h : analyses.Perm analyses') :
    Run.aggregateComplexity analyses = Run.aggregateComplexity analyses' := by
  by_cases hnil : analyses = []
  · subst hnil
    rw [List.nil_perm.mp h]
  · have hnil' : analyses' ≠ [] := fun h' ↦ hnil (List.perm_nil.mp (h' ▸ h))
    rw [aggregateComplexity_of_ne_nil hnil, aggregateComplexity_of_ne_nil hnil',
      (h.map _).sum_eq, h.length_eq]

theorem sum_complexity_le {high : Nat} (h : ∀ a ∈ analyses, a.complexity ≤ high) :
    (analyses.map (·.complexity)).sum ≤ analyses.length * high := by
  have := List.sum_le_card_nsmul (analyses.map (·.complexity)) high (List.forall_mem_map.mpr h)
  rwa [List.length_map, smul_eq_mul] at this

theorem le_sum_complexity {low : Nat} (h : ∀ a ∈ analyses, low ≤ a.complexity) :
    analyses.length * low ≤ (analyses.map (·.complexity)).sum := by
  have := List.card_nsmul_le_sum (analyses.map (·.complexity)) low (List.forall_mem_map.mpr h)
  rwa [List.length_map, smul_eq_mul] at this

/-- A mean of numbers of 32 bits is the nearest integer to their sum over their count. -/
theorem aggregateComplexity_eq (hcomplexity : ∀ a ∈ analyses, a.complexity < 2 ^ 32)
    (hpos : 0 < analyses.length) (hlength : analyses.length < 2 ^ 20) :
    Run.aggregateComplexity analyses =
      roundHalfUp (analyses.map (·.complexity)).sum analyses.length := by
  have hsum : (analyses.map (·.complexity)).sum ≤ analyses.length * (2 ^ 32 - 1) :=
    sum_complexity_le fun a ha ↦ Nat.le_sub_one_of_lt (hcomplexity a ha)
  rw [aggregateComplexity_of_ne_nil (List.ne_nil_of_length_pos hpos)]
  exact roundedQuotient_eq (by omega) (by omega) hpos

end

/-! ## Both -/

/-- The complexity of a file whose tree has fewer than `2 ^ 32` functions, loops, branches and
conditional expressions is the nearest integer to their number per function, with halves rounded up
and one function assumed where there is none. It is zero when there are none of them, and only then,
so a file with a function has one at least. The mean of fewer than `2 ^ 20` files, with complexities
of 32 bits, is the nearest integer to the sum of the complexities over the number of files. It lies
between any bounds of the complexities and does not depend on the order of the files; without files
it is zero. -/
theorem complexity_rounds_exactly :
    (∀ (s : Scanner) (content filename : String) (tree : Node),
      let units := tree.preorder.countP fun n ↦ n.named && isUnit n.kind
      let functions := tree.preorder.countP fun n ↦ n.named && functionKinds.contains n.kind
      let share := max 1 functions
      let nearest := (2 * units + share) / (2 * share)
      units < 2 ^ 32 →
        (s.scanTree content filename tree).map (·.complexity) =
          (tree.preorder.mapM (s.catalog.evaluate content filename)).map (fun _ ↦ nearest) ∧
        (nearest = 0 ↔ units = 0) ∧ (0 < functions → 1 ≤ nearest)) ∧
    (∀ analyses : List FileAnalysis, (∀ a ∈ analyses, a.complexity < 2 ^ 32) →
      0 < analyses.length → analyses.length < 2 ^ 20 →
      let mean := Run.aggregateComplexity analyses
      mean = (2 * (analyses.map (·.complexity)).sum + analyses.length) / (2 * analyses.length) ∧
      (∀ low, (∀ a ∈ analyses, low ≤ a.complexity) → low ≤ mean) ∧
      (∀ high, (∀ a ∈ analyses, a.complexity ≤ high) → mean ≤ high)) ∧
    (∀ analyses analyses' : List FileAnalysis, analyses.Perm analyses' →
      Run.aggregateComplexity analyses = Run.aggregateComplexity analyses') ∧
    Run.aggregateComplexity [] = 0 := by
  refine ⟨fun s content filename tree ↦ ?file, fun analyses hcomplexity hpos hlength ↦ ?mean,
    fun _ _ ↦ aggregateComplexity_perm, rfl⟩
  case file =>
    intro units functions share nearest (hunits : unitsOf tree < 2 ^ 32)
    have hle : functionsOf tree ≤ unitsOf tree := functionsOf_le_unitsOf tree
    have hzero : nearest = 0 ↔ unitsOf tree = 0 := roundHalfUp_eq_zero_iff hle
    refine ⟨?_, hzero, fun (hfunctions : 0 < functionsOf tree) ↦ ?_⟩
    · rw [complexity_scanTree, roundedQuotient_eq (by omega) (by omega) (by omega)]
      rfl
    · exact Nat.one_le_iff_ne_zero.mpr fun h ↦ by have := hzero.mp h; omega
  case mean =>
    rw [aggregateComplexity_eq hcomplexity hpos hlength]
    exact ⟨rfl, fun low hlow ↦ le_roundHalfUp hpos (le_sum_complexity hlow),
      fun high hhigh ↦ roundHalfUp_le hpos (sum_complexity_le hhigh)⟩

/-- Two functions with a branch, a loop and a conditional expression are five for two. The mean of
one and two is two. -/
theorem complexity_rounds_exactly_halves :
    let leaf (kind : String) : Node := .mk kind true none ⟨0, 0⟩ "" []
    let tree : Node := .mk "program" true none ⟨0, 0⟩ "" [
      .mk "function_declaration" true none ⟨0, 0⟩ "" [leaf "if_statement", leaf "for_statement"],
      .mk "arrow_function" true none ⟨1, 0⟩ "" [leaf "ternary_expression"]]
    let file (complexity : Nat) : FileAnalysis :=
      { FileAnalysis.empty "a.js" with complexity := complexity }
    (Scanner.scanTree ⟨fun _ _ ↦ none, []⟩ "" "a.js" tree).map (·.complexity) = .ok 3 ∧
      Run.aggregateComplexity [file 1, file 2] = 2 ∧
      Run.aggregateComplexity [file 2, file 1] = 2 := by
  intro leaf tree file
  obtain ⟨hfile, hmean, hperm, -⟩ := complexity_rounds_exactly
  have hmean : Run.aggregateComplexity [file 1, file 2] = 2 := by
    rw [(hmean [file 1, file 2] (by decide) (by decide) (by decide)).1]
    decide
  refine ⟨?_, hmean, ?_⟩
  · rw [(hfile _ "" "a.js" tree (by decide)).1]
    with_unfolding_all rfl
  · exact (hperm _ _ (List.Perm.swap (file 1) (file 2) [])).trans hmean

end ChangeReview.Scan
