import Mathlib.Data.Finset.Card
import Mathlib.Data.List.Perm.Basic
import ChangeReview.Outcome
import ChangeReview.Proofs.List.Distinct
import ChangeReview.Proofs.Text.ByteOrder

/-!
# The most frequent weaknesses

An outcome lists the weaknesses that its issues and findings name most often. They are ranked by
how often they are named and then by their identifiers, so no two rank equal, and neither the order
of issues, files and findings nor the cut after the fifth leaves a choice.
-/

namespace ChangeReview

namespace CweCount

/-- Named more often, or as often with an identifier that is lesser in the order of its bytes. -/
def Outranks (a b : CweCount) : Prop :=
  b.count < a.count ∨ a.count = b.count ∧ Text.utf8 a.cwe < Text.utf8 b.cwe

theorem ranksBefore_iff {a b : CweCount} :
    a.ranksBefore b ↔ b.count < a.count ∨ a.count = b.count ∧ a.cwe ≤ b.cwe := by
  simp [ranksBefore]

theorem ranksBefore_trans (a b c : CweCount) (hab : a.ranksBefore b) (hbc : b.ranksBefore c) :
    a.ranksBefore c := by
  rw [ranksBefore_iff] at *
  rcases hab with hab | ⟨hab, hid⟩
  · left
    omega
  · rcases hbc with hbc | ⟨hbc, hid'⟩
    · left
      omega
    · exact .inr ⟨hab.trans hbc, String.le_trans hid hid'⟩

theorem ranksBefore_total (a b : CweCount) : a.ranksBefore b || b.ranksBefore a := by
  rw [Bool.or_eq_true, ranksBefore_iff, ranksBefore_iff]
  rcases Nat.lt_trichotomy a.count b.count with h | h | h
  · exact .inr (.inl h)
  · exact (String.le_total a.cwe b.cwe).imp (fun hid ↦ .inr ⟨h, hid⟩) fun hid ↦ .inr ⟨h.symm, hid⟩
  · exact .inl (.inl h)

theorem eq_of_ranksBefore {a b : CweCount} (hab : a.ranksBefore b) (hba : b.ranksBefore a) :
    a = b := by
  rw [ranksBefore_iff] at hab hba
  have hcount : a.count = b.count := by omega
  have hid : a.cwe = b.cwe :=
    String.le_antisymm (hab.resolve_left (by omega)).2 (hba.resolve_left (by omega)).2
  exact congr (congrArg CweCount.mk hid) hcount

/-- Of two weaknesses, the one that ranks before the other outranks it. -/
theorem outranks_of_ranksBefore {a b : CweCount} (h : a.ranksBefore b) (hne : a.cwe ≠ b.cwe) :
    a.Outranks b := by
  refine (ranksBefore_iff.mp h).imp id fun ⟨hcount, hid⟩ ↦ ⟨hcount, ?_⟩
  exact Text.lt_iff_utf8_lt.mp (Std.lt_of_le_of_ne hid hne)

end CweCount

namespace Outcome

/-- How many issues and findings name a weakness. -/
def timesNamed (o : Outcome) (id : String) : Nat :=
  o.issues.countP (·.cwe = some id) + o.findings.countP (·.cwe = some id)

/-- Two outcomes with the same issues and files in another order, and the findings of each file in
another order. -/
structure Rearranged (o o' : Outcome) : Prop where
  issues : o.issues.Perm o'.issues
  findings : ∃ files, o.fileAnalyses.Perm files ∧
    List.Forall₂ (fun a b ↦ a.findings.Perm b.findings) files o'.fileAnalyses

/-- Every weakness once, with the number of times it is named. -/
def counted (o : Outcome) : List CweCount :=
  o.cweIds.eraseDups.map fun id ↦ ⟨id, o.cweIds.count id⟩

/-- All weaknesses in their ranks. -/
def ranking (o : Outcome) : List CweCount := o.counted.mergeSort CweCount.ranksBefore

variable {o o' : Outcome}

theorem topCwes_eq (o : Outcome) : o.topCwes = o.ranking.take topCount := rfl

/-! ## Counts -/

theorem count_filterMap_cwe {α : Type} (cwe : α → Option String) (l : List α) (id : String) :
    (l.filterMap cwe).count id = l.countP (cwe · = some id) := by
  rw [List.count_filterMap]
  apply List.countP_congr
  intro a _
  simp

theorem count_cweIds (o : Outcome) (id : String) : o.cweIds.count id = o.timesNamed id := by
  rw [cweIds, List.count_append, count_filterMap_cwe, count_filterMap_cwe, timesNamed]

theorem mem_ranking {w : CweCount} :
    w ∈ o.ranking ↔ w.cwe ∈ o.cweIds ∧ w.count = o.timesNamed w.cwe := by
  rw [ranking, List.mem_mergeSort, counted, List.mem_map]
  constructor
  · rintro ⟨id, hid, rfl⟩
    exact ⟨List.mem_eraseDups.mp hid, o.count_cweIds id⟩
  · rintro ⟨hid, hcount⟩
    exact ⟨w.cwe, List.mem_eraseDups.mpr hid, by rw [o.count_cweIds, ← hcount]⟩

/-- A listed weakness comes with the number of times it is named. -/
theorem count_of_mem_topCwes {w : CweCount} (h : w ∈ o.topCwes) :
    w.count = o.timesNamed w.cwe :=
  (mem_ranking.mp (List.mem_of_mem_take h)).2

/-! ## Ranks -/

/-- Each weakness has one rank. -/
theorem map_cwe_ranking_perm (o : Outcome) : (o.ranking.map (·.cwe)).Perm o.cweIds.eraseDups := by
  have hids : o.counted.map (·.cwe) = o.cweIds.eraseDups := by
    rw [counted, List.map_map]
    exact List.map_id _
  exact ((List.mergeSort_perm _ CweCount.ranksBefore).map (·.cwe)).trans (List.Perm.of_eq hids)

theorem nodup_map_cwe_ranking (o : Outcome) : (o.ranking.map (·.cwe)).Nodup :=
  (map_cwe_ranking_perm o).nodup_iff.mpr (nodup_eraseDups _)

theorem length_ranking (o : Outcome) : o.ranking.length = o.cweIds.toFinset.card := by
  have hsame : o.cweIds.toFinset = o.cweIds.eraseDups.toFinset := by
    ext id
    rw [List.mem_toFinset, List.mem_toFinset, List.mem_eraseDups]
  rw [hsame, List.toFinset_card_of_nodup (nodup_eraseDups _),
    ← (map_cwe_ranking_perm o).length_eq, List.length_map]

theorem pairwise_ranksBefore_ranking (o : Outcome) :
    o.ranking.Pairwise fun a b ↦ a.ranksBefore b :=
  List.pairwise_mergeSort CweCount.ranksBefore_trans CweCount.ranksBefore_total _

/-- No two weaknesses rank equal, so a list in their ranks is the ranking. -/
theorem ranking_eq {l : List CweCount} (hperm : o.counted.Perm l)
    (hsorted : l.Pairwise fun a b ↦ a.ranksBefore b) : o.ranking = l :=
  ((List.mergeSort_perm _ _).trans hperm).eq_of_pairwise (fun _ _ _ _ ↦ CweCount.eq_of_ranksBefore)
    o.pairwise_ranksBefore_ranking hsorted

/-- Every weakness outranks those behind it. -/
theorem pairwise_ranking (o : Outcome) : o.ranking.Pairwise CweCount.Outranks := by
  have hdistinct : o.ranking.Pairwise fun a b ↦ a.cwe ≠ b.cwe :=
    List.pairwise_map.mp o.nodup_map_cwe_ranking
  exact o.pairwise_ranksBefore_ranking.imp₂ (fun _ _ ↦ CweCount.outranks_of_ranksBefore) hdistinct

/-! ## Order of the outcome -/

theorem flatMap_findings_perm {files files' : List FileAnalysis}
    (h : List.Forall₂ (fun a b ↦ a.findings.Perm b.findings) files files') :
    (files.flatMap (·.findings)).Perm (files'.flatMap (·.findings)) := by
  induction h with
  | nil => exact List.Perm.nil
  | cons hfirst _ ih =>
    rw [List.flatMap_cons, List.flatMap_cons]
    exact hfirst.append ih

theorem Rearranged.findings_perm (h : o.Rearranged o') : o.findings.Perm o'.findings := by
  obtain ⟨files, hfiles, heach⟩ := h.findings
  exact (hfiles.flatMap_right _).trans (flatMap_findings_perm heach)

theorem Rearranged.cweIds_perm (h : o.Rearranged o') : o.cweIds.Perm o'.cweIds :=
  (h.issues.filterMap _).append (h.findings_perm.filterMap _)

theorem counted_perm (h : o.cweIds.Perm o'.cweIds) : o.counted.Perm o'.counted := by
  have hcount : (fun id ↦ CweCount.mk id (o.cweIds.count id)) =
      fun id ↦ CweCount.mk id (o'.cweIds.count id) := funext fun id ↦ by rw [h.count_eq]
  rw [counted, counted, hcount]
  exact (eraseDups_perm fun _ ↦ h.mem_iff).map _

/-- The ranks depend only on how often each weakness is named. -/
theorem ranking_congr (h : o.cweIds.Perm o'.cweIds) : o.ranking = o'.ranking :=
  ranking_eq ((counted_perm h).trans (List.mergeSort_perm _ _).symm) o'.pairwise_ranksBefore_ranking

/-- The weaknesses listed are the first five, or all when there are fewer, of those that issues and
findings name, each with the number of times it is named. Each outranks those listed behind it and
all that are not listed. Their order does not depend on that of issues, files or findings. -/
theorem topCwes_outrank (o : Outcome) :
    o.topCwes.length = min 5 o.cweIds.toFinset.card ∧
    (∀ w ∈ o.topCwes, w.cwe ∈ o.cweIds ∧ w.count = o.timesNamed w.cwe) ∧
    o.topCwes.Pairwise CweCount.Outranks ∧ (o.topCwes.map (·.cwe)).Nodup ∧
    (∀ id ∈ o.cweIds, id ∉ o.topCwes.map (·.cwe) →
      ∀ w ∈ o.topCwes, w.Outranks ⟨id, o.timesNamed id⟩) ∧
    ∀ o', o.Rearranged o' → o'.topCwes = o.topCwes := by
  refine ⟨?length, ?count, ?outrank, ?nodup, ?rest, ?order⟩
  case length =>
    rw [topCwes_eq, List.length_take, length_ranking]
    rfl
  case count =>
    exact fun w hw ↦ ⟨(mem_ranking.mp (List.mem_of_mem_take hw)).1, count_of_mem_topCwes hw⟩
  case outrank => exact o.pairwise_ranking.sublist (List.take_sublist 5 _)
  case nodup => exact o.nodup_map_cwe_ranking.sublist ((List.take_sublist 5 _).map _)
  case rest =>
    intro id hid hnot w hw
    have hmem : CweCount.mk id (o.timesNamed id) ∈ o.ranking := mem_ranking.mpr ⟨hid, rfl⟩
    exact rel_of_not_mem_take o.pairwise_ranking hw hmem fun hlisted ↦
      hnot (List.mem_map_of_mem hlisted)
  case order =>
    intro o' h
    rw [topCwes_eq, topCwes_eq, ranking_congr h.cweIds_perm]

/-- Of five weaknesses named once each, the last in the order of bytes is cut off. That `CWE-10` is
the greater number of the two does not put it behind `CWE-2`. -/
theorem topCwes_outrank_cut_tie :
    let finding (id : String) : Finding :=
      ⟨.codeInjection, "eval", .unknown, .high, .high, .high, some id, "p"⟩
    let issue : Issue :=
      ⟨.security, "eval", "", "b.js", "", .high, some "CWE-9", .high, .high, .model⟩
    let file (findings : List Finding) : FileAnalysis := ⟨"a.js", findings, 0, .zero, true⟩
    let o := ofIssues [issue] [file [finding "CWE-2", finding "CWE-9", finding "CWE-89"],
      file [finding "CWE-79", finding "CWE-22", finding "CWE-10"]]
    let o' := ofIssues [issue] [file [finding "CWE-10", finding "CWE-22", finding "CWE-79"],
      file [finding "CWE-89", finding "CWE-9", finding "CWE-2"]]
    o.topCwes = [⟨"CWE-9", 2⟩, ⟨"CWE-10", 1⟩, ⟨"CWE-2", 1⟩, ⟨"CWE-22", 1⟩, ⟨"CWE-79", 1⟩] ∧
      (∀ w ∈ o.topCwes, w.Outranks ⟨"CWE-89", 1⟩) ∧ o.Rearranged o' ∧ o'.topCwes = o.topCwes := by
  intro finding issue file o o'
  have hranking : o.ranking = [⟨"CWE-9", 2⟩, ⟨"CWE-10", 1⟩, ⟨"CWE-2", 1⟩, ⟨"CWE-22", 1⟩,
      ⟨"CWE-79", 1⟩, ⟨"CWE-89", 1⟩] :=
    ranking_eq (by decide +kernel) (by decide +kernel)
  have hlisted : o.topCwes =
      [⟨"CWE-9", 2⟩, ⟨"CWE-10", 1⟩, ⟨"CWE-2", 1⟩, ⟨"CWE-22", 1⟩, ⟨"CWE-79", 1⟩] := by
    rw [topCwes_eq, hranking]
    rfl
  have hcut : "CWE-89" ∉ o.topCwes.map (·.cwe) := by
    rw [hlisted]
    decide
  have hrearranged : o.Rearranged o' :=
    ⟨List.Perm.refl _, _, List.Perm.swap _ _ _, .cons (List.reverse_perm _).symm
      (.cons (List.reverse_perm _).symm .nil)⟩
  obtain ⟨-, -, -, -, hrest, horder⟩ := topCwes_outrank o
  exact ⟨hlisted, hrest "CWE-89" (by decide) hcut, hrearranged, horder o' hrearranged⟩

end Outcome

end ChangeReview
