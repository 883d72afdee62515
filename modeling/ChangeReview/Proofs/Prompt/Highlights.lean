import ChangeReview.Prompt

/-!
# Which findings the prompt highlights

The summary in the prompt names each file that has findings, and highlights the worst findings: the
critical ones before the high ones, those of one severity in the order of files and findings. The
limit cuts this list at its end, so what is left out is never worse than what is shown.
-/

namespace ChangeReview.Prompt

/-! ## Sorting by severity -/

section

variable {α : Type} {le : α → α → Bool} {p : α → Bool}

/-- A stable sort keeps the order of elements that rank equal. -/
theorem filter_mergeSort_of_tied (htrans : ∀ a b c, le a b → le b c → le a c)
    (htotal : ∀ a b, le a b || le b a) (htied : ∀ a b, p a → p b → le a b) (l : List α) :
    (l.mergeSort le).filter p = l.filter p := by
  have htiedFilter : (l.filter p).Pairwise fun a b ↦ le a b :=
    List.pairwise_of_forall_mem_list fun a ha b hb ↦
      htied a b (List.mem_filter.mp ha).2 (List.mem_filter.mp hb).2
  have hsublist : (l.filter p).Sublist (l.mergeSort le) :=
    List.sublist_mergeSort htrans htotal htiedFilter List.filter_sublist
  have hkept : (l.filter p).Sublist ((l.mergeSort le).filter p) := by
    have h := hsublist.filter p
    rwa [List.filter_filter, show (fun a ↦ p a && p a) = p from funext fun a ↦ Bool.and_self _] at h
  have hlength : (l.filter p).length = ((l.mergeSort le).filter p).length :=
    ((List.mergeSort_perm l le).filter p).length_eq.symm
  exact (hkept.eq_of_length hlength).symm

/-- A sorted list whose elements are all of one kind or the other, the first kind ranking before the
second, is made of the elements of either kind. -/
theorem eq_append_of_pairwise {q : α → Bool} {l : List α} (hsorted : l.Pairwise fun a b ↦ le a b)
    (hkinds : ∀ a ∈ l, q a = !p a) (hapart : ∀ a b, q a → p b → ¬ le a b) :
    l = l.filter p ++ l.filter q := by
  induction l with
  | nil => rfl
  | cons a l ih =>
    obtain ⟨hfirst, hrest⟩ := List.pairwise_cons.mp hsorted
    have hl := ih hrest fun b hb ↦ hkinds b (List.mem_cons_of_mem a hb)
    have hkind := hkinds a List.mem_cons_self
    cases hp : p a with
    | true =>
      rw [hp] at hkind
      rw [List.filter_cons_of_pos hp, List.filter_cons_of_neg (by simp [hkind]), List.cons_append,
        ← hl]
    | false =>
      rw [hp] at hkind
      have hnone : l.filter p = [] := by
        apply List.filter_eq_nil_iff.mpr
        intro b hb hpb
        exact hapart a b hkind hpb (hfirst b hb)
      rw [hnone, List.nil_append] at hl
      rw [List.filter_cons_of_neg (by simp [hp]), hnone, List.nil_append,
        List.filter_cons_of_pos hkind, ← hl]

end

/-- The findings of all files, each with the name of its file, in file then finding order. -/
def named (analyses : List FileAnalysis) : List (String × Finding) :=
  analyses.flatMap fun a ↦ a.findings.map fun f ↦ (a.filename, f)

variable {analyses : List FileAnalysis} {limit : Nat}

/-- The findings of one severity are found among all findings. -/
theorem findingsAt_eq (analyses : List FileAnalysis) (s : Severity) :
    findingsAt analyses s = (named analyses).filter fun p ↦ p.2.severity = s := by
  rw [findingsAt, named, List.filter_flatMap]
  congr 1
  funext a
  rw [List.filter_map]
  rfl

theorem severe_eq (analyses : List FileAnalysis) :
    severe analyses = (named analyses).filter fun p ↦
      Severity.high.rank ≤ p.2.severity.rank := rfl

/-- A severity from high on is critical or high. -/
theorem high_le_rank_iff (s : Severity) :
    Severity.high.rank ≤ s.rank ↔ s = .critical ∨ s = .high := by
  cases s <;> decide

/-- The severe findings of one severity are all findings of it. -/
theorem filter_severe {s : Severity} (hs : s = .critical ∨ s = .high) :
    (severe analyses).filter (fun p ↦ p.2.severity = s) = findingsAt analyses s := by
  rw [severe_eq, findingsAt_eq, List.filter_filter]
  apply List.filter_congr
  intro p _
  by_cases hp : p.2.severity = s
  · have hrank : Severity.high.rank ≤ p.2.severity.rank := (high_le_rank_iff _).mpr (hp ▸ hs)
    simp [hp, hp ▸ hrank]
  · simp [hp]

/-- The severe findings are ranked as the critical ones and behind them the high ones. -/
theorem ranked_eq (analyses : List FileAnalysis) :
    ranked analyses = findingsAt analyses .critical ++ findingsAt analyses .high := by
  have htrans : ∀ a b c : String × Finding,
      decide (b.2.severity.rank ≤ a.2.severity.rank) →
        decide (c.2.severity.rank ≤ b.2.severity.rank) →
        decide (c.2.severity.rank ≤ a.2.severity.rank) := by
    intro a b c hab hbc
    simp only [decide_eq_true_eq] at hab hbc ⊢
    omega
  have htotal : ∀ a b : String × Finding,
      decide (b.2.severity.rank ≤ a.2.severity.rank) ||
        decide (a.2.severity.rank ≤ b.2.severity.rank) := by
    intro a b
    simp only [Bool.or_eq_true, decide_eq_true_eq]
    omega
  have hfilter : ∀ s, s = Severity.critical ∨ s = .high →
      (ranked analyses).filter (fun p ↦ p.2.severity = s) = findingsAt analyses s := by
    intro s hs
    rw [← filter_severe hs]
    apply filter_mergeSort_of_tied htrans htotal
    intro a b ha hb
    simp only [decide_eq_true_eq] at ha hb ⊢
    exact Nat.le_of_eq (by rw [ha, hb])
  rw [← hfilter .critical (.inl rfl), ← hfilter .high (.inr rfl)]
  apply eq_append_of_pairwise (List.pairwise_mergeSort htrans htotal _)
  case hkinds =>
    intro p hp
    have hsevere := (List.mem_filter.mp (List.mem_mergeSort.mp hp)).2
    rw [decide_eq_true_iff, high_le_rank_iff] at hsevere
    rcases hsevere with h | h <;> simp [h]
  case hapart =>
    intro a b ha hb
    simp only [decide_eq_true_eq] at ha hb ⊢
    rw [ha, hb]
    decide

/-! ## What is listed -/

/-- The findings that a summary highlights within a limit. -/
structure ListsWorst (analyses : List FileAnalysis) (limit : Nat)
    (listed : List (String × Finding)) : Prop where
  eq_take : listed = (findingsAt analyses .critical ++ findingsAt analyses .high).take limit
  /-- No high finding is listed before all critical ones are. -/
  critical_first : (∃ p ∈ listed, p.2.severity = .high) → findingsAt analyses .critical <+: listed
  /-- Of each severity the first findings are listed, in their order. -/
  in_order : ∀ s, (listed.filter fun p ↦ p.2.severity = s) <+: findingsAt analyses s
  severe : ∀ p ∈ listed, p.2.severity = .critical ∨ p.2.severity = .high
  own_file : ∀ p ∈ listed, ∃ a ∈ analyses, a.filename = p.1 ∧ p.2 ∈ a.findings

theorem mem_findingsAt {p : String × Finding} {s : Severity} :
    p ∈ findingsAt analyses s ↔
      ∃ a ∈ analyses, a.filename = p.1 ∧ p.2 ∈ a.findings ∧ p.2.severity = s := by
  simp only [findingsAt, List.mem_flatMap, List.mem_map, List.mem_filter, decide_eq_true_eq]
  constructor
  · rintro ⟨a, ha, f, ⟨hf, hs⟩, rfl⟩
    exact ⟨a, ha, rfl, hf, hs⟩
  · rintro ⟨a, ha, hname, hf, hs⟩
    exact ⟨a, ha, p.2, ⟨hf, hs⟩, by rw [hname]⟩

/-- The findings of one severity among those of two. -/
theorem filter_findingsAt (analyses : List FileAnalysis) (s t : Severity) :
    (findingsAt analyses t).filter (fun p ↦ p.2.severity = s) =
      if t = s then findingsAt analyses t else [] := by
  split
  · next h =>
    apply List.filter_eq_self.mpr
    intro p hp
    obtain ⟨-, -, -, -, hs⟩ := mem_findingsAt.mp hp
    rw [decide_eq_true_iff, hs, h]
  · next h =>
    apply List.filter_eq_nil_iff.mpr
    intro p hp
    obtain ⟨-, -, -, -, hs⟩ := mem_findingsAt.mp hp
    rw [decide_eq_true_iff, hs]
    exact h

theorem listsWorst_take (analyses : List FileAnalysis) (limit : Nat) :
    ListsWorst analyses limit ((ranked analyses).take limit) := by
  have hmem : ∀ p ∈ (ranked analyses).take limit,
      p ∈ findingsAt analyses .critical ∨ p ∈ findingsAt analyses .high := by
    intro p hp
    rw [ranked_eq] at hp
    exact List.mem_append.mp (List.mem_of_mem_take hp)
  refine ⟨by rw [ranked_eq], ?critical_first, ?in_order, ?severe, ?own_file⟩
  case critical_first =>
    rintro ⟨p, hp, hhigh⟩
    rw [ranked_eq, List.take_append] at hp ⊢
    -- within the critical ones alone, the limit would show no high finding
    by_cases hle : (findingsAt analyses .critical).length ≤ limit
    · rw [List.take_of_length_le hle]
      exact List.prefix_append _ _
    · rw [Nat.sub_eq_zero_of_le (by omega), List.take_zero, List.append_nil] at hp
      obtain ⟨-, -, -, -, hcritical⟩ := mem_findingsAt.mp (List.mem_of_mem_take hp)
      rw [hcritical] at hhigh
      contradiction
  case in_order =>
    intro s
    have hprefix := (List.take_prefix limit (ranked analyses)).filter fun p ↦ p.2.severity = s
    refine hprefix.trans ?_
    rw [ranked_eq, List.filter_append, filter_findingsAt, filter_findingsAt]
    cases s with
    | critical => simp
    | high => simp
    | medium => simp
    | low => simp
  case severe =>
    intro p hp
    rcases hmem p hp with h | h
    · obtain ⟨-, -, -, -, hs⟩ := mem_findingsAt.mp h
      exact .inl hs
    · obtain ⟨-, -, -, -, hs⟩ := mem_findingsAt.mp h
      exact .inr hs
  case own_file =>
    intro p hp
    rcases hmem p hp with h | h
    · obtain ⟨a, ha, hname, hf, -⟩ := mem_findingsAt.mp h
      exact ⟨a, ha, hname, hf⟩
    · obtain ⟨a, ha, hname, hf, -⟩ := mem_findingsAt.mp h
      exact ⟨a, ha, hname, hf⟩

/-! ## The text of the summary -/

/-- Files without findings have no part in the findings. -/
theorem named_filter_hasFindings (analyses : List FileAnalysis) :
    named (analyses.filter FileAnalysis.hasFindings) = named analyses := by
  induction analyses with
  | nil => rfl
  | cons a analyses ih =>
    cases h : a.hasFindings with
    | true =>
      rw [List.filter_cons_of_pos h]
      exact congrArg (_ ++ ·) ih
    | false =>
      have hnone : a.findings = [] := by simpa [FileAnalysis.hasFindings] using h
      rw [List.filter_cons_of_neg (by simp [h]), ih]
      simp [named, hnone]

theorem ranked_filter_hasFindings (analyses : List FileAnalysis) :
    ranked (analyses.filter FileAnalysis.hasFindings) = ranked analyses := by
  simp only [ranked, severe_eq, named_filter_hasFindings]

theorem ranked_eq_nil_iff : ranked analyses = [] ↔
    ∀ a ∈ analyses, ∀ f ∈ a.findings, f.severity ≠ .critical ∧ f.severity ≠ .high := by
  rw [ranked_eq, List.append_eq_nil_iff, List.eq_nil_iff_forall_not_mem,
    List.eq_nil_iff_forall_not_mem]
  constructor
  · rintro ⟨hcritical, hhigh⟩ a ha f hf
    exact ⟨fun h ↦ hcritical (a.filename, f) (mem_findingsAt.mpr ⟨a, ha, rfl, hf, h⟩),
      fun h ↦ hhigh (a.filename, f) (mem_findingsAt.mpr ⟨a, ha, rfl, hf, h⟩)⟩
  · intro h
    constructor
    · intro p hp
      obtain ⟨a, ha, -, hf, hs⟩ := mem_findingsAt.mp hp
      exact (h a ha p.2 hf).1 hs
    · intro p hp
      obtain ⟨a, ha, -, hf, hs⟩ := mem_findingsAt.mp hp
      exact (h a ha p.2 hf).2 hs

theorem highlights_of_ranked_ne (h : ranked analyses ≠ []) :
    highlights analyses limit =
      "\nMost severe findings:\n" ++
        String.join (((ranked analyses).take limit).map highlightLine) := by
  unfold highlights
  split
  · next hnil => exact absurd hnil h
  · rfl

theorem highlights_eq_empty_iff : highlights analyses limit = "" ↔ ranked analyses = [] := by
  by_cases hnil : ranked analyses = []
  · rw [highlights, hnil]
    exact ⟨fun _ ↦ rfl, fun _ ↦ rfl⟩
  · rw [highlights_of_ranked_ne hnil]
    simp [hnil]

theorem filter_hasFindings_eq_nil_iff :
    analyses.filter FileAnalysis.hasFindings = [] ↔ ∀ a ∈ analyses, a.findings = [] := by
  simp [List.filter_eq_nil_iff, FileAnalysis.hasFindings]

/-- What stands behind the findings. -/
def summaryClosing : String :=
  "\nConfirm or refute these findings in your review and look for issues the scanner " ++
    "cannot see.\n\n"

theorem summary_of_flagged (h : ∃ a ∈ analyses, a.findings ≠ []) :
    summary analyses limit =
      "## Static analysis summary\n" ++
        String.join ((analyses.filter FileAnalysis.hasFindings).map flaggedLine) ++
        highlights analyses limit ++ summaryClosing := by
  have hne : analyses.filter FileAnalysis.hasFindings ≠ [] := by
    rw [Ne, filter_hasFindings_eq_nil_iff]
    obtain ⟨a, ha, hf⟩ := h
    exact fun hall ↦ hf (hall a ha)
  have hhighlights : highlights (analyses.filter FileAnalysis.hasFindings) limit =
      highlights analyses limit := by
    rw [highlights, ranked_filter_hasFindings, highlights]
  obtain ⟨a, flagged, hcons⟩ := List.exists_cons_of_ne_nil hne
  rw [← hhighlights, summary, hcons]
  exact String.append_assoc

theorem summary_eq_empty_iff : summary analyses limit = "" ↔ ∀ a ∈ analyses, a.findings = [] := by
  by_cases hnone : ∀ a ∈ analyses, a.findings = []
  · rw [summary, filter_hasFindings_eq_nil_iff.mpr hnone]
    exact ⟨fun _ ↦ hnone, fun _ ↦ rfl⟩
  · rw [summary_of_flagged (by simpa using hnone)]
    simp [hnone]

/-- What stands under the heading of the commit messages. -/
def commitLines (messages : String) : String :=
  if (Text.trimmed messages).isEmpty then "(none)\n" else Text.trimmedEnd messages ++ "\n"

theorem commits_eq (messages : String) :
    commits messages = "## Commit messages\n" ++ commitLines messages := rfl

/-- The prompt opens with a summary of the findings, unless there are none. It gives each file with
findings, in order, with their number. Behind the files it highlights the worst findings, as far as
the limit allows, unless none is critical or high. -/
theorem build_highlights (messages : String) (files : List SourceFile)
    (analyses : List FileAnalysis) (limits : PromptLimits) :
    ∃ (listed : List (String × Finding)) (highlighted rest : String),
      ListsWorst analyses limits.maxHighlighted listed ∧
      build messages files analyses limits = opening ++ summary analyses limits.maxHighlighted ++
        "## Commit messages\n" ++ rest ∧
      (summary analyses limits.maxHighlighted = "" ↔ ∀ a ∈ analyses, a.findings = []) ∧
      ((∃ a ∈ analyses, a.findings ≠ []) → summary analyses limits.maxHighlighted =
        "## Static analysis summary\n" ++
          String.join ((analyses.filter fun a ↦ a.findings ≠ []).map fun a ↦
            "- " ++ a.filename ++ ": " ++ toString a.findings.length ++ " finding(s)\n") ++
          highlighted ++ summaryClosing) ∧
      (highlighted = "" ↔
        ∀ a ∈ analyses, ∀ f ∈ a.findings, f.severity ≠ .critical ∧ f.severity ≠ .high) ∧
      (highlighted ≠ "" →
        highlighted = "\nMost severe findings:\n" ++ String.join (listed.map highlightLine)) := by
  let rest : String :=
    commitLines messages ++ "\n## Changed files (" ++
      toString (min files.length limits.maxFiles) ++ " of " ++ toString files.length ++ ")\n" ++
      String.join ((files.take limits.maxFiles).map (fileSection analyses limits.maxPatchChars)) ++
      "\n## Response format\n" ++ responseFormat ++ "\n"
  refine ⟨_, highlights analyses limits.maxHighlighted, rest, listsWorst_take analyses _, ?build,
    summary_eq_empty_iff, ?files, highlights_eq_empty_iff.trans ranked_eq_nil_iff, ?lines⟩
  case build =>
    rw [build, commits_eq]
    simp only [rest, String.append_assoc]
  case files =>
    intro h
    have hflagged : analyses.filter (fun a ↦ a.findings ≠ []) =
        analyses.filter FileAnalysis.hasFindings := by
      apply List.filter_congr
      intro a _
      rw [FileAnalysis.hasFindings]
      cases a.findings <;> rfl
    rw [summary_of_flagged h, hflagged]
    rfl
  case lines =>
    intro h
    exact highlights_of_ranked_ne fun hnil ↦ h (highlights_eq_empty_iff.mpr hnil)

/-- Of three findings from high on, a limit of two leaves out the second of the high ones, although
the file of the critical one comes last. -/
theorem build_highlights_cut :
    let finding (s : Severity) : Finding :=
      ⟨.codeInjection, "eval", .position 4 2, s, .high, .high, none, "p"⟩
    let analyses : List FileAnalysis := [⟨"a.js", [finding .medium, finding .high], 0, .zero, true⟩,
      .empty "b.js", ⟨"c.js", [finding .high, finding .critical], 0, .zero, true⟩]
    (∃ a ∈ analyses, a.findings ≠ []) ∧
      ∃ rest, build "fix" [] analyses ⟨1, 1, 2⟩ = opening ++
        ("## Static analysis summary\n" ++ "- a.js: 2 finding(s)\n- c.js: 2 finding(s)\n" ++
          ("\nMost severe findings:\n" ++
            ("- [CRITICAL] Code Injection in c.js (Line 4, Column 2): eval\n" ++
              "- [HIGH] Code Injection in a.js (Line 4, Column 2): eval\n")) ++ summaryClosing) ++
        "## Commit messages\n" ++ rest := by
  intro finding analyses
  have hflagged : ∃ a ∈ analyses, a.findings ≠ [] := ⟨_, List.mem_cons_self, by simp⟩
  obtain ⟨listed, highlighted, rest, hlisted, hbuild, -, hfiles, hsome, hlines⟩ :=
    build_highlights "fix" [] analyses ⟨1, 1, 2⟩
  have hne : highlighted ≠ "" := by
    intro hempty
    have hnone :=
      hsome.mp hempty analyses[0] List.mem_cons_self (finding .high) (by simp [analyses])
    exact hnone.2 rfl
  have htwo : listed = [("c.js", finding .critical), ("a.js", finding .high)] := by
    rw [hlisted.eq_take]
    rfl
  have hfileLines : String.join ((analyses.filter fun a ↦ a.findings ≠ []).map fun a ↦
      "- " ++ a.filename ++ ": " ++ toString a.findings.length ++ " finding(s)\n") =
      "- a.js: 2 finding(s)\n- c.js: 2 finding(s)\n" := by decide +kernel
  have hlistedLines : String.join (listed.map highlightLine) =
      "- [CRITICAL] Code Injection in c.js (Line 4, Column 2): eval\n" ++
      "- [HIGH] Code Injection in a.js (Line 4, Column 2): eval\n" := by
    rw [htwo]
    decide +kernel
  refine ⟨hflagged, rest, ?_⟩
  rw [hbuild, hfiles hflagged, hlines hne, hfileLines, hlistedLines]

end ChangeReview.Prompt
