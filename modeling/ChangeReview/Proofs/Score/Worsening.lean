import ChangeReview.Proofs.Issue.Counting
import ChangeReview.Proofs.Score.Penalty
import Mathlib.Logic.Relation

/-!
# Worse items never score better

A list of items gets worse when one more turns up and when one of them gets worse; their order does
not matter. An issue gets worse by its severity, or by turning out to concern security; a finding
by its severity. Every penalty is positive and grows with the severity, so no sequence of such steps
raises a score or lowers the risk.
-/

namespace ChangeReview

/-- One way in which an issue gets worse. -/
inductive Issue.Worsens : Issue → Issue → Prop
  | severity {i : Issue} {s : Severity} (h : i.severity.rank < s.rank) :
    Worsens i { i with severity := s }
  | security {i : Issue} (h : i.issueType ≠ .security) :
    Worsens i { i with issueType := .security }

/-- A finding gets worse by its severity alone. -/
inductive Finding.Worsens : Finding → Finding → Prop
  | severity {f : Finding} {s : Severity} (h : f.severity.rank < s.rank) :
    Worsens f { f with severity := s }

namespace Score

/-- One way in which a list gets worse, given how one of its items does. -/
inductive ListWorsens {α : Type} (worsens : α → α → Prop) : List α → List α → Prop
  | reorder {a b : List α} (h : a.Perm b) : ListWorsens worsens a b
  | insert (before : List α) (x : α) (after : List α) :
    ListWorsens worsens (before ++ after) (before ++ x :: after)
  | replace (before : List α) {x y : α} (h : worsens x y) (after : List α) :
    ListWorsens worsens (before ++ x :: after) (before ++ y :: after)

/-- One way in which the issues and findings of a review get worse. -/
inductive Worsens : List Issue × List Finding → List Issue × List Finding → Prop
  | issues {a b : List Issue} (h : ListWorsens Issue.Worsens a b) (findings : List Finding) :
    Worsens (a, findings) (b, findings)
  | findings (issues : List Issue) {a b : List Finding} (h : ListWorsens Finding.Worsens a b) :
    Worsens (issues, a) (issues, b)

/-! ## Penalties by severity -/

/-- A penalty that is never a bonus and grows with the severity. -/
structure Graded (penalty : Severity → Int) : Prop where
  nonneg : ∀ s, 0 ≤ penalty s
  mono : ∀ {s t : Severity}, s.rank < t.rank → penalty s ≤ penalty t

/-- A penalty is graded when it does not fall from one severity to the next. -/
theorem graded_of_steps {penalty : Severity → Int} (hlow : 0 ≤ penalty .low)
    (hmedium : penalty .low ≤ penalty .medium) (hhigh : penalty .medium ≤ penalty .high)
    (hcritical : penalty .high ≤ penalty .critical) : Graded penalty where
  nonneg s := by cases s <;> omega
  mono {s t} h := by cases s <;> cases t <;> simp only [Severity.rank] at h <;> omega

theorem graded_securityIssuePenalty : Graded securityIssuePenalty :=
  graded_of_steps (by decide) (by decide) (by decide) (by decide)

theorem graded_securityFindingPenalty : Graded securityFindingPenalty :=
  graded_of_steps (by decide) (by decide) (by decide) (by decide)

theorem graded_issuePenalty : Graded issuePenalty :=
  graded_of_steps (by decide) (by decide) (by decide) (by decide)

theorem graded_findingSurcharge : Graded findingSurcharge :=
  graded_of_steps (by decide) (by decide) (by decide) (by decide)

/-- What an issue adds to the risk. -/
def riskWeight : Severity → Int
  | .critical => 10
  | .high => 7
  | .medium => 4
  | .low => 1

theorem graded_riskWeight : Graded riskWeight :=
  graded_of_steps (by decide) (by decide) (by decide) (by decide)

/-- What an issue costs the security score: nothing, unless it concerns security. -/
def securityCost (i : Issue) : Int :=
  if i.issueType = .security then securityIssuePenalty i.severity else 0

theorem securityCost_nonneg (i : Issue) : 0 ≤ securityCost i := by
  unfold securityCost
  split
  · exact graded_securityIssuePenalty.nonneg i.severity
  · exact Int.le_refl 0

/-- A worse issue costs the security score at least as much. -/
theorem securityCost_le_of_worsens {i j : Issue} (h : i.Worsens j) :
    securityCost i ≤ securityCost j := by
  cases h with
  | severity hs =>
    unfold securityCost
    split
    · exact graded_securityIssuePenalty.mono hs
    · exact Int.le_refl 0
  | security htype =>
    rw [securityCost, if_neg htype]
    exact securityCost_nonneg _

/-- A penalty by severity charges a worse issue at least as much. -/
theorem Graded.le_of_issue {penalty : Severity → Int} (hp : Graded penalty) {i j : Issue}
    (h : i.Worsens j) : penalty i.severity ≤ penalty j.severity := by
  cases h with
  | severity hs => exact hp.mono hs
  | security htype => exact Int.le_refl _

/-- A penalty by severity charges a worse finding at least as much. -/
theorem Graded.le_of_finding {penalty : Severity → Int} (hp : Graded penalty) {f g : Finding}
    (h : f.Worsens g) : penalty f.severity ≤ penalty g.severity := by
  cases h with
  | severity hs => exact hp.mono hs

/-! ## Sums of penalties -/

section

variable {α : Type}

theorem total_perm (penalty : α → Int) {a b : List α} (h : a.Perm b) :
    total penalty a = total penalty b := by
  induction h with
  | nil => rfl
  | cons x h ih => rw [total_cons, total_cons, ih]
  | swap x y items =>
    rw [total_cons, total_cons, total_cons, total_cons]
    omega
  | trans h₁ h₂ ih₁ ih₂ => exact ih₁.trans ih₂

/-- The items that are not charged may as well be charged nothing. -/
theorem total_filter (penalty : α → Int) (q : α → Prop) [DecidablePred q] (items : List α) :
    total penalty (items.filter (q ·)) = total (fun a ↦ if q a then penalty a else 0) items := by
  induction items with
  | nil => rfl
  | cons a items ih =>
    rw [total_cons, List.filter_cons]
    by_cases h : q a
    · rw [if_pos (decide_eq_true h), total_cons, ih, if_pos h]
    · rw [if_neg (by simpa using h), ih, if_neg h, Int.zero_add]

/-- A sum of penalties does not fall when the list gets worse. -/
theorem total_le_of_listWorsens {penalty : α → Int} {worsens : α → α → Prop}
    (hnonneg : ∀ a, 0 ≤ penalty a) (hworse : ∀ {x y}, worsens x y → penalty x ≤ penalty y)
    {a b : List α} (h : ListWorsens worsens a b) : total penalty a ≤ total penalty b := by
  cases h with
  | reorder h => exact Int.le_of_eq (total_perm penalty h)
  | insert before x after =>
    have hx := hnonneg x
    rw [total_append, total_append, total_cons]
    omega
  | replace before h after =>
    have hxy := hworse h
    rw [total_append, total_append, total_cons, total_cons]
    omega

/-- A sum of positive penalties is zero only without items. -/
theorem total_eq_zero_iff {penalty : α → Int} (hnonneg : ∀ a, 0 ≤ penalty a) (items : List α) :
    total penalty items = 0 ↔ ∀ a ∈ items, penalty a = 0 := by
  induction items with
  | nil => simp [total]
  | cons a items ih =>
    have ha := hnonneg a
    have hitems := total_nonneg hnonneg items
    rw [total_cons, List.forall_mem_cons, ← ih]
    omega

end

/-! ## Scores in terms of sums -/

theorem security_eq (issues : List Issue) (findings : List Finding) :
    security issues findings =
      clamp (100 - total securityCost issues -
        total (fun f ↦ securityFindingPenalty f.severity) findings) := by
  rw [security, total_filter (fun i : Issue ↦ securityIssuePenalty i.severity)
    (fun i ↦ i.issueType = .security)]
  rfl

/-- The risk is a sum over the issues that the summary counts. -/
theorem riskScore_eq_total {o : Outcome} {issues : List Issue} (h : o.summary = .ofIssues issues) :
    (o.riskScore : Int) = min 100 (total (fun i ↦ riskWeight i.severity) issues) := by
  have hcounts := Outcome.riskScore_of_summary (o := { o with issues }) h
  have hrisk : o.riskScore = ({ o with issues } : Outcome).riskScore := rfl
  rw [hrisk, hcounts, total_severity riskWeight]
  simp only [riskWeight]
  omega

/-- Nothing is charged exactly when no issue concerns security and nothing was found. -/
theorem security_eq_hundred_iff (issues : List Issue) (findings : List Finding) :
    security issues findings = 100 ↔
      (∀ i ∈ issues, i.issueType ≠ .security) ∧ findings = [] := by
  have hfinding (f : Finding) : 0 < securityFindingPenalty f.severity := by
    cases f.severity <;> decide
  have hissue (i : Issue) : securityCost i = 0 ↔ i.issueType ≠ .security := by
    unfold securityCost
    split
    · next htype => cases i.severity <;> simp [securityIssuePenalty, htype]
    · next htype => simp [htype]
  have hissues := total_nonneg securityCost_nonneg issues
  have hfindings := total_nonneg (fun f ↦ Int.le_of_lt (hfinding f)) findings
  have hnone : total (fun f : Finding ↦ securityFindingPenalty f.severity) findings = 0 ↔
      findings = [] := by
    rw [total_eq_zero_iff fun f ↦ Int.le_of_lt (hfinding f), List.eq_nil_iff_forall_not_mem]
    exact forall₂_congr fun f _ ↦ iff_of_false (Int.ne_of_gt (hfinding f)) (by simp_all)
  rw [security_eq, ← hnone, ← forall₂_congr fun i _ ↦ hissue i,
    ← total_eq_zero_iff securityCost_nonneg]
  unfold clamp
  omega

/-! ## From one step to any number of steps -/

section

variable {p : Issue → Int} {q : Finding → Int} (hp : ∀ i, 0 ≤ p i) (hq : ∀ f, 0 ≤ q f)
  (hpw : ∀ {i j : Issue}, i.Worsens j → p i ≤ p j) (hqw : ∀ {f g : Finding}, f.Worsens g → q f ≤ q g)
  {a b : List Issue × List Finding}
include hp hq hpw hqw

/-- One step lowers neither the sum over the issues nor that over the findings. -/
theorem totals_le_of_worsens (h : Worsens a b) :
    total p a.1 ≤ total p b.1 ∧ total q a.2 ≤ total q b.2 := by
  cases h with
  | issues h findings => exact ⟨total_le_of_listWorsens hp hpw h, Int.le_refl _⟩
  | findings issues h => exact ⟨Int.le_refl _, total_le_of_listWorsens hq hqw h⟩

/-- No sequence of steps lowers either sum. -/
theorem totals_le_of_worsening (h : Relation.ReflTransGen Worsens a b) :
    total p a.1 ≤ total p b.1 ∧ total q a.2 ≤ total q b.2 := by
  induction h with
  | refl => exact ⟨Int.le_refl _, Int.le_refl _⟩
  | tail _ hstep ih =>
    have hlast := totals_le_of_worsens hp hq hpw hqw hstep
    exact ⟨Int.le_trans ih.1 hlast.1, Int.le_trans ih.2 hlast.2⟩

end

section

variable {issues issues' : List Issue} {findings findings' : List Finding}

section

variable (h : Relation.ReflTransGen Worsens (issues, findings) (issues', findings'))
include h

theorem security_le_of_worsening : security issues' findings' ≤ security issues findings := by
  obtain ⟨hissues, hfindings⟩ := totals_le_of_worsening securityCost_nonneg
    (fun f ↦ graded_securityFindingPenalty.nonneg f.severity) securityCost_le_of_worsens
    graded_securityFindingPenalty.le_of_finding h
  dsimp only at hissues hfindings
  rw [security_eq, security_eq]
  apply clamp_mono
  omega

theorem overall_le_of_worsening (complexity threshold : Nat) :
    overall issues' findings' complexity threshold ≤
      overall issues findings complexity threshold := by
  obtain ⟨hissues, hfindings⟩ := totals_le_of_worsening
    (fun i ↦ graded_issuePenalty.nonneg i.severity)
    (fun f ↦ graded_findingSurcharge.nonneg f.severity) graded_issuePenalty.le_of_issue
    graded_findingSurcharge.le_of_finding h
  dsimp only at hissues hfindings
  apply clamp_mono
  omega

theorem riskScore_le_of_worsening {o o' : Outcome} (ho : o.summary = .ofIssues issues)
    (ho' : o'.summary = .ofIssues issues') : o.riskScore ≤ o'.riskScore := by
  have hissues := (totals_le_of_worsening (fun i ↦ graded_riskWeight.nonneg i.severity)
    (fun f ↦ graded_findingSurcharge.nonneg f.severity) graded_riskWeight.le_of_issue
    graded_findingSurcharge.le_of_finding h).1
  dsimp only at hissues
  have hrisk := riskScore_eq_total ho
  have hrisk' := riskScore_eq_total ho'
  omega

end

/-- The order of the items does not matter to the security score. -/
theorem security_perm (hissues : issues.Perm issues') (hfindings : findings.Perm findings') :
    security issues findings = security issues' findings' := by
  rw [security_eq, security_eq, total_perm _ hissues, total_perm _ hfindings]

/-- The order of the items does not matter to the overall score. -/
theorem overall_perm (hissues : issues.Perm issues') (hfindings : findings.Perm findings')
    (complexity threshold : Nat) :
    overall issues findings complexity threshold =
      overall issues' findings' complexity threshold := by
  rw [overall, overall, total_perm _ hissues, total_perm _ hfindings]

/-- The order of the issues does not matter to the risk. -/
theorem riskScore_perm (hissues : issues.Perm issues') {o o' : Outcome}
    (ho : o.summary = .ofIssues issues) (ho' : o'.summary = .ofIssues issues') :
    o.riskScore = o'.riskScore := by
  have hrisk := riskScore_eq_total ho
  have hrisk' := riskScore_eq_total ho'
  rw [total_perm _ hissues] at hrisk
  omega

/-- More complexity and a lower threshold never earn the bonus that was missed before. -/
theorem overall_le_of_complexity {complexity complexity' threshold threshold' : Nat}
    (hcomplexity : complexity ≤ complexity') (hthreshold : threshold' ≤ threshold) :
    overall issues findings complexity' threshold' ≤
      overall issues findings complexity threshold := by
  have hbonus : 0 ≤ lowComplexityBonus := by decide
  have hearned : (if complexity' < threshold' then lowComplexityBonus else 0) ≤
      if complexity < threshold then lowComplexityBonus else 0 := by
    by_cases h' : complexity' < threshold'
    · have h : complexity < threshold := by omega
      simp only [if_pos h', if_pos h, Int.le_refl]
    · rw [if_neg h']
      split
      · exact hbonus
      · exact Int.le_refl 0
  exact clamp_mono (Int.add_le_add_left hearned _)

end

/-- However many steps for the worse are taken, no score rises and the risk does not fall; the order
of the items alone changes none of the three. More complexity or a lower threshold never raises the
overall score. All three stay within a hundred, and a full security score means that there is
nothing to charge. -/
theorem scores_of_worsening (issues : List Issue) (findings : List Finding) :
    (∀ issues' findings', Relation.ReflTransGen Worsens (issues, findings) (issues', findings') →
      security issues' findings' ≤ security issues findings ∧
      (∀ complexity threshold, overall issues' findings' complexity threshold ≤
        overall issues findings complexity threshold) ∧
      ∀ o o' : Outcome, o.summary = .ofIssues issues → o'.summary = .ofIssues issues' →
        o.riskScore ≤ o'.riskScore) ∧
    (∀ issues' findings', issues.Perm issues' → findings.Perm findings' →
      security issues' findings' = security issues findings ∧
      (∀ complexity threshold, overall issues' findings' complexity threshold =
        overall issues findings complexity threshold) ∧
      ∀ o o' : Outcome, o.summary = .ofIssues issues → o'.summary = .ofIssues issues' →
        o'.riskScore = o.riskScore) ∧
    (∀ complexity complexity' threshold threshold', complexity ≤ complexity' →
      threshold' ≤ threshold → overall issues findings complexity' threshold' ≤
        overall issues findings complexity threshold) ∧
    security issues findings ≤ 100 ∧
    (∀ complexity threshold, overall issues findings complexity threshold ≤ 100) ∧
    (∀ o : Outcome, o.riskScore ≤ 100) ∧
    (security issues findings = 100 ↔
      (∀ i ∈ issues, i.issueType ≠ .security) ∧ findings = []) := by
  refine ⟨?_, ?_, ?_, clamp_le _, fun _ _ ↦ clamp_le _, fun o ↦ Nat.min_le_left _ _,
    security_eq_hundred_iff issues findings⟩
  · intro issues' findings' h
    exact ⟨security_le_of_worsening h, overall_le_of_worsening h,
      fun o o' ho ho' ↦ riskScore_le_of_worsening h ho ho'⟩
  · intro issues' findings' hissues hfindings
    exact ⟨(security_perm hissues hfindings).symm,
      fun complexity threshold ↦ (overall_perm hissues hfindings complexity threshold).symm,
      fun o o' ho ho' ↦ (riskScore_perm hissues ho ho').symm⟩
  · intro complexity complexity' threshold threshold' hcomplexity hthreshold
    exact overall_le_of_complexity hcomplexity hthreshold

/-- A remark on logic turns out to be a critical security issue, and a finding of medium severity
comes with it. -/
theorem scores_of_worsening_remark :
    let remark : Issue := ⟨.logic, "Check", "", "a.js", "Line 1", .low, none, .low, .none, .model⟩
    let hole : Issue := { remark with issueType := .security, severity := .critical }
    let finding : Finding :=
      ⟨.weakRandomness, "", .unknown, .medium, .high, .low, none, "insecureRandom"⟩
    Relation.ReflTransGen Worsens ([remark], []) ([hole], [finding]) ∧
      security [hole] [finding] ≤ security [remark] [] ∧
      overall [hole] [finding] 12 10 ≤ overall [remark] [] 12 10 ∧
      overall [remark] [] 12 10 ≤ overall [remark] [] 3 10 ∧
      (Outcome.ofIssues [remark] []).riskScore ≤ (Outcome.ofIssues [hole] []).riskScore ∧
      security [remark] [] = 100 ∧ security [hole] [finding] = 69 := by
  intro remark hole finding
  have hseverity : Worsens ([remark], []) ([{ remark with severity := .critical }], []) :=
    .issues (.replace [] (.severity (by decide)) []) []
  have htype : Worsens ([{ remark with severity := .critical }], []) ([hole], []) :=
    .issues (.replace [] (.security (by decide)) []) []
  have hfinding : Worsens ([hole], []) ([hole], [finding]) := .findings [hole] (.insert [] finding [])
  have hsteps := ((Relation.ReflTransGen.single hseverity).tail htype).tail hfinding
  obtain ⟨hworse, -, hcomplexity, -, -, -, hfull⟩ := scores_of_worsening [remark] []
  obtain ⟨hsecurity, hoverall, hrisk⟩ := hworse _ _ hsteps
  exact ⟨hsteps, hsecurity, hoverall 12 10, hcomplexity 3 12 10 10 (by decide) (by decide),
    hrisk _ _ rfl rfl, hfull.mpr ⟨by simp [remark], rfl⟩, by decide⟩

end Score

end ChangeReview
