import Mathlib.Data.List.Nodup
import ChangeReview.Recommendation
import ChangeReview.Proofs.List.Distinct
import ChangeReview.Proofs.Text.ByteOrder

/-!
# Advice for findings

Advice opens with the number of critical findings and that of high ones, and goes on with one line a
class. Of these lines the first five are given. The cut never reaches the opening, and a class is
left out only for classes that appear before it.
-/

namespace ChangeReview.Recommendation

variable {findings : List Finding}

/-- The place of a class among findings: that of its first finding. -/
def place (findings : List Finding) (c : VulnerabilityClass) : Nat :=
  (findings.map (·.vulnerability)).idxOf c

/-- The classes of the findings, each once, in the order in which they first appear. -/
structure FirstAppearances (findings : List Finding) (classes : List VulnerabilityClass) :
    Prop where
  nodup : classes.Nodup
  mem_iff : ∀ c, c ∈ classes ↔ ∃ f ∈ findings, f.vulnerability = c
  ordered : classes.Pairwise fun a b ↦ place findings a < place findings b

/-- One line with the number of findings of a severity, when there are any. -/
def countLine (findings : List Finding) (s : Severity) (before after : String) : List String :=
  if ∃ f ∈ findings, f.severity = s then
    [before ++ toString (findings.countP (·.severity = s)) ++ after]
  else []

/-- How many findings are critical, then how many are high. -/
def opening (findings : List Finding) : List String :=
  countLine findings .critical "Address " " critical security finding(s) before merging." ++
    countLine findings .high "Review " " high-severity security finding(s) promptly."

/-- The classes for which there is advice. -/
def classes (findings : List Finding) : List VulnerabilityClass :=
  (findings.map (·.vulnerability)).eraseDups

/-! ## Opening and classes -/

theorem length_countLine_le (findings : List Finding) (s : Severity) (before after : String) :
    (countLine findings s before after).length ≤ 1 := by
  rw [countLine]
  split <;> simp

theorem urgencies_eq (findings : List Finding) : urgencies findings = opening findings := by
  simp only [urgencies, List.filterMap_cons, List.filterMap_nil, urgency?, opening, countLine,
    List.countP_pos_iff, decide_eq_true_eq]
  by_cases hcritical : ∃ f ∈ findings, f.severity = .critical <;>
    by_cases hhigh : ∃ f ∈ findings, f.severity = .high <;>
    simp only [hcritical, hhigh, ↓reduceIte] <;> rfl

theorem firstSeen_eq {α : Type} [DecidableEq α] (seen l : List α) :
    firstSeen seen l = (l.filter (· ∉ seen)).eraseDups := by
  -- for every `seen`, since it grows along the list
  induction l generalizing seen with
  | nil => rfl
  | cons a l ih =>
    rw [firstSeen, ih, ih]
    split
    · next ha => rw [List.filter_cons_of_neg (by simpa using ha)]
    · next ha =>
      rw [List.filter_cons_of_pos (by simpa using ha), List.eraseDups_cons, List.filter_filter]
      congr 2
      apply List.filter_congr
      intro b _
      by_cases hb : b = a <;> simp [hb]

theorem firstAppearances_classes (findings : List Finding) :
    FirstAppearances findings (classes findings) where
  nodup := nodup_eraseDups _
  mem_iff c := by rw [classes, List.mem_eraseDups, List.mem_map]
  ordered := pairwise_idxOf_eraseDups _

/-- The cut never reaches the opening. -/
theorem ofFindings_eq (findings : List Finding) :
    ofFindings findings = opening findings ++
      ((classes findings).take (5 - (opening findings).length)).map forClass := by
  have hclasses : firstSeen [] (findings.map (·.vulnerability)) = classes findings := by
    rw [firstSeen_eq, List.filter_eq_self.mpr (by simp), classes]
  have hopening : (opening findings).length ≤ 5 := by
    have hcritical := length_countLine_le findings .critical
    have hhigh := length_countLine_le findings .high
    rw [opening, List.length_append]
    exact Nat.le_trans (Nat.add_le_add (hcritical _ _) (hhigh _ _)) (by decide)
  rw [ofFindings, urgencies_eq, hclasses, maximum, List.take_append,
    List.take_of_length_le hopening, List.map_take]

/-- There is advice exactly when there is a finding. -/
theorem ofFindings_eq_nil_iff (findings : List Finding) :
    ofFindings findings = [] ↔ findings = [] := by
  constructor
  · intro h
    cases findings with
    | nil => rfl
    | cons f findings => simp [ofFindings, maximum, firstSeen] at h
  · rintro rfl
    rfl

/-! ## Distinct lines -/

theorem forClass_injective : Function.Injective forClass := by
  have hnodup : (VulnerabilityClass.all.map forClass).Nodup := by decide +kernel
  exact fun a b h ↦ List.inj_on_of_nodup_map hnodup a.mem_all b.mem_all h

/-- The first bytes of a line, which tell an opening from the advice for a class. -/
def lead (line : String) : List UInt8 := (Text.utf8 line).take 3

theorem lead_forClass (c : VulnerabilityClass) :
    lead (forClass c) ≠ lead "Address " ∧ lead (forClass c) ≠ lead "Review " := by
  have hall : ∀ c ∈ VulnerabilityClass.all,
      lead (forClass c) ≠ lead "Address " ∧ lead (forClass c) ≠ lead "Review " := by
    decide +kernel
  exact hall c c.mem_all

theorem lead_of_mem_countLine {s : Severity} {line before after : String}
    (h : line ∈ countLine findings s before after) (hlead : 3 ≤ (Text.utf8 before).length) :
    lead line = lead before := by
  rw [countLine] at h
  split at h
  · rw [List.mem_singleton.mp h, lead, String.append_assoc, Text.utf8_append,
      List.take_append_of_le_length hlead, lead]
  · exact absurd h List.not_mem_nil

theorem lead_of_mem_opening {line : String} (h : line ∈ opening findings) :
    lead line = lead "Address " ∨ lead line = lead "Review " :=
  (List.mem_append.mp h).imp (fun h ↦ lead_of_mem_countLine h (by decide))
    fun h ↦ lead_of_mem_countLine h (by decide)

theorem nodup_countLine (findings : List Finding) (s : Severity) (before after : String) :
    (countLine findings s before after).Nodup := by
  rw [countLine]
  split
  · exact List.nodup_singleton _
  · exact List.nodup_nil

theorem nodup_opening (findings : List Finding) : (opening findings).Nodup := by
  refine List.nodup_append.mpr ⟨nodup_countLine .., nodup_countLine .., ?_⟩
  rintro line hcritical _ hhigh rfl
  have hsame : lead "Address " = lead "Review " :=
    (lead_of_mem_countLine hcritical (by decide)).symm.trans
      (lead_of_mem_countLine hhigh (by decide))
  exact absurd hsame (by decide)

theorem nodup_ofFindings (findings : List Finding) : (ofFindings findings).Nodup := by
  rw [ofFindings_eq]
  refine List.nodup_append.mpr ⟨nodup_opening findings, ?_, ?_⟩
  · exact List.Nodup.map forClass_injective
      ((firstAppearances_classes findings).nodup.sublist (List.take_sublist _ _))
  · rintro line hopening _ hclass rfl
    obtain ⟨c, -, rfl⟩ := List.mem_map.mp hclass
    exact (lead_of_mem_opening hopening).elim (lead_forClass c).1 (lead_forClass c).2

/-! ## Classes left out, findings that make no difference -/

/-- A class is left out only when earlier ones have taken all the room. -/
theorem exists_earlier_of_omitted {f : Finding} (hf : f ∈ findings)
    (h : forClass f.vulnerability ∉ ofFindings findings) :
    ∃ earlier : List VulnerabilityClass, earlier.Nodup ∧
      earlier.length = 5 - (opening findings).length ∧
      ∀ c ∈ earlier, place findings c < place findings f.vulnerability := by
  have happear := firstAppearances_classes findings
  have hmem : f.vulnerability ∈ classes findings := (happear.mem_iff _).mpr ⟨f, hf, rfl⟩
  have hcut : f.vulnerability ∉ (classes findings).take (5 - (opening findings).length) := by
    rw [ofFindings_eq, List.mem_append, not_or] at h
    exact fun hkept ↦ h.2 (List.mem_map_of_mem hkept)
  have hlong : 5 - (opening findings).length ≤ (classes findings).length := by
    refine Nat.le_of_not_le fun hshort ↦ hcut ?_
    rwa [List.take_of_length_le hshort]
  exact ⟨_, happear.nodup.sublist (List.take_sublist _ _), List.length_take_of_le hlong,
    fun c hc ↦ rel_of_not_mem_take happear.ordered hc hmem hcut⟩

/-- A finding of medium or low severity whose class has appeared before makes no difference. -/
theorem ofFindings_insert {before after : List Finding} {f : Finding}
    (hseverity : f.severity = .medium ∨ f.severity = .low)
    (hseen : ∃ g ∈ before, g.vulnerability = f.vulnerability) :
    ofFindings (before ++ f :: after) = ofFindings (before ++ after) := by
  have hcount (s : Severity) (hs : f.severity ≠ s) :
      (before ++ f :: after).countP (·.severity = s) =
        (before ++ after).countP (·.severity = s) := by
    rw [List.countP_append, List.countP_cons_of_neg (by simpa using hs), List.countP_append]
  have hcritical := hcount .critical (by rcases hseverity with h | h <;> simp [h])
  have hhigh := hcount .high (by rcases hseverity with h | h <;> simp [h])
  have hopening : opening (before ++ f :: after) = opening (before ++ after) := by
    rw [← urgencies_eq, ← urgencies_eq]
    simp only [urgencies, List.filterMap_cons, List.filterMap_nil, hcritical, hhigh]
  have hclasses : classes (before ++ f :: after) = classes (before ++ after) := by
    rw [classes, classes, List.map_append, List.map_cons, List.map_append]
    exact eraseDups_of_mem (List.mem_map.mpr hseen) _
  rw [ofFindings_eq, ofFindings_eq, hopening, hclasses]

/-- The advice for findings is its opening and a line for each of the first classes, five different
lines at most. There is none exactly when there is no finding. The opening is given whole, a class
is left out only for earlier ones that fill the room, and a further finding of medium or low
severity makes no difference when its class has appeared before. -/
theorem ofFindings_advice (findings : List Finding) :
    FirstAppearances findings (classes findings) ∧
    ofFindings findings = opening findings ++
      ((classes findings).take (5 - (opening findings).length)).map forClass ∧
    (ofFindings findings).length ≤ 5 ∧ (ofFindings findings).Nodup ∧
    (ofFindings findings = [] ↔ findings = []) ∧ opening findings <+: ofFindings findings ∧
    (∀ f ∈ findings, forClass f.vulnerability ∉ ofFindings findings →
      ∃ earlier : List VulnerabilityClass, earlier.Nodup ∧
        earlier.length = 5 - (opening findings).length ∧
        ∀ c ∈ earlier, place findings c < place findings f.vulnerability) ∧
    ∀ before after f, findings = before ++ after → f.severity = .medium ∨ f.severity = .low →
      (∃ g ∈ before, g.vulnerability = f.vulnerability) →
      ofFindings (before ++ f :: after) = ofFindings findings := by
  refine ⟨firstAppearances_classes findings, ofFindings_eq findings, length_ofFindings_le findings,
    nodup_ofFindings findings, ofFindings_eq_nil_iff findings, ?opening, ?omitted, ?inserted⟩
  case opening => exact ⟨_, (ofFindings_eq findings).symm⟩
  case omitted => exact fun f hf h ↦ exists_earlier_of_omitted hf h
  case inserted =>
    rintro before after f rfl hseverity hseen
    exact ofFindings_insert hseverity hseen

/-- With both lines of the opening there is room for three classes, and the fourth is left out. One
more call of `eval`, seen last and of low severity, changes nothing. -/
theorem ofFindings_advice_fourth_class :
    let finding (c : VulnerabilityClass) (s : Severity) : Finding :=
      ⟨c, "", .unknown, s, .high, .high, none, "p"⟩
    let findings := [finding .codeInjection .critical, finding .sqlInjection .high,
      finding .insecureTransport .medium, finding .codeInjection .critical,
      finding .weakCryptography .low]
    let lines := [
      "Address 2 critical security finding(s) before merging.",
      "Review 1 high-severity security finding(s) promptly.",
      forClass .codeInjection, forClass .sqlInjection, forClass .insecureTransport]
    ofFindings findings = lines ∧ ofFindings (findings ++ [finding .codeInjection .low]) = lines ∧
      ∃ earlier : List VulnerabilityClass, earlier.Nodup ∧ earlier.length = 3 ∧
        ∀ c ∈ earlier, place findings c < 4 := by
  intro finding findings lines
  obtain ⟨-, hadvice, -, -, -, -, homitted, hinserted⟩ := ofFindings_advice findings
  have hopening : opening findings = ["Address 2 critical security finding(s) before merging.",
      "Review 1 high-severity security finding(s) promptly."] := by decide +kernel
  have hclasses : classes findings =
      [.codeInjection, .sqlInjection, .insecureTransport, .weakCryptography] := by decide
  have hlines : ofFindings findings = lines := by
    rw [hadvice, hopening, hclasses]
    rfl
  have hleft : forClass .weakCryptography ∉ ofFindings findings := by
    rw [hlines]
    decide +kernel
  have hearlier := homitted (finding .weakCryptography .low) (by decide) hleft
  have hplace : place findings .weakCryptography = 4 := by decide
  rw [hopening, hplace] at hearlier
  have hsame := hinserted findings [] (finding .codeInjection .low) (List.append_nil _).symm
    (.inr rfl) ⟨finding .codeInjection .critical, List.mem_cons_self, rfl⟩
  exact ⟨hlines, hsame.trans hlines, hearlier⟩

end ChangeReview.Recommendation
