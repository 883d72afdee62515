import ChangeReview.Proofs.Reply.Extraction
import ChangeReview.Proofs.Reply.Slicing

/-!
# When no strategy decodes

Without its markers and the prose before its first object, a text has no marker left, starts with
that object and has its characters in their order. So whatever a strategy decodes has braces that
stand in the reply, in this order. Where there are none, all strategies fail, and the failure of the
last is that it has no candidate.
-/

namespace ChangeReview.Reply

open Json (byteCount)
open Text

variable {s raw : List Char}

/-! ## Markers that are left -/

/-- What the removal leaves starts with no more backticks than the text, up to a marker. -/
theorem replicate_prefix_of_unfence {n : Nat} (hn : n ≤ fence.length)
    (h : List.replicate n '\x60' <+: unfence s) : List.replicate n '\x60' <+: s := by
  induction n generalizing s with
  | zero => exact List.nil_prefix
  | succ n ih =>
    cases s with
    | nil =>
      rw [unfence_nil] at h
      exact absurd (List.prefix_nil.mp h) (by simp)
    | cons c s =>
      cases hstart : startsFence (c :: s) with
      | true =>
        have hprefix : List.replicate (n + 1) '\x60' <+: fence :=
          ⟨List.replicate (fence.length - (n + 1)) '\x60', by
            rw [List.replicate_append_replicate, Nat.add_sub_cancel' hn]; rfl⟩
        exact hprefix.trans (startsFence_iff.mp hstart)
      | false =>
        rw [unfence_cons hstart, List.replicate_succ, List.cons_prefix_cons] at h
        obtain ⟨rfl, h⟩ := h
        rw [List.replicate_succ, List.cons_prefix_cons]
        exact ⟨rfl, ih (by omega) h⟩

/-- The removal leaves no marker, and makes none of what stood before and behind a marker. -/
theorem not_fence_infix_unfence (s : List Char) : ¬ fence <:+: unfence s := by
  induction s using unfence_induction with
  | nil =>
    rw [unfence_nil]
    decide
  | keep c s hstart ih =>
    intro h
    rw [unfence_cons hstart, List.infix_cons_iff] at h
    rcases h with h | h
    · rw [← unfence_cons hstart] at h
      have hmark : fence <+: c :: s := replicate_prefix_of_unfence (n := 3) le_rfl h
      rw [startsFence_iff.mpr hmark] at hstart
      cases hstart
    · exact ih h
  | mark s hlabel ih => rwa [unfence_fence hlabel]
  | labelled lab s hlab ih => rwa [unfence_labelled hlab]

theorem not_fence_infix_stripProse (s : List Char) : ¬ fence <:+: stripProse s := by
  obtain ⟨t, ht, hprefix⟩ := exists_prefix_stripProse s
  intro h
  obtain ⟨m, hm, hunify⟩ :=
    exists_infix_of_cut exists_append_of_unifyEndings (h.trans hprefix.isInfix)
  have hfeed : '\n' ∉ m := by
    intro hmem
    obtain ⟨l, r, rfl, hl⟩ := List.eq_append_cons_of_mem hmem
    rw [unifyEndings_line hl] at hunify
    have hfence : '\n' ∈ fence := hunify ▸ List.mem_append_right _ List.mem_cons_self
    exact absurd hfence (by decide)
  rw [unifyEndings_of_not_mem hfeed] at hunify
  exact not_fence_infix_unfence s (hunify ▸ hm.trans ht.isInfix)

/-! ## Prose that is left -/

theorem stripProse_sublist (s : List Char) : (stripProse s).Sublist s := by
  obtain ⟨t, ht, hprefix⟩ := exists_prefix_stripProse s
  have hline : (stripProse s).Sublist t := hprefix.sublist.trans (unifyEndings_sublist t)
  exact hline.trans (ht.sublist.trans (unfence_sublist s))

/-- The first of some lines is the first line when they are joined. -/
theorem opensObject_joinLines {line : List Char} (hfeed : '\n' ∉ line) (hopens : opensObject line)
    (rest : List (List Char)) :
    ∃ first, (lines (joinLines (line :: rest))).head? = some first ∧ opensObject first := by
  cases rest with
  | nil =>
    have hne : line ≠ [] := by
      rintro rfl
      exact absurd hopens (by decide)
    refine ⟨line, ?_, hopens⟩
    rw [joinLines, lines_of_not_mem hfeed, if_neg (by simpa using hne)]
    rfl
  | cons next rest =>
    refine ⟨dropReturn line, ?_, opensObject_dropReturn hopens⟩
    rw [joinLines, lines_line hfeed]
    rfl

/-- Without prose, nothing is left or the first line opens an object. -/
theorem stripProse_cases (s : List Char) :
    stripProse s = [] ∨ ∃ line, (lines (stripProse s)).head? = some line ∧ opensObject line := by
  obtain ⟨t, -, hdrop⟩ := exists_dropWhile_lines (fun line ↦ !opensObject line) (unfence s)
  have hhead : ∀ line, (lines t).head? = some line → opensObject line := by
    intro line hline
    have h := List.head?_dropWhile_not (fun line ↦ !opensObject line) (lines (unfence s))
    rw [hdrop, hline] at h
    simpa using h
  rw [stripProse, hdrop]
  cases t using lines_induction with
  | last t ht =>
    rw [lines_of_not_mem ht] at hhead ⊢
    split at hhead
    · next hempty => exact .inl (by rw [if_pos hempty]; rfl)
    · next hempty =>
      rw [if_neg hempty]
      exact .inr (opensObject_joinLines ht (hhead t rfl) [])
  | line l t hl _ =>
    rw [lines_line hl] at hhead ⊢
    have hfeed : '\n' ∉ dropReturn l := fun hmem ↦ hl ((prefix_dropReturn l).mem hmem)
    exact .inr (opensObject_joinLines hfeed (hhead _ rfl) _)

/-! ## Strategies that fail -/

/-- Decoding fails when all strategies do, and the failure of the last is reported. -/
theorem decodeWith_concat_eq_error_iff {last : DecodeFault} {strategies : List Strategy}
    {strategy : Strategy} {e : Exhausted} :
    decodeWith raw last (strategies ++ [strategy]) = .error e ↔
      (∀ s ∈ strategies, ∃ fault, s.apply raw = .error fault) ∧
        strategy.apply raw = .error e.last := by
  induction strategies generalizing last with
  | nil =>
    rw [List.nil_append, decodeWith]
    cases strategy.apply raw with
    | ok value => simp
    | error fault =>
      obtain ⟨reported⟩ := e
      simp [decodeWith]
  | cons s strategies ih =>
    rw [List.cons_append, decodeWith, List.forall_mem_cons]
    cases s.apply raw with
    | ok value => simp
    | error fault => simp [ih]

theorem decode_eq_error_iff {raw : String} {e : Exhausted} :
    decode raw = .error e ↔
      (∀ s : Strategy, ∃ fault, s.apply raw.toList = .error fault) ∧
        Strategy.proseStripped.apply raw.toList = .error e.last := by
  have hall : Strategy.all = [.direct, .labelledFence, .anyFence, .braceSpan] ++ [.proseStripped] :=
    rfl
  rw [decode, hall, decodeWith_concat_eq_error_iff]
  refine and_congr_left fun hlast ↦ ⟨fun h s ↦ ?_, fun h s _ ↦ h s⟩
  cases s with
  | proseStripped => exact ⟨_, hlast⟩
  | direct | labelledFence | anyFence | braceSpan => exact h _ (by simp)

/-! ## Braces -/

/-- What a strategy decodes has braces that stand in the reply. -/
theorem braces_sublist_of_apply {strategy : Strategy} {value : Json.Members}
    (h : strategy.apply raw = .ok value) : ['\x7b', '\x7d'].Sublist raw := by
  obtain ⟨c, hc, hparse⟩ := exists_candidate_of_apply h
  refine (enclosed_trim_of_parse hparse).braces_sublist.trans ?_
  by_cases hs : strategy = .proseStripped
  · subst hs
    have hinfix : trim c <:+: stripProse raw := (infix_trim c).trans (infix_of_braceSpan hc)
    exact hinfix.sublist.trans (stripProse_sublist raw)
  · exact (trim_infix_of_candidate hs hc).sublist

/-- Without such braces, the last strategy has no candidate. -/
theorem proseStripped_apply_eq_error (h : ¬ ['\x7b', '\x7d'].Sublist raw) :
    Strategy.proseStripped.apply raw = .error (.noCandidate .proseStripped) := by
  have hnone : Strategy.proseStripped.candidate raw = none :=
    braceSpan_eq_none fun hs ↦ h (hs.trans (stripProse_sublist raw))
  rw [Strategy.apply, hnone]

/-- The strategies cut a reply only at valid positions, by whatever offsets they find: each ends with
its candidate and none breaks off. The removal of markers moves on with each turn and ends with the
text without its markers, in which no marker is left and none has formed. Without its prose this
text is empty or its first line opens an object, and its characters stand in the reply in the same
order. Decoding fails when every strategy does, and reports the failure of the last. That is the
case when no closing brace comes after an opening one in the reply, and then the last strategy has
no candidate. -/
theorem slicing_and_exhaustion (raw : String) :
    let text := raw.toList
    (∀ n, (cutAt? text n).isSome ↔ (String.Pos.Raw.mk n).IsValid raw) ∧
    (∀ strategy : Strategy, strategy.candidateAt text = some (strategy.candidate text)) ∧
    ((∀ r next : Removal, r.turn text = some (.inr next) →
        r.cursor < next.cursor ∧ next.cursor ≤ byteCount text) ∧
      Removal.run text ⟨0, []⟩ = some (unfence text) ∧
      stripProseAt text = some (stripProse text)) ∧
    (¬ fence <:+: unfence text ∧ ¬ fence <:+: stripProse text) ∧
    (stripProse text = [] ∨
      ∃ line, (lines (stripProse text)).head? = some line ∧ opensObject line) ∧
    (stripProse text).Sublist text ∧
    (∀ e, decode raw = .error e ↔
      (∀ strategy : Strategy, ∃ fault, strategy.apply text = .error fault) ∧
        Strategy.proseStripped.apply text = .error e.last) ∧
    (¬ ['\x7b', '\x7d'].Sublist text → decode raw = .error ⟨.noCandidate .proseStripped⟩) := by
  intro text
  refine ⟨fun n ↦ isSome_cutAt?_iff raw, fun s ↦ candidateAt_eq s text,
    ⟨fun r next ↦ Removal.lt_cursor_of_turn, Removal.run_append [] [] text, stripProseAt_eq text⟩,
    ⟨not_fence_infix_unfence text, not_fence_infix_stripProse text⟩, stripProse_cases text,
    stripProse_sublist text, fun e ↦ decode_eq_error_iff, fun hbraces ↦ ?_⟩
  refine decode_eq_error_iff.mpr ⟨fun s ↦ ?_, proseStripped_apply_eq_error hbraces⟩
  cases hs : s.apply text with
  | error fault => exact ⟨fault, rfl⟩
  | ok value => exact absurd (braces_sublist_of_apply hs) hbraces

/-- Of four backticks three go, and the label behind the fourth stays. A label right behind a marker
goes with it, and what follows stays apart from what stood before. -/
theorem slicing_and_exhaustion_labels :
    ¬ ['\x7b', '\x7d'].Sublist "Ü\x7d ````json`` ```JSON``\x7b".toList ∧
      Removal.run "Ü\x7d ````json`` ```JSON``\x7b".toList ⟨0, []⟩ =
        some "Ü\x7d `json`` ``\x7b".toList ∧
      decode "Ü\x7d ````json`` ```JSON``\x7b" = .error ⟨.noCandidate .proseStripped⟩ := by
  obtain ⟨-, -, ⟨-, hrun, -⟩, -, -, -, -, hdecode⟩ :=
    slicing_and_exhaustion "Ü\x7d ````json`` ```JSON``\x7b"
  have hbraces : ¬ ['\x7b', '\x7d'].Sublist "Ü\x7d ````json`` ```JSON``\x7b".toList := by decide
  refine ⟨hbraces, hrun.trans ?_, hdecode hbraces⟩
  with_unfolding_all rfl

end ChangeReview.Reply
