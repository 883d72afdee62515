import Mathlib.Data.List.Infix
import ChangeReview.Proofs.Reply.Lines
import ChangeReview.Proofs.Reply.Payload

/-!
# Recovery of a payload after prose

A payload starts on a line of its own, after prose lines that may hold braces but of which none
opens an object. Decoding gives the value of the payload. The last strategy finds it, since it drops
the prose lines, and what the others accept before is the payload as well: a fence stands after the
payload only, where no object ends, and what the brace span cuts out ends with the payload, which
starts between tokens, so that no other object is cut.
-/

namespace ChangeReview.Reply

open Text Json

/-- Prose in front of a payload: whole lines that hold no fence and open no object. -/
structure IsProse (pre : List Char) : Prop where
  ends : pre = [] ∨ pre.getLast? = some '\n'
  unmarked : ¬ fence <:+: pre
  opensNone : ∀ line ∈ lines pre, (trimStart line).head? ≠ some '\x7b'

variable {pre p post s t b : List Char} {value v : Members}

namespace IsProse

/-- No marker runs over the end of prose. -/
theorem unfenced (h : IsProse pre) : Unfenced pre := by
  apply Unfenced.of_getLast? h.unmarked
  rcases h.ends with rfl | hlast
  · simp
  · rw [hlast]
    decide

theorem opensObject_eq_false (h : IsProse pre) {line : List Char} (hline : line ∈ lines pre) :
    opensObject line = false := by
  rw [opensObject, beq_eq_false_iff_ne]
  exact h.opensNone line hline

/-- Prose does not open an object. -/
theorem not_opensObject (h : IsProse pre) : ¬ opensObject pre := by
  intro hopens
  obtain ⟨line, hmem, hline⟩ := exists_line_of_opensObject hopens
  rw [h.opensObject_eq_false hmem] at hline
  exact absurd hline (by decide)

end IsProse

/-! ## What the other strategies accept -/

/-- The whole reply is an object only when the prose is blank. -/
theorem eq_value_of_direct (hpre : IsProse pre) (hp : IsPayload p value) (hpost : '\x7d' ∉ post)
    (h : Strategy.direct.apply (pre ++ p ++ post) = .ok v) : v = value := by
  by_cases hblank : AllBlank pre
  · have hbrace : '\x7b' ∉ pre := fun hmem ↦ absurd (hblank _ hmem) (by decide)
    exact eq_value_of_apply hbrace hpost hp.enclosed hp.parses (by simp) h
  · -- The first character that is no blank would be a brace of the prose.
    obtain ⟨c, hc, hparse⟩ := exists_candidate_of_apply h
    obtain rfl := Option.some.inj hc
    obtain ⟨x, y, hraw, hx, -⟩ := append_trim (pre ++ p ++ post)
    obtain ⟨u, hu⟩ := List.head?_eq_some_iff.mp (enclosed_trim_of_parse hparse).head?_eq
    have hopens : opensObject (pre ++ p ++ post) := by
      rw [opensObject_iff, hraw, hu]
      exact ⟨x, u ++ y, by simp, hx⟩
    rw [List.append_assoc] at hopens
    exact absurd (opensObject_of_append hblank hopens) hpre.not_opensObject

/-- A fence stands behind a part of the reply over whose end no marker runs. -/
theorem suffix_of_startsFence (hs : Unfenced s) (h : b <:+ s ++ t) (hb : startsFence b) :
    b <:+ t := by
  obtain ⟨x, hx⟩ := h
  rcases List.append_eq_append_iff.mp hx with ⟨w, rfl, rfl⟩ | ⟨w, -, rfl⟩
  · cases w with
    | nil => exact List.suffix_rfl
    | cons c w =>
      rw [hs (c :: w) (List.suffix_append x _) (List.cons_ne_nil c w) t] at hb
      exact absurd hb (by decide)
  · exact List.suffix_append w b

/-- What stands in a fence behind the payload is no object. -/
theorem fence_apply_ne_ok {strategy : Strategy} {here : List Char → Bool}
    (hs : OpensAt strategy here) (hhere : ∀ b, here b → startsFence b) (hu : Unfenced s)
    (hpost : '\x7d' ∉ post) :
    strategy.apply (s ++ post) ≠ .ok v := by
  intro h
  obtain ⟨c, hc, hparse⟩ := exists_candidate_of_apply h
  rw [hs, Option.bind_eq_some_iff] at hc
  obtain ⟨⟨a, b⟩, hsplit, hinterior⟩ := hc
  obtain ⟨x, y, rfl⟩ := exists_of_fenceInterior hinterior
  have hsuffix : x ++ '\n' :: (c ++ '\x60' :: y) <:+ post :=
    suffix_of_startsFence hu ⟨a, append_of_splitWhere? hsplit⟩ (hhere _ (holds_of_splitWhere? hsplit))
  have hbrace : '\x7d' ∈ trim c := List.mem_of_getLast? (enclosed_trim_of_parse hparse).getLast?_eq
  obtain ⟨u, w, htrim, -, -⟩ := append_trim c
  refine hpost (hsuffix.mem ?_)
  rw [htrim]
  simp [hbrace]

/-- The brace span accepts nothing but the payload. -/
theorem eq_value_of_braceSpan (hends : pre = [] ∨ pre.getLast? = some '\n')
    (hp : IsPayload p value) (hpost : '\x7d' ∉ post)
    (h : Strategy.braceSpan.apply (pre ++ p ++ post) = .ok v) : v = value := by
  obtain ⟨c, hc, hparse⟩ := exists_candidate_of_apply h
  rw [Strategy.candidate, braceSpan_append_eq pre hpost hp.enclosed] at hc
  obtain rfl := Option.some.inj hc
  -- `a` is the prose from its first brace on.
  generalize ha : pre.dropWhile (· ≠ '\x7b') = a at hparse
  have hopen : (a ++ p).head? = some '\x7b' := by
    have hhead := List.head?_dropWhile_not (· ≠ '\x7b') pre
    rw [ha] at hhead
    cases a with
    | nil => exact hp.opens
    | cons c a => simpa using hhead
  have hclose : (a ++ p).getLast? = some '\x7d' := by
    rw [List.getLast?_append, hp.closes, Option.some_or]
  rw [trim_eq_of_braces hopen hclose] at hparse
  have hfeed : a = [] ∨ a.getLast? = some '\n' := by
    obtain ⟨x, hx⟩ : a <:+ pre := ha ▸ List.dropWhile_suffix _
    rcases hends with rfl | hlast
    · exact .inl (List.append_eq_nil_iff.mp hx).2
    · rcases List.eq_nil_or_concat a with rfl | ⟨a, c, rfl⟩
      · exact .inl rfl
      · rw [← hx, List.concat_eq_append, ← List.append_assoc, List.getLast?_concat] at hlast
        rw [List.concat_eq_append, List.getLast?_concat]
        exact .inr hlast
  exact hp.eq_of_append hfeed ⟨hopen, hclose, hparse⟩

/-! ## What the last strategy finds -/

/-- Without markers and prose, the reply starts with the payload. -/
theorem exists_stripProse_eq (hpre : IsProse pre) (hp : IsPayload p value) (hfence : ¬ fence <:+: p)
    (hpost : '\x7d' ∉ post) :
    ∃ rest, stripProse (pre ++ p ++ post) = unifyEndings p ++ rest ∧ '\x7d' ∉ rest := by
  have hmarks : unfence (pre ++ p ++ post) = pre ++ (p ++ unfence post) := by
    rw [unfence_append (hpre.unfenced.append (hp.unfenced hfence)), List.append_assoc]
  have hlines : stripProse (pre ++ p ++ post) = joinLines (lines (p ++ unfence post)) := by
    obtain ⟨u, rfl⟩ := hp.exists_cons
    obtain ⟨line, rest, hfirst, hopens⟩ := exists_lines_cons (u ++ unfence post)
    rw [stripProse, hmarks, lines_append hpre.ends, List.dropWhile_append_of_pos,
      List.cons_append, hfirst, List.dropWhile_cons_of_neg (by simp [hopens])]
    intro line hline
    simp [hpre.opensObject_eq_false hline]
  have hunify : unifyEndings (p ++ unfence post) = unifyEndings p ++ unifyEndings (unfence post) := by
    obtain ⟨w, rfl⟩ := hp.exists_concat
    rw [List.append_assoc, List.singleton_append, unifyEndings_append (by simp),
      unifyEndings_cons (by decide), unifyEndings_append (by simp), List.append_assoc]
    rfl
  obtain ⟨e, he, hfeeds⟩ := exists_unifyEndings_eq_joinLines (p ++ unfence post)
  have hclosing : '\x7d' ∉ unifyEndings (unfence post) :=
    fun hmem ↦ hpost (((unifyEndings_sublist _).trans (unfence_sublist post)).subset hmem)
  rw [hlines]
  rw [hunify] at he
  rcases List.append_eq_append_iff.mp he with ⟨w, hw, hrest⟩ | ⟨w, hw, hrest⟩
  · rw [hrest, List.mem_append, not_or] at hclosing
    exact ⟨w, hw, hclosing.1⟩
  · -- The payload does not end with a line feed.
    rcases List.eq_nil_or_concat w with rfl | ⟨w, c, rfl⟩
    · exact ⟨[], by rw [hw, List.append_nil, List.append_nil], List.not_mem_nil⟩
    · have hlast := hp.unifyEndings.closes
      rw [hw, List.concat_eq_append, ← List.append_assoc, List.getLast?_concat] at hlast
      obtain rfl := Option.some.inj hlast
      exact absurd (hfeeds '\x7d' (by simp [hrest])) (by decide)

theorem proseStripped_apply (hpre : IsProse pre) (hp : IsPayload p value)
    (hfence : ¬ fence <:+: p) (hpost : '\x7d' ∉ post) :
    Strategy.proseStripped.apply (pre ++ p ++ post) = .ok value := by
  obtain ⟨rest, hrest, hclose⟩ := exists_stripProse_eq hpre hp hfence hpost
  have hspan : braceSpan ([] ++ unifyEndings p ++ rest) = some (unifyEndings p) :=
    braceSpan_append List.not_mem_nil hclose hp.unifyEndings.enclosed
  rw [List.nil_append] at hspan
  simp only [Strategy.apply, Strategy.candidate, hrest, hspan]
  exact hp.unifyEndings.parseObject_eq _

/-- A payload after prose lines is recovered, whatever braces stand in those lines, provided that no
closing brace follows it. -/
theorem decode_payload_after_prose (pre p post : String) (value : Members)
    (hpre : IsProse pre.toList) (hp : IsPayload p.toList value) (hfence : ¬ fence <:+: p.toList)
    (hpost : '\x7d' ∉ post.toList) :
    ∃ strategy, decode (pre ++ p ++ post) = .ok ⟨value, strategy⟩ := by
  have hu : Unfenced (pre.toList ++ p.toList) := hpre.unfenced.append (hp.unfenced hfence)
  have hbefore : ∀ s ∈ [Strategy.direct, .labelledFence, .anyFence, .braceSpan], ∀ v,
      s.apply (pre.toList ++ p.toList ++ post.toList) = .ok v → v = value := by
    intro s hs v hv
    simp only [List.mem_cons, List.not_mem_nil, or_false] at hs
    rcases hs with rfl | rfl | rfl | rfl
    · exact eq_value_of_direct hpre hp hpost hv
    · exact absurd hv (fence_apply_ne_ok opensAt_labelledFence startsFence_of_startsLabelled hu hpost)
    · exact absurd hv (fence_apply_ne_ok opensAt_anyFence (fun _ ↦ id) hu hpost)
    · exact eq_value_of_braceSpan hpre.ends hp hpost hv
  rw [decode, String.toList_append, String.toList_append]
  exact exists_decodeWith (.noCandidate .direct) hbefore
    (proseStripped_apply hpre hp hfence hpost)

/-- The prose mentions braces and ends like a payload; an open fence follows the payload. -/
theorem decode_payload_after_braces :
    ∃ strategy, decode ("The \x7b\x7d of \"if\":\r\n - \x7b\"a\":\r\n" ++
      "\x7b\r\n \"a\": \x7b\x7d\r\n\x7d" ++ "\n```json\n\x7b\"a\":1") =
      .ok ⟨[("a", .object [])], strategy⟩ :=
  decode_payload_after_prose _ _ _ _ ⟨by decide, by decide, by decide⟩
    ⟨by decide, by decide, by with_unfolding_all rfl⟩ (by decide) (by decide)

end ChangeReview.Reply
