import Mathlib.Data.List.Infix
import ChangeReview.Proofs.Reply.Lines
import ChangeReview.Proofs.Reply.Payload

/-!
# What a decoded value is read from

Every decoded value is read from a contiguous part of the reply. Four of the strategies read that
part as it stands. The last one reads the part without its fence markers, wherever in the part they
stand: a marker that a string quotes is removed from the string. What else it changes, the lines
that it drops and the line endings that it rewrites, makes no difference to the value.
-/

namespace ChangeReview.Reply

open Text Json

/-! ## Contiguous parts -/

/-- A map of texts every cut of whose results comes from a cut of the text maps contiguous parts
onto the contiguous parts of its results. -/
theorem exists_infix_of_cut {f : List Char → List Char} {s q : List Char}
    (hcut : ∀ {s x y}, f s = x ++ y → ∃ a b, s = a ++ b ∧ f a = x ∧ f b = y) (hq : q <:+: f s) :
    ∃ m, m <:+: s ∧ f m = q := by
  obtain ⟨x, y, hxy⟩ := hq
  obtain ⟨a, b, rfl, ha, -⟩ := hcut hxy.symm
  obtain ⟨u, m, rfl, -, hm⟩ := hcut ha
  exact ⟨m, ⟨u, b, rfl⟩, hm⟩

theorem infix_trim (s : List Char) : trim s <:+: s := by
  obtain ⟨x, y, hs, -, -⟩ := append_trim s
  exact ⟨x, y, hs.symm⟩

theorem infix_of_braceSpan {s c : List Char} (h : braceSpan s = some c) : c <:+: s := by
  rw [braceSpan] at h
  split at h
  · exact absurd h (by simp)
  · obtain rfl := Option.some.inj h
    refine List.IsInfix.trans ?_ (List.dropWhile_suffix (· ≠ '\x7b')).isInfix
    rw [← List.reverse_infix, List.reverse_reverse]
    exact (List.dropWhile_suffix _).isInfix

/-- What is left of a reply without markers and prose is, up to line endings, the beginning of the
end of the reply without markers. -/
theorem exists_prefix_stripProse (s : List Char) :
    ∃ t, t <:+ unfence s ∧ stripProse s <+: unifyEndings t := by
  obtain ⟨t, ht, hdrop⟩ := exists_dropWhile_lines (fun line ↦ !opensObject line) (unfence s)
  obtain ⟨e, he, -⟩ := exists_unifyEndings_eq_joinLines t
  rw [stripProse, hdrop]
  exact ⟨t, ht, e, he.symm⟩

/-! ## Candidates -/

/-- Each strategy but the last one cuts its candidate out of the reply. -/
theorem trim_infix_of_candidate {s : Strategy} {raw c : List Char} (hs : s ≠ .proseStripped)
    (h : s.candidate raw = some c) : trim c <:+: raw := by
  cases s with
  | proseStripped => exact absurd rfl hs
  | braceSpan => exact (infix_trim c).trans (infix_of_braceSpan h)
  | direct | labelledFence | anyFence =>
    obtain ⟨x, y, hraw, -, -⟩ := exists_of_candidate (by simp) h
    exact ⟨x, y, hraw.symm⟩

/-- The last strategy cuts its candidate out of the reply without its markers. -/
theorem exists_infix_of_proseStripped {raw c : List Char} {v : Value}
    (h : Strategy.proseStripped.candidate raw = some c) (hparse : Json.parse (trim c) = .ok v) :
    ∃ q, q <:+: raw ∧ Json.parse (unfence q) = .ok v := by
  obtain ⟨t, ht, hprefix⟩ := exists_prefix_stripProse raw
  have hc : trim c <:+: unifyEndings t :=
    (infix_trim c).trans ((infix_of_braceSpan h).trans hprefix.isInfix)
  obtain ⟨m, hm, hunify⟩ := exists_infix_of_cut exists_append_of_unifyEndings hc
  obtain ⟨q, hq, hunfence⟩ := exists_infix_of_cut exists_append_of_unfence (hm.trans ht.isInfix)
  refine ⟨q, hq, ?_⟩
  rw [hunfence, ← parse_unifyEndings, hunify, hparse]

/-- A decoded value is read from a contiguous part of the reply, as that part stands, or without
the fence markers that stand in it when the last strategy found it. -/
theorem exists_infix_of_decode (raw : String) (d : Decoded) (h : decode raw = .ok d) :
    ∃ q, q <:+: raw.toList ∧
      (Json.parse q = .ok (.object d.value) ∨
        d.strategy = .proseStripped ∧ fence <:+: q ∧
          Json.parse (unfence q) = .ok (.object d.value)) := by
  obtain ⟨c, hc, hparse⟩ := exists_candidate_of_apply (apply_of_decodeWith h)
  by_cases hs : d.strategy = .proseStripped
  · rw [hs] at hc
    obtain ⟨q, hq, hread⟩ := exists_infix_of_proseStripped hc hparse
    by_cases hfence : fence <:+: q
    · exact ⟨q, hq, .inr ⟨hs, hfence, hread⟩⟩
    · rw [unfence_eq_self hfence] at hread
      exact ⟨q, hq, .inl hread⟩
  · exact ⟨trim c, trim_infix_of_candidate hs hc, .inl hparse⟩

/-- A marker that a string quotes is lost. -/
theorem exists_infix_of_quoted_marker :
    decode "See \x7bx\x7d:\n\x7b\"a\":\"``` b\"\x7d" =
      .ok ⟨[("a", .string " b")], .proseStripped⟩ ∧
    ∃ q, q <:+: "See \x7bx\x7d:\n\x7b\"a\":\"``` b\"\x7d".toList ∧
      (Json.parse q = .ok (.object [("a", .string " b")]) ∨
        Strategy.proseStripped = .proseStripped ∧ fence <:+: q ∧
          Json.parse (unfence q) = .ok (.object [("a", .string " b")])) := by
  have h : decode "See \x7bx\x7d:\n\x7b\"a\":\"``` b\"\x7d" =
      .ok ⟨[("a", .string " b")], .proseStripped⟩ := by with_unfolding_all rfl
  exact ⟨h, exists_infix_of_decode _ _ h⟩

/-- No contiguous part of that reply is read as the value that it is decoded to. -/
theorem parse_infix_of_quoted_marker (q : List Char)
    (hq : q <:+: "See \x7bx\x7d:\n\x7b\"a\":\"``` b\"\x7d".toList) :
    Json.parse q ≠ .ok (.object [("a", .string " b")]) := by
  -- What stands under the key, in each part that is read as an object.
  have hparts : ∀ t ∈ "See \x7bx\x7d:\n\x7b\"a\":\"``` b\"\x7d".toList.tails, ∀ q ∈ t.inits,
      (((Json.parse q).toOption.bind Value.members?).bind fun m ↦ m.get? "a").bind Value.string? ≠
        some " b" := by
    decide +kernel
  intro hparse
  obtain ⟨t, hprefix, hsuffix⟩ := List.infix_iff_prefix_suffix.mp hq
  refine hparts t ((List.mem_tails _ _).mpr hsuffix) q ((List.mem_inits _ _).mpr hprefix) ?_
  rw [hparse]
  rfl

end ChangeReview.Reply
