import ChangeReview.Proofs.Json.Endings
import ChangeReview.Proofs.Reply.Fence
import ChangeReview.Proofs.Reply.Recovery

/-!
# Payloads

A payload is a text in braces that is read as an object. It is trimmed and enclosed, and it stays a
payload of the same value when its line endings are unified.
-/

namespace ChangeReview.Reply

open Text Json

/-- A text in braces is trimmed. -/
theorem trim_eq_of_braces {p : List Char} (hopen : p.head? = some '\x7b')
    (hclose : p.getLast? = some '\x7d') : trim p = p := by
  apply trim_eq_self
  · intro c hc
    obtain rfl := Option.some.inj (hopen.symm.trans hc)
    decide
  · intro c hc
    obtain rfl := Option.some.inj (hclose.symm.trans hc)
    decide

/-- A text in braces that is read as an object with the given members. -/
structure IsPayload (p : List Char) (value : Members) : Prop where
  opens : p.head? = some '\x7b'
  closes : p.getLast? = some '\x7d'
  parses : Json.parse p = .ok (.object value)

namespace IsPayload

variable {p : List Char} {value : Members}

theorem exists_cons (h : IsPayload p value) : ∃ t, p = '\x7b' :: t :=
  List.head?_eq_some_iff.mp h.opens

theorem exists_concat (h : IsPayload p value) : ∃ t, p = t ++ ['\x7d'] :=
  List.getLast?_eq_some_iff.mp h.closes

theorem trim_eq (h : IsPayload p value) : trim p = p := trim_eq_of_braces h.opens h.closes

theorem enclosed (h : IsPayload p value) : Enclosed p := by
  rw [← h.trim_eq]
  apply enclosed_trim_of_parse
  rw [h.trim_eq]
  exact h.parses

theorem not_allBlank (h : IsPayload p value) : ¬ AllBlank p := by
  obtain ⟨t, rfl⟩ := h.exists_cons
  exact fun hblank ↦ absurd hblank.head (by decide)

/-- No marker runs over the end of a payload that holds none. -/
theorem unfenced (h : IsPayload p value) (hp : ¬ fence <:+: p) : Unfenced p := by
  apply Unfenced.of_getLast? hp
  rw [h.closes]
  decide

theorem parseObject_eq (h : IsPayload p value) (s : Strategy) : parseObject s p = .ok value := by
  simp only [parseObject, h.trim_eq, h.parses]

/-- Blanks after a payload are not read. -/
theorem parseObject_append (h : IsPayload p value) {y : List Char} (hy : AllBlank y)
    (s : Strategy) : parseObject s (p ++ y) = .ok value := by
  simp only [parseObject, trim_append_blank h.not_allBlank hy, h.trim_eq, h.parses]

/-- Line endings make no difference to a payload. -/
theorem unifyEndings (h : IsPayload p value) : IsPayload (unifyEndings p) value where
  opens := by
    obtain ⟨t, rfl⟩ := h.exists_cons
    rw [unifyEndings_cons (by decide)]
    rfl
  closes := by
    obtain ⟨t, rfl⟩ := h.exists_concat
    rw [unifyEndings_append (by decide)]
    exact List.getLast?_concat
  parses := (parse_unifyEndings p _).mpr h.parses

/-- What precedes a payload in another one, and ends with a line feed, is empty. -/
theorem eq_of_append {a : List Char} {v : Members} (h : IsPayload p value)
    (ha : a = [] ∨ a.getLast? = some '\n') (hap : IsPayload (a ++ p) v) : v = value := by
  obtain ⟨q, hq, -⟩ := Spot.run_append_eq_some_iff.mp (hap.enclosed.neutral 0)
  have hregion : q.region = .between := by
    rcases ha with rfl | hlast
    · rw [← Option.some.inj hq]
    · obtain ⟨s, rfl⟩ := List.getLast?_eq_some_iff.mp hlast
      exact Spot.region_of_lineFeed (fun c hc ↦ absurd hc List.not_mem_nil) hq
  obtain rfl : a = [] := hap.enclosed.eq_nil_of_append_right h.enclosed hq hregion
  have hparse := hap.parses
  rw [List.nil_append, h.parses] at hparse
  exact (Value.object.inj (Except.ok.inj hparse)).symm

end IsPayload

/-! ## The order of the strategies -/

/-- The first strategy that accepts a reply decides. -/
theorem decodeWith_of_apply {raw : List Char} {value : Members} {strategy : Strategy}
    {before after : List Strategy} (last : DecodeFault)
    (hbefore : ∀ s ∈ before, ∀ v, s.apply raw ≠ .ok v) (hs : strategy.apply raw = .ok value) :
    decodeWith raw last (before ++ strategy :: after) = .ok ⟨value, strategy⟩ := by
  induction before generalizing last with
  | nil => simp only [List.nil_append, decodeWith, hs]
  | cons s before ih =>
    simp only [List.cons_append, decodeWith]
    cases h : s.apply raw with
    | error fault => exact ih fault fun t ht ↦ hbefore t (List.mem_cons_of_mem s ht)
    | ok v => exact absurd h (hbefore s List.mem_cons_self v)

/-- What a reply is decoded to, the strategy that is named found. -/
theorem apply_of_decodeWith {raw : List Char} {last : DecodeFault} {strategies : List Strategy}
    {d : Decoded} (h : decodeWith raw last strategies = .ok d) :
    d.strategy.apply raw = .ok d.value := by
  induction strategies generalizing last with
  | nil => exact absurd h (by simp [decodeWith])
  | cons s rest ih =>
    simp only [decodeWith] at h
    cases hs : s.apply raw with
    | error fault =>
      rw [hs] at h
      exact ih h
    | ok value =>
      rw [hs] at h
      obtain rfl := Except.ok.inj h
      exact hs

/-- A strategy accepts a candidate that is read as an object. -/
theorem exists_candidate_of_apply {s : Strategy} {raw : List Char} {v : Members}
    (h : s.apply raw = .ok v) :
    ∃ c, s.candidate raw = some c ∧ Json.parse (trim c) = .ok (.object v) := by
  unfold Strategy.apply at h
  split at h
  · exact absurd h (by simp)
  · next c hc => exact ⟨c, hc, parse_of_parseObject h⟩

/-- A strategy that cuts out the block behind the first place with a property. -/
def OpensAt (s : Strategy) (here : List Char → Bool) : Prop :=
  ∀ raw, s.candidate raw = (splitWhere? here raw).bind fun parts ↦ fenceInterior parts.2

theorem opensAt_labelledFence : OpensAt .labelledFence startsLabelled := fun _ ↦ rfl

theorem opensAt_anyFence : OpensAt .anyFence startsFence := fun _ ↦ rfl

end ChangeReview.Reply
