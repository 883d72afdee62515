import ChangeReview.Proofs.Reply.Candidate

/-!
# Recovery of a bare payload

A payload is an object with prose around it that has no opening brace before it and no closing
brace after it. Decoding gives the value of the payload, whatever fences stand before it, after it,
or in its strings. The brace span finds the payload. The strategies that are tried before may
cut something else, but they only ever accept the payload itself: what they cut starts and ends
between the tokens of the reply, and no such part of an object is an object.
-/

namespace ChangeReview.Reply

open Text Json

/-! ## Parts of a reply that are objects -/

variable {pre p post x q y : List Char}

/-- An enclosed part of a reply lies within the payload. -/
theorem exists_within (h : pre ++ p ++ post = x ++ q ++ y) (hpre : '\x7b' ∉ pre)
    (hpost : '\x7d' ∉ post) (hq : Enclosed q) :
    ∃ a b, x = pre ++ a ∧ y = b ++ post ∧ p = a ++ q ++ b := by
  obtain ⟨u, hu⟩ := List.head?_eq_some_iff.mp hq.head?_eq
  obtain ⟨w, hw⟩ := List.getLast?_eq_some_iff.mp hq.getLast?_eq
  have hx : ∃ a, x = pre ++ a := by
    rw [List.append_assoc, List.append_assoc, List.append_eq_append_iff] at h
    rcases h with ⟨a, ha, -⟩ | ⟨a, rfl, ha⟩
    · exact ⟨a, ha⟩
    · cases a with
      | nil => exact ⟨[], by simp⟩
      | cons c a =>
        rw [hu, List.cons_append, List.cons_append] at ha
        exact absurd (List.mem_append_right x ((List.cons.inj ha).1 ▸ List.mem_cons_self)) hpre
  have hy : ∃ b, y = b ++ post := by
    rw [List.append_eq_append_iff] at h
    rcases h with ⟨b, hb, rfl⟩ | ⟨b, -, hb⟩
    · rcases List.eq_nil_or_concat b with rfl | ⟨b, c, rfl⟩
      · exact ⟨[], rfl⟩
      · rw [hw, List.concat_eq_append, ← List.append_assoc, ← List.append_assoc] at hb
        obtain ⟨-, hc⟩ := List.append_inj' hb rfl
        refine absurd (List.mem_append_left y ?_) hpost
        rw [List.concat_eq_append, ← hc]
        exact List.mem_append_right b (List.mem_singleton.mpr rfl)
    · exact ⟨b, hb⟩
  obtain ⟨a, rfl⟩ := hx
  obtain ⟨b, rfl⟩ := hy
  refine ⟨a, b, rfl, rfl, ?_⟩
  have hmiddle : pre ++ (p ++ post) = pre ++ (a ++ q ++ b ++ post) := by
    simpa only [List.append_assoc] using h
  exact List.append_cancel_right (List.append_cancel_left hmiddle)

/-- Between the start of a payload and a part of it that blanks precede, a line feed stands. -/
theorem lineFeed_of_endsBlank {a : List Char} (h : EndsBlank (pre ++ a))
    (ha : ∀ c, a.head? = some c → isBlank c = false) :
    a = [] ∨ ∃ s t, a = s ++ '\n' :: t ∧ AllBlank t := by
  rcases h with h | ⟨x, t, h, ht⟩
  · exact .inl ((allBlank_append.mp h).2.eq_nil_of_head? ha)
  · rcases List.append_eq_append_iff.mp h with ⟨s, rfl, rfl⟩ | ⟨s, rfl, hs⟩
    · exact .inr ⟨s, t, rfl, ht⟩
    · cases s with
      | nil => exact .inr ⟨[], t, hs.symm, ht⟩
      | cons c s =>
        rw [(List.cons.inj hs).2] at ht
        exact .inl ((allBlank_append.mp ht).2.eq_nil_of_head? ha)

/-- Between a part of a payload that blanks follow and its end, a backtick stands. -/
theorem backtick_of_startsBlank {b : List Char} (h : StartsBlank (b ++ post))
    (hb : ∀ c, b.getLast? = some c → isBlank c = false) :
    b = [] ∨ ∃ s t, b = s ++ '\x60' :: t ∧ AllBlank s := by
  rcases h with h | ⟨t, y, h, ht⟩
  · exact .inl ((allBlank_append.mp h).1.eq_nil_of_getLast? hb)
  · rcases List.append_eq_append_iff.mp h with ⟨s, rfl, -⟩ | ⟨s, rfl, hs⟩
    · exact .inl ((allBlank_append.mp ht).1.eq_nil_of_getLast? hb)
    · cases s with
      | nil =>
        rw [List.append_nil] at hb ⊢
        exact .inl (ht.eq_nil_of_getLast? hb)
      | cons c s =>
        rw [List.cons_append] at hs
        obtain rfl := (List.cons.inj hs).1
        exact .inr ⟨t, s, rfl, ht⟩

/-- An enclosed part of a reply that stands where the first strategies cut is the payload. -/
theorem eq_payload_of_enclosed (h : pre ++ p ++ post = x ++ q ++ y) (hpre : '\x7b' ∉ pre)
    (hpost : '\x7d' ∉ post) (hp : Enclosed p) (hq : Enclosed q) (hx : EndsBlank x)
    (hy : StartsBlank y) : q = p := by
  obtain ⟨a, b, rfl, rfl, rfl⟩ := exists_within h hpre hpost hq
  have ha := lineFeed_of_endsBlank hx fun c hc ↦ by
    have hhead := hp.head?_eq
    rw [List.append_assoc, List.head?_append, hc] at hhead
    obtain rfl := Option.some.inj hhead
    decide
  have hb := backtick_of_startsBlank hy fun c hc ↦ by
    have hlast := hp.getLast?_eq
    rw [List.getLast?_append, hc] at hlast
    obtain rfl := Option.some.inj hlast
    decide
  obtain ⟨rfl, rfl⟩ := hp.eq_nil_of_infix hq ha hb
  simp

/-! ## What strategies accept -/

theorem parse_of_parseObject {strategy : Strategy} {c : List Char} {value : Members}
    (h : parseObject strategy c = .ok value) : Json.parse (trim c) = .ok (.object value) := by
  unfold parseObject at h
  split at h
  · exact absurd h (by simp)
  · next members hparse => rw [hparse, Except.ok.inj h]
  · exact absurd h (by simp)

/-- A trimmed text that is read as an object is enclosed. -/
theorem enclosed_trim_of_parse {c : List Char} {value : Members}
    (h : Json.parse (trim c) = .ok (.object value)) : Enclosed (trim c) := by
  obtain ⟨x, p, y, htrim, hp, hx, hy⟩ := enclosed_of_parse h
  have hxBlank : AllBlank x := fun c hc ↦ isBlank_of_isSpace (hx c hc)
  have hyBlank : AllBlank y := fun c hc ↦ isBlank_of_isSpace (hy c hc)
  obtain rfl : y = [] := eq_nil_of_trim_right htrim hyBlank
  rw [List.append_nil] at htrim
  obtain rfl : x = [] := eq_nil_of_trim_left htrim hxBlank
  rw [htrim]
  exact hp

/-- The strategies that look for fences or take the whole reply accept nothing but the payload. -/
theorem eq_value_of_apply {value v : Members} {s : Strategy} (hpre : '\x7b' ∉ pre)
    (hpost : '\x7d' ∉ post) (hp : Enclosed p) (hparse : Json.parse p = .ok (.object value))
    (hs : s ∈ [Strategy.direct, .labelledFence, .anyFence])
    (hv : s.apply (pre ++ p ++ post) = .ok v) : v = value := by
  unfold Strategy.apply at hv
  split at hv
  · exact absurd hv (by simp)
  · next c hc =>
    have hcut := parse_of_parseObject hv
    obtain ⟨x, y, hraw, hx, hy⟩ := exists_of_candidate hs hc
    rw [eq_payload_of_enclosed hraw hpre hpost hp (enclosed_trim_of_parse hcut) hx hy,
      hparse] at hcut
    exact (Value.object.inj (Except.ok.inj hcut)).symm

/-- Of several strategies, those before the first good one may only accept the same value. -/
theorem exists_decodeWith {raw : List Char} {value : Members} {strategy : Strategy}
    {before after : List Strategy} (last : DecodeFault)
    (hbefore : ∀ s ∈ before, ∀ v, s.apply raw = .ok v → v = value)
    (hs : strategy.apply raw = .ok value) :
    ∃ s, decodeWith raw last (before ++ strategy :: after) = .ok ⟨value, s⟩ := by
  induction before generalizing last with
  | nil =>
    refine ⟨strategy, ?_⟩
    simp only [List.nil_append, decodeWith, hs]
  | cons s before ih =>
    simp only [List.cons_append, decodeWith]
    cases h : s.apply raw with
    | error fault => exact ih fault fun t ht ↦ hbefore t (List.mem_cons_of_mem s ht)
    | ok v =>
      obtain rfl := hbefore s List.mem_cons_self v h
      exact ⟨s, rfl⟩

/-- A payload that no opening brace precedes and no closing brace follows is recovered. -/
theorem decode_bare_payload (pre p post : String) (value : Members)
    (hpre : '\x7b' ∉ pre.toList) (hpost : '\x7d' ∉ post.toList)
    (hopen : p.toList.head? = some '\x7b') (hclose : p.toList.getLast? = some '\x7d')
    (hparse : Json.parse p.toList = .ok (.object value)) :
    ∃ strategy, decode (pre ++ p ++ post) = .ok ⟨value, strategy⟩ := by
  have htrim : trim p.toList = p.toList := by
    apply trim_eq_self
    · intro c hc
      obtain rfl := Option.some.inj (hopen.symm.trans hc)
      decide
    · intro c hc
      obtain rfl := Option.some.inj (hclose.symm.trans hc)
      decide
  have hp : Enclosed p.toList := by
    rw [← htrim] at hparse ⊢
    exact enclosed_trim_of_parse hparse
  have hspan : Strategy.braceSpan.apply (pre.toList ++ p.toList ++ post.toList) = .ok value := by
    simp only [Strategy.apply, Strategy.candidate, braceSpan_append hpre hpost hp, parseObject,
      htrim, hparse]
  have hbefore : ∀ s ∈ [Strategy.direct, .labelledFence, .anyFence], ∀ v,
      s.apply (pre.toList ++ p.toList ++ post.toList) = .ok v → v = value := by
    intro s hs v hv
    exact eq_value_of_apply hpre hpost hp hparse hs hv
  rw [decode, String.toList_append, String.toList_append]
  exact exists_decodeWith (.noCandidate .direct) hbefore hspan

/-- The payload holds a fence marker and a line feed and stands in an open labelled fence. -/
theorem decode_payload_amid_fences :
    ∃ strategy, decode ("Seen \x7d in ```json\n" ++ "\x7b\"a\":\n\"```\"\x7d" ++ "\n``` \x7b") =
      .ok ⟨[("a", .string "```")], strategy⟩ :=
  decode_bare_payload _ _ _ _ (by decide) (by decide) (by decide) (by decide)
    (by with_unfolding_all rfl)

end ChangeReview.Reply
