import Mathlib.Data.List.Infix
import ChangeReview.Proofs.Reply.Payload

/-!
# Recovery of a fenced payload

A payload alone in a fenced block is found whatever stands around the block. The marker that is
found may begin with backticks that stand right before the block, but it ends on the same line, so
the block that it opens is the one of the payload. Nothing is found before: the whole reply holds a
backtick between the tokens of an object, which JSON never has.
-/

namespace ChangeReview.Reply

open Text Json

/-- The end of a fenced block that holds a text alone, after its opening line, and what follows. -/
def block (p post : List Char) : List Char := '\n' :: (p ++ ['\n'] ++ (fence ++ post))

variable {pre p x y lab info post : List Char} {value v : Members}

/-! ## The whole reply -/

/-- Trimming keeps a block and the start of the marker that closes it. -/
theorem exists_trim_block (hpre : ¬ AllBlank pre) (p post : List Char) :
    ∃ t, trim (pre ++ block p post) = trimStart pre ++ ['\n'] ++ (p ++ (['\n'] ++ '\x60' :: t)) := by
  have hfence : ¬ AllBlank (fence ++ post) := fun hblank ↦ absurd hblank.head (by decide)
  obtain ⟨t, ht⟩ := exists_trimEnd_cons (show isBlank '\x60' = false by decide)
    ('\x60' :: '\x60' :: post)
  refine ⟨t, ?_⟩
  calc trim (pre ++ block p post)
      = trim (pre ++ '\n' :: (p ++ ['\n']) ++ (fence ++ post)) := by simp [block]
    _ = trimStart pre ++ '\n' :: (p ++ ['\n']) ++ trimEnd (fence ++ post) :=
      trim_append hpre hfence _
    _ = trimStart pre ++ '\n' :: (p ++ ['\n']) ++ '\x60' :: t := by rw [← ht]; rfl
    _ = _ := by simp

/-- A reply in which a fence stands right after a payload on lines of its own is no object. -/
theorem direct_apply_block_ne_ok (hpre : ¬ AllBlank pre) (hp : IsPayload p value) :
    Strategy.direct.apply (pre ++ block p post) ≠ .ok v := by
  intro h
  obtain ⟨c, hc, hparse⟩ := exists_candidate_of_apply h
  obtain rfl := Option.some.inj hc
  obtain ⟨t, htrim⟩ := exists_trim_block hpre p post
  have hrun := (enclosed_trim_of_parse hparse).neutral 0
  rw [htrim, Spot.run_append_eq_some_iff] at hrun
  obtain ⟨⟨region, depth⟩, hq, hrun⟩ := hrun
  -- The payload starts between tokens, so the marker would stand between tokens as well.
  obtain rfl : region = .between := Spot.region_of_lineFeed (fun c hc ↦ absurd hc (by simp)) hq
  rw [Spot.run_append, hp.enclosed.neutral depth, Option.bind_some,
    Spot.run_backtick (by decide)] at hrun
  exact absurd hrun (by simp)

theorem not_allBlank_append_fence (pre info : List Char) : ¬ AllBlank (pre ++ (fence ++ info)) :=
  fun hblank ↦ absurd (allBlank_append.mp hblank).2.head (by decide)

/-! ## Blocks -/

/-- A strategy that looks for a mark accepts the payload in the block that the mark opens, provided
that a mark that it finds earlier starts on the same line. -/
theorem apply_block {s : Strategy} {here : List Char → Bool} {opening : List Char}
    (hs : OpensAt s here) (hhere : here (opening ++ block p post))
    (hpre : ∀ x y, pre = x ++ y → here (y ++ (opening ++ block p post)) → '\n' ∉ y)
    (hopening : '\n' ∉ opening) (hlength : fence.length ≤ opening.length)
    (hp : IsPayload p value) (hfence : ¬ fence <:+: p) :
    s.apply (pre ++ (opening ++ block p post)) = .ok value := by
  obtain ⟨x, y, hxy, hsplit⟩ := exists_splitWhere?_append pre hhere
  have hy : '\n' ∉ y := hpre x y hxy (holds_of_splitWhere? hsplit)
  have hhead : '\n' ∉ y ++ opening := by simp [hy, hopening]
  have hbody : Unfenced (p ++ ['\n']) :=
    (hp.unfenced hfence).append (Unfenced.of_getLast? (by decide) (by decide))
  have hcandidate : s.candidate (pre ++ (opening ++ block p post)) = some (p ++ ['\n']) := by
    rw [hs, hsplit, Option.bind_some, ← List.append_assoc]
    apply fenceInterior_append hhead _ hbody
    rw [List.length_append]
    exact Nat.le_trans hlength (Nat.le_add_left _ _)
  simp only [Strategy.apply, hcandidate]
  exact hp.parseObject_append (by decide) s

theorem labelledFence_apply_block (hpre : ¬ fence ++ label <:+: lowerAscii pre)
    (hlab : lowerAscii lab = label) (hinfo : '\n' ∉ info) (hp : IsPayload p value)
    (hfence : ¬ fence <:+: p) :
    Strategy.labelledFence.apply (pre ++ (fence ++ (lab ++ info) ++ block p post)) = .ok value := by
  have hlabel : '\n' ∉ lab := not_mem_of_lowerAscii (by decide) (by rw [hlab]; decide)
  apply apply_block opensAt_labelledFence _ _ _ _ hp hfence
  · rw [List.append_assoc, List.append_assoc]
    exact startsLabelled_of_lowerAscii hlab _
  · intro x y hxy hy
    have hmark := prefix_of_startsLabelled hy
    rw [hxy] at hpre
    simp only [lowerAscii, List.map_append] at hpre hmark
    exact not_mem_of_lowerAscii (by decide) (not_mem_of_mark (by decide) hpre hmark)
  · simp [fence, hlabel, hinfo]
  · simp [fence]

theorem anyFence_apply_block (hpre : ¬ fence <:+: pre) (hinfo : '\n' ∉ info)
    (hp : IsPayload p value) (hfence : ¬ fence <:+: p) :
    Strategy.anyFence.apply (pre ++ (fence ++ info ++ block p post)) = .ok value := by
  apply apply_block opensAt_anyFence _ _ _ _ hp hfence
  · rw [List.append_assoc]
    exact startsFence_fence _
  · intro x y hxy hy
    rw [hxy] at hpre
    exact not_mem_of_mark (by decide) hpre (startsFence_iff.mp hy)
  · simp [fence, hinfo]
  · simp [fence]

theorem labelledFence_apply_ne_ok {raw : List Char} (hraw : ¬ fence ++ label <:+: lowerAscii raw) :
    Strategy.labelledFence.apply raw ≠ .ok v := by
  have hsplit : splitWhere? startsLabelled raw = none := by
    apply splitWhere?_eq_none
    intro y ⟨x, hxy⟩
    rw [Bool.eq_false_iff]
    intro hy
    refine hraw ((prefix_of_startsLabelled hy).isInfix.trans ⟨lowerAscii x, [], ?_⟩)
    simp [lowerAscii, ← hxy]
  intro h
  obtain ⟨c, hc, -⟩ := exists_candidate_of_apply h
  rw [Strategy.candidate, labelledFence, hsplit] at hc
  exact absurd hc (by simp)

/-- A fenced payload is recovered, whatever stands around its block: as the first labelled block
when no label precedes it, and as the first block when there is no label at all. -/
theorem decode_fenced_payload (p info post : String) (value : Members)
    (hp : IsPayload p.toList value) (hfence : ¬ fence <:+: p.toList) (hinfo : '\n' ∉ info.toList) :
    (∀ pre lab : String, lowerAscii lab.toList = label →
      ¬ fence ++ label <:+: lowerAscii pre.toList →
      decode (pre ++ "```" ++ lab ++ info ++ "\n" ++ p ++ "\n```" ++ post) =
        .ok ⟨value, .labelledFence⟩) ∧
    (∀ pre : String, ¬ fence <:+: pre.toList →
      ¬ fence ++ label <:+:
        lowerAscii (pre ++ "```" ++ info ++ "\n" ++ p ++ "\n```" ++ post).toList →
      decode (pre ++ "```" ++ info ++ "\n" ++ p ++ "\n```" ++ post) = .ok ⟨value, .anyFence⟩) := by
  constructor
  · intro pre lab hlab hpre
    have hraw : (pre ++ "```" ++ lab ++ info ++ "\n" ++ p ++ "\n```" ++ post).toList =
        pre.toList ++ (fence ++ (lab.toList ++ info.toList) ++ block p.toList post.toList) := by
      simp [fence, block]
    rw [decode, hraw]
    show decodeWith _ _ ([.direct] ++ .labelledFence :: [.anyFence, .braceSpan, .proseStripped]) = _
    refine decodeWith_of_apply _ ?_ (labelledFence_apply_block hpre hlab hinfo hp hfence)
    intro s hs v
    obtain rfl := List.mem_singleton.mp hs
    rw [← List.append_assoc]
    exact direct_apply_block_ne_ok (not_allBlank_append_fence _ _) hp
  · intro pre hpre hlabelled
    have hraw : (pre ++ "```" ++ info ++ "\n" ++ p ++ "\n```" ++ post).toList =
        pre.toList ++ (fence ++ info.toList ++ block p.toList post.toList) := by
      simp [fence, block]
    rw [hraw] at hlabelled
    rw [decode, hraw]
    show decodeWith _ _ ([.direct, .labelledFence] ++ .anyFence :: [.braceSpan, .proseStripped]) = _
    refine decodeWith_of_apply _ ?_ (anyFence_apply_block hpre hinfo hp hfence)
    intro s hs v
    rcases List.mem_pair.mp hs with rfl | rfl
    · rw [← List.append_assoc]
      exact direct_apply_block_ne_ok (not_allBlank_append_fence _ _) hp
    · exact labelledFence_apply_ne_ok hlabelled

/-- Backticks and another object stand before a labelled block and before a plain one. -/
theorem decode_payload_after_backticks :
    decode ("Not \x7b\"a\":1\x7d but ``" ++ "```" ++ "JSON" ++ " x" ++ "\n" ++
      "\x7b\"a\":[2]\x7d" ++ "\n```" ++ "\n```json\n\x7b\x7d\n```") =
      .ok ⟨[("a", .array [.number (.natural 2)])], .labelledFence⟩ ∧
    decode ("Not \x7b\"a\":1\x7d but ``" ++ "```" ++ " x" ++ "\n" ++
      "\x7b\"a\":[2]\x7d" ++ "\n```" ++ "\n```js\n\x7b\x7d\n```") =
      .ok ⟨[("a", .array [.number (.natural 2)])], .anyFence⟩ := by
  have hp : IsPayload "\x7b\"a\":[2]\x7d".toList [("a", .array [.number (.natural 2)])] :=
    ⟨by decide, by decide, by with_unfolding_all rfl⟩
  constructor
  · exact (decode_fenced_payload _ _ _ _ hp (by decide) (by decide)).1 _ _ (by decide) (by decide)
  · exact (decode_fenced_payload _ _ _ _ hp (by decide) (by decide)).2 _ (by decide) (by decide)

end ChangeReview.Reply
