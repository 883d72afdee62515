import ChangeReview.Proofs.Reply.Candidate
import ChangeReview.Proofs.Reply.Fence
import ChangeReview.Proofs.Text.Offset

/-!
# Cutting candidates by offsets

Over text that is stored as UTF-8, the strategies search for marks and cut candidates at the byte
offsets that the searches give. Labels are searched in a lowered copy, and the cuts are made in the
text itself. All of these cuts are valid, and the candidates are those of the strategies: the
removal of markers reads on behind each marker until there is none, and keeps what stands before it.
-/

namespace ChangeReview.Reply

open Json (byteCount)
open Text

/-! ## Strategies by offsets -/

/-- The interior of the fence at an offset: none where an offset is no cut, and no interior where
no line or no marker follows. -/
def fenceInteriorAt (text : List Char) (marker : Nat) : Option (Option (List Char)) := do
  let opening := marker + byteCount fence
  let line ← suffixAt? text opening
  match find? ['\n'].isPrefixOf line with
  | none => some none
  | some feed =>
    let start := opening + feed + 1
    let body ← suffixAt? text start
    match find? fence.isPrefixOf body with
    | none => some none
    | some length => (slice? text start (start + length)).map some

/-- The interior of the fence at the first place at which a mark is found. -/
def fenceAfter (text searched mark : List Char) : Option (Option (List Char)) :=
  match find? mark.isPrefixOf searched with
  | none => some none
  | some marker => fenceInteriorAt text marker

/-- From the offset of the first opening brace to that of the last closing brace, if it is
greater. -/
def braceSpanAt (text : List Char) : Option (Option (List Char)) :=
  match find? ['\x7b'].isPrefixOf text, findLast? '\x7d' text with
  | some start, some last =>
    if start < last then (slice? text start (last + 1)).map some else some none
  | _, _ => some none

/-- How far the removal of markers has come: the offset up to which the text is read, and what is
kept of it. -/
structure Removal where
  cursor : Nat
  kept : List Char

namespace Removal

/-- One turn of the removal: what is kept in the end, when no marker is left, and otherwise the
removal behind the next marker and its label. -/
def turn (text : List Char) (r : Removal) : Option (List Char ⊕ Removal) := do
  let ahead ← suffixAt? (lowerAscii text) r.cursor
  match find? fence.isPrefixOf ahead with
  | none =>
    let rest ← suffixAt? text r.cursor
    some (.inl (r.kept ++ rest))
  | some offset =>
    let marker := r.cursor + offset
    let segment ← slice? text r.cursor marker
    let behind := marker + byteCount fence
    let after ← suffixAt? (lowerAscii text) behind
    some (.inr ⟨if label.isPrefixOf after then behind + byteCount label else behind,
      r.kept ++ segment⟩)

variable {text : List Char} {r next : Removal}

/-- Each turn moves the cursor on, and not past the end of the text. -/
theorem lt_cursor_of_turn (h : r.turn text = some (.inr next)) :
    r.cursor < next.cursor ∧ next.cursor ≤ byteCount text := by
  simp only [turn, Option.bind_eq_bind, Option.bind_eq_some_iff] at h
  obtain ⟨ahead, -, h⟩ := h
  split at h
  · obtain ⟨rest, -, h⟩ := Option.bind_eq_some_iff.mp h
    cases h
  · next offset hfind =>
    obtain ⟨segment, -, h⟩ := Option.bind_eq_some_iff.mp h
    obtain ⟨after, hafter, h⟩ := Option.bind_eq_some_iff.mp h
    obtain ⟨read, hread, hbehind⟩ := suffixAt?_eq_some_iff.mp hafter
    obtain rfl := Sum.inr.inj (Option.some.inj h)
    have hfence : byteCount fence = 3 := by decide
    have hlength : byteCount text = byteCount read + byteCount after := by
      rw [← byteCount_append, ← hread, byteCount_lowerAscii]
    dsimp only
    split
    · next hlabel =>
      obtain ⟨t, rfl⟩ := List.isPrefixOf_iff_prefix.mp hlabel
      rw [byteCount_append] at hlength
      omega
    · omega

/-- Turns until no marker is left. -/
def run (text : List Char) (r : Removal) : Option (List Char) :=
  match _h : r.turn text with
  | none => none
  | some (.inl kept) => some kept
  | some (.inr next) => run text next
termination_by byteCount text - r.cursor
decreasing_by
  have := lt_cursor_of_turn _h
  omega

end Removal

/-- The text without fence markers and the lines before the first that opens an object. -/
def stripProseAt (text : List Char) : Option (List Char) :=
  (Removal.run text ⟨0, []⟩).map fun kept ↦
    joinLines ((lines kept).dropWhile fun line ↦ !opensObject line)

/-- The candidate that a strategy cuts out by offsets; none where an offset is no cut. -/
def Strategy.candidateAt (strategy : Strategy) (raw : List Char) : Option (Option (List Char)) :=
  match strategy with
  | .direct => some (some raw)
  | .labelledFence => fenceAfter raw (lowerAscii raw) (fence ++ label)
  | .anyFence => fenceAfter raw raw fence
  | .braceSpan => braceSpanAt raw
  | .proseStripped => (stripProseAt raw).bind braceSpanAt

/-! ## Marks in a lowered text -/

variable {a b s text x : List Char} {c : Char}

theorem isPrefixOf_lowerAscii_iff {mark : List Char} :
    mark.isPrefixOf (lowerAscii s) ↔ lowerAscii (s.take mark.length) = mark := by
  rw [List.isPrefixOf_iff_prefix, List.prefix_iff_eq_take, eq_comm, lowerAscii, lowerAscii,
    List.map_take]

theorem isPrefixOf_label_lowerAscii (s : List Char) :
    label.isPrefixOf (lowerAscii s) = startsLabel s := by
  rw [Bool.eq_iff_iff, isPrefixOf_lowerAscii_iff, startsLabel, beq_iff_eq]

/-- No letter is lowered to a backtick. -/
theorem toLower_eq_backtick_iff : c.toLower = '\x60' ↔ c = '\x60' := by
  by_cases hupper : c.isUpper
  · have hlower := (toLower_of_isUpper hupper).1
    constructor
    · intro h
      exact absurd (h ▸ hlower) (by decide)
    · rintro rfl
      exact absurd hupper (by decide)
  · rw [toLower_of_not_isUpper hupper]

/-- A marker stands in the lowered text where it stands in the text. -/
theorem isPrefixOf_fence_lowerAscii (s : List Char) :
    fence.isPrefixOf (lowerAscii s) = startsFence s := by
  have hfence (t : List Char) : lowerAscii t = fence ↔ t = fence := by
    have hreplicate : fence = List.replicate 3 '\x60' := rfl
    rw [hreplicate, List.eq_replicate_iff, List.eq_replicate_iff, length_lowerAscii]
    simp only [lowerAscii, List.forall_mem_map, toLower_eq_backtick_iff]
  rw [Bool.eq_iff_iff, isPrefixOf_lowerAscii_iff, hfence, startsFence_iff,
    List.prefix_iff_eq_take, eq_comm]

theorem isPrefixOf_labelled_lowerAscii (s : List Char) :
    (fence ++ label).isPrefixOf (lowerAscii s) = startsLabelled s := by
  rw [Bool.eq_iff_iff, List.isPrefixOf_iff_prefix]
  refine ⟨fun h ↦ ?_, prefix_of_startsLabelled⟩
  have hfence : startsFence s := by
    rw [← isPrefixOf_fence_lowerAscii, List.isPrefixOf_iff_prefix]
    exact (List.prefix_append fence label).trans h
  obtain ⟨t, rfl⟩ := startsFence_iff.mp hfence
  rw [startsLabelled, startsFence_fence, List.drop_left, ← isPrefixOf_label_lowerAscii,
    Bool.true_and, List.isPrefixOf_iff_prefix]
  exact (List.prefix_append_right_inj fence).mp h

/-! ## Fences -/

/-- The offsets of a block give its interior. -/
theorem fenceInteriorAt_append (a : List Char) (hs : startsFence s) :
    fenceInteriorAt (a ++ s) (byteCount a) = some (fenceInterior s) := by
  obtain ⟨t, rfl⟩ := startsFence_iff.mp hs
  have hopening : suffixAt? (a ++ (fence ++ t)) (byteCount a + byteCount fence) = some t := by
    rw [← byteCount_append, ← List.append_assoc, suffixAt?_append]
  rw [fenceInteriorAt, fenceInterior, List.drop_left]
  simp only [hopening, Option.bind_eq_bind, Option.bind_some]
  by_cases hfeed : '\n' ∈ t
  · obtain ⟨l, body, rfl, hl⟩ := List.eq_append_cons_of_mem hfeed
    have hstart : byteCount a + byteCount fence + byteCount l + 1 =
        byteCount (a ++ (fence ++ (l ++ ['\n']))) := by
      have hone : byteCount ['\n'] = 1 := by decide
      simp only [byteCount_append, hone, Nat.add_assoc]
    have htext : a ++ (fence ++ (l ++ '\n' :: body)) = a ++ (fence ++ (l ++ ['\n'])) ++ body := by
      simp only [List.append_assoc, List.singleton_append]
    rw [find?_append_cons hl, dropWhile_ne_append_cons hl]
    simp only [hstart, htext, suffixAt?_append, Option.bind_some]
    rw [find?_eq]
    change _ = some ((splitWhere? fence.isPrefixOf body).map _)
    cases hsplit : splitWhere? fence.isPrefixOf body with
    | none => rfl
    | some parts =>
      rw [← append_of_splitWhere? hsplit]
      simp only [Option.map_some, slice?_append]
  · rw [find?_of_not_mem hfeed, dropWhile_ne_of_not_mem hfeed]

theorem fenceAfter_eq {here : List Char → Bool} {searched mark : List Char}
    (hfind : find? mark.isPrefixOf searched = find? here text)
    (hhere : ∀ s, here s → startsFence s) :
    fenceAfter text searched mark =
      some ((splitWhere? here text).bind fun parts ↦ fenceInterior parts.2) := by
  rw [fenceAfter, hfind, find?_eq]
  cases hsplit : splitWhere? here text with
  | none => rfl
  | some parts =>
    rw [← append_of_splitWhere? hsplit]
    exact fenceInteriorAt_append parts.1 (hhere _ (holds_of_splitWhere? hsplit))

/-! ## Braces -/

theorem byteCount_cons_brace (x : List Char) : byteCount ('\x7b' :: x) = 1 + byteCount x := rfl

theorem braceSpanAt_split {x y : List Char} (ha : '\x7b' ∉ a) (hy : '\x7d' ∉ y) :
    braceSpanAt (a ++ '\x7b' :: (x ++ '\x7d' :: y)) = some (some ('\x7b' :: (x ++ ['\x7d']))) := by
  have hlast : findLast? '\x7d' (a ++ '\x7b' :: (x ++ '\x7d' :: y)) =
      some (byteCount (a ++ '\x7b' :: x)) := by
    rw [← List.cons_append, ← List.append_assoc, findLast?_append_cons _ hy]
  have hbefore : byteCount a < byteCount (a ++ '\x7b' :: x) := by
    rw [byteCount_append, byteCount_cons_brace]
    omega
  have hstop : byteCount (a ++ '\x7b' :: x) + 1 =
      byteCount a + byteCount ('\x7b' :: (x ++ ['\x7d'])) := by
    have hone : byteCount ['\x7d'] = 1 := by decide
    rw [← List.cons_append, byteCount_append, byteCount_append, hone, Nat.add_assoc]
  have htext : a ++ '\x7b' :: (x ++ '\x7d' :: y) = a ++ ('\x7b' :: (x ++ ['\x7d']) ++ y) := by
    simp
  rw [braceSpanAt, find?_append_cons ha, hlast]
  simp only [if_pos hbefore, hstop, htext, slice?_append, Option.map_some]

/-- A closing brace that stands before the first opening one is not after it. -/
theorem braceSpanAt_unclosed (ha : '\x7b' ∉ a) (hb : '\x7d' ∉ b) :
    braceSpanAt (a ++ '\x7b' :: b) = some none := by
  have hback : '\x7d' ∉ '\x7b' :: b := by simpa using hb
  rw [braceSpanAt, find?_append_cons ha]
  by_cases hclose : '\x7d' ∈ a
  · obtain ⟨u, v, rfl, hv⟩ := exists_last hclose
    have hlast : findLast? '\x7d' (u ++ '\x7d' :: v ++ '\x7b' :: b) = some (byteCount u) := by
      rw [List.append_assoc, List.cons_append, findLast?_append_cons]
      exact fun hmem ↦ (List.mem_append.mp hmem).elim hv hback
    have hafter : ¬ byteCount (u ++ '\x7d' :: v) < byteCount u := by
      rw [byteCount_append]
      omega
    rw [hlast]
    exact if_neg hafter
  · rw [findLast?_of_not_mem fun hmem ↦ (List.mem_append.mp hmem).elim hclose hback]

theorem braceSpanAt_eq (text : List Char) : braceSpanAt text = some (braceSpan text) := by
  by_cases hopen : '\x7b' ∈ text
  · obtain ⟨a, b, rfl, ha⟩ := List.eq_append_cons_of_mem hopen
    by_cases hclose : '\x7d' ∈ b
    · obtain ⟨x, y, rfl, hy⟩ := exists_last hclose
      rw [braceSpanAt_split ha hy, braceSpan_split ha hy]
    · rw [braceSpanAt_unclosed ha hclose, braceSpan_unclosed ha hclose]
  · rw [braceSpanAt, find?_of_not_mem hopen, braceSpan_unopened hopen]

/-! ## Removal -/

/-- The removal keeps what stands before the first marker. -/
theorem unfence_eq_split (s : List Char) :
    unfence s = match splitWhere? startsFence s with
      | none => s
      | some (x, y) => x ++ unfence y := by
  induction s with
  | nil => exact unfence_nil
  | cons c s ih =>
    rw [splitWhere?]
    by_cases hstart : startsFence (c :: s)
    · rw [if_pos hstart]
      rfl
    · rw [if_neg hstart, unfence_cons (Bool.eq_false_iff.mpr hstart), ih]
      cases splitWhere? startsFence s with
      | none => rfl
      | some parts => rfl

theorem find?_fence_lowerAscii (s : List Char) :
    find? fence.isPrefixOf (lowerAscii s) =
      (splitWhere? startsFence s).map fun parts ↦ byteCount parts.1 := by
  rw [find?_lowerAscii, ← find?_eq]
  simp only [isPrefixOf_fence_lowerAscii]

namespace Removal

variable {t : List Char} (a kept : List Char)

theorem turn_of_none (h : splitWhere? startsFence b = none) :
    turn (a ++ b) ⟨byteCount a, kept⟩ = some (.inl (kept ++ b)) := by
  simp only [turn, suffixAt?_lowerAscii, suffixAt?_append, find?_fence_lowerAscii, h,
    Option.map_some, Option.map_none, Option.bind_eq_bind, Option.bind_some]

theorem turn_of_some (h : splitWhere? startsFence (x ++ (fence ++ t)) = some (x, fence ++ t)) :
    turn (a ++ (x ++ (fence ++ t))) ⟨byteCount a, kept⟩ =
      some (.inr ⟨if startsLabel t then byteCount (a ++ (x ++ fence)) + byteCount label
        else byteCount (a ++ (x ++ fence)), kept ++ x⟩) := by
  have hbehind : byteCount a + byteCount x + byteCount fence = byteCount (a ++ (x ++ fence)) := by
    rw [byteCount_append, byteCount_append, Nat.add_assoc]
  have hafter : suffixAt? (a ++ (x ++ (fence ++ t))) (byteCount (a ++ (x ++ fence))) = some t := by
    rw [← suffixAt?_append (a ++ (x ++ fence)) t]
    simp only [List.append_assoc]
  simp only [turn, suffixAt?_lowerAscii, suffixAt?_append, find?_fence_lowerAscii, h,
    Option.map_some, Option.bind_eq_bind, Option.bind_some, slice?_append, hbehind, hafter,
    isPrefixOf_label_lowerAscii]

/-- A turn keeps all that is left, or what stands before a marker, and goes on behind it. -/
theorem turn_append (b : List Char) :
    unfence b = b ∧ turn (a ++ b) ⟨byteCount a, kept⟩ = some (.inl (kept ++ b)) ∨
      ∃ x m y, b = x ++ (m ++ y) ∧ m ≠ [] ∧ unfence b = x ++ unfence y ∧
        turn (a ++ b) ⟨byteCount a, kept⟩ =
          some (.inr ⟨byteCount (a ++ (x ++ m)), kept ++ x⟩) := by
  cases hsplit : splitWhere? startsFence b with
  | none => exact .inl ⟨by rw [unfence_eq_split, hsplit], turn_of_none a kept hsplit⟩
  | some parts =>
    obtain ⟨x, y⟩ := parts
    obtain rfl := append_of_splitWhere? hsplit
    obtain ⟨t, rfl⟩ := startsFence_iff.mp (holds_of_splitWhere? hsplit)
    have hunfence : unfence (x ++ (fence ++ t)) = x ++ unfence (fence ++ t) := by
      rw [unfence_eq_split, hsplit]
    rw [turn_of_some a kept hsplit, hunfence]
    right
    cases hlabel : startsLabel t with
    | false =>
      exact ⟨x, fence, t, rfl, List.cons_ne_nil _ _, by rw [unfence_fence hlabel], by simp⟩
    | true =>
      obtain ⟨lab, r, rfl, hlab⟩ := exists_of_startsLabel hlabel
      have hlength : byteCount lab = byteCount label := by rw [← hlab, byteCount_lowerAscii]
      refine ⟨x, fence ++ lab, r, by rw [List.append_assoc], List.cons_ne_nil _ _,
        by rw [unfence_labelled hlab], ?_⟩
      simp only [if_true, byteCount_append, hlength, Nat.add_assoc]

theorem run_of_inl {text result : List Char} {r : Removal} (h : r.turn text = some (.inl result)) :
    run text r = some result := by
  rw [run]
  split
  all_goals simp_all

theorem run_of_inr {text : List Char} {r next : Removal} (h : r.turn text = some (.inr next)) :
    run text r = run text next := by
  rw [run]
  split
  all_goals simp_all

/-- From a cursor on, the turns keep what is left without its markers. -/
theorem run_append (b : List Char) :
    run (a ++ b) ⟨byteCount a, kept⟩ = some (kept ++ unfence b) := by
  induction hn : b.length using Nat.strongRecOn generalizing a b kept with
  | ind n ih =>
    rcases turn_append a kept b with ⟨hunfence, hturn⟩ | ⟨x, m, y, rfl, hm, hunfence, hturn⟩
    · rw [run_of_inl hturn, hunfence]
    · have hshorter : y.length < n := by
        have := List.length_pos_iff.mpr hm
        simp only [← hn, List.length_append]
        omega
      have htext : a ++ (x ++ (m ++ y)) = a ++ (x ++ m) ++ y := by simp only [List.append_assoc]
      rw [run_of_inr hturn, htext, ih y.length hshorter _ _ y rfl, hunfence, List.append_assoc]

end Removal

theorem stripProseAt_eq (text : List Char) : stripProseAt text = some (stripProse text) := by
  have hrun : Removal.run text ⟨0, []⟩ = some (unfence text) := Removal.run_append [] [] text
  rw [stripProseAt, hrun]
  rfl

/-- All cuts of a strategy are valid and give its candidate. -/
theorem candidateAt_eq (strategy : Strategy) (raw : List Char) :
    strategy.candidateAt raw = some (strategy.candidate raw) := by
  cases strategy with
  | direct => rfl
  | labelledFence =>
    refine fenceAfter_eq ?_ startsFence_of_startsLabelled
    rw [find?_lowerAscii]
    simp only [isPrefixOf_labelled_lowerAscii]
  | anyFence => exact fenceAfter_eq rfl fun s hs ↦ hs
  | braceSpan => exact braceSpanAt_eq raw
  | proseStripped =>
    rw [Strategy.candidateAt, stripProseAt_eq, Option.bind_some, braceSpanAt_eq]
    rfl

end ChangeReview.Reply
