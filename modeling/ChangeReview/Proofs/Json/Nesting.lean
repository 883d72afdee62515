import ChangeReview.Json.Reader
import ChangeReview.Proofs.Text.Trimming

/-!
# Where the characters of a JSON text stand

A character stands between tokens, in a string, or right after a backslash in a string, and below
a number of open brackets. `Spot.run` follows a text from spot to spot and gives up at a character
that strict JSON never has there: a control character in a string, or, between tokens, anything
but blanks, letters, digits and punctuation.

A neutral text starts and ends between tokens and closes the brackets that it opens, no others.
An enclosed text is a neutral text in braces. A part of an enclosed text that is enclosed itself
is the whole, provided that a line feed stands before it and a backtick after it, blanks aside.
-/

namespace ChangeReview.Json

/-- What surrounds a character. -/
inductive Region where
  /-- No string. -/
  | between
  /-- A string. -/
  | inside
  /-- A string, right after a backslash. -/
  | escaped
  deriving DecidableEq, Repr

/-- A region and the number of brackets that are open there. -/
structure Spot where
  region : Region
  depth : Nat
  deriving DecidableEq, Repr

/-- What may stand between tokens or in a token that is neither a string nor a bracket. -/
def isPlain (c : Char) : Bool :=
  isSpace c || c.isAlphanum || c == ',' || c == ':' || c == '-' || c == '+' || c == '.'

/-- What starts or ends a string, an array or an object. -/
def delimiters : List Char := ['"', '\x7b', '[', '\x7d', ']']

/-- No delimiter is plain. -/
theorem isPlain_eq_false {c : Char} (h : c ∈ delimiters) : isPlain c = false := by
  simp only [delimiters, List.mem_cons, List.not_mem_nil, or_false] at h
  rcases h with rfl | rfl | rfl | rfl | rfl <;> decide

/-- No delimiter is a blank. -/
theorem isBlank_eq_false {c : Char} (h : c ∈ delimiters) : Text.isBlank c = false := by
  simp only [delimiters, List.mem_cons, List.not_mem_nil, or_false] at h
  rcases h with rfl | rfl | rfl | rfl | rfl <;> decide

namespace Spot

/-- The spot after one more character, unless that character cannot stand here. -/
def step (p : Spot) (c : Char) : Option Spot :=
  match p.region with
  | .between =>
    if c = '"' then some ⟨.inside, p.depth⟩
    else if c = '\x7b' ∨ c = '[' then some ⟨.between, p.depth + 1⟩
    else if c = '\x7d' ∨ c = ']' then
      if p.depth = 0 then none else some ⟨.between, p.depth - 1⟩
    else if isPlain c then some ⟨.between, p.depth⟩
    else none
  | .inside =>
    if c.toNat < 0x20 then none
    else if c = '"' then some ⟨.between, p.depth⟩
    else if c = '\\' then some ⟨.escaped, p.depth⟩
    else some ⟨.inside, p.depth⟩
  | .escaped => if c.toNat < 0x20 then none else some ⟨.inside, p.depth⟩

/-- The spot after a text. -/
def run (p : Spot) (s : List Char) : Option Spot := s.foldlM step p

theorem run_nil (p : Spot) : p.run [] = some p := rfl

theorem run_cons (p : Spot) (c : Char) (s : List Char) :
    p.run (c :: s) = (p.step c).bind fun q ↦ q.run s := List.foldlM_cons

theorem run_append (p : Spot) (s t : List Char) :
    p.run (s ++ t) = (p.run s).bind fun q ↦ q.run t := List.foldlM_append

/-- A run over two texts passes a spot between them. -/
theorem run_append_eq_some_iff {p q : Spot} {s t : List Char} :
    p.run (s ++ t) = some q ↔ ∃ m, p.run s = some m ∧ m.run t = some q := by
  rw [run_append, Option.bind_eq_some_iff]

/-- Brackets that are open already change nothing but the count. -/
theorem step_raise {p q : Spot} {c : Char} (h : p.step c = some q) (k : Nat) :
    step ⟨p.region, p.depth + k⟩ c = some ⟨q.region, q.depth + k⟩ := by
  obtain ⟨region, depth⟩ := p
  cases region <;> grind [step]

/-- A run goes through below further brackets. -/
theorem run_raise {p q : Spot} {s : List Char} (h : p.run s = some q) (k : Nat) :
    run ⟨p.region, p.depth + k⟩ s = some ⟨q.region, q.depth + k⟩ := by
  induction s generalizing p with
  | nil =>
    rw [run_nil, Option.some.injEq] at h
    rw [run_nil, h]
  | cons c s ih =>
    rw [run_cons, Option.bind_eq_some_iff] at h
    obtain ⟨m, hc, hs⟩ := h
    rw [run_cons, step_raise hc k, Option.bind_some]
    exact ih hs

/-- Between tokens, a character that delimits nothing leaves the spot as it is or is refused. -/
theorem step_of_not_mem {c : Char} (hc : c ∉ delimiters) (d : Nat) :
    step ⟨.between, d⟩ c = if isPlain c then some ⟨.between, d⟩ else none := by
  simp only [delimiters, List.mem_cons, List.not_mem_nil, or_false, not_or] at hc
  obtain ⟨hquote, hbrace, hbracket, hbrace', hbracket'⟩ := hc
  simp only [step, if_neg hquote, hbrace, hbracket, hbrace', hbracket', or_self, if_false]

/-- A line feed stands between tokens and nowhere else. -/
theorem step_lineFeed {p q : Spot} (h : p.step '\n' = some q) : q = ⟨.between, p.depth⟩ := by
  obtain ⟨region, depth⟩ := p
  cases region with
  | between =>
    rw [show step ⟨.between, depth⟩ '\n' = some ⟨.between, depth⟩ from rfl] at h
    exact (Option.some.inj h).symm
  | inside => exact absurd h (by simp [step])
  | escaped => exact absurd h (by simp [step])

/-- Between tokens, a blank leaves the spot as it is. -/
theorem step_blank {d : Nat} {c : Char} {q : Spot} (hc : Text.isBlank c)
    (h : step ⟨.between, d⟩ c = some q) : q = ⟨.between, d⟩ := by
  have hmem : c ∉ delimiters := by
    intro hmem
    rw [isBlank_eq_false hmem] at hc
    exact absurd hc (by decide)
  rw [step_of_not_mem hmem] at h
  split at h
  · exact (Option.some.inj h).symm
  · exact absurd h (by simp)

/-- Between tokens, blanks leave the spot as it is. -/
theorem run_blank {d : Nat} {s : List Char} {q : Spot} (hs : Text.AllBlank s)
    (h : run ⟨.between, d⟩ s = some q) : q = ⟨.between, d⟩ := by
  induction s with
  | nil => exact (Option.some.inj h).symm
  | cons c s ih =>
    rw [run_cons, Option.bind_eq_some_iff] at h
    obtain ⟨m, hc, hm⟩ := h
    rw [step_blank hs.head hc] at hm
    exact ih (fun c hc ↦ hs c (List.mem_cons_of_mem _ hc)) hm

/-- After a line feed and blanks, a text stands between tokens. -/
theorem region_of_lineFeed {p q : Spot} {s t : List Char} (ht : Text.AllBlank t)
    (h : p.run (s ++ '\n' :: t) = some q) : q.region = .between := by
  obtain ⟨m, -, hm⟩ := run_append_eq_some_iff.mp h
  rw [run_cons, Option.bind_eq_some_iff] at hm
  obtain ⟨m', hfeed, hm'⟩ := hm
  rw [step_lineFeed hfeed] at hm'
  rw [run_blank ht hm']

/-- Between tokens, no backtick follows, whatever blanks stand before it. -/
theorem run_backtick {d : Nat} {s t : List Char} (hs : Text.AllBlank s) :
    run ⟨.between, d⟩ (s ++ '\x60' :: t) = none := by
  cases h : run ⟨.between, d⟩ (s ++ '\x60' :: t) with
  | none => rfl
  | some q =>
    obtain ⟨m, hm, hq⟩ := run_append_eq_some_iff.mp h
    rw [run_blank hs hm, run_cons, show step ⟨.between, d⟩ '\x60' = none from rfl] at hq
    exact absurd hq (by simp)

end Spot

/-! ## Texts that close what they open -/

/-- A text that leads from between tokens to between tokens at the same depth, at any depth. -/
def Neutral (s : List Char) : Prop :=
  ∀ d, Spot.run ⟨.between, d⟩ s = some ⟨.between, d⟩

/-- A neutral text in braces. -/
def Enclosed (s : List Char) : Prop := ∃ u, s = '\x7b' :: (u ++ ['\x7d']) ∧ Neutral u

namespace Enclosed

variable {p a b : List Char}

theorem ne_nil (h : Enclosed p) : p ≠ [] := by
  obtain ⟨u, rfl, -⟩ := h
  exact List.cons_ne_nil _ _

theorem head?_eq (h : Enclosed p) : p.head? = some '\x7b' := by
  obtain ⟨u, rfl, -⟩ := h
  rfl

theorem getLast?_eq (h : Enclosed p) : p.getLast? = some '\x7d' := by
  obtain ⟨u, rfl, -⟩ := h
  rw [← List.cons_append, List.getLast?_append, List.getLast?_singleton, Option.some_or]

/-- Braces around a neutral text close what they open. -/
theorem braces_sublist (h : Enclosed p) : ['\x7b', '\x7d'].Sublist p := by
  obtain ⟨u, rfl, -⟩ := h
  exact (List.sublist_append_right u _).cons_cons _

theorem neutral (h : Enclosed p) : Neutral p := by
  obtain ⟨u, rfl, hu⟩ := h
  intro d
  rw [Spot.run_cons, show Spot.step ⟨.between, d⟩ '\x7b' = some ⟨.between, d + 1⟩ from rfl,
    Option.bind_some, Spot.run_append, hu (d + 1)]
  rfl

/-- Strictly inside an enclosed text at least one bracket is open. -/
theorem depth_pos (h : Enclosed (a ++ b)) (ha : a ≠ []) (hb : b ≠ []) {q : Spot}
    (hq : Spot.run ⟨.between, 0⟩ a = some q) : 0 < q.depth := by
  obtain ⟨u, hu, hneutral⟩ := h
  obtain ⟨c, a', rfl⟩ := List.exists_cons_of_ne_nil ha
  obtain ⟨rfl, hbody⟩ := List.cons.inj hu
  -- `a'` is a prefix of the neutral text in the braces, where the depth counts from one.
  have hprefix : ∃ w, u = a' ++ w := by
    have hlast : a' ++ b.dropLast ++ [b.getLast hb] = u ++ ['\x7d'] := by
      rw [List.append_assoc, List.dropLast_concat_getLast hb]
      exact hbody
    exact ⟨b.dropLast, (List.append_inj' hlast rfl).1.symm⟩
  obtain ⟨w, rfl⟩ := hprefix
  obtain ⟨m, hm, -⟩ := Spot.run_append_eq_some_iff.mp (hneutral 0)
  have hraised := Spot.run_raise hm 1
  rw [Spot.run_cons, show Spot.step ⟨.between, 0⟩ '\x7b' = some ⟨.between, 0 + 1⟩ from rfl,
    Option.bind_some, hraised, Option.some.injEq] at hq
  rw [← hq]
  exact Nat.succ_pos _

/-- No enclosed text ends with another that starts between its tokens. -/
theorem eq_nil_of_append_right (h : Enclosed (a ++ p)) (hp : Enclosed p) {q : Spot}
    (hq : Spot.run ⟨.between, 0⟩ a = some q) (hregion : q.region = .between) : a = [] := by
  apply Decidable.byContradiction
  intro ha
  obtain ⟨region, depth⟩ := q
  have hpos : 0 < depth := depth_pos h ha hp.ne_nil hq
  have hrun := h.neutral 0
  rw [Spot.run_append, hq, Option.bind_some, show region = .between from hregion,
    hp.neutral depth, Option.some.injEq, Spot.mk.injEq] at hrun
  omega

/-- An enclosed part of an enclosed text is the whole, provided that blanks back to a line feed
stand before it, unless nothing does, and blanks up to a backtick after it, unless nothing does. -/
theorem eq_nil_of_infix (h : Enclosed (a ++ p ++ b)) (hp : Enclosed p)
    (ha : a = [] ∨ ∃ s t, a = s ++ '\n' :: t ∧ Text.AllBlank t)
    (hb : b = [] ∨ ∃ s t, b = s ++ '\x60' :: t ∧ Text.AllBlank s) : a = [] ∧ b = [] := by
  obtain ⟨q, hq, hrest⟩ := Spot.run_append_eq_some_iff.mp (List.append_assoc a p b ▸ h.neutral 0)
  have hregion : q.region = .between := by
    rcases ha with rfl | ⟨s, t, rfl, ht⟩
    · rw [← Option.some.inj hq]
    · exact Spot.region_of_lineFeed ht hq
  rcases hb with rfl | ⟨s, t, rfl, hs⟩
  · rw [List.append_nil] at h
    exact ⟨eq_nil_of_append_right h hp hq hregion, rfl⟩
  · -- The part ends between tokens, where no backtick can follow.
    obtain ⟨region, depth⟩ := q
    obtain rfl : region = .between := hregion
    rw [Spot.run_append, hp.neutral depth, Option.bind_some, Spot.run_backtick hs] at hrest
    exact absurd hrest (by simp)

end Enclosed

end ChangeReview.Json
