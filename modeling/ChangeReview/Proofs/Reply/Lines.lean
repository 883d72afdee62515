import ChangeReview.Proofs.Text.Endings
import ChangeReview.Proofs.Text.Trimming
import ChangeReview.Reply.Strategy

/-!
# Dropping and joining lines

The lines of a text, joined again, are its unified form up to line feeds at the end. The lines that
are left when lines are dropped from the front are the lines of a text that the text ends with. A
text that opens an object has a line that does, and it is the first one when the brace is the first
character.
-/

namespace ChangeReview.Reply

open Text

/-- Lines joined again are the text up to its line endings and line feeds at its end. -/
theorem exists_unifyEndings_eq_joinLines (s : List Char) :
    ∃ e, unifyEndings s = joinLines (lines s) ++ e ∧ ∀ c ∈ e, c = '\n' := by
  induction s using lines_induction with
  | last s hs =>
    refine ⟨[], ?_, fun c hc ↦ absurd hc List.not_mem_nil⟩
    rw [unifyEndings_of_not_mem hs, lines_of_not_mem hs, List.append_nil]
    cases s <;> rfl
  | line l s hl ih =>
    obtain ⟨e, hs, he⟩ := ih
    rw [unifyEndings_line hl, lines_line hl, hs]
    cases hlines : lines s with
    | nil => exact ⟨'\n' :: e, rfl, List.forall_mem_cons.mpr ⟨rfl, he⟩⟩
    | cons next rest =>
      refine ⟨e, ?_, he⟩
      rw [joinLines, List.append_assoc, List.cons_append]

/-- What is left of the lines of a text are the lines of what is left of the text. -/
theorem exists_dropWhile_lines (p : List Char → Bool) (s : List Char) :
    ∃ t, t <:+ s ∧ (lines s).dropWhile p = lines t := by
  induction s using lines_induction with
  | last s hs =>
    rw [lines_of_not_mem hs]
    split
    · exact ⟨[], List.nil_suffix, rfl⟩
    · next hne =>
      by_cases hp : p s
      · exact ⟨[], List.nil_suffix, by rw [List.dropWhile_cons_of_pos hp]; rfl⟩
      · refine ⟨s, List.suffix_rfl, ?_⟩
        rw [List.dropWhile_cons_of_neg hp, lines_of_not_mem hs, if_neg hne]
  | line l s hl ih =>
    by_cases hp : p (dropReturn l)
    · obtain ⟨t, ht, hdrop⟩ := ih
      refine ⟨t, ht.trans ((List.suffix_cons _ s).trans (List.suffix_append l _)), ?_⟩
      rw [lines_line hl, List.dropWhile_cons_of_pos hp, hdrop]
    · refine ⟨l ++ '\n' :: s, List.suffix_rfl, ?_⟩
      rw [lines_line hl, List.dropWhile_cons_of_neg hp]

/-! ## Lines that open an object -/

theorem opensObject_iff {s : List Char} :
    opensObject s ↔ ∃ x t, s = x ++ '\x7b' :: t ∧ AllBlank x := by
  rw [opensObject, beq_iff_eq]
  constructor
  · intro h
    obtain ⟨x, hs, hx⟩ := append_trimStart s
    obtain ⟨t, ht⟩ := List.head?_eq_some_iff.mp h
    exact ⟨x, t, by rw [← ht, ← hs], hx⟩
  · rintro ⟨x, t, rfl, hx⟩
    rw [trimStart, List.dropWhile_append_of_pos hx, List.dropWhile_cons_of_neg (by decide)]
    rfl

theorem opensObject_cons (s : List Char) : opensObject ('\x7b' :: s) :=
  opensObject_iff.mpr ⟨[], s, rfl, fun _ hc ↦ absurd hc List.not_mem_nil⟩

theorem dropReturn_concat (s : List Char) : dropReturn (s ++ ['\r']) = s := by
  rw [dropReturn, List.getLast?_concat, if_pos rfl, List.dropLast_concat]

theorem prefix_dropReturn (s : List Char) : dropReturn s <+: s := by
  rw [dropReturn]
  split
  · exact List.dropLast_prefix s
  · exact List.prefix_rfl

/-- A line opens an object with and without a carriage return at its end. -/
theorem opensObject_dropReturn {s : List Char} (h : opensObject s) : opensObject (dropReturn s) := by
  by_cases hlast : s.getLast? = some '\r'
  · obtain ⟨x, t, rfl, hx⟩ := opensObject_iff.mp h
    -- The brace is not the last character.
    obtain ⟨t, c, rfl⟩ := (List.eq_nil_or_concat t).resolve_left (by rintro rfl; simp at hlast)
    rw [List.concat_eq_append, ← List.cons_append, ← List.append_assoc] at hlast ⊢
    rw [List.getLast?_concat, Option.some.injEq] at hlast
    rw [hlast, dropReturn_concat]
    exact opensObject_iff.mpr ⟨x, t, rfl, hx⟩
  · rwa [dropReturn, if_neg hlast]

theorem opensObject_blank_append {x : List Char} (hx : AllBlank x) (s : List Char) :
    opensObject (x ++ s) = opensObject s := by
  rw [opensObject, trimStart, List.dropWhile_append_of_pos hx]
  rfl

theorem opensObject_of_append {s t : List Char} (hs : ¬ AllBlank s) (h : opensObject (s ++ t)) :
    opensObject s := by
  obtain ⟨x, u, heq, hx⟩ := opensObject_iff.mp h
  rcases List.append_eq_append_iff.mp heq with ⟨w, rfl, -⟩ | ⟨w, rfl, hw⟩
  · exact absurd (allBlank_append.mp hx).1 hs
  · cases w with
    | nil => exact absurd hx (by rwa [List.append_nil] at hs)
    | cons c w =>
      obtain ⟨rfl, -⟩ := List.cons.inj hw
      exact opensObject_iff.mpr ⟨x, w, rfl, hx⟩

/-- A text that opens an object has a line that does. -/
theorem exists_line_of_opensObject {s : List Char} (h : opensObject s) :
    ∃ line ∈ lines s, opensObject line := by
  induction s using lines_induction with
  | last s hs =>
    refine ⟨s, ?_, h⟩
    obtain ⟨x, t, rfl, -⟩ := opensObject_iff.mp h
    rw [lines_of_not_mem hs, if_neg (by simp)]
    exact List.mem_singleton.mpr rfl
  | line l s hl ih =>
    rw [lines_line hl]
    by_cases hblank : AllBlank l
    · have hfeed : AllBlank (l ++ ['\n']) :=
        allBlank_append.mpr ⟨hblank, by decide⟩
      rw [List.append_cons, opensObject_blank_append hfeed] at h
      obtain ⟨line, hmem, hline⟩ := ih h
      exact ⟨line, List.mem_cons_of_mem _ hmem, hline⟩
    · exact ⟨_, List.mem_cons_self, opensObject_dropReturn (opensObject_of_append hblank h)⟩

/-- The first line of a text that starts with a brace opens an object. -/
theorem exists_lines_cons (s : List Char) :
    ∃ line rest, lines ('\x7b' :: s) = line :: rest ∧ opensObject line := by
  induction s using lines_induction with
  | last s hs =>
    have hmem : '\n' ∉ '\x7b' :: s := by simp [hs]
    exact ⟨_, [], lines_of_not_mem hmem, opensObject_cons s⟩
  | line l s hl _ =>
    have hmem : '\n' ∉ '\x7b' :: l := by simp [hl]
    exact ⟨_, _, lines_line hmem s, opensObject_dropReturn (opensObject_cons l)⟩

end ChangeReview.Reply
