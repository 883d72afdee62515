import Mathlib.Data.List.DropRight
import ChangeReview.Path

/-!
# The directories above a directory

A parent is a shorter path, so the way up ends. The directories that are looked at are those on the
way up, nearest first, cut at a fixed number.
-/

namespace ChangeReview.Path

/-! ## Parents are shorter -/

theorem segments_ne_nil (s : List Char) : segments s ≠ [] := by
  cases s with
  | nil => simp [segments]
  | cons c s =>
    rw [segments]
    split
    · simp
    · split <;> simp

theorem joinSegments_segments (s : List Char) : joinSegments (segments s) = s := by
  induction s with
  | nil => rfl
  | cons c s ih =>
    obtain ⟨t, ts, hs⟩ := List.exists_cons_of_ne_nil (segments_ne_nil s)
    rw [segments, hs]
    rw [hs] at ih
    split
    · next hc => rw [joinSegments, ih, hc, List.nil_append]
    · cases ts with
      | nil => rw [joinSegments] at ih; show joinSegments [c :: t] = _; rw [joinSegments, ih]
      | cons u ts =>
        rw [joinSegments] at ih
        show joinSegments ((c :: t) :: u :: ts) = _
        rw [joinSegments, List.cons_append, ih]

theorem length_joinSegments_append (ss ts : List (List Char)) :
    (joinSegments ss).length + (joinSegments ts).length ≤ (joinSegments (ss ++ ts)).length := by
  fun_induction joinSegments ss with
  | case1 => simp
  | case2 s =>
    cases ts with
    | nil => simp [joinSegments]
    | cons t ts => simp [joinSegments]
  | case3 s t rest ih =>
    simp only [List.cons_append, joinSegments, List.length_append, List.length_cons] at ih ⊢
    omega

/-- Some of the first segments make up no longer a path than all of them. -/
theorem length_joinSegments_le {ss ts : List (List Char)} (h : ss <+: ts) :
    (joinSegments ss).length ≤ (joinSegments ts).length := by
  obtain ⟨us, rfl⟩ := h
  exact Nat.le_trans (Nat.le_add_right _ _) (length_joinSegments_append ss us)

/-- Segments without the idle ones at the end are shorter without their last one. -/
theorem length_dropLast_lt {ss : List (List Char)} (h : dropIdleEnd ss ≠ []) :
    (joinSegments (dropIdleEnd (dropIdleEnd ss).dropLast)).length < (joinSegments ss).length := by
  have hlast : (dropIdleEnd ss).getLast h ≠ [] := by
    have hidle : ¬ isIdle ((dropIdleEnd ss).getLast h) := List.rdropWhile_last_not isIdle ss h
    intro hnil
    rw [hnil] at hidle
    exact hidle rfl
  have hsplit := length_joinSegments_append (dropIdleEnd ss).dropLast [(dropIdleEnd ss).getLast h]
  rw [List.dropLast_append_getLast h, joinSegments] at hsplit
  have hfirst : (joinSegments (dropIdleEnd (dropIdleEnd ss).dropLast)).length ≤
      (joinSegments (dropIdleEnd ss).dropLast).length :=
    length_joinSegments_le (List.rdropWhile_prefix isIdle _)
  have hall : (joinSegments (dropIdleEnd ss)).length ≤ (joinSegments ss).length :=
    length_joinSegments_le (List.rdropWhile_prefix isIdle _)
  have hpos := List.length_pos_of_ne_nil hlast
  omega

theorem splitStart_append (path : List Char) :
    (splitStart path).1 ++ (splitStart path).2 = path := by
  unfold splitStart
  split <;> rfl

/-- A parent is shorter. -/
theorem length_lt_of_parent? {path parent : String} (h : parent? path = some parent) :
    parent.length < path.length := by
  rw [← String.length_toList, ← String.length_toList, ← splitStart_append path.toList,
    List.length_append]
  unfold parent? at h
  generalize splitStart path.toList = parts at h ⊢
  obtain ⟨start, body⟩ := parts
  simp only at h ⊢
  split at h
  · split at h
    · next hdot =>
      obtain rfl := Option.some.inj h
      rw [beq_iff_eq.mp hdot]
      exact Nat.lt_add_right body.length Nat.one_pos
    · cases h
  · next hempty =>
    obtain rfl := Option.some.inj h
    have hnamed : dropIdleEnd (segments body) ≠ [] := by simpa using hempty
    have hshorter := length_dropLast_lt hnamed
    rw [joinSegments_segments] at hshorter
    rw [String.toList_ofList, List.length_append]
    omega

/-! ## The way up -/

/-- The directory a number of steps above a directory. -/
def above? (path : String) : Nat → Option String
  | 0 => some path
  | k + 1 => (above? path k).bind parent?

theorem above?_succ (path : String) (k : Nat) :
    above? path (k + 1) = (parent? path).bind (above? · k) := by
  induction k with
  | zero => cases h : parent? path <;> simp [above?, h]
  | succ k ih => rw [above?, ih, Option.bind_assoc]; rfl

/-- The directories that are looked at are the nearest on the way up. -/
theorem getElem?_ancestors (path : String) (count k : Nat) :
    (ancestors path count)[k]? = if k < count then above? path k else none := by
  induction count generalizing path k with
  | zero => rfl
  | succ count ih =>
    rw [ancestors]
    cases k with
    | zero => rfl
    | succ k =>
      rw [List.getElem?_cons_succ, above?_succ]
      simp only [Nat.add_lt_add_iff_right]
      cases hparent : parent? path with
      | none => simp
      | some parent => exact ih parent k

theorem length_le_of_mem_ancestors {path dir : String} {count : Nat}
    (h : dir ∈ ancestors path count) : dir.length ≤ path.length := by
  induction count generalizing path with
  | zero => cases h
  | succ count ih =>
    rw [ancestors] at h
    rcases List.mem_cons.mp h with rfl | h
    · exact Nat.le_refl _
    · split at h
      · next parent hparent =>
        exact Nat.le_trans (ih h) (Nat.le_of_lt (length_lt_of_parent? hparent))
      · cases h

/-- On the way up the paths get shorter, so that no directory comes twice. -/
theorem pairwise_ancestors (path : String) (count : Nat) :
    (ancestors path count).Pairwise fun near far ↦ far.length < near.length := by
  induction count generalizing path with
  | zero => exact .nil
  | succ count ih =>
    rw [ancestors]
    split
    · next parent hparent =>
      refine .cons (fun dir hdir ↦ ?_) (ih parent)
      exact Nat.lt_of_le_of_lt (length_le_of_mem_ancestors hdir) (length_lt_of_parent? hparent)
    · exact List.pairwise_singleton _ _

end ChangeReview.Path
