import ChangeReview.Json.Value
import ChangeReview.Proofs.Text.Trimming

/-!
# The text of a number

Numbers are written with digits, a sign, a point and the letter of an exponent. So no blank stands
in the text of a number, and that text is not empty.
-/

namespace ChangeReview

open Text

/-! ## Natural numbers -/

theorem isBlank_of_isDigit {c : Char} (h : c.isDigit) : isBlank c = false := by
  have hrange : 48 ≤ c.toNat ∧ c.toNat ≤ 57 := by
    simpa [Char.isDigit, UInt32.le_iff_toNat_le] using h
  simp only [isBlank, Bool.or_eq_false_iff, Bool.and_eq_false_iff, decide_eq_false_iff_not,
    beq_eq_false_iff_ne]
  omega

theorem blankFree_toString (n : Nat) : BlankFree (toString n).toList := by
  intro c hc
  rw [Nat.toString_eq_repr, Nat.toList_repr] at hc
  exact isBlank_of_isDigit (Nat.isDigit_of_mem_toDigits (by decide) (by decide) hc)

theorem toString_ne_nil (n : Nat) : (toString n).toList ≠ [] := by
  rw [Nat.toString_eq_repr, Nat.toList_repr]
  exact Nat.toDigits_ne_nil

/-! ## Doubles -/

namespace Binary64

variable {digits : String}

theorem blankFree_replicate_zero (n : Nat) : BlankFree (List.replicate n '0') := by
  intro c hc
  rw [List.eq_of_mem_replicate hc]
  decide

theorem blankFree_positional (h : BlankFree digits.toList) (k : Int) :
    BlankFree (positional digits k).toList := by
  unfold positional
  dsimp only
  split
  · simp only [String.toList_append, String.toList_ofList, blankFree_append]
    exact ⟨⟨h, blankFree_replicate_zero _⟩, by decide⟩
  · split
    · simp only [String.toList_append, String.toList_ofList, blankFree_append]
      exact ⟨⟨h.take _, by decide⟩, h.drop _⟩
    · simp only [String.toList_append, String.toList_ofList, blankFree_append]
      exact ⟨⟨by decide, blankFree_replicate_zero _⟩, h⟩

theorem blankFree_scientific (h : BlankFree digits.toList) (k : Int) :
    BlankFree (scientific digits k).toList := by
  unfold scientific
  simp only [String.toList_append, String.toList_ofList, blankFree_append]
  refine ⟨⟨⟨⟨h.take 1, ?_⟩, by decide⟩, ?_⟩, blankFree_toString _⟩
  · split
    · decide
    · simp only [String.toList_append, String.toList_ofList, blankFree_append]
      exact ⟨by decide, h.drop 1⟩
  · split <;> decide

theorem positional_ne_nil (digits : String) (k : Int) : (positional digits k).toList ≠ [] := by
  unfold positional
  dsimp only
  split
  · simp
  · split <;> simp

theorem scientific_ne_nil (digits : String) (k : Int) : (scientific digits k).toList ≠ [] := by
  simp [scientific]

theorem blankFree_text (x : Binary64) : BlankFree x.text.toList := by
  have hsign : BlankFree (if x.negative then "-" else "").toList := by
    split <;> decide
  unfold text
  dsimp only
  split
  · rw [String.toList_append, blankFree_append]
    exact ⟨hsign, by decide⟩
  · rw [String.toList_append, blankFree_append]
    refine ⟨hsign, ?_⟩
    split
    · exact blankFree_positional (blankFree_toString _) _
    · exact blankFree_scientific (blankFree_toString _) _

theorem text_ne_nil (x : Binary64) : x.text.toList ≠ [] := by
  unfold text
  dsimp only
  split
  · simp
  · rw [String.toList_append]
    apply List.append_ne_nil_of_right_ne_nil
    split
    · exact positional_ne_nil _ _
    · exact scientific_ne_nil _ _

end Binary64

/-! ## Numbers of JSON -/

namespace Json.Number

theorem blankFree_text (n : Number) : BlankFree n.text.toList := by
  cases n with
  | natural n => exact blankFree_toString n
  | negative n =>
    rw [text, String.toList_append, blankFree_append]
    exact ⟨by decide, blankFree_toString n⟩
  | real x => exact x.blankFree_text

theorem text_ne_nil (n : Number) : n.text.toList ≠ [] := by
  cases n with
  | natural n => exact toString_ne_nil n
  | negative n =>
    rw [text, String.toList_append]
    exact List.append_ne_nil_of_right_ne_nil _ (toString_ne_nil n)
  | real x => exact x.text_ne_nil

end Json.Number

end ChangeReview
