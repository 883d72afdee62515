/-!
# Searching in a text

Finding the first place of a text at which something stands. The result is the part before that
place and the part that starts there, so that no offset has to be checked.
-/

namespace ChangeReview.Text

/-- Split a text right before the first suffix with a property. -/
def splitWhere? (here : List Char → Bool) : List Char → Option (List Char × List Char)
  | [] => if here [] then some ([], []) else none
  | c :: rest =>
    if here (c :: rest) then some ([], c :: rest)
    else (splitWhere? here rest).map fun parts => (c :: parts.1, parts.2)

/-- Split a text right before the first occurrence of `mark`. -/
def splitAtFirst? (mark : List Char) : List Char → Option (List Char × List Char) :=
  splitWhere? mark.isPrefixOf

/-- Whether some suffix of a text has a property. -/
def someSuffix (here : List Char → Bool) : List Char → Bool
  | [] => here []
  | c :: rest => here (c :: rest) || someSuffix here rest

/-- The two parts make up the text. -/
theorem append_of_splitWhere? {here : List Char → Bool} {s a b : List Char}
    (h : splitWhere? here s = some (a, b)) : a ++ b = s := by
  induction s generalizing a b with
  | nil =>
    unfold splitWhere? at h
    split at h <;> simp_all
  | cons c rest ih =>
    unfold splitWhere? at h
    split at h
    · simp_all
    · simp only [Option.map_eq_some_iff, Prod.exists, Prod.mk.injEq] at h
      obtain ⟨x, y, hxy, rfl, rfl⟩ := h
      simp [ih hxy]

/-- The second part has the property. -/
theorem holds_of_splitWhere? {here : List Char → Bool} {s a b : List Char}
    (h : splitWhere? here s = some (a, b)) : here b := by
  induction s generalizing a b with
  | nil =>
    unfold splitWhere? at h
    split at h <;> simp_all
  | cons c rest ih =>
    unfold splitWhere? at h
    split at h
    · simp_all
    · simp only [Option.map_eq_some_iff, Prod.exists, Prod.mk.injEq] at h
      obtain ⟨x, y, hxy, rfl, rfl⟩ := h
      exact ih hxy

end ChangeReview.Text
