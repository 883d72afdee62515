import ChangeReview.Json.Value

/-!
# Members of an object

The members of an object that was made from a list stand in the order of their keys, each key once.
So every member is found under its key. Members can be left out by their keys and changed under
their keys; both keep the order, and what is found under a key afterwards is told by what was found
before.
-/

namespace ChangeReview.Json

namespace Members

/-- Each member comes before the members with greater keys. -/
def Sorted (members : Members) : Prop := members.Pairwise (·.1 < ·.1)

theorem eq_or_mem_of_mem_insert {key : String} {value : Value} {members : Members}
    {p : String × Value} (h : p ∈ insert key value members) : p = (key, value) ∨ p ∈ members := by
  induction members with
  | nil => exact .inl (List.mem_singleton.mp h)
  | cons q rest ih =>
    obtain ⟨k, v⟩ := q
    unfold insert at h
    split at h
    · exact List.mem_cons.mp h
    · split at h
      · exact (List.mem_cons.mp h).imp_right (List.mem_cons_of_mem _)
      · rcases List.mem_cons.mp h with rfl | h
        · exact .inr List.mem_cons_self
        · exact (ih h).imp_right (List.mem_cons_of_mem _)

/-- Setting a key keeps the order. -/
theorem sorted_insert {members : Members} (h : members.Sorted) (key : String) (value : Value) :
    (insert key value members).Sorted := by
  induction members with
  | nil => exact List.pairwise_singleton _ _
  | cons q rest ih =>
    obtain ⟨k, v⟩ := q
    obtain ⟨hfirst, hrest⟩ := List.pairwise_cons.mp h
    unfold insert
    split
    · next hlt =>
      refine List.pairwise_cons.mpr ⟨fun p hp ↦ ?_, h⟩
      rcases List.mem_cons.mp hp with rfl | hp
      · exact hlt
      · exact String.lt_trans hlt (hfirst p hp)
    · next hle =>
      split
      · next heq =>
        subst heq
        exact List.pairwise_cons.mpr ⟨hfirst, hrest⟩
      · next hne =>
        have hgt : k < key := Std.lt_of_le_of_ne (String.not_lt.mp hle) (Ne.symm hne)
        refine List.pairwise_cons.mpr ⟨fun p hp ↦ ?_, ih hrest⟩
        rcases eq_or_mem_of_mem_insert hp with rfl | hp
        · exact hgt
        · exact hfirst p hp

theorem sorted_ofList (pairs : List (String × Value)) : (ofList pairs).Sorted := by
  suffices h : ∀ members : Members, members.Sorted →
      Sorted (pairs.foldl (fun m p ↦ insert p.1 p.2 m) members) from h [] List.Pairwise.nil
  induction pairs with
  | nil => exact fun members h ↦ h
  | cons p rest ih => exact fun members h ↦ ih _ (sorted_insert h p.1 p.2)

/-- A member is found under its key. -/
theorem get?_of_mem {members : Members} (h : members.Sorted) {p : String × Value}
    (hp : p ∈ members) : members.get? p.1 = some p.2 := by
  induction members with
  | nil => exact absurd hp List.not_mem_nil
  | cons q rest ih =>
    obtain ⟨hfirst, hrest⟩ := List.pairwise_cons.mp h
    rcases List.mem_cons.mp hp with rfl | hp
    · simp [get?]
    · have hne : (q.1 == p.1) = false :=
        beq_eq_false_iff_ne.mpr fun he ↦ String.lt_irrefl p.1 (he ▸ hfirst p hp)
      rw [get?, List.find?_cons, hne]
      exact ih hrest hp

/-- The members whose keys are not dropped. -/
def without (dropped : String → Bool) (members : Members) : Members :=
  members.filter fun p ↦ !dropped p.1

theorem sorted_without {members : Members} (h : members.Sorted) (dropped : String → Bool) :
    (members.without dropped).Sorted := h.filter _

/-- Nothing is found under a dropped key, and under the others what was found before. -/
theorem get?_without (dropped : String → Bool) (members : Members) (key : String) :
    (members.without dropped).get? key = if dropped key then none else members.get? key := by
  induction members with
  | nil => simp [without, get?]
  | cons p rest ih =>
    simp only [without, get?, List.filter_cons, List.find?_cons] at ih ⊢
    by_cases hp : p.1 = key
    · subst hp
      cases hd : dropped p.1 with
      | true => simpa [hd] using ih
      | false => simp
    · have hne : (p.1 == key) = false := beq_eq_false_iff_ne.mpr hp
      cases hd : dropped p.1 with
      | true => simpa [hne] using ih
      | false => simpa [hne] using ih

/-- A value whose key is not dropped is still found. -/
theorem get?_without_of_kept {members : Members} {key : String} {v : Value}
    {dropped : String → Bool} (hkept : dropped key = false) (h : members.get? key = some v) :
    (members.without dropped).get? key = some v := by
  rw [get?_without, hkept, h]
  rfl

/-- What is left of a value that was found. -/
theorem get?_without_of_get? {members : Members} {key : String} {v : Value}
    (h : members.get? key = some v) (dropped : String → Bool) :
    (members.without dropped).get? key = if dropped key then none else some v := by
  rw [get?_without, h]

theorem without_nothing (members : Members) : members.without (fun _ ↦ false) = members :=
  List.filter_eq_self.mpr fun _ _ ↦ rfl

/-- The members with their values changed, each under its key. -/
def mapValues (f : String → Value → Value) (members : Members) : Members :=
  members.map fun p ↦ (p.1, f p.1 p.2)

theorem sorted_mapValues {members : Members} (h : members.Sorted) (f : String → Value → Value) :
    (members.mapValues f).Sorted := List.pairwise_map.mpr h

theorem mapValues_id (members : Members) : members.mapValues (fun _ v ↦ v) = members :=
  List.map_id members

theorem get?_mapValues (f : String → Value → Value) (members : Members) (key : String) :
    (members.mapValues f).get? key = (members.get? key).map (f key) := by
  induction members with
  | nil => rfl
  | cons p rest ih =>
    by_cases hp : p.1 = key
    · simp [mapValues, get?, hp]
    · have hne : (p.1 == key) = false := beq_eq_false_iff_ne.mpr hp
      simp only [mapValues, get?, List.map_cons, List.find?_cons, hne] at ih ⊢
      exact ih

end Members

namespace Value

/-- An object without the dropped keys. -/
def without (dropped : String → Bool) : Value → Value
  | .object members => .object (Members.without dropped members)
  | v => v

theorem without_nothing (v : Value) : v.without (fun _ ↦ false) = v := by
  cases v with
  | object members => exact congrArg object (Members.without_nothing members)
  | _ => rfl

/-- An object with its values changed, each under its key. -/
def mapMembers (f : String → Value → Value) : Value → Value
  | .object members => .object (Members.mapValues f members)
  | v => v

theorem mapMembers_id (v : Value) : v.mapMembers (fun _ v ↦ v) = v := by
  cases v with
  | object members => exact congrArg object (Members.mapValues_id members)
  | _ => rfl

end Value

end ChangeReview.Json
