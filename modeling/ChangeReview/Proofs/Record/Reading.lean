import ChangeReview.Proofs.Json.Members
import ChangeReview.Record.Reader

/-!
# What a record is read from

The fields of a record read a value from an object when every member that a field asks for passes
its check and the fields together build the value. That is settled field by field: by what stands
under the name of the field, or by the default of a field under whose name nothing stands.
-/

namespace ChangeReview.Record

open Json

/-! ## Plain values -/

theorem natBelow_ofNat {bound n : Nat} (h : n < bound) (expected : String) :
    natBelow bound expected (.ofNat n) = .ok n := by
  rw [Value.ofNat, natBelow, if_pos h]

/-- A value or nothing is read back, if no value is written like nothing. -/
theorem optional_ofOption {α : Type} {read : Value → Read α} {write : α → Value}
    (hwrite : ∀ a, write a ≠ .null) (o : Option α) (h : ∀ a ∈ o, read (write a) = .ok a) :
    optional read (.ofOption (o.map write)) = .ok o := by
  cases o with
  | none => rfl
  | some a =>
    rw [Option.map_some, Value.ofOption, Option.getD_some, optional]
    · rw [h a rfl]
      rfl
    · exact hwrite a

/-- A list is read back when its items are. -/
theorem list_map {α : Type} {read : Value → Read α} {write : α → Value} {items : List α}
    (h : ∀ a ∈ items, read (write a) = .ok a) : list read (.array (items.map write)) = .ok items := by
  rw [list]
  induction items with
  | nil => rfl
  | cons a rest ih =>
    obtain ⟨ha, hrest⟩ := List.forall_mem_cons.mp h
    rw [List.map_cons, List.mapM_cons, ha, ih hrest]
    rfl

/-! ## Fields -/

namespace Fields

variable {α β : Type}

/-- The fields read a value from the members of an object. -/
structure Reads (fields : Fields α) (m : Members) (a : α) : Prop where
  check : ∀ name ∈ fields.names, ∀ v, m.get? name = some v → fields.check name v = .ok ()
  read : ∀ tooShort first, fields.read tooShort (.members m) first = .ok a

/-- Fields one after the other. -/
theorem Reads.seq {f : Fields (α → β)} {x : Fields α} {m : Members} {g : α → β} {a : α}
    (hf : f.Reads m g) (hx : x.Reads m a) : (f <*> x).Reads m (g a) where
  check name hname v hv := by
    show (if name ∈ f.names then f.check name v else x.check name v) = .ok ()
    split
    · next hmem => exact hf.check name hmem v hv
    · next hmem => exact hx.check name ((List.mem_append.mp hname).resolve_left hmem) v hv
  read tooShort first := by
    show (do
      let g ← f.read tooShort (.members m) first
      let a ← x.read tooShort (.members m) (first + f.names.length)
      .ok (g a)) = _
    rw [hf.read, hx.read]
    rfl

/-- The first field of a record. -/
theorem Reads.map {x : Fields α} {m : Members} {a : α} (f : α → β) (hx : x.Reads m a) :
    (f <$> x).Reads m (f a) :=
  Reads.seq (f := Fields.pure f) ⟨fun _ h ↦ absurd h List.not_mem_nil, fun _ _ ↦ rfl⟩ hx

variable {name : String} {read : Value → Read α} {m : Members}

theorem reads_required {v : Value} {a : α} (hv : m.get? name = some v) (hread : read v = .ok a) :
    (required name read).Reads m a where
  check other hother w hw := by
    obtain rfl := List.mem_singleton.mp hother
    obtain rfl := Option.some.inj (hv.symm.trans hw)
    show (read v).map _ = .ok ()
    rw [hread]
    rfl
  read tooShort first := by
    simp only [required, Source.value?, hv, hread]

theorem reads_maybe {v : Value} {o : Option α} (hv : m.get? name = some v)
    (hread : optional read v = .ok o) : (maybe name read).Reads m o where
  check other hother w hw := by
    obtain rfl := List.mem_singleton.mp hother
    obtain rfl := Option.some.inj (hv.symm.trans hw)
    show (optional read v).map _ = .ok ()
    rw [hread]
    rfl
  read tooShort first := by
    simp only [maybe, Source.value?, hv, hread]

/-- A field with a default reads what stands under its name, or takes the default if that was
dropped. -/
theorem reads_withDefault {v : Value} {a absent : α} {dropped : Bool}
    (hv : m.get? name = if dropped then none else some v) (hread : read v = .ok a) :
    (withDefault name read absent).Reads m (if dropped then absent else a) where
  check other hother w hw := by
    obtain rfl := List.mem_singleton.mp hother
    cases dropped with
    | true => simp [hv] at hw
    | false =>
      obtain rfl := Option.some.inj (hv.symm.trans hw)
      show (read v).map _ = .ok ()
      rw [hread]
      rfl
  read tooShort first := by
    cases dropped with
    | true => simp only [withDefault, Source.value?, hv, if_true]
    | false => simp only [withDefault, Source.value?, hv, hread, Bool.false_eq_true, if_false]

/-- The members of an object pass all checks when those do that the fields ask for. -/
theorem Reads.ofMembers_eq {fields : Fields α} {a : α} (hm : m.Sorted) (h : fields.Reads m a) :
    fields.ofMembers m = .ok a := by
  -- each check is about what is found under a key, so it reaches every member only because no key
  -- occurs twice
  have hchecks : ∀ rest : Members, rest ⊆ m → rest.forM (fun (p : String × Value) ↦
      if p.1 ∈ fields.names then fields.check p.1 p.2 else .ok ()) = .ok () := by
    intro rest
    induction rest with
    | nil => exact fun _ ↦ rfl
    | cons p rest ih =>
      intro hsub
      obtain ⟨hp, hrest⟩ := List.cons_subset.mp hsub
      have hpass : (if p.1 ∈ fields.names then fields.check p.1 p.2 else .ok ()) = .ok () := by
        split
        · next hname => exact h.check p.1 hname p.2 (Members.get?_of_mem hm hp)
        · rfl
      rw [List.forM, hpass]
      exact ih hrest
  show (do
    m.forM fun (p : String × Value) ↦ if p.1 ∈ fields.names then fields.check p.1 p.2 else .ok ()
    fields.read "" (.members m) 0) = _
  rw [hchecks m (List.Subset.refl m)]
  exact h.read "" 0

/-- A record is read from an object that its fields read it from. -/
theorem Reads.record_eq {fields : Fields α} {a : α} (hm : m.Sorted) (h : fields.Reads m a)
    (name : String) : record name fields (.object m) = .ok a :=
  h.ofMembers_eq hm

end Fields

end ChangeReview.Record
