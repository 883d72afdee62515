import ChangeReview.Phase

/-!
# Guards of the phase

A guard remembers what the context was when it was made, and nothing but its own drop takes that
from it. Dropping a guard that is still held therefore puts back the context from before its phase
was set, whatever has been done since. When the guard that is dropped is always the youngest one
held, what is done between the making of a guard and its drop is well bracketed, and a block that is
well bracketed leaves nothing behind but spent guards.
-/

namespace ChangeReview

namespace PhaseOperation

def makesGuard : PhaseOperation → Bool
  | set _ => true
  | _ => false

/-- The number of guards that operations make. -/
def guardsMade (ops : List PhaseOperation) : Nat := ops.countP makesGuard

theorem guardsMade_set (phase : Phase) (ops : List PhaseOperation) :
    guardsMade (.set phase :: ops) = guardsMade ops + 1 :=
  List.countP_cons_of_pos rfl

theorem guardsMade_cons (op : PhaseOperation) (ops : List PhaseOperation) :
    guardsMade (op :: ops) = guardsMade [op] + guardsMade ops := by
  show guardsMade ([op] ++ ops) = _
  exact List.countP_append

/-- Every guard that is made is made at one place. -/
theorem exists_set_of_lt {ops : List PhaseOperation} {guard : Nat} (h : guard < guardsMade ops) :
    ∃ earlier phase between,
      ops = earlier ++ .set phase :: between ∧ guardsMade earlier = guard := by
  induction ops generalizing guard with
  | nil => exact absurd h (Nat.not_lt_zero guard)
  | cons op ops ih =>
    cases op with
    | set phase =>
      cases guard with
      | zero => exact ⟨[], phase, ops, rfl, rfl⟩
      | succ guard =>
        rw [guardsMade_set] at h
        obtain ⟨earlier, phase', between, rfl, hmade⟩ := ih (Nat.lt_of_succ_lt_succ h)
        refine ⟨.set phase :: earlier, phase', between, rfl, ?_⟩
        rw [guardsMade_set, hmade]
    | persist | drop | reset =>
      obtain ⟨earlier, phase', between, rfl, hmade⟩ := ih h
      exact ⟨_ :: earlier, phase', between, rfl, hmade⟩

/-- Operations that drop every guard they make, each after all those made since, and drop no other
guard. The number is that of the guards made before. -/
inductive WellBracketed : Nat → List PhaseOperation → Prop
  | nil {made : Nat} : WellBracketed made []
  | persist {made : Nat} {ops : List PhaseOperation} (phase : Phase)
    (rest : WellBracketed made ops) :
    WellBracketed made (.persist phase :: ops)
  | reset {made : Nat} {ops : List PhaseOperation} (rest : WellBracketed made ops) :
    WellBracketed made (.reset :: ops)
  | scope {made : Nat} {body ops : List PhaseOperation} (phase : Phase)
    (inside : WellBracketed (made + 1) body)
    (rest : WellBracketed (made + 1 + guardsMade body) ops) :
    WellBracketed made (.set phase :: body ++ .drop made :: ops)

end PhaseOperation

namespace PhaseHistory

open PhaseOperation

/-! ## What a guard remembers -/

/-- A thread on which no guard has been made. -/
def fresh (context : PhaseContext) : PhaseHistory := ⟨context, []⟩

/-- The guard with this number, while it is held. -/
def held? (h : PhaseHistory) (guard : Nat) : Option PhaseGuard := h.guards[guard]?.join

variable {h : PhaseHistory} {guard : Nat} {phase : Phase} {ops body rest : List PhaseOperation}

theorem run_cons (h : PhaseHistory) (op : PhaseOperation) (ops : List PhaseOperation) :
    h.run (op :: ops) = (h.step op).run ops := rfl

theorem run_append (h : PhaseHistory) (before after : List PhaseOperation) :
    h.run (before ++ after) = (h.run before).run after := List.foldl_append

theorem run_scope (h : PhaseHistory) :
    h.run (.set phase :: body ++ .drop guard :: rest) =
      (((h.step (.set phase)).run body).step (.drop guard)).run rest := by
  rw [run_append, run_cons, run_cons]

theorem held?_of_length_le (hge : h.guards.length ≤ guard) : h.held? guard = none := by
  rw [held?, List.getElem?_eq_none hge, Option.join_none]

theorem lt_length_of_held (hheld : (h.held? guard).isSome) : guard < h.guards.length := by
  by_cases hlt : guard < h.guards.length
  · exact hlt
  · rw [held?_of_length_le (Nat.le_of_not_lt hlt)] at hheld
    cases hheld

theorem step_drop_of_held {g : PhaseGuard} (hheld : h.held? guard = some g) :
    h.step (.drop guard) = ⟨g.previous, h.guards.set guard none⟩ := by
  have hguard : h.guards[guard]? = some (some g) := Option.join_eq_some_iff.mp hheld
  simp only [step, drop, hguard, PhaseContext.leave]

theorem step_drop_of_not_held (hheld : h.held? guard = none) : h.step (.drop guard) = h := by
  simp only [step, drop]
  split
  · next g hguard =>
    rw [held?, hguard, Option.join_some] at hheld
    cases hheld
  · rfl

theorem held?_drop (h : PhaseHistory) (guard i : Nat) :
    (h.step (.drop guard)).held? i = if i = guard then none else h.held? i := by
  cases hheld : h.held? guard with
  | none =>
    rw [step_drop_of_not_held hheld]
    by_cases hi : i = guard
    · rw [if_pos hi, hi, hheld]
    · rw [if_neg hi]
  | some g =>
    have hlt : guard < h.guards.length := lt_length_of_held (by rw [hheld, Option.isSome_some])
    rw [step_drop_of_held hheld, held?, List.getElem?_set]
    by_cases hi : i = guard
    · subst hi
      rw [if_pos rfl, if_pos hlt, if_pos rfl, Option.join_some]
    · rw [if_neg (Ne.symm hi), if_neg hi, held?]

theorem held?_set (h : PhaseHistory) (phase : Phase) (i : Nat) :
    (h.step (.set phase)).held? i =
      if i = h.guards.length then some ⟨h.context⟩ else h.held? i := by
  show (h.guards ++ [some ⟨h.context⟩])[i]?.join = _
  by_cases hi : i = h.guards.length
  · rw [if_pos hi, hi, List.getElem?_concat_length, Option.join_some]
  · rw [if_neg hi, held?]
    by_cases hlt : i < h.guards.length
    · rw [List.getElem?_append_left hlt]
    · rw [List.getElem?_append_right (by omega), List.getElem?_eq_none (Nat.le_of_not_lt hlt),
        List.getElem?_eq_none]
      rw [List.length_singleton]
      omega

theorem held?_set_self (h : PhaseHistory) (phase : Phase) :
    (h.step (.set phase)).held? h.guards.length = some ⟨h.context⟩ := by
  rw [held?_set, if_pos rfl]

theorem length_guards_step (h : PhaseHistory) (op : PhaseOperation) :
    (h.step op).guards.length = h.guards.length + guardsMade [op] := by
  cases op with
  | set phase => exact List.length_append
  | drop guard =>
    cases hheld : h.held? guard with
    | none =>
      rw [step_drop_of_not_held hheld]
      rfl
    | some g =>
      rw [step_drop_of_held hheld, List.length_set]
      rfl
  | persist | reset => rfl

theorem length_guards_run (h : PhaseHistory) (ops : List PhaseOperation) :
    (h.run ops).guards.length = h.guards.length + guardsMade ops := by
  induction ops generalizing h with
  | nil => rfl
  | cons op ops ih =>
    rw [run_cons, ih, length_guards_step, guardsMade_cons op ops, Nat.add_assoc]

theorem lt_length_guards_step (hmade : guard < h.guards.length) (op : PhaseOperation) :
    guard < (h.step op).guards.length := by
  rw [length_guards_step]
  exact Nat.lt_add_right _ hmade

theorem length_guards_set (h : PhaseHistory) (phase : Phase) :
    (h.step (.set phase)).guards.length = h.guards.length + 1 :=
  length_guards_step h (.set phase)

theorem lt_length_guards_set (h : PhaseHistory) (phase : Phase) :
    h.guards.length < (h.step (.set phase)).guards.length := by
  rw [length_guards_set]
  exact Nat.lt_succ_self _

theorem length_guards_fresh_run (context : PhaseContext) (ops : List PhaseOperation) :
    ((fresh context).run ops).guards.length = guardsMade ops := by
  rw [length_guards_run, fresh, List.length_nil, Nat.zero_add]

/-- An operation other than its drop leaves a guard as it is. -/
theorem held?_step {op : PhaseOperation} (hmade : guard < h.guards.length)
    (hop : op ≠ .drop guard) : (h.step op).held? guard = h.held? guard := by
  cases op with
  | set phase => rw [held?_set, if_neg (Nat.ne_of_lt hmade)]
  | drop other =>
    have hne : guard ≠ other := fun heq ↦ hop (by rw [heq])
    rw [held?_drop, if_neg hne]
  | persist | reset => rfl

/-- Until it is dropped, a guard remembers what it did when it was made. -/
theorem held?_run (hmade : guard < h.guards.length) (hops : .drop guard ∉ ops) :
    (h.run ops).held? guard = h.held? guard := by
  induction ops generalizing h with
  | nil => rfl
  | cons op ops ih =>
    rw [List.mem_cons, not_or] at hops
    obtain ⟨hop, hops⟩ := hops
    rw [run_cons, ih (lt_length_guards_step hmade op) hops, held?_step hmade (Ne.symm hop)]

/-- A guard that has been dropped is not held again. -/
theorem held?_run_of_none (hmade : guard < h.guards.length) (hheld : h.held? guard = none) :
    (h.run ops).held? guard = none := by
  induction ops generalizing h with
  | nil => exact hheld
  | cons op ops ih =>
    apply ih (lt_length_guards_step hmade op)
    by_cases hop : op = .drop guard
    · rw [hop, held?_drop, if_pos rfl]
    · rw [held?_step hmade hop, hheld]

/-- A guard that was held and no longer is has been dropped. -/
theorem dropped_of_not_held (hheld : (h.held? guard).isSome)
    (hlost : (h.run ops).held? guard = none) : .drop guard ∈ ops := by
  by_cases hmem : .drop guard ∈ ops
  · exact hmem
  · rw [held?_run (lt_length_of_held hheld) hmem] at hlost
    rw [hlost] at hheld
    cases hheld

theorem not_dropped_of_held (hmade : guard < h.guards.length)
    (hheld : ((h.run ops).held? guard).isSome) : .drop guard ∉ ops := by
  intro hmem
  obtain ⟨before, after, rfl⟩ := List.append_of_mem hmem
  have hmade' : guard < (h.run before).guards.length := by
    rw [length_guards_run]
    exact Nat.lt_add_right _ hmade
  have hspent : ((h.run before).step (.drop guard)).held? guard = none := by
    rw [held?_drop, if_pos rfl]
  rw [run_append, run_cons,
    held?_run_of_none (lt_length_guards_step hmade' _) hspent] at hheld
  cases hheld

/-- A guard that is still held after `body` is not dropped in it. -/
theorem not_dropped_of_held_body
    (hheld : (((h.step (.set phase)).run body).held? h.guards.length).isSome) :
    .drop h.guards.length ∉ body :=
  not_dropped_of_held (lt_length_guards_set h phase) hheld

/-- The drop of a guard puts back the context from before its phase was set, whatever is done in
between. -/
theorem context_run_scope (hbody : .drop h.guards.length ∉ body) :
    (h.run (.set phase :: body ++ [.drop h.guards.length])).context = h.context := by
  have hheld : ((h.step (.set phase)).run body).held? h.guards.length = some ⟨h.context⟩ := by
    rw [held?_run (lt_length_guards_set h phase) hbody, held?_set_self]
  rw [run_scope, step_drop_of_held hheld]
  rfl

/-- The guard was made at a place of the operations `before`, with `between` done since, and to drop
it now puts back the context that was found at that place. -/
def Restores (context : PhaseContext) (before between : List PhaseOperation) (guard : Nat) : Prop :=
  ∃ earlier phase, before = earlier ++ .set phase :: between ∧ guardsMade earlier = guard ∧
    ((fresh context).run (before ++ [.drop guard])).context =
      ((fresh context).run earlier).context

/-- Guards may be dropped in any order: to drop one that is held restores. -/
theorem exists_restores_of_held {context : PhaseContext} {before : List PhaseOperation}
    (hheld : (((fresh context).run before).held? guard).isSome) :
    ∃ between, Restores context before between guard := by
  have hlt : guard < guardsMade before := by
    have hlt := lt_length_of_held hheld
    rwa [length_guards_fresh_run] at hlt
  obtain ⟨earlier, phase, between, rfl, rfl⟩ := exists_set_of_lt hlt
  have hlength := length_guards_fresh_run context earlier
  refine ⟨between, earlier, phase, rfl, rfl, ?_⟩
  rw [run_append, run_cons, ← hlength] at hheld
  rw [List.append_assoc, run_append, ← hlength]
  exact context_run_scope (not_dropped_of_held_body hheld)

/-! ## Guards dropped youngest first -/

/-- The guard is held, and none that was made after it is. -/
def IsYoungest (h : PhaseHistory) (guard : Nat) : Prop :=
  (h.held? guard).isSome ∧ ∀ i < h.guards.length, guard < i → h.held? i = none

instance : Decidable (h.IsYoungest guard) :=
  inferInstanceAs (Decidable (_ ∧ ∀ i < h.guards.length, guard < i → h.held? i = none))

/-- Of the guards, only the youngest one held may be dropped. -/
def Admits (h : PhaseHistory) : PhaseOperation → Prop
  | .drop guard => h.IsYoungest guard
  | _ => True

instance (op : PhaseOperation) : Decidable (h.Admits op) :=
  match op with
  | .drop guard => inferInstanceAs (Decidable (h.IsYoungest guard))
  | .set _ | .persist _ | .reset => isTrue trivial

/-- Guards are dropped in the reverse order of their making. -/
def LastFirst (h : PhaseHistory) : List PhaseOperation → Prop
  | [] => True
  | op :: ops => h.Admits op ∧ LastFirst (h.step op) ops

instance decidableLastFirst (h : PhaseHistory) : (ops : List PhaseOperation) →
    Decidable (h.LastFirst ops)
  | [] => isTrue trivial
  | op :: ops =>
    have := decidableLastFirst (h.step op) ops
    inferInstanceAs (Decidable (h.Admits op ∧ LastFirst (h.step op) ops))

theorem IsYoungest.held?_eq_none (hyoungest : h.IsYoungest guard) {i : Nat} (hlt : guard < i) :
    h.held? i = none := by
  by_cases hi : i < h.guards.length
  · exact hyoungest.2 i hi hlt
  · exact held?_of_length_le (Nat.le_of_not_lt hi)

theorem lastFirst_append {before after : List PhaseOperation} :
    h.LastFirst (before ++ after) ↔ h.LastFirst before ∧ (h.run before).LastFirst after := by
  induction before generalizing h with
  | nil => exact (and_iff_right trivial).symm
  | cons op before ih =>
    show h.Admits op ∧ (h.step op).LastFirst (before ++ after) ↔ _
    rw [ih, ← and_assoc]
    rfl

/-- While a guard is held, no older one is dropped. -/
theorem not_dropped_of_le (hlast : h.LastFirst ops) (hheld : (h.held? guard).isSome)
    (hops : .drop guard ∉ ops) {i : Nat} (hle : i ≤ guard) : .drop i ∉ ops := by
  intro hmem
  obtain ⟨before, after, rfl⟩ := List.append_of_mem hmem
  have hyoungest : (h.run before).IsYoungest i := (lastFirst_append.mp hlast).2.1
  have hlt : i < guard := by
    apply Nat.lt_of_le_of_ne hle
    rintro rfl
    exact hops hmem
  have hbefore : .drop guard ∉ before := fun h ↦ hops (List.mem_append_left _ h)
  rw [← held?_run (lt_length_of_held hheld) hbefore, hyoungest.held?_eq_none hlt] at hheld
  cases hheld

/-- Between the making of a guard and its drop as the youngest, the guards made are dropped and no
others. -/
theorem held?_run_body (hlast : (h.step (.set phase)).LastFirst body)
    (hbody : .drop h.guards.length ∉ body)
    (hyoungest : ((h.step (.set phase)).run body).IsYoungest h.guards.length) (i : Nat) :
    ((h.step (.set phase)).run body).held? i = (h.step (.set phase)).held? i := by
  have hlength := length_guards_set h phase
  by_cases hlt : h.guards.length < i
  · rw [hyoungest.held?_eq_none hlt, held?_of_length_le]
    omega
  · have hheld : ((h.step (.set phase)).held? h.guards.length).isSome := by
      rw [held?_set_self, Option.isSome_some]
    exact held?_run (by omega) (not_dropped_of_le hlast hheld hbody (Nat.le_of_not_lt hlt))

/-! ## Well-bracketed operations -/

theorem length_guards_scope (h : PhaseHistory) :
    (((h.step (.set phase)).run body).step (.drop guard)).guards.length =
      h.guards.length + 1 + guardsMade body := by
  rw [length_guards_step, length_guards_run, length_guards_set]
  rfl

/-- A guard that is made and dropped leaves the same guards held, when what is done in between
does. -/
theorem held?_scope
    (hbody : ∀ i, ((h.step (.set phase)).run body).held? i = (h.step (.set phase)).held? i)
    (i : Nat) :
    (((h.step (.set phase)).run body).step (.drop h.guards.length)).held? i = h.held? i := by
  rw [held?_drop, hbody, held?_set]
  by_cases hi : i = h.guards.length
  · rw [if_pos hi, held?_of_length_le (Nat.le_of_eq hi.symm)]
  · rw [if_neg hi, if_neg hi]

/-- Well-bracketed operations leave the same guards held. -/
theorem held?_run_of_wellBracketed {made : Nat} (hops : WellBracketed made ops)
    (hmade : h.guards.length = made) (i : Nat) : (h.run ops).held? i = h.held? i := by
  induction hops generalizing h i with
  | nil => rfl
  | persist phase _ ih => exact ih (h := h.step (.persist phase)) hmade i
  | reset _ ih => exact ih (h := h.step .reset) hmade i
  | scope phase _ _ ihBody ihRest =>
    subst hmade
    rw [run_scope, ihRest (length_guards_scope h)]
    exact held?_scope (ihBody (length_guards_set h phase)) i

/-- Well-bracketed operations drop their guards youngest first. -/
theorem lastFirst_of_wellBracketed {made : Nat} (hops : WellBracketed made ops)
    (hmade : h.guards.length = made) : h.LastFirst ops := by
  induction hops generalizing h with
  | nil => trivial
  | persist phase _ ih => exact ⟨trivial, ih hmade⟩
  | reset _ ih => exact ⟨trivial, ih hmade⟩
  | @scope _ body _ phase hbody _ ihBody ihRest =>
    subst hmade
    have hbegun := length_guards_set h phase
    have hyoungest : ((h.step (.set phase)).run body).IsYoungest h.guards.length := by
      constructor
      · rw [held?_run_of_wellBracketed hbody hbegun, held?_set_self, Option.isSome_some]
      · intro i _ hlt
        rw [held?_run_of_wellBracketed hbody hbegun, held?_of_length_le (by omega)]
    exact ⟨trivial,
      lastFirst_append.mpr ⟨ihBody hbegun, hyoungest, ihRest (length_guards_scope h)⟩⟩

/-- Guards dropped youngest first, with the same ones held in the end, make well-bracketed
operations. -/
theorem wellBracketed_of_lastFirst (hlast : h.LastFirst ops)
    (hheld : ∀ i, (h.run ops).held? i = h.held? i) : WellBracketed h.guards.length ops := by
  induction hn : ops.length using Nat.strongRecOn generalizing h ops with
  | ind n ih =>
    subst hn
    cases ops with
    | nil => exact .nil
    | cons op ops =>
      have hshorter : ops.length < (op :: ops).length := Nat.lt_succ_self _
      cases op with
      | persist phase =>
        exact .persist phase (ih _ hshorter (h := h.step (.persist phase)) hlast.2 hheld rfl)
      | reset => exact .reset (ih _ hshorter (h := h.step .reset) hlast.2 hheld rfl)
      | drop guard =>
        -- a guard from before would be missing in the end
        have hdropped : (h.held? guard).isSome := hlast.1.1
        have hkept : .drop guard ∉ .drop guard :: ops := by
          apply not_dropped_of_held (lt_length_of_held hdropped)
          rwa [hheld]
        exact absurd List.mem_cons_self hkept
      | set phase =>
        -- the guard made here is not held in the end, so it is dropped; `body` runs up to there
        have hmem : .drop h.guards.length ∈ ops := by
          apply dropped_of_not_held (h := h.step (.set phase))
          · rw [held?_set_self, Option.isSome_some]
          · rw [← run_cons, hheld, held?_of_length_le (Nat.le_refl _)]
        obtain ⟨body, rest, rfl, hbody⟩ := List.eq_append_cons_of_mem hmem
        obtain ⟨hinside, hyoungest, hrest⟩ := lastFirst_append.mp hlast.2
        have hsame := held?_run_body hinside hbody hyoungest
        rw [List.length_cons, List.length_append, List.length_cons] at hshorter ih
        have inside := ih _ (by omega) hinside hsame rfl
        have after := ih _ (by omega) hrest (fun i ↦ by
          rw [held?_scope hsame, ← hheld, ← List.cons_append, run_scope]) rfl
        rw [length_guards_set] at inside
        rw [length_guards_scope] at after
        exact .scope phase inside after

/-- The operations that drop every guard they make, and no other one, in the reverse order of their
making are those that are well bracketed. -/
theorem wellBracketed_iff :
    WellBracketed h.guards.length ops ↔
      h.LastFirst ops ∧ ∀ i, (h.run ops).held? i = h.held? i :=
  ⟨fun hops ↦ ⟨lastFirst_of_wellBracketed hops rfl, held?_run_of_wellBracketed hops rfl⟩,
    fun h ↦ wellBracketed_of_lastFirst h.1 h.2⟩

/-- A block that begins with the making of a guard and ends with its drop puts the context back, if
no guard but the youngest one held is dropped in it. -/
theorem context_run_of_lastFirst
    (hlast : h.LastFirst (.set phase :: body ++ [.drop h.guards.length])) :
    (h.run (.set phase :: body ++ [.drop h.guards.length])).context = h.context := by
  have hyoungest : ((h.step (.set phase)).run body).IsYoungest h.guards.length :=
    (lastFirst_append.mp hlast.2).2.1
  exact context_run_scope (not_dropped_of_held_body hyoungest.1)

/-- What is done between the making of a guard and its drop is well bracketed when guards are
dropped youngest first. -/
theorem exists_restores_of_lastFirst {context : PhaseContext} {before after : List PhaseOperation}
    (hlast : (fresh context).LastFirst (before ++ .drop guard :: after)) :
    ∃ between, Restores context before between guard ∧ WellBracketed (guard + 1) between := by
  obtain ⟨hbefore, hyoungest, -⟩ := lastFirst_append.mp hlast
  obtain ⟨between, hrestores⟩ := exists_restores_of_held hyoungest.1
  refine ⟨between, hrestores, ?_⟩
  obtain ⟨earlier, phase, rfl, rfl, -⟩ := hrestores
  have hlength := length_guards_fresh_run context earlier
  rw [run_append, run_cons, ← hlength] at hyoungest
  have hinside : (((fresh context).run earlier).step (.set phase)).LastFirst between :=
    (lastFirst_append.mp hbefore).2.2
  have hsame := held?_run_body hinside (not_dropped_of_held_body hyoungest.1) hyoungest
  have hbetween := wellBracketed_of_lastFirst hinside hsame
  rwa [length_guards_set, hlength] at hbetween

/-- To drop a guard that is held puts back the context from just before its phase was set, whatever
has been done since. When guards are dropped in the reverse order of their making, every one that is
dropped is held, and what is done between its making and its drop is well bracketed. So a
well-bracketed block that begins with the making of a guard and ends with the drop of that guard
leaves the context as it was. To be well bracketed is to drop youngest first and to leave the same
guards held. -/
theorem drops_restore_context :
    (∀ (context : PhaseContext) (before : List PhaseOperation) (guard : Nat),
      (((fresh context).run before).held? guard).isSome →
        ∃ between, Restores context before between guard) ∧
    (∀ (context : PhaseContext) (ops : List PhaseOperation), (fresh context).LastFirst ops →
      ∀ before guard after, ops = before ++ .drop guard :: after →
        ∃ between, Restores context before between guard ∧ WellBracketed (guard + 1) between) ∧
    (∀ (h : PhaseHistory) (phase : Phase) (body : List PhaseOperation),
      WellBracketed h.guards.length (.set phase :: body ++ [.drop h.guards.length]) →
        (h.run (.set phase :: body ++ [.drop h.guards.length])).context = h.context) ∧
    ∀ (h : PhaseHistory) (ops : List PhaseOperation),
      WellBracketed h.guards.length ops ↔
        h.LastFirst ops ∧ ∀ guard, (h.run ops).held? guard = h.held? guard := by
  refine ⟨?inAnyOrder, ?lastFirst, ?block, fun h ops ↦ wellBracketed_iff⟩
  case inAnyOrder =>
    intro context before guard hheld
    exact exists_restores_of_held hheld
  case lastFirst =>
    intro context ops hlast before guard after hops
    rw [hops] at hlast
    exact exists_restores_of_lastFirst hlast
  case block =>
    intro h phase body hblock
    exact context_run_of_lastFirst (lastFirst_of_wellBracketed hblock rfl)

/-- An older guard is dropped before a younger one; two guards are dropped youngest first, with the
phase forgotten and set for good meanwhile; a block runs while a guard from before is held. -/
theorem drops_restore_context_nested :
    (((fresh (some .error)).run [.set .init, .set .decoding, .drop 0]).held? 1).isSome ∧
    (∃ between, Restores (some .error) [.set .init, .set .decoding, .drop 0] between 1) ∧
    (fresh none).LastFirst
      [.persist .error, .set .init, .reset, .set .merged, .persist .done, .drop 1, .drop 0] ∧
    (∃ between,
      Restores none
        [.persist .error, .set .init, .reset, .set .merged, .persist .done, .drop 1] between 0 ∧
      WellBracketed 1 between) ∧
    WellBracketed 1 (.set .scored :: (.set .done :: [.reset] ++ [.drop 2]) ++ [.drop 1]) ∧
    ((⟨some .prompting, [some ⟨none⟩]⟩ : PhaseHistory).run
      (.set .scored :: (.set .done :: [.reset] ++ [.drop 2]) ++ [.drop 1])).context =
        some .prompting := by
  obtain ⟨hany, hlast, hblock, -⟩ := drops_restore_context
  have hheld : (((fresh (some .error)).run
      [.set .init, .set .decoding, .drop 0]).held? 1).isSome := by decide
  have hordered : (fresh none).LastFirst
      [.persist .error, .set .init, .reset, .set .merged, .persist .done, .drop 1, .drop 0] := by
    decide
  have hbracketed : WellBracketed 1
      (.set .scored :: (.set .done :: [.reset] ++ [.drop 2]) ++ [.drop 1]) :=
    .scope .scored (.scope .done (.reset .nil) .nil) .nil
  refine ⟨hheld, hany _ _ _ hheld, hordered, ?_, hbracketed, ?_⟩
  · exact hlast _ _ hordered
      [.persist .error, .set .init, .reset, .set .merged, .persist .done, .drop 1] 0 [] rfl
  · exact hblock ⟨some .prompting, [some ⟨none⟩]⟩ .scored _ hbracketed

end PhaseHistory

end ChangeReview
