import ChangeReview.Proofs.Json.Unfolding
import ChangeReview.Proofs.Text.Endings

/-!
# Line endings between tokens

A carriage return before a line feed is a blank before a blank, and nowhere but between tokens can
either stand. So each reader finds in a text what it finds in the unified form of the text, and
leaves the unified form of the rest. The readers are treated in the order in which they build on
each other: numbers, words, strings, values.
-/

namespace ChangeReview.Json

open Text

/-! ## The first character -/

/-- A unified text starts as the text does, a carriage return before a line feed apart. -/
theorem cases_unifyEndings (s : List Char) :
    s = [] ∨ (∃ c t, s = c :: t ∧ unifyEndings s = c :: unifyEndings t) ∨
      ∃ t w, s = '\r' :: t ∧ unifyEndings s = '\n' :: w := by
  cases s with
  | nil => exact .inl rfl
  | cons c t =>
    by_cases hc : c = '\r'
    · subst hc
      rcases unifyEndings_return t with ⟨w, -, h⟩ | h
      · exact .inr (.inr ⟨t, _, rfl, h⟩)
      · exact .inr (.inl ⟨_, t, rfl, h⟩)
    · exact .inr (.inl ⟨c, t, rfl, unifyEndings_cons hc t⟩)

theorem unifyEndings_eq_nil {s : List Char} (h : unifyEndings s = []) : s = [] := by
  rcases cases_unifyEndings s with rfl | ⟨c, t, rfl, hu⟩ | ⟨t, w, rfl, hu⟩
  · rfl
  · exact absurd (hu.symm.trans h) (List.cons_ne_nil _ _)
  · exact absurd (hu.symm.trans h) (List.cons_ne_nil _ _)

/-- Unifying line endings puts no character but a blank at the start of a text. -/
theorem unifyEndings_ne_cons {c : Char} {s : List Char} (hc : isSpace c = false)
    (h : ∀ t, s = c :: t → False) (w : List Char) (hw : unifyEndings s = c :: w) : False := by
  rcases cases_unifyEndings s with rfl | ⟨d, t, rfl, hu⟩ | ⟨t, v, rfl, hu⟩
  · exact absurd hw (by simp [unifyEndings])
  · rw [hu] at hw
    exact h t (congrArg (· :: t) (List.cons.inj hw).1)
  · rw [hu] at hw
    rw [← (List.cons.inj hw).1] at hc
    exact absurd hc (by decide)

/-- A first character that is no blank stays. -/
theorem unifyEndings_cons_of_isSpace {c : Char} (hc : isSpace c = false) (s : List Char) :
    unifyEndings (c :: s) = c :: unifyEndings s := by
  apply unifyEndings_cons
  rintro rfl
  exact absurd hc (by decide)

/-- A text whose unified form starts with no blank starts as that form does. -/
theorem exists_of_unifyEndings_cons {c : Char} {s w : List Char} (hc : isSpace c = false)
    (h : unifyEndings s = c :: w) : ∃ t, s = c :: t ∧ unifyEndings t = w := by
  by_cases hs : ∃ t, s = c :: t
  · obtain ⟨t, rfl⟩ := hs
    rw [unifyEndings_cons_of_isSpace hc] at h
    exact ⟨t, rfl, (List.cons.inj h).2⟩
  · exact (unifyEndings_ne_cons hc (fun t ht ↦ hs ⟨t, ht⟩) w h).elim

theorem skipSpace_unifyEndings (s : List Char) :
    skipSpace (unifyEndings s) = unifyEndings (skipSpace s) := by
  induction s with
  | nil => rfl
  | cons c s ih =>
    by_cases hc : c = '\r' ∧ s.head? = some '\n'
    · rw [unifyEndings, if_pos hc, hc.1, ih]
      rfl
    · rw [unifyEndings, if_neg hc, skipSpace, skipSpace]
      split
      · exact ih
      · rw [unifyEndings, if_neg hc]

/-- After the blanks, a unified text starts as the text does. -/
theorem cases_skipSpace_unifyEndings (s : List Char) :
    (skipSpace s = [] ∧ skipSpace (unifyEndings s) = []) ∨
      ∃ c t, skipSpace s = c :: t ∧ isSpace c = false ∧
        skipSpace (unifyEndings s) = c :: unifyEndings t := by
  rw [skipSpace_unifyEndings]
  cases h : skipSpace s with
  | nil => exact .inl ⟨rfl, rfl⟩
  | cons c t =>
    have hc := isSpace_of_skipSpace h
    exact .inr ⟨c, t, rfl, hc, unifyEndings_cons_of_isSpace hc t⟩

/-! ## Agreement -/

/-- A result for a unified text agrees with one for the text itself: both are stops, or the values
are the same and so are the rests, up to their line endings. -/
def Agree {α : Type} : Except Stop (α × List Char) → Except Stop (α × List Char) → Prop
  | .error _, .error _ => True
  | .ok (a, r), .ok (b, t) => a = b ∧ r = unifyEndings t
  | _, _ => False

namespace Agree

variable {α β : Type} {x y : Except Stop (α × List Char)} {a : α} {r : List Char}

/-- Steps that agree, one after the other, agree. -/
theorem bind {f g : α × List Char → Except Stop (β × List Char)} (h : Agree x y)
    (hfg : ∀ a r, y = .ok (a, r) → Agree (f (a, unifyEndings r)) (g (a, r))) :
    Agree (x >>= f) (y >>= g) := by
  cases x with
  | error e =>
    cases y with
    | error e' => trivial
    | ok q => exact h.elim
  | ok p =>
    cases y with
    | error e' => exact h.elim
    | ok q =>
      obtain ⟨a, r⟩ := p
      obtain ⟨b, t⟩ := q
      obtain ⟨rfl, rfl⟩ := h
      exact hfg a t rfl

theorem of_error {e : Stop} (h : Agree x (.error e)) : ∃ e', x = .error e' := by
  cases x with
  | error e' => exact ⟨e', rfl⟩
  | ok p => exact h.elim

theorem of_ok (h : Agree x (.ok (a, r))) : x = .ok (a, unifyEndings r) := by
  cases x with
  | error e => exact h.elim
  | ok p =>
    obtain ⟨b, t⟩ := p
    obtain ⟨rfl, rfl⟩ := h
    rfl

end Agree

/-! ## Numbers -/

theorem skipDigits_unifyEndings (s : List Char) :
    skipDigits (unifyEndings s) = ((skipDigits s).1, unifyEndings (skipDigits s).2) := by
  induction s with
  | nil => rfl
  | cons c s ih =>
    rcases cases_unifyEndings (c :: s) with h | ⟨_, _, h, hu⟩ | ⟨_, w, h, hu⟩
    · exact absurd h (List.cons_ne_nil c s)
    · obtain ⟨rfl, rfl⟩ := List.cons.inj h
      rw [hu, skipDigits, skipDigits, ih]
      split
      · rfl
      · rw [hu]
    · obtain ⟨rfl, rfl⟩ := List.cons.inj h
      rw [hu]
      exact congrArg (Prod.mk 0) hu.symm

theorem takeDigits_unifyEndings (n : Nat) (s : List Char) :
    takeDigits n (unifyEndings s) =
      ((takeDigits n s).1, (takeDigits n s).2.1, unifyEndings (takeDigits n s).2.2) := by
  induction s generalizing n with
  | nil => rfl
  | cons c s ih =>
    rcases cases_unifyEndings (c :: s) with h | ⟨_, _, h, hu⟩ | ⟨_, w, h, hu⟩
    · exact absurd h (List.cons_ne_nil c s)
    · obtain ⟨rfl, rfl⟩ := List.cons.inj h
      rw [hu, takeDigits, takeDigits]
      split
      · rw [hu]
      · rw [ih]
        split
        · rfl
        · rw [hu]
    · obtain ⟨rfl, rfl⟩ := List.cons.inj h
      rw [hu]
      exact congrArg (fun r ↦ (n, 0, r)) hu.symm

theorem takeExponent_unifyEndings (e : Nat) (s : List Char) :
    takeExponent e (unifyEndings s) = ((takeExponent e s).1, unifyEndings (takeExponent e s).2) := by
  induction s generalizing e with
  | nil => rfl
  | cons c s ih =>
    rcases cases_unifyEndings (c :: s) with h | ⟨_, _, h, hu⟩ | ⟨_, w, h, hu⟩
    · exact absurd h (List.cons_ne_nil c s)
    · obtain ⟨rfl, rfl⟩ := List.cons.inj h
      rw [hu, takeExponent, takeExponent]
      split
      · rw [hu]
      · split
        · exact ih _
        · rfl
    · obtain ⟨rfl, rfl⟩ := List.cons.inj h
      rw [hu]
      exact congrArg (Prod.mk (some e)) hu.symm

theorem takeSign_unifyEndings (s : List Char) :
    takeSign (unifyEndings s) = ((takeSign s).1, unifyEndings (takeSign s).2) := by
  conv => rhs; unfold takeSign
  split
  · rw [unifyEndings_cons (by decide)]
    rfl
  · rw [unifyEndings_cons (by decide)]
    rfl
  · next hplus hminus =>
    rw [takeSign]
    · exact unifyEndings_ne_cons (by decide) hplus
    · exact unifyEndings_ne_cons (by decide) hminus

section Numbers

variable (negative : Bool) (significand : Nat) (exponent : Int) (s : List Char)

theorem agree_realNumber :
    Agree (realNumber negative significand exponent (unifyEndings s))
      (realNumber negative significand exponent s) := by
  unfold realNumber
  split
  · exact ⟨rfl, rfl⟩
  · trivial

theorem agree_readExponent :
    Agree (readExponent negative significand exponent (unifyEndings s))
      (readExponent negative significand exponent s) := by
  unfold readExponent
  rw [takeSign_unifyEndings]
  generalize takeSign s = signed
  obtain ⟨positive, t⟩ := signed
  rcases cases_unifyEndings t with rfl | ⟨c, t, rfl, hu⟩ | ⟨t, w, rfl, hu⟩
  · trivial
  · simp only [hu]
    cases digit? c with
    | none => trivial
    | some d =>
      simp only [takeExponent_unifyEndings]
      rcases takeExponent d t with ⟨_ | e, rest⟩
      · dsimp only
        split
        · trivial
        · rw [skipDigits_unifyEndings]
          exact ⟨rfl, rfl⟩
      · exact agree_realNumber ..
  · rw [hu]
    trivial

theorem agree_readTail :
    Agree (readTail negative significand exponent (unifyEndings s))
      (readTail negative significand exponent s) := by
  conv => rhs; unfold readTail
  split
  · rw [unifyEndings_cons (by decide)]
    exact agree_readExponent ..
  · rw [unifyEndings_cons (by decide)]
    exact agree_readExponent ..
  · next hsmall hlarge =>
    rw [readTail]
    · exact agree_realNumber ..
    · exact unifyEndings_ne_cons (by decide) hsmall
    · exact unifyEndings_ne_cons (by decide) hlarge

theorem agree_readFraction :
    Agree (readFraction negative significand exponent (unifyEndings s))
      (readFraction negative significand exponent s) := by
  unfold readFraction
  rw [takeDigits_unifyEndings]
  generalize takeDigits significand s = taken
  obtain ⟨m, k, t⟩ := taken
  have htail := agree_readTail negative m (exponent - k) t
  rcases cases_unifyEndings t with rfl | ⟨c, t, rfl, hu⟩ | ⟨t, w, rfl, hu⟩
  · dsimp only [unifyEndings]
    split
    · trivial
    · exact htail
  · simp only [hu] at htail ⊢
    split
    · rw [← hu, skipDigits_unifyEndings]
      exact agree_readTail ..
    · split
      · trivial
      · exact htail
  · simp only [hu] at htail ⊢
    split
    · next h => exact absurd h (by decide)
    · split
      · trivial
      · exact htail

theorem agree_readAfterDigits :
    Agree (readAfterDigits negative significand (unifyEndings s))
      (readAfterDigits negative significand s) := by
  conv => rhs; unfold readAfterDigits
  split
  · rw [unifyEndings_cons (by decide)]
    exact agree_readFraction ..
  · rw [unifyEndings_cons (by decide)]
    exact agree_readExponent ..
  · rw [unifyEndings_cons (by decide)]
    exact agree_readExponent ..
  · next hpoint hsmall hlarge =>
    rw [readAfterDigits]
    · split
      · exact ⟨rfl, rfl⟩
      · split
        · exact ⟨rfl, rfl⟩
        · exact ⟨rfl, rfl⟩
    · exact unifyEndings_ne_cons (by decide) hpoint
    · exact unifyEndings_ne_cons (by decide) hsmall
    · exact unifyEndings_ne_cons (by decide) hlarge

theorem agree_readLongInteger :
    Agree (readLongInteger negative significand (unifyEndings s))
      (readLongInteger negative significand s) := by
  unfold readLongInteger
  rw [skipDigits_unifyEndings]
  generalize skipDigits s = skipped
  obtain ⟨dropped, t⟩ := skipped
  by_cases hpoint : ∃ u, t = '.' :: u
  · obtain ⟨u, rfl⟩ := hpoint
    dsimp only
    rw [unifyEndings_cons (by decide)]
    exact agree_readFraction ..
  · have hne : ∀ u, t = '.' :: u → False := fun u hu ↦ hpoint ⟨u, hu⟩
    dsimp only
    split
    · next h => exact absurd h (unifyEndings_ne_cons (by decide) hne _)
    · exact agree_readTail ..

theorem agree_readNumber :
    Agree (readNumber negative (unifyEndings s)) (readNumber negative s) := by
  rcases cases_unifyEndings s with rfl | ⟨c, t, rfl, hu⟩ | ⟨t, w, rfl, hu⟩
  · trivial
  · rw [hu]
    by_cases hzero : c = '0'
    · subst hzero
      have hafter := agree_readAfterDigits negative 0 t
      rcases cases_unifyEndings t with rfl | ⟨c, t, rfl, hu'⟩ | ⟨t, w, rfl, hu'⟩
      · exact hafter
      · rw [hu'] at hafter ⊢
        simp only [readNumber]
        split
        · trivial
        · exact hafter
      · rw [hu'] at hafter ⊢
        exact hafter
    · rw [readNumber, readNumber]
      · cases digit? c with
        | none => trivial
        | some d =>
          simp only [takeDigits_unifyEndings]
          generalize takeDigits d t = taken
          obtain ⟨m, k, rest⟩ := taken
          have hafter := agree_readAfterDigits negative m rest
          have hlong := agree_readLongInteger negative m rest
          rcases cases_unifyEndings rest with rfl | ⟨c, t, rfl, hu'⟩ | ⟨t, w, rfl, hu'⟩
          · exact hafter
          · simp only [hu'] at hafter hlong ⊢
            split
            · exact hlong
            · exact hafter
          · rw [hu'] at hafter ⊢
            exact hafter
      · exact fun h ↦ hzero h
      · exact fun h ↦ hzero h
  · rw [hu]
    trivial

end Numbers

/-! ## Words and strings -/

theorem agree_readLetters {α : Type} (v : α) {w : List Char} (hw : !w.any isSpace)
    (s : List Char) :
    Agree (readLetters w (unifyEndings s) >>= fun r ↦ .ok (v, r))
      (readLetters w s >>= fun r ↦ .ok (v, r)) := by
  induction w generalizing s with
  | nil => exact ⟨rfl, rfl⟩
  | cons a w ih =>
    rw [List.any_cons, Bool.not_or, Bool.and_eq_true, Bool.not_eq_true'] at hw
    rcases cases_unifyEndings s with rfl | ⟨c, t, rfl, hu⟩ | ⟨t, u, rfl, hu⟩
    · trivial
    · rw [hu, readLetters, readLetters]
      split
      · exact ih hw.2 t
      · trivial
    · have ha : ∀ {c}, isSpace c → c ≠ a := by
        rintro c hc rfl
        rw [hw.1] at hc
        exact absurd hc (by decide)
      rw [hu, readLetters, readLetters, if_neg (ha (by decide)), if_neg (ha (by decide))]
      trivial

/-- No blank is a hexadecimal digit. -/
theorem isSpace_of_hexValue? {c : Char} {v : Nat} (h : hexValue? c = some v) :
    isSpace c = false := by
  rw [← Bool.not_eq_true]
  intro hc
  have hnone : hexValue? c = none := by
    simp only [isSpace, Bool.or_eq_true, beq_iff_eq] at hc
    rcases hc with ((rfl | rfl) | rfl) | rfl <;> decide
  exact absurd (hnone.symm.trans h) (by simp)

theorem readHex_eq_ok {s r : List Char} {v : Nat} (h : readHex s = .ok (v, r)) :
    ∃ a b c d, s = a :: b :: c :: d :: r ∧ isSpace a = false ∧ isSpace b = false ∧
      isSpace c = false ∧ isSpace d = false ∧ ∀ t, readHex (a :: b :: c :: d :: t) = .ok (v, t) := by
  unfold readHex at h
  split at h
  · next a b c d rest =>
    split at h
    · next ha hb hc hd =>
      obtain ⟨rfl, rfl⟩ := Prod.mk.inj (Except.ok.inj h)
      refine ⟨a, b, c, d, rfl, isSpace_of_hexValue? ha, isSpace_of_hexValue? hb,
        isSpace_of_hexValue? hc, isSpace_of_hexValue? hd, fun t ↦ ?_⟩
      simp only [readHex, ha, hb, hc, hd]
    · exact absurd h (by simp)
  · split at h
    · exact absurd h (by simp)
    · exact absurd h (by simp [stopAt])

theorem agree_readHex (s : List Char) : Agree (readHex (unifyEndings s)) (readHex s) := by
  cases h : readHex s with
  | ok p =>
    obtain ⟨v, r⟩ := p
    obtain ⟨a, b, c, d, rfl, ha, hb, hc, hd, hread⟩ := readHex_eq_ok h
    have hne : ∀ {e}, isSpace e = false → e ≠ '\r' := by
      rintro e he rfl
      exact absurd he (by decide)
    rw [unifyEndings_cons (hne ha), unifyEndings_cons (hne hb), unifyEndings_cons (hne hc),
      unifyEndings_cons (hne hd), hread]
    exact ⟨rfl, rfl⟩
  | error e =>
    cases h' : readHex (unifyEndings s) with
    | error e' => trivial
    | ok p =>
      obtain ⟨v, r⟩ := p
      obtain ⟨a, b, c, d, hs, ha, hb, hc, hd, hread⟩ := readHex_eq_ok h'
      obtain ⟨s₁, rfl, h₁⟩ := exists_of_unifyEndings_cons ha hs
      obtain ⟨s₂, rfl, h₂⟩ := exists_of_unifyEndings_cons hb h₁
      obtain ⟨s₃, rfl, h₃⟩ := exists_of_unifyEndings_cons hc h₂
      obtain ⟨s₄, rfl, -⟩ := exists_of_unifyEndings_cons hd h₃
      rw [hread] at h
      exact absurd h (by simp)

theorem readPair_error (high : Nat) {s : List Char} (h : ∀ t, s ≠ '\\' :: 'u' :: t) :
    ∃ e, readPair high s = .error e := by
  unfold readPair
  split
  · exact ⟨_, rfl⟩
  · exact ⟨_, rfl⟩
  · exact absurd rfl (h _)
  · exact ⟨_, rfl⟩
  · exact ⟨_, rfl⟩

theorem agree_readPair (high : Nat) (s : List Char) :
    Agree (readPair high (unifyEndings s)) (readPair high s) := by
  by_cases hs : ∃ t, s = '\\' :: 'u' :: t
  · obtain ⟨t, rfl⟩ := hs
    rw [unifyEndings_cons (by decide), unifyEndings_cons (by decide)]
    refine (agree_readHex t).bind fun low r _ ↦ ?_
    dsimp only
    split
    · trivial
    · exact ⟨rfl, rfl⟩
  · obtain ⟨e, he⟩ := readPair_error high fun t ht ↦ hs ⟨t, ht⟩
    obtain ⟨e', he'⟩ : ∃ e', readPair high (unifyEndings s) = .error e' := by
      apply readPair_error
      intro t ht
      obtain ⟨s₁, rfl, h₁⟩ := exists_of_unifyEndings_cons (by decide) ht
      obtain ⟨s₂, rfl, -⟩ := exists_of_unifyEndings_cons (by decide) h₁
      exact hs ⟨s₂, rfl⟩
    rw [he, he']
    trivial

theorem agree_readEscape (s : List Char) :
    Agree (readEscape (unifyEndings s)) (readEscape s) := by
  conv => rhs; unfold readEscape
  split
  case h_1 => trivial
  case h_10 t =>
    rw [unifyEndings_cons (by decide)]
    refine (agree_readHex t).bind fun v r _ ↦ ?_
    dsimp only
    split
    · trivial
    · split
      · exact ⟨rfl, rfl⟩
      · exact agree_readPair ..
  case h_11 hnil h₁ h₂ h₃ h₄ h₅ h₆ h₇ h₈ h₉ =>
    rw [readEscape]
    · trivial
    · intro h
      exact hnil (unifyEndings_eq_nil h)
    all_goals exact unifyEndings_ne_cons (by decide) ‹_›
  all_goals
    rw [unifyEndings_cons (by decide)]
    exact ⟨rfl, rfl⟩

theorem agree_readString (read s : List Char) :
    Agree (readString read (unifyEndings s)) (readString read s) := by
  fun_induction readString read s with
  | case1 =>
    rw [unifyEndings_nil, readString]
    trivial
  | case2 read rest =>
    rw [unifyEndings_cons (by decide), readString]
    exact ⟨rfl, rfl⟩
  | case3 read rest e he =>
    obtain ⟨e', he'⟩ := (he ▸ agree_readEscape rest : Agree _ (.error e)).of_error
    rw [unifyEndings_cons (by decide), readString_of_error he']
    trivial
  | case4 read rest c rest' hc ih =>
    have hc' := (hc ▸ agree_readEscape rest : Agree _ (.ok (c, rest'))).of_ok
    rw [unifyEndings_cons (by decide), readString_of_ok hc']
    exact ih
  | case5 read c rest hquote hslash hcontrol =>
    rcases cases_unifyEndings (c :: rest) with h | ⟨_, _, h, hu⟩ | ⟨t, w, h, hu⟩
    · exact absurd h (List.cons_ne_nil c rest)
    · obtain ⟨rfl, rfl⟩ := List.cons.inj h
      rw [hu, readString]
      · rw [if_pos hcontrol]; trivial
      · exact hquote
      · exact hslash
    · rw [hu, readString]
      · trivial
      · exact fun h => absurd h (by decide)
      · exact fun h => absurd h (by decide)
  | case6 read c rest hquote hslash hcontrol ih =>
    rw [unifyEndings_cons, readString]
    · rw [if_neg hcontrol]; exact ih
    · exact hquote
    · exact hslash
    · rintro rfl; exact hcontrol (by decide)

/-! ## Values -/

/-- A reader of values reads a text as it reads its unified form. -/
def Reader.IsSteady (item : Reader) : Prop :=
  ∀ s, Agree (plain (item (unifyEndings s))) (plain (item s))

theorem agree_readItems {item : Reader} (hitem : item.IsSteady) (first : Bool) (read : List Value)
    (s : List Char) :
    Agree (readItems item first read (unifyEndings s)) (readItems item first read s) := by
  induction hn : s.length using Nat.strongRecOn generalizing s first read with
  | ind n ih =>
    have hnext : ∀ c t, isSpace c = false → t.length < n →
        Agree
          (plain (item (c :: unifyEndings t)) >>= fun p ↦ readItems item false (p.1 :: read) p.2)
          (plain (item (c :: t)) >>= fun p ↦ readItems item false (p.1 :: read) p.2) := by
      intro c t hc ht
      rw [← unifyEndings_cons_of_isSpace hc]
      refine (hitem (c :: t)).bind fun v r hr ↦ ih r.length ?_ _ _ _ rfl
      have hr' := length_lt_of_plain hr
      rw [List.length_cons] at hr'
      omega
    rw [readItems_eq, readItems_eq]
    rcases cases_skipSpace_unifyEndings s with ⟨hs, hu⟩ | ⟨c, t, hs, hc, hu⟩
    · rw [hs, hu]
      trivial
    · have hlen := length_of_skipSpace hs
      rw [hs, hu]
      by_cases hclose : c = ']'
      · subst hclose
        exact ⟨rfl, rfl⟩
      · simp only
        split
        · exact hnext c t hc (by omega)
        · split
          · rcases cases_skipSpace_unifyEndings t with ⟨ht, hv⟩ | ⟨d, u, ht, hd, hv⟩
            · rw [ht, hv]
              trivial
            · have hlen' := length_of_skipSpace ht
              rw [ht, hv]
              by_cases hclose : d = ']'
              · subst hclose
                trivial
              · simp only
                exact hnext d u hd (by omega)
          · trivial

theorem agree_readMember {item : Reader} (hitem : item.IsSteady) (s : List Char) :
    Agree (plain (readMember item (unifyEndings s))) (plain (readMember item s)) := by
  rw [readMember_eq, readMember_eq]
  refine (agree_readString [] s).bind fun key r _ ↦ ?_
  dsimp only
  rcases cases_skipSpace_unifyEndings r with ⟨hr, hu⟩ | ⟨c, t, hr, hc, hu⟩
  · rw [hr, hu]
    trivial
  · rw [hr, hu]
    by_cases hcolon : c = ':'
    · subst hcolon
      rcases cases_skipSpace_unifyEndings t with ⟨ht, hv⟩ | ⟨d, u, ht, hd, hv⟩
      · simp only [ht, hv]
        trivial
      · simp only [ht, hv]
        rw [← unifyEndings_cons_of_isSpace hd]
        refine (hitem (d :: u)).bind fun v r _ ↦ ?_
        exact ⟨rfl, rfl⟩
    · simp only
      trivial

theorem agree_readMembers {item : Reader} (hitem : item.IsSteady) (first : Bool) (read : Members)
    (s : List Char) :
    Agree (readMembers item first read (unifyEndings s)) (readMembers item first read s) := by
  induction hn : s.length using Nat.strongRecOn generalizing s first read with
  | ind n ih =>
    have hnext : ∀ t, t.length < n →
        Agree
          (plain (readMember item (unifyEndings t)) >>= fun p ↦
            readMembers item false (read.insert p.1.1 p.1.2) p.2)
          (plain (readMember item t) >>= fun p ↦
            readMembers item false (read.insert p.1.1 p.1.2) p.2) := by
      intro t ht
      refine (agree_readMember hitem t).bind fun member r hr ↦ ih r.length ?_ _ _ _ rfl
      have hr' := length_lt_of_plain hr
      omega
    rw [readMembers_eq, readMembers_eq]
    rcases cases_skipSpace_unifyEndings s with ⟨hs, hu⟩ | ⟨c, t, hs, hc, hu⟩
    · rw [hs, hu]
      trivial
    · have hlen := length_of_skipSpace hs
      rw [hs, hu]
      by_cases hclose : c = '\x7d'
      · subst hclose
        exact ⟨rfl, rfl⟩
      · simp only
        split
        · split
          · exact hnext t (by omega)
          · trivial
        · split
          · rcases cases_skipSpace_unifyEndings t with ⟨ht, hv⟩ | ⟨d, u, ht, hd, hv⟩
            · rw [ht, hv]
              trivial
            · have hlen' := length_of_skipSpace ht
              rw [ht, hv]
              by_cases hclose : d = '\x7d'
              · subst hclose
                trivial
              · by_cases hquote : d = '"'
                · subst hquote
                  exact hnext u (by omega)
                · simp only
                  trivial
          · trivial

theorem isSteady_readValue (depth : Nat) : (readValue depth).IsSteady := by
  induction depth with
  | zero => exact fun s ↦ trivial
  | succ depth ih =>
    intro s
    have hu := skipSpace_unifyEndings s
    rw [readValue_eq depth s]
    generalize htext : skipSpace s = text at hu
    split
    case h_1 =>
      rw [readValue_eq, hu]
      trivial
    case h_5 rest =>
      rw [readValue_eq, hu, unifyEndings_cons (by decide)]
      refine (agree_readString [] rest).bind fun _ _ _ ↦ ?_
      exact ⟨rfl, rfl⟩
    case h_6 rest =>
      rw [readValue_eq, hu, unifyEndings_cons (by decide)]
      simp only
      split
      · trivial
      · refine (agree_readItems ih true [] rest).bind fun _ _ _ ↦ ?_
        exact ⟨rfl, rfl⟩
    case h_7 rest =>
      rw [readValue_eq, hu, unifyEndings_cons (by decide)]
      simp only
      split
      · trivial
      · refine (agree_readMembers ih true [] rest).bind fun _ _ _ ↦ ?_
        exact ⟨rfl, rfl⟩
    case h_8 rest =>
      rw [readValue_eq, hu, unifyEndings_cons (by decide)]
      refine (agree_readNumber true rest).bind fun _ _ _ ↦ ?_
      exact ⟨rfl, rfl⟩
    case h_9 c rest _ _ _ _ _ _ _ =>
      have hc := unifyEndings_cons_of_isSpace (isSpace_of_skipSpace htext) rest
      rw [readValue_eq, hu, hc]
      simp only
      split
      · rw [← hc]
        refine (agree_readNumber false (c :: rest)).bind fun _ _ _ ↦ ?_
        exact ⟨rfl, rfl⟩
      · trivial
    all_goals
      rw [readValue_eq, hu, unifyEndings_cons (by decide)]
      exact agree_readLetters _ (by decide) _

/-- Line endings make no difference to what is read. -/
theorem parse_unifyEndings (s : List Char) (v : Value) :
    parse (unifyEndings s) = .ok v ↔ parse s = .ok v := by
  rw [parse_eq_ok_iff, parse_eq_ok_iff]
  have hsteady := isSteady_readValue depthLimit s
  constructor
  · rintro ⟨r, hr, hspace⟩
    cases hs : plain (readValue depthLimit s) with
    | error e =>
      rw [hs, hr] at hsteady
      exact hsteady.elim
    | ok p =>
      obtain ⟨w, t⟩ := p
      rw [hs, hr] at hsteady
      obtain ⟨rfl, rfl⟩ := hsteady
      refine ⟨t, rfl, unifyEndings_eq_nil ?_⟩
      rw [← skipSpace_unifyEndings, hspace]
  · rintro ⟨r, hr, hspace⟩
    rw [hr] at hsteady
    refine ⟨unifyEndings r, hsteady.of_ok, ?_⟩
    rw [skipSpace_unifyEndings, hspace]
    rfl
end ChangeReview.Json
