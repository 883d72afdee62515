import ChangeReview.Proofs.Json.Nesting

/-!
# What reading takes from a text

A reader hands on the rest of its text. What it takes leads from the region in which it starts to
the region in which it ends and closes the brackets that it opens. The readers are treated in the
order in which they build on each other: words, numbers, strings, values. Hence a text that is
read as an object is an enclosed text with blanks around it.
-/

namespace ChangeReview.Json

/-- What stands between a text and its rest leads from one region to another at the same depth. -/
def Leads (a b : Region) (s r : List Char) : Prop :=
  ∃ u, s = u ++ r ∧ ∀ d, Spot.run ⟨a, d⟩ u = some ⟨b, d⟩

namespace Leads

variable {a b e : Region} {s t r : List Char} {c o : Char}

theorem refl (a : Region) (s : List Char) : Leads a a s s := ⟨[], rfl, fun _ ↦ rfl⟩

theorem trans (h : Leads a b s t) (h' : Leads b e t r) : Leads a e s r := by
  obtain ⟨u, rfl, hu⟩ := h
  obtain ⟨w, rfl, hw⟩ := h'
  refine ⟨u ++ w, (List.append_assoc u w r).symm, fun d ↦ ?_⟩
  rw [Spot.run_append, hu, Option.bind_some, hw]

theorem length_le (h : Leads a b s r) : r.length ≤ s.length := by
  obtain ⟨u, rfl, -⟩ := h
  rw [List.length_append]
  exact Nat.le_add_left _ _

/-- One more character in front. -/
theorem cons (hc : ∀ d, Spot.step ⟨a, d⟩ c = some ⟨b, d⟩) (h : Leads b e s r) :
    Leads a e (c :: s) r := by
  obtain ⟨u, rfl, hu⟩ := h
  refine ⟨c :: u, rfl, fun d ↦ ?_⟩
  rw [Spot.run_cons, hc, Option.bind_some, hu]

/-- A bracket in front whose partner the rest starts with. -/
theorem bracket (ho : ∀ d, Spot.step ⟨.between, d⟩ o = some ⟨.between, d + 1⟩)
    (hc : ∀ d, Spot.step ⟨.between, d + 1⟩ c = some ⟨.between, d⟩)
    (h : Leads .between .between s (c :: r)) : Leads .between .between (o :: s) r := by
  obtain ⟨u, rfl, hu⟩ := h
  refine ⟨o :: (u ++ [c]), by simp, fun d ↦ ?_⟩
  rw [Spot.run_cons, ho, Option.bind_some, Spot.run_append, hu, Option.bind_some, Spot.run_cons, hc]
  rfl

/-- A plain character in front. -/
theorem plain (hc : isPlain c) (h : Leads .between e s r) : Leads .between e (c :: s) r := by
  have hmem : c ∉ delimiters := by
    intro hmem
    rw [isPlain_eq_false hmem] at hc
    exact absurd hc (by decide)
  apply cons _ h
  intro d
  rw [Spot.step_of_not_mem hmem, if_pos hc]

end Leads

/-! ## Blanks and words -/

theorem isPlain_of_isSpace {c : Char} (h : isSpace c) : isPlain c := by
  simp [isPlain, h]

theorem isBlank_of_isSpace {c : Char} (h : isSpace c) : Text.isBlank c := by
  simp only [isSpace, Bool.or_eq_true, beq_iff_eq] at h
  rcases h with ((rfl | rfl) | rfl) | rfl <;> decide

theorem isPlain_of_isDigit {c : Char} (h : c.isDigit) : isPlain c := by
  simp [isPlain, Char.isAlphanum, h]

theorem leads_skipSpace (s : List Char) : Leads .between .between s (skipSpace s) := by
  induction s with
  | nil => exact .refl _ _
  | cons c s ih =>
    unfold skipSpace
    split
    · next hc => exact .plain (isPlain_of_isSpace hc) ih
    · exact .refl _ _

theorem leads_of_skipSpace {s t : List Char} (h : skipSpace s = t) :
    Leads .between .between s t := h ▸ leads_skipSpace s

theorem leads_readLetters {w s r : List Char} (hw : w.all isPlain)
    (h : readLetters w s = .ok r) : Leads .between .between s r := by
  induction w generalizing s with
  | nil =>
    obtain rfl := Except.ok.inj h
    exact .refl _ _
  | cons a w ih =>
    cases s with
    | nil => exact absurd h (by simp [readLetters, stopAt])
    | cons c s =>
      simp only [readLetters] at h
      split at h
      · next hc =>
        subst hc
        rw [List.all_cons, Bool.and_eq_true] at hw
        exact .plain hw.1 (ih hw.2 h)
      · exact absurd h (by simp [stopBefore])

/-! ## Numbers -/

theorem isDigit_of_digit? {c : Char} {d : Nat} (h : digit? c = some d) : c.isDigit := by
  unfold digit? at h
  split at h
  · assumption
  · exact absurd h (by simp)

theorem leads_skipDigits (s : List Char) : Leads .between .between s (skipDigits s).2 := by
  induction s with
  | nil => exact .refl _ _
  | cons c s ih =>
    unfold skipDigits
    split
    · next hc => exact .plain (isPlain_of_isDigit hc) ih
    · exact .refl _ _

theorem leads_takeDigits (n : Nat) (s : List Char) :
    Leads .between .between s (takeDigits n s).2.2 := by
  induction s generalizing n with
  | nil => exact .refl _ _
  | cons c s ih =>
    unfold takeDigits
    split
    · exact .refl _ _
    · next d hd =>
      split
      · exact .plain (isPlain_of_isDigit (isDigit_of_digit? hd)) (ih (n * 10 + d))
      · exact .refl _ _

theorem leads_takeExponent (e : Nat) (s : List Char) :
    Leads .between .between s (takeExponent e s).2 := by
  induction s generalizing e with
  | nil => exact .refl _ _
  | cons c s ih =>
    unfold takeExponent
    split
    · exact .refl _ _
    · next d hd =>
      have hc := isPlain_of_isDigit (isDigit_of_digit? hd)
      split
      · exact .plain hc (ih (e * 10 + d))
      · exact .plain hc (.refl _ _)

theorem leads_takeSign (s : List Char) : Leads .between .between s (takeSign s).2 := by
  unfold takeSign
  split
  · exact .plain (by decide) (.refl _ _)
  · exact .plain (by decide) (.refl _ _)
  · exact .refl _ _

variable {negative : Bool} {significand : Nat} {exponent : Int} {s r : List Char} {n : Number}

theorem rest_of_realNumber (h : realNumber negative significand exponent s = .ok (n, r)) :
    s = r := by
  unfold realNumber at h
  split at h
  · exact congrArg Prod.snd (Except.ok.inj h)
  · exact absurd h (by simp [stopAt])

theorem leads_readExponent (h : readExponent negative significand exponent s = .ok (n, r)) :
    Leads .between .between s r := by
  refine (leads_takeSign s).trans ?_
  unfold readExponent at h
  generalize takeSign s = signed at h ⊢
  obtain ⟨positive, t⟩ := signed
  cases t with
  | nil => exact absurd h (by simp [stopAt])
  | cons c t =>
    simp only at h
    split at h
    · exact absurd h (by simp [stopBefore])
    · next d hd =>
      refine .plain (isPlain_of_isDigit (isDigit_of_digit? hd)) ((leads_takeExponent d t).trans ?_)
      split at h
      · next e rest he =>
        rw [he, rest_of_realNumber h]
        exact .refl _ _
      · next rest he =>
        rw [he]
        split at h
        · exact absurd h (by simp [stopAt])
        · obtain rfl := congrArg Prod.snd (Except.ok.inj h)
          exact leads_skipDigits rest

theorem leads_readTail (h : readTail negative significand exponent s = .ok (n, r)) :
    Leads .between .between s r := by
  unfold readTail at h
  split at h
  · exact .plain (by decide) (leads_readExponent h)
  · exact .plain (by decide) (leads_readExponent h)
  · rw [rest_of_realNumber h]
    exact .refl _ _

theorem leads_readFraction (h : readFraction negative significand exponent s = .ok (n, r)) :
    Leads .between .between s r := by
  refine (leads_takeDigits significand s).trans ?_
  unfold readFraction at h
  generalize takeDigits significand s = taken at h ⊢
  obtain ⟨m, k, t⟩ := taken
  cases t with
  | nil =>
    simp only at h
    split at h
    · exact absurd h (by simp [stopBefore])
    · exact leads_readTail h
  | cons c t =>
    simp only at h
    split at h
    · exact (leads_skipDigits _).trans (leads_readTail h)
    · split at h
      · exact absurd h (by simp [stopBefore])
      · exact leads_readTail h

theorem leads_readAfterDigits (h : readAfterDigits negative significand s = .ok (n, r)) :
    Leads .between .between s r := by
  unfold readAfterDigits at h
  split at h
  · exact .plain (by decide) (leads_readFraction h)
  · exact .plain (by decide) (leads_readExponent h)
  · exact .plain (by decide) (leads_readExponent h)
  · obtain rfl : s = r := by grind
    exact .refl _ _

theorem leads_readLongInteger (h : readLongInteger negative significand s = .ok (n, r)) :
    Leads .between .between s r := by
  refine (leads_skipDigits s).trans ?_
  unfold readLongInteger at h
  generalize skipDigits s = skipped at h ⊢
  obtain ⟨dropped, t⟩ := skipped
  simp only at h
  split at h
  · exact .plain (by decide) (leads_readFraction h)
  · exact leads_readTail h

/-- A number takes a plain character at least. -/
theorem exists_leads_readNumber (h : readNumber negative s = .ok (n, r)) :
    ∃ c t, s = c :: t ∧ isPlain c ∧ Leads .between .between t r := by
  unfold readNumber at h
  split at h
  · exact absurd h (by simp [stopAt])
  · refine ⟨_, _, rfl, by decide, ?_⟩
    split at h
    · split at h
      · exact absurd h (by simp [stopBefore])
      · exact leads_readAfterDigits h
    · exact leads_readAfterDigits h
  · next c t _ =>
    split at h
    · exact absurd h (by simp [stopBefore])
    · next d hd =>
      refine ⟨c, t, rfl, isPlain_of_isDigit (isDigit_of_digit? hd), (leads_takeDigits d t).trans ?_⟩
      generalize takeDigits d t = taken at h ⊢
      obtain ⟨m, k, t⟩ := taken
      cases t with
      | nil => exact leads_readAfterDigits h
      | cons c t =>
        simp only at h
        split at h
        · exact leads_readLongInteger h
        · exact leads_readAfterDigits h

theorem leads_readNumber (h : readNumber negative s = .ok (n, r)) : Leads .between .between s r := by
  obtain ⟨c, t, rfl, hc, ht⟩ := exists_leads_readNumber h
  exact .plain hc ht

theorem length_readNumber_lt (h : readNumber negative s = .ok (n, r)) : r.length < s.length := by
  obtain ⟨c, t, rfl, -, ht⟩ := exists_leads_readNumber h
  exact Nat.lt_succ_of_le ht.length_le

/-- A computation in two steps succeeds when both steps do. -/
theorem bind_eq_ok_iff {ε α β : Type} {x : Except ε α} {f : α → Except ε β} {b : β} :
    (x >>= f) = .ok b ↔ ∃ a, x = .ok a ∧ f a = .ok b := by
  cases x with
  | error e => simp [bind, Except.bind]
  | ok a => simp [bind, Except.bind]

/-! ## Strings -/

/-- A hexadecimal digit is an ordinary character of a string. -/
theorem step_inside_of_hexValue? {c : Char} {v : Nat} (h : hexValue? c = some v) (d : Nat) :
    Spot.step ⟨.inside, d⟩ c = some ⟨.inside, d⟩ := by
  have hquote : c ≠ '"' := by
    rintro rfl
    rw [show hexValue? '"' = none by decide] at h
    exact absurd h (by simp)
  have hslash : c ≠ '\\' := by
    rintro rfl
    rw [show hexValue? '\\' = none by decide] at h
    exact absurd h (by simp)
  have hcontrol : ¬c.toNat < 0x20 := by
    unfold hexValue? at h
    simp only [Char.isDigit, Char.le_def, UInt32.le_iff_toNat_le] at h
    intro hlt
    have hval : c.val.toNat < 0x20 := hlt
    grind
  simp only [Spot.step, if_neg hcontrol, if_neg hquote, if_neg hslash]

theorem leads_readHex {v : Nat} (h : readHex s = .ok (v, r)) : Leads .inside .inside s r := by
  unfold readHex at h
  split at h
  · split at h
    · next ha hb hc hd =>
      obtain rfl := congrArg Prod.snd (Except.ok.inj h)
      exact .cons (step_inside_of_hexValue? ha) (.cons (step_inside_of_hexValue? hb)
        (.cons (step_inside_of_hexValue? hc) (.cons (step_inside_of_hexValue? hd) (.refl _ _))))
    · exact absurd h (by simp)
  · split at h
    · exact absurd h (by simp)
    · exact absurd h (by simp [stopAt])

theorem leads_readPair {high : Nat} {c : Char} (h : readPair high s = .ok (c, r)) :
    Leads .inside .inside s r := by
  unfold readPair at h
  split at h
  · exact absurd h (by simp [stopAt])
  · exact absurd h (by simp [stopAt])
  · next t =>
    refine .cons (b := .escaped) (fun _ ↦ rfl) (.cons (b := .inside) (fun _ ↦ rfl) ?_)
    obtain ⟨⟨v, t'⟩, hx, h⟩ := bind_eq_ok_iff.mp h
    simp only at h
    split at h
    · exact absurd h (by simp [stopAt])
    · obtain rfl := congrArg Prod.snd (Except.ok.inj h)
      exact leads_readHex hx
  · exact absurd h (by simp [stopBefore])
  · exact absurd h (by simp [stopBefore])

theorem leads_readEscape {c : Char} (h : readEscape s = .ok (c, r)) :
    Leads .escaped .inside s r := by
  unfold readEscape at h
  split at h
  case h_10 t =>
    refine .cons (b := .inside) (fun _ ↦ rfl) ?_
    obtain ⟨⟨v, t'⟩, hx, h⟩ := bind_eq_ok_iff.mp h
    simp only at h
    split at h
    · exact absurd h (by simp [stopAt])
    · split at h
      · obtain rfl := congrArg Prod.snd (Except.ok.inj h)
        exact leads_readHex hx
      · exact (leads_readHex hx).trans (leads_readPair h)
  case h_1 => exact absurd h (by simp [stopAt])
  case h_11 => exact absurd h (by simp [stopBefore])
  all_goals
    obtain rfl := congrArg Prod.snd (Except.ok.inj h)
    exact .cons (fun _ ↦ rfl) (.refl _ _)

theorem leads_readString {read : List Char} {t : String} (h : readString read s = .ok (t, r)) :
    Leads .inside .between s r := by
  fun_induction readString read s with
  | case1 => exact absurd h (by simp [stopAt])
  | case2 read rest =>
    obtain rfl := congrArg Prod.snd (Except.ok.inj h)
    exact .cons (fun _ ↦ rfl) (.refl _ _)
  | case3 => exact absurd h (by simp)
  | case4 read rest c rest' hc ih =>
    exact .cons (fun _ ↦ rfl) ((leads_readEscape hc).trans (ih h))
  | case5 => exact absurd h (by simp [stopBefore])
  | case6 read c rest hquote hslash hcontrol ih =>
    refine .cons (fun d ↦ ?_) (ih h)
    simp only [Spot.step, if_neg hcontrol]
    rw [if_neg (fun hc ↦ hquote hc), if_neg (fun hc ↦ hslash hc)]

/-! ## Values -/

/-- The proof that the rest is shorter changes neither the value nor the rest. -/
theorem of_shorter {α : Type} {a b : α} {r : List Char} {r' : Rest s}
    (h : shorter s (.ok (a, r)) = .ok (b, r')) : b = a ∧ r'.val = r := by
  unfold shorter at h
  simp only at h
  split at h
  · obtain ⟨rfl, rfl⟩ := Prod.mk.inj (Except.ok.inj h)
    exact ⟨rfl, rfl⟩
  · exact absurd h (by simp [stopAt])

/-- A reader of values takes neutral texts. -/
def Reader.IsNeutral (item : Reader) : Prop :=
  ∀ s v r, item s = .ok (v, r) → Leads .between .between s r.val

section Containers

variable {item : Reader} {first : Bool}

theorem leads_readItems (hitem : item.IsNeutral) {read vs : List Value}
    (h : readItems item first read s = .ok (vs, r)) : Leads .between .between s (']' :: r) := by
  fun_induction readItems item first read s with
  | case1 => exact absurd h (by simp [stopBefore])
  | case2 first read s rest hs =>
    obtain rfl := congrArg Prod.snd (Except.ok.inj h)
    exact leads_of_skipSpace hs
  | case3 => exact absurd h (by simp)
  | case4 read s c rest hc hs v r' hv ih =>
    exact (leads_of_skipSpace hs).trans ((hitem _ _ _ hv).trans (ih h))
  | case5 => exact absurd h (by simp [stopBefore])
  | case6 => exact absurd h (by simp [stopBefore])
  | case7 => exact absurd h (by simp)
  | case8 first read s rest hfirst d more hd hr v r' hv hcomma hs ih =>
    have hitems := (leads_of_skipSpace hr).trans ((hitem _ _ _ hv).trans (ih h))
    exact (leads_of_skipSpace hs).trans (.plain (by decide) hitems)
  | case9 => exact absurd h (by simp [stopBefore])

theorem leads_readMember (hitem : item.IsNeutral) {member : String × Value} {r : Rest s}
    (h : readMember item s = .ok (member, r)) : Leads .inside .between s r.val := by
  unfold readMember at h
  split at h
  · exact absurd h (by simp)
  · next key t hk =>
    refine (leads_readString hk).trans ?_
    split at h
    · exact absurd h (by simp [stopBefore])
    · next rest hs =>
      refine (leads_of_skipSpace hs).trans (.plain (by decide) ?_)
      split at h
      · exact absurd h (by simp [stopBefore])
      · next c more hv =>
        refine (leads_of_skipSpace hv).trans ?_
        split at h
        · exact absurd h (by simp)
        · next v r' hi =>
          obtain rfl := congrArg Prod.snd (Except.ok.inj h)
          exact hitem _ _ _ hi
    · exact absurd h (by simp [stopBefore])

theorem leads_readMembers (hitem : item.IsNeutral) {read members : Members}
    (h : readMembers item first read s = .ok (members, r)) :
    Leads .between .between s ('\x7d' :: r) := by
  fun_induction readMembers item first read s with
  | case1 => exact absurd h (by simp [stopBefore])
  | case2 first read s rest hs =>
    obtain rfl := congrArg Prod.snd (Except.ok.inj h)
    exact leads_of_skipSpace hs
  | case3 => exact absurd h (by simp)
  | case4 read s rest k v r' hm hquote hs ih =>
    have hmembers := (leads_readMember hitem hm).trans (ih h)
    exact (leads_of_skipSpace hs).trans (.cons (fun _ ↦ rfl) hmembers)
  | case5 => exact absurd h (by simp [stopBefore])
  | case6 => exact absurd h (by simp [stopBefore])
  | case7 => exact absurd h (by simp [stopBefore])
  | case8 => exact absurd h (by simp)
  | case9 first read s rest hfirst more hr k v r' hm hcomma hs ih =>
    have hmembers := (leads_readMember hitem hm).trans (ih h)
    have hmore := (leads_of_skipSpace hr).trans (.cons (fun _ ↦ rfl) hmembers)
    exact (leads_of_skipSpace hs).trans (.plain (by decide) hmore)
  | case10 => exact absurd h (by simp [stopBefore])
  | case11 => exact absurd h (by simp [stopBefore])

end Containers

/-- A value takes a neutral text, however deep it may nest. -/
theorem isNeutral_readValue (depth : Nat) : (readValue depth).IsNeutral := by
  induction depth with
  | zero =>
    intro s v r h
    exact absurd h (by simp [readValue, stopBefore])
  | succ depth ih =>
    intro s v r h
    refine (leads_skipSpace s).trans ?_
    unfold readValue at h
    generalize skipSpace s = text at h ⊢
    split at h
    case h_1 => exact absurd h (by simp [stopBefore])
    case h_5 rest =>
      obtain ⟨⟨t, u⟩, hread, h⟩ := bind_eq_ok_iff.mp h
      rw [(of_shorter h).2]
      exact .cons (fun _ ↦ rfl) (leads_readString hread)
    case h_6 rest =>
      split at h
      · exact absurd h (by simp [stopBefore])
      · obtain ⟨⟨items, u⟩, hread, h⟩ := bind_eq_ok_iff.mp h
        rw [(of_shorter h).2]
        exact .bracket (fun _ ↦ rfl) (fun _ ↦ rfl) (leads_readItems ih hread)
    case h_7 rest =>
      split at h
      · exact absurd h (by simp [stopBefore])
      · obtain ⟨⟨members, u⟩, hread, h⟩ := bind_eq_ok_iff.mp h
        rw [(of_shorter h).2]
        exact .bracket (fun _ ↦ rfl) (fun _ ↦ rfl) (leads_readMembers ih hread)
    case h_8 rest =>
      obtain ⟨⟨n, u⟩, hread, h⟩ := bind_eq_ok_iff.mp h
      rw [(of_shorter h).2]
      exact .plain (by decide) (leads_readNumber hread)
    case h_9 c rest _ _ _ _ _ _ _ =>
      split at h
      · obtain ⟨⟨n, u⟩, hread, h⟩ := bind_eq_ok_iff.mp h
        rw [(of_shorter h).2]
        exact leads_readNumber hread
      · exact absurd h (by simp [stopBefore])
    -- The three words are left.
    all_goals
      obtain ⟨u, hread, h⟩ := bind_eq_ok_iff.mp h
      rw [(of_shorter h).2]
      exact .plain (by decide) (leads_readLetters (by decide) hread)

/-! ## Objects -/

/-- Skipping blanks takes blanks only. -/
theorem append_skipSpace (s : List Char) : ∃ x, s = x ++ skipSpace s ∧ ∀ c ∈ x, isSpace c := by
  induction s with
  | nil => exact ⟨[], rfl, by simp⟩
  | cons c s ih =>
    unfold skipSpace
    split
    · next hc =>
      obtain ⟨x, hs, hx⟩ := ih
      refine ⟨c :: x, congrArg (c :: ·) hs, ?_⟩
      intro b hb
      rcases List.mem_cons.mp hb with rfl | hb
      · exact hc
      · exact hx b hb
    · exact ⟨[], rfl, by simp⟩

/-- A value that is an object takes an opening brace, a neutral text and the closing brace. -/
theorem leads_readValue_object {depth : Nat} {members : Members} {r : Rest s}
    (h : readValue depth s = .ok (.object members, r)) :
    ∃ t, skipSpace s = '\x7b' :: t ∧ Leads .between .between t ('\x7d' :: r.val) := by
  cases depth with
  | zero => exact absurd h (by simp [readValue, stopBefore])
  | succ depth =>
    unfold readValue at h
    generalize skipSpace s = text at h ⊢
    split at h
    case h_7 t =>
      split at h
      · exact absurd h (by simp [stopBefore])
      · obtain ⟨⟨read, u⟩, hread, h⟩ := bind_eq_ok_iff.mp h
        rw [(of_shorter h).2]
        exact ⟨t, rfl, leads_readMembers (isNeutral_readValue depth) hread⟩
    case h_1 => exact absurd h (by simp [stopBefore])
    case h_6 =>
      split at h
      · exact absurd h (by simp [stopBefore])
      · obtain ⟨_, -, h⟩ := bind_eq_ok_iff.mp h
        exact absurd (of_shorter h).1 (by simp)
    case h_9 =>
      split at h
      · obtain ⟨_, -, h⟩ := bind_eq_ok_iff.mp h
        exact absurd (of_shorter h).1 (by simp)
      · exact absurd h (by simp [stopBefore])
    all_goals
      obtain ⟨_, -, h⟩ := bind_eq_ok_iff.mp h
      exact absurd (of_shorter h).1 (by simp)

/-- A text that is read as an object is an enclosed text with blanks around it. -/
theorem enclosed_of_parse {text : List Char} {members : Members}
    (h : parse text = .ok (.object members)) :
    ∃ x p y, text = x ++ p ++ y ∧ Enclosed p ∧ (∀ c ∈ x, isSpace c) ∧ ∀ c ∈ y, isSpace c := by
  have hread : readText text = .ok (.object members) := by
    unfold parse at h
    split at h
    · next v hv => rw [hv, Except.ok.inj h]
    · exact absurd h (by simp)
  obtain ⟨⟨v, r⟩, hvalue, hrest⟩ := bind_eq_ok_iff.mp hread
  simp only at hrest
  split at hrest
  · next hblank =>
    obtain rfl := Except.ok.inj hrest
    obtain ⟨t, ht, u, rfl, hu⟩ := leads_readValue_object hvalue
    obtain ⟨x, hx, hspace⟩ := append_skipSpace text
    obtain ⟨y, hy, hspace'⟩ := append_skipSpace r.val
    rw [hblank, List.append_nil] at hy
    refine ⟨x, '\x7b' :: (u ++ ['\x7d']), r.val, ?_, ⟨u, rfl, hu⟩, hspace, hy ▸ hspace'⟩
    rw [ht] at hx
    exact hx.trans (by simp)
  · exact absurd hrest (by simp [stopBefore])

end ChangeReview.Json
