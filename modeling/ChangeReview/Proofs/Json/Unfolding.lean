import ChangeReview.Proofs.Json.Extent

/-!
# What readers do, step by step

The readers of values, arrays and objects carry the proof that their rest is shorter. The
equations here leave it out: each says how a reader goes on from the first characters after the
blanks. A text is read whole when only blanks follow the value that it starts with.
-/

namespace ChangeReview.Json

/-- No blank is left after the blanks. -/
theorem isSpace_of_skipSpace {c : Char} {s t : List Char} (h : skipSpace s = c :: t) :
    isSpace c = false := by
  induction s with
  | nil => exact absurd h (by simp [skipSpace])
  | cons d s ih =>
    rw [skipSpace] at h
    split at h
    · exact ih h
    · next hd =>
      obtain ⟨rfl, -⟩ := List.cons.inj h
      exact Bool.eq_false_iff.mpr hd

theorem length_of_skipSpace {c : Char} {s t : List Char} (h : skipSpace s = c :: t) :
    t.length < s.length := by
  have hle := length_skipSpace_le s
  rw [h, List.length_cons] at hle
  omega

/-! ## Strings -/

theorem readString_of_error {read s : List Char} {e : Stop} (h : readEscape s = .error e) :
    readString read ('\\' :: s) = .error e := by
  rw [readString]
  split
  · next h' => rw [h] at h'; rw [Except.error.inj h']
  · next h' => rw [h] at h'; exact absurd h' (by simp)

theorem readString_of_ok {read s r : List Char} {c : Char} (h : readEscape s = .ok (c, r)) :
    readString read ('\\' :: s) = readString (c :: read) r := by
  rw [readString]
  split
  · next h' => rw [h] at h'; exact absurd h' (by simp)
  · next h' =>
    rw [h] at h'
    obtain ⟨rfl, rfl⟩ := Prod.mk.inj (Except.ok.inj h')
    rfl

/-! ## Rests without a proof -/

/-- A result without the proof that its rest is shorter. -/
def plain {α : Type} {s : List Char} (x : Except Stop (α × Rest s)) :
    Except Stop (α × List Char) := x.map fun p ↦ (p.1, p.2.val)

theorem length_lt_of_plain {α : Type} {s r : List Char} {x : Except Stop (α × Rest s)} {a : α}
    (h : plain x = .ok (a, r)) : r.length < s.length := by
  cases x with
  | error e => exact absurd h (by simp [plain, Except.map])
  | ok p =>
    obtain ⟨b, t, ht⟩ := p
    obtain ⟨rfl, rfl⟩ := Prod.mk.inj (Except.ok.inj h)
    exact ht

/-- Where the rest is shorter, the check that it is can be left out. -/
theorem plain_bind_shorter {α β : Type} {s : List Char} {x : Except Stop β}
    {f : β → α × List Char} (hx : ∀ b, x = .ok b → (f b).2.length < s.length) :
    plain (x >>= fun b ↦ shorter s (.ok (f b))) = x >>= fun b ↦ .ok (f b) := by
  cases x with
  | error e => rfl
  | ok b =>
    simp only [bind, Except.bind, shorter]
    rw [dif_pos (hx b rfl)]
    rfl

/-! ## Arrays, objects and values -/

theorem readItems_eq (item : Reader) (first : Bool) (read : List Value) (s : List Char) :
    readItems item first read s =
      match skipSpace s with
      | [] => stopBefore .endInList []
      | ']' :: rest => .ok (read.reverse, rest)
      | c :: rest =>
        if first then
          plain (item (c :: rest)) >>= fun p ↦ readItems item false (p.1 :: read) p.2
        else if c = ',' then
          match skipSpace rest with
          | [] => stopBefore .endInValue []
          | ']' :: rest => stopBefore .trailingComma (']' :: rest)
          | d :: more =>
            plain (item (d :: more)) >>= fun p ↦ readItems item false (p.1 :: read) p.2
        else stopBefore .expectedCommaOrBracket (c :: rest) := by
  rw [readItems]
  split
  · next h => simp only [h]
  · next h => simp only [h]
  · next c rest hc h =>
    simp only [h]
    split
    · cases item (c :: rest) <;> rfl
    · split
      · split
        · next h' => simp only [h']
        · next h' => simp only [h']
        · next d more hd h' =>
          simp only [h']
          cases item (d :: more) <;> rfl
      · rfl

theorem readMember_eq (item : Reader) (s : List Char) :
    plain (readMember item s) = readString [] s >>= fun p ↦
      match skipSpace p.2 with
      | [] => stopBefore .endInObject []
      | ':' :: rest =>
        match skipSpace rest with
        | [] => stopBefore .endInValue []
        | c :: more => plain (item (c :: more)) >>= fun q ↦ .ok ((p.1, q.1), q.2)
      | c :: rest => stopBefore .expectedColon (c :: rest) := by
  unfold readMember
  split
  · next h => simp only [h]; rfl
  · next key r h =>
    simp only [h, bind, Except.bind]
    split
    · next h' => simp only [h']; rfl
    · next rest h' =>
      simp only [h']
      split
      · next h'' => simp only [h'']; rfl
      · next c more h'' =>
        simp only [h'']
        cases item (c :: more) <;> rfl
    · next h' => simp only [h']; rfl

theorem readMembers_eq (item : Reader) (first : Bool) (read : Members) (s : List Char) :
    readMembers item first read s =
      match skipSpace s with
      | [] => stopBefore .endInObject []
      | '\x7d' :: rest => .ok (read, rest)
      | c :: rest =>
        if first then
          if c = '"' then
            plain (readMember item rest) >>= fun p ↦
              readMembers item false (read.insert p.1.1 p.1.2) p.2
          else stopBefore .keyNotString (c :: rest)
        else if c = ',' then
          match skipSpace rest with
          | [] => stopBefore .endInValue []
          | '\x7d' :: rest => stopBefore .trailingComma ('\x7d' :: rest)
          | '"' :: more =>
            plain (readMember item more) >>= fun p ↦
              readMembers item false (read.insert p.1.1 p.1.2) p.2
          | d :: more => stopBefore .keyNotString (d :: more)
        else stopBefore .expectedCommaOrBrace (c :: rest) := by
  rw [readMembers]
  split
  · next h => simp only [h]
  · next h => simp only [h]
  · next c rest hc h =>
    simp only [h]
    split
    · split
      · cases readMember item rest <;> rfl
      · rfl
    · split
      · split
        · next h' => simp only [h']
        · next h' => simp only [h']
        · next more h' =>
          simp only [h']
          cases readMember item more <;> rfl
        · next h' => simp only [h']
      · rfl

theorem readValue_eq (depth : Nat) (s : List Char) :
    plain (readValue (depth + 1) s) =
      match skipSpace s with
      | [] => stopBefore .endInValue []
      | 'n' :: rest => readLetters ['u', 'l', 'l'] rest >>= fun r ↦ .ok (.null, r)
      | 't' :: rest => readLetters ['r', 'u', 'e'] rest >>= fun r ↦ .ok (.bool true, r)
      | 'f' :: rest => readLetters ['a', 'l', 's', 'e'] rest >>= fun r ↦ .ok (.bool false, r)
      | '"' :: rest => readString [] rest >>= fun p ↦ .ok (.string p.1, p.2)
      | '[' :: rest =>
        if depth = 0 then stopBefore .tooDeep ('[' :: rest)
        else readItems (readValue depth) true [] rest >>= fun p ↦ .ok (.array p.1, p.2)
      | '\x7b' :: rest =>
        if depth = 0 then stopBefore .tooDeep ('\x7b' :: rest)
        else readMembers (readValue depth) true [] rest >>= fun p ↦ .ok (.object p.1, p.2)
      | '-' :: rest => readNumber true rest >>= fun p ↦ .ok (.number p.1, p.2)
      | c :: rest =>
        if c.isDigit then readNumber false (c :: rest) >>= fun p ↦ .ok (.number p.1, p.2)
        else stopBefore .expectedValue (c :: rest) := by
  have hlen : ∀ {c : Char} {t r : List Char}, skipSpace s = c :: t → r.length ≤ t.length →
      r.length < s.length := fun h hr ↦ Nat.lt_of_le_of_lt hr (length_of_skipSpace h)
  unfold readValue
  generalize skipSpace s = text at hlen
  split
  case h_1 => rfl
  case h_5 rest =>
    exact plain_bind_shorter (f := fun p : String × List Char ↦ (Value.string p.1, p.2))
      fun p h ↦ hlen rfl (Nat.le_of_lt (length_readString_lt h))
  case h_6 rest =>
    split
    · rfl
    · refine plain_bind_shorter (f := fun p : List Value × List Char ↦ (Value.array p.1, p.2)) fun p h ↦ hlen rfl ?_
      exact Nat.le_of_lt (leads_readItems (isNeutral_readValue depth) h).length_le
  case h_7 rest =>
    split
    · rfl
    · refine plain_bind_shorter (f := fun p : Members × List Char ↦ (Value.object p.1, p.2)) fun p h ↦ hlen rfl ?_
      exact Nat.le_of_lt (leads_readMembers (isNeutral_readValue depth) h).length_le
  case h_8 rest =>
    exact plain_bind_shorter (f := fun p : Number × List Char ↦ (Value.number p.1, p.2))
      fun p h ↦ hlen rfl (Nat.le_of_lt (length_readNumber_lt h))
  case h_9 c rest _ _ _ _ _ _ _ =>
    simp only
    split
    · refine plain_bind_shorter (f := fun p : Number × List Char ↦ (Value.number p.1, p.2)) fun p h ↦ hlen rfl ?_
      exact Nat.le_of_lt_succ (length_readNumber_lt h)
    · rfl
  all_goals exact plain_bind_shorter fun r h ↦ hlen rfl (length_readLetters_le h)

/-- A text is read whole when only blanks follow its value. -/
theorem parse_eq_ok_iff {s : List Char} {v : Value} :
    parse s = .ok v ↔ ∃ r, plain (readValue depthLimit s) = .ok (v, r) ∧ skipSpace r = [] := by
  unfold parse readText plain
  cases readValue depthLimit s with
  | error e => simp [bind, Except.bind, Except.map]
  | ok p =>
    obtain ⟨w, r, hr⟩ := p
    simp only [bind, Except.bind, Except.map, Except.ok.injEq, Prod.mk.injEq]
    cases hspace : skipSpace r with
    | nil =>
      constructor
      · rintro h
        exact ⟨r, ⟨Except.ok.inj h, rfl⟩, hspace⟩
      · rintro ⟨t, ⟨rfl, -⟩, -⟩
        rfl
    | cons c t => simp [stopBefore, hspace]

end ChangeReview.Json
