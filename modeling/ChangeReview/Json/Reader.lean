import ChangeReview.Json.Value
import ChangeReview.Json.Failure

/-!
# Reading strict JSON

A reader takes the text that is left and returns a value with a shorter rest, or a stop. Blank
characters are space, tab, line feed and carriage return. Arrays and objects nest at most
`depthLimit - 1` deep.

A number is read into an integer as long as it fits 64 bits. Any other number is the double
nearest to its first digits, multiplied or divided by a power of ten and rounded again.
-/

namespace ChangeReview.Json

/-- The nesting depth at which reading stops. -/
def depthLimit : Nat := 128

/-- One more than the largest integer that stays an integer. -/
def integerBound : Nat := Nat.pow 2 64

/-- A rest that is shorter than the text. -/
abbrev Rest (s : List Char) := { r : List Char // r.length < s.length }

/-- Blank between tokens. -/
def isSpace (c : Char) : Bool := c == ' ' || c == '\n' || c == '\t' || c == '\r'

/-- The text after its leading blanks. -/
def skipSpace : List Char → List Char
  | [] => []
  | c :: rest => if isSpace c then skipSpace rest else c :: rest

theorem length_skipSpace_le (s : List Char) : (skipSpace s).length ≤ s.length := by
  induction s with
  | nil => simp [skipSpace]
  | cons c rest ih =>
    unfold skipSpace
    split
    · simp only [List.length_cons]; omega
    · exact Nat.le_refl _

/-- Stop at the text `rest`, looking at its next byte. -/
def stopBefore {α : Type} (cause : Cause) (rest : List Char) : Except Stop α :=
  .error ⟨cause, rest, 1⟩

/-- Stop at the text `rest`, all before it being read. -/
def stopAt {α : Type} (cause : Cause) (rest : List Char) : Except Stop α :=
  .error ⟨cause, rest, 0⟩

/-! ## Words -/

/-- The rest after the letters of a word. -/
def readLetters : List Char → List Char → Except Stop (List Char)
  | [], s => .ok s
  | _ :: _, [] => stopAt .endInValue []
  | w :: ws, c :: rest => if c = w then readLetters ws rest else stopBefore .expectedWord (c :: rest)

theorem length_readLetters_le {w s r : List Char} (h : readLetters w s = .ok r) :
    r.length ≤ s.length := by
  induction w generalizing s with
  | nil => simp only [readLetters, Except.ok.injEq] at h; simp [h]
  | cons a ws ih =>
    cases s with
    | nil => simp [readLetters, stopAt] at h
    | cons c rest =>
      simp only [readLetters] at h
      split at h
      · have := ih h
        simp only [List.length_cons]; omega
      · simp [stopBefore] at h

/-! ## Numbers -/

/-- The value of a decimal digit. -/
def digit? (c : Char) : Option Nat := if c.isDigit then some (c.toNat - 48) else none

/-- The text after its leading digits, and their number. -/
def skipDigits : List Char → Nat × List Char
  | [] => (0, [])
  | c :: rest => if c.isDigit then let (n, r) := skipDigits rest; (n + 1, r) else (0, c :: rest)

/-- Read digits onto a significand while it stays below the integer bound: the significand, the
number of digits taken, and the rest. -/
def takeDigits (significand : Nat) : List Char → Nat × Nat × List Char
  | [] => (significand, 0, [])
  | c :: rest =>
    match digit? c with
    | none => (significand, 0, c :: rest)
    | some d =>
      if significand * 10 + d < integerBound then
        let t := takeDigits (significand * 10 + d) rest
        (t.1, t.2.1 + 1, t.2.2)
      else (significand, 0, c :: rest)

/-- A power of ten as a double, up to `10^308`. -/
def powerOfTen (e : Nat) : Binary64 := Binary64.ofNat (Nat.pow 10 e)

/-- The largest power of ten among the doubles has this exponent. -/
def largestPower : Nat := 308

/-- Divide a number below `2^64` by a power of ten, in steps of at most the largest power. Two such
steps leave zero. -/
def divideByPower (x : Binary64) (e : Nat) : Option Binary64 :=
  if e ≤ largestPower then x.div? (powerOfTen e)
  else if e ≤ 2 * largestPower then
    (x.div? (powerOfTen largestPower)).bind (·.div? (powerOfTen (e - largestPower)))
  else some (Binary64.zero false)

/-- `significand * 10^exponent`: the significand is rounded first, the result again. -/
def decimal? (negative : Bool) (significand : Nat) (exponent : Int) : Option Binary64 :=
  let f := Binary64.ofNat significand
  let magnitude :=
    match exponent with
    | .ofNat e =>
      if e ≤ largestPower then f.mul? (powerOfTen e) else if f.isZero then some f else none
    | .negSucc e => divideByPower f (e + 1)
  magnitude.map fun x => { x with negative }

/-- A double, or a stop when it is too large. -/
def realNumber (negative : Bool) (significand : Nat) (exponent : Int) (rest : List Char) :
    Except Stop (Number × List Char) :=
  match decimal? negative significand exponent with
  | some x => .ok (.real x, rest)
  | none => stopAt .numberOutOfRange rest

/-- The largest exponent that is counted. -/
def exponentBound : Nat := Nat.pow 2 31

/-- Read the digits of an exponent. `none` when it leaves the counted range; the rest then starts
after the digit that left it. -/
def takeExponent (e : Nat) : List Char → Option Nat × List Char
  | [] => (some e, [])
  | c :: rest =>
    match digit? c with
    | none => (some e, c :: rest)
    | some d =>
      if e * 10 + d < exponentBound then takeExponent (e * 10 + d) rest else (none, rest)

/-- The sign of an exponent. -/
def takeSign : List Char → Bool × List Char
  | '+' :: rest => (true, rest)
  | '-' :: rest => (false, rest)
  | s => (true, s)

/-- Read an exponent, after its letter. -/
def readExponent (negative : Bool) (significand : Nat) (start : Int) (s : List Char) :
    Except Stop (Number × List Char) :=
  let (positive, s) := takeSign s
  match s with
  | [] => stopAt .endInValue []
  | c :: rest =>
    match digit? c with
    | none => stopBefore .invalidNumber (c :: rest)
    | some d =>
      match takeExponent d rest with
      | (some e, rest) =>
        realNumber negative significand (if positive then start + e else start - e) rest
      | (none, rest) =>
        if positive ∧ significand ≠ 0 then stopAt .numberOutOfRange rest
        else .ok (.real (Binary64.zero negative), (skipDigits rest).2)

/-- Read what may follow the digits of a double: an exponent. -/
def readTail (negative : Bool) (significand : Nat) (exponent : Int) (s : List Char) :
    Except Stop (Number × List Char) :=
  match s with
  | 'e' :: rest => readExponent negative significand exponent rest
  | 'E' :: rest => readExponent negative significand exponent rest
  | s => realNumber negative significand exponent s

/-- Read a fraction, after its point. Digits that no longer fit the significand are dropped. -/
def readFraction (negative : Bool) (significand : Nat) (exponent : Int) (s : List Char) :
    Except Stop (Number × List Char) :=
  let (significand, taken, rest) := takeDigits significand s
  match rest with
  | [] => if taken = 0 then stopBefore .endInValue []
          else readTail negative significand (exponent - taken) []
  | c :: _ =>
    if c.isDigit then readTail negative significand (exponent - taken) (skipDigits rest).2
    else if taken = 0 then stopBefore .invalidNumber rest
    else readTail negative significand (exponent - taken) rest

/-- Read what may follow the digits of an integer: a fraction or an exponent. -/
def readAfterDigits (negative : Bool) (significand : Nat) (s : List Char) :
    Except Stop (Number × List Char) :=
  match s with
  | '.' :: rest => readFraction negative significand 0 rest
  | 'e' :: rest => readExponent negative significand 0 rest
  | 'E' :: rest => readExponent negative significand 0 rest
  | s =>
    if !negative then .ok (.natural significand, s)
    else if 0 < significand ∧ significand ≤ Nat.pow 2 63 then .ok (.negative significand, s)
    else .ok (.real { Binary64.ofNat significand with negative := true }, s)

/-- Read a number whose digits leave the integers: the digits left only raise the exponent. -/
def readLongInteger (negative : Bool) (significand : Nat) (s : List Char) :
    Except Stop (Number × List Char) :=
  let (dropped, rest) := skipDigits s
  match rest with
  | '.' :: rest => readFraction negative significand dropped rest
  | rest => readTail negative significand dropped rest

/-- Read a number, after its sign. -/
def readNumber (negative : Bool) (s : List Char) : Except Stop (Number × List Char) :=
  match s with
  | [] => stopAt .endInValue []
  | '0' :: rest =>
    match rest with
    | c :: _ => if c.isDigit then stopBefore .invalidNumber rest else readAfterDigits negative 0 rest
    | [] => readAfterDigits negative 0 []
  | c :: rest =>
    match digit? c with
    | none => stopBefore .invalidNumber (c :: rest)
    | some d =>
      let (significand, _, rest) := takeDigits d rest
      match rest with
      | c :: _ =>
        if c.isDigit then readLongInteger negative significand rest
        else readAfterDigits negative significand rest
      | [] => readAfterDigits negative significand []

/-! ## Strings -/

/-- The value of a hexadecimal digit. -/
def hexValue? (c : Char) : Option Nat :=
  if c.isDigit then some (c.toNat - 48)
  else if 'a' ≤ c ∧ c ≤ 'f' then some (c.toNat - 87)
  else if 'A' ≤ c ∧ c ≤ 'F' then some (c.toNat - 55)
  else none

/-- Read four hexadecimal digits. Four bytes are looked at, whatever they are. -/
def readHex (s : List Char) : Except Stop (Nat × List Char) :=
  match s with
  | a :: b :: c :: d :: rest =>
    match hexValue? a, hexValue? b, hexValue? c, hexValue? d with
    | some a, some b, some c, some d => .ok (a * 4096 + b * 256 + c * 16 + d, rest)
    | _, _, _, _ => .error ⟨.invalidEscape, s, 4⟩
  | s => if 4 ≤ byteCount s then .error ⟨.invalidEscape, s, 4⟩ else stopAt .endInString []

/-- Read the escape for the second half of a surrogate pair. -/
def readPair (high : Nat) (s : List Char) : Except Stop (Char × List Char) :=
  match s with
  | [] => stopAt .endInString []
  | '\\' :: [] => stopAt .endInString []
  | '\\' :: 'u' :: rest => do
    let (low, rest) ← readHex rest
    if low < 0xDC00 ∨ 0xDFFF < low then stopAt .loneSurrogate rest
    else .ok (Char.ofNat ((high - 0xD800) * 1024 + (low - 0xDC00) + 0x10000), rest)
  | '\\' :: rest => stopBefore .unpairedEscape rest
  | s => stopBefore .unpairedEscape s

/-- Read an escape, after its backslash. -/
def readEscape (s : List Char) : Except Stop (Char × List Char) :=
  match s with
  | [] => stopAt .endInString []
  | '"' :: rest => .ok ('"', rest)
  | '\\' :: rest => .ok ('\\', rest)
  | '/' :: rest => .ok ('/', rest)
  | 'b' :: rest => .ok ('\x08', rest)
  | 'f' :: rest => .ok ('\x0c', rest)
  | 'n' :: rest => .ok ('\n', rest)
  | 'r' :: rest => .ok ('\r', rest)
  | 't' :: rest => .ok ('\t', rest)
  | 'u' :: rest => do
    let (n, rest) ← readHex rest
    if 0xDC00 ≤ n ∧ n ≤ 0xDFFF then stopAt .loneSurrogate rest
    else if n < 0xD800 ∨ 0xDBFF < n then .ok (Char.ofNat n, rest)
    else readPair n rest
  | s => stopBefore .invalidEscape s

theorem length_readHex_lt {s r : List Char} {n : Nat} (h : readHex s = .ok (n, r)) :
    r.length < s.length := by
  unfold readHex at h
  split at h
  · split at h
    · simp only [Except.ok.injEq, Prod.mk.injEq] at h
      obtain ⟨_, rfl⟩ := h
      simp only [List.length_cons]; omega
    · simp at h
  · split at h <;> simp [stopAt] at h

theorem length_readPair_lt {n : Nat} {s r : List Char} {c : Char} (h : readPair n s = .ok (c, r)) :
    r.length < s.length := by
  unfold readPair at h
  split at h
  · simp [stopAt] at h
  · simp [stopAt] at h
  · rename_i rest
    cases hx : readHex rest with
    | error e => simp [hx, bind, Except.bind] at h
    | ok p =>
      obtain ⟨low, r'⟩ := p
      have := length_readHex_lt hx
      simp only [hx, bind, Except.bind] at h
      split at h
      · simp [stopAt] at h
      · simp only [Except.ok.injEq, Prod.mk.injEq] at h
        obtain ⟨_, rfl⟩ := h
        simp only [List.length_cons]; omega
  · simp [stopBefore] at h
  · simp [stopBefore] at h

theorem length_readEscape_lt {s r : List Char} {c : Char} (h : readEscape s = .ok (c, r)) :
    r.length < s.length := by
  unfold readEscape at h
  split at h
  all_goals first
    | (simp [stopAt, stopBefore] at h; done)
    | (simp only [Except.ok.injEq, Prod.mk.injEq] at h
       obtain ⟨_, rfl⟩ := h
       simp)
    | skip
  rename_i rest
  cases hx : readHex rest with
  | error e => simp [hx, bind, Except.bind] at h
  | ok p =>
    obtain ⟨n, r'⟩ := p
    have := length_readHex_lt hx
    simp only [hx, bind, Except.bind] at h
    split at h
    · simp [stopAt] at h
    · split at h
      · simp only [Except.ok.injEq, Prod.mk.injEq] at h
        obtain ⟨_, rfl⟩ := h
        simp only [List.length_cons]; omega
      · have := length_readPair_lt h
        simp only [List.length_cons]; omega

/-- Read a string, after its opening quote. `read` holds the characters so far, last first. -/
def readString (read : List Char) (s : List Char) : Except Stop (String × List Char) :=
  match s with
  | [] => stopAt .endInString []
  | '"' :: rest => .ok (String.ofList read.reverse, rest)
  | '\\' :: rest =>
    match _h : readEscape rest with
    | .error stop => .error stop
    | .ok (c, rest') => readString (c :: read) rest'
  | c :: rest =>
    if c.toNat < 0x20 then stopBefore .controlCharacter (c :: rest)
    else readString (c :: read) rest
termination_by s.length
decreasing_by
  · have := length_readEscape_lt _h
    simp only [List.length_cons]; omega
  · simp

theorem length_readString_lt {a s r : List Char} {t : String} (h : readString a s = .ok (t, r)) :
    r.length < s.length := by
  fun_induction readString a s with
  | case1 => simp [stopAt] at h
  | case2 =>
    simp only [Except.ok.injEq, Prod.mk.injEq] at h
    obtain ⟨_, rfl⟩ := h
    simp
  | case3 => simp at h
  | case4 _ rest c rest' hx ih =>
    have := ih h
    have := length_readEscape_lt hx
    simp only [List.length_cons]; omega
  | case5 => simp [stopBefore] at h
  | case6 _ c rest _ _ _ ih =>
    have := ih h
    simp only [List.length_cons]; omega

/-! ## Values -/

/-- Attach the proof that the rest is shorter. -/
def shorter {α : Type} (s : List Char) (result : Except Stop (α × List Char)) :
    Except Stop (α × Rest s) :=
  match result with
  | .error stop => .error stop
  | .ok (a, r) => if h : r.length < s.length then .ok (a, ⟨r, h⟩) else stopAt .expectedValue s

/-- Reads one value. -/
abbrev Reader := (s : List Char) → Except Stop (Value × Rest s)

/-- Read the items of an array that has begun, each by `item`. `first` tells that none was read. -/
def readItems (item : Reader) (first : Bool) (read : List Value) (s : List Char) :
    Except Stop (List Value × List Char) :=
  match _hs : skipSpace s with
  | [] => stopBefore .endInList []
  | ']' :: rest => .ok (read.reverse, rest)
  | c :: rest =>
    if first then
      match item (c :: rest) with
      | .error stop => .error stop
      | .ok (v, r) => readItems item false (v :: read) r.val
    else if c = ',' then
      match _hr : skipSpace rest with
      | [] => stopBefore .endInValue []
      | ']' :: rest => stopBefore .trailingComma (']' :: rest)
      | d :: more =>
        match item (d :: more) with
        | .error stop => .error stop
        | .ok (v, r) => readItems item false (v :: read) r.val
    else stopBefore .expectedCommaOrBracket (c :: rest)
termination_by s.length
decreasing_by
  · have h₁ := length_skipSpace_le s
    have h₂ := r.property
    rw [_hs] at h₁
    omega
  · have h₁ := length_skipSpace_le s
    have h₂ := r.property
    have h₃ := length_skipSpace_le rest
    rw [_hs] at h₁
    rw [_hr] at h₃
    simp only [List.length_cons] at h₁ h₂ h₃
    omega

/-- Read a member of an object: its key, after the opening quote, then its value by `item`. -/
def readMember (item : Reader) (s : List Char) : Except Stop ((String × Value) × Rest s) :=
  match hk : readString [] s with
  | .error stop => .error stop
  | .ok (key, r) =>
    match hs : skipSpace r with
    | [] => stopBefore .endInObject []
    | ':' :: rest =>
      match hv : skipSpace rest with
      | [] => stopBefore .endInValue []
      | c :: more =>
        match item (c :: more) with
        | .error stop => .error stop
        | .ok (v, r') => .ok ((key, v), ⟨r'.val, by
            have h₁ := length_readString_lt hk
            have h₂ := length_skipSpace_le r
            have h₃ := length_skipSpace_le rest
            have h₄ := r'.property
            rw [hs] at h₂
            rw [hv] at h₃
            simp only [List.length_cons] at h₂ h₃ h₄
            omega⟩)
    | c :: rest => stopBefore .expectedColon (c :: rest)

/-- Read the members of an object that has begun, each value by `item`. -/
def readMembers (item : Reader) (first : Bool) (read : Members) (s : List Char) :
    Except Stop (Members × List Char) :=
  match _hs : skipSpace s with
  | [] => stopBefore .endInObject []
  | '\x7d' :: rest => .ok (read, rest)
  | c :: rest =>
    if first then
      if c = '"' then
        match readMember item rest with
        | .error stop => .error stop
        | .ok ((k, v), r) => readMembers item false (read.insert k v) r.val
      else stopBefore .keyNotString (c :: rest)
    else if c = ',' then
      match _hr : skipSpace rest with
      | [] => stopBefore .endInValue []
      | '\x7d' :: rest => stopBefore .trailingComma ('\x7d' :: rest)
      | '"' :: more =>
        match readMember item more with
        | .error stop => .error stop
        | .ok ((k, v), r) => readMembers item false (read.insert k v) r.val
      | d :: more => stopBefore .keyNotString (d :: more)
    else stopBefore .expectedCommaOrBrace (c :: rest)
termination_by s.length
decreasing_by
  · have h₁ := length_skipSpace_le s
    have h₂ := r.property
    rw [_hs] at h₁
    simp only [List.length_cons] at h₁ h₂
    omega
  · have h₁ := length_skipSpace_le s
    have h₂ := r.property
    have h₃ := length_skipSpace_le rest
    rw [_hs] at h₁
    rw [_hr] at h₃
    simp only [List.length_cons] at h₁ h₂ h₃
    omega

/-- Read a value that may hold `depth - 1` further levels of arrays and objects. -/
def readValue : (depth : Nat) → Reader
  | 0, s => stopBefore .tooDeep s
  | depth + 1, s =>
    match skipSpace s with
    | [] => stopBefore .endInValue []
    | 'n' :: rest => do
      let rest ← readLetters ['u', 'l', 'l'] rest
      shorter s (.ok (.null, rest))
    | 't' :: rest => do
      let rest ← readLetters ['r', 'u', 'e'] rest
      shorter s (.ok (.bool true, rest))
    | 'f' :: rest => do
      let rest ← readLetters ['a', 'l', 's', 'e'] rest
      shorter s (.ok (.bool false, rest))
    | '"' :: rest => do
      let (t, rest) ← readString [] rest
      shorter s (.ok (.string t, rest))
    | '[' :: rest => do
      if depth = 0 then stopBefore .tooDeep ('[' :: rest)
      else
        let (items, rest) ← readItems (readValue depth) true [] rest
        shorter s (.ok (.array items, rest))
    | '\x7b' :: rest => do
      if depth = 0 then stopBefore .tooDeep ('\x7b' :: rest)
      else
        let (members, rest) ← readMembers (readValue depth) true [] rest
        shorter s (.ok (.object members, rest))
    | '-' :: rest => do
      let (n, rest) ← readNumber true rest
      shorter s (.ok (.number n, rest))
    | c :: rest =>
      if c.isDigit then do
        let (n, rest) ← readNumber false (c :: rest)
        shorter s (.ok (.number n, rest))
      else stopBefore .expectedValue (c :: rest)

/-- Read a whole text: one value with blanks around it. -/
def readText (s : List Char) : Except Stop Value := do
  let (v, rest) ← readValue depthLimit s
  match skipSpace rest.val with
  | [] => .ok v
  | c :: rest => stopBefore .trailingCharacters (c :: rest)

/-- Read a whole text, with the line and column of a failure. -/
def parse (text : List Char) : Except Failure Value :=
  match readText text with
  | .ok v => .ok v
  | .error stop => .error (stop.report text)

end ChangeReview.Json
