import ChangeReview.Proofs.Text.Endings
import ChangeReview.Proofs.Text.Occurrence
import ChangeReview.Proofs.Text.Trimming
import ChangeReview.Scan.TextRule

/-!
# What the rules on plain text report

For each rule the texts it reports, by what stands in them, and that its search finds every such
text. A rule reports a text once, and the findings come in the order of the rules.
-/

namespace ChangeReview.Scan

open Text

/-! ## The texts that are reported -/

/-- A line logs, and names a secret behind that. -/
def LogsSecret (s : List Char) : Prop :=
  ∃ line ∈ splitFeeds s, ∃ a call m w b, line = a ++ call ++ m ++ w ++ b ∧
    Spells "console.log".toList call ∧ SpellsOne ["password", "token", "key", "secret"] w

/-- A text starts with the name of the machine itself, in any ASCII case. -/
def StartsLoopback (s : List Char) : Prop :=
  ∃ host rest, s = host ++ rest ∧
    (lowerAscii host = "localhost".toList ∨ lowerAscii host = "127.0.0.1".toList)

/-- Some plain address is not one of the machine itself. -/
def UsesPlainHttp (s : List Char) : Prop :=
  ∃ a scheme rest, s = a ++ scheme ++ rest ∧ Spells "http://".toList scheme ∧ ¬ StartsLoopback rest

/-- A word begins or ends between two texts. -/
def IsBoundary (before after : List Char) : Prop :=
  before.getLast?.any isWordCharacter ≠ after.head?.any isWordCharacter

/-- A weak hash function stands between word boundaries. -/
def NamesWeakHash (s : List Char) : Prop :=
  ∃ a w b, s = a ++ w ++ b ∧ SpellsOne ["md5", "sha1"] w ∧ IsBoundary a (w ++ b) ∧
    IsBoundary (a ++ w) b

/-- A text starts with the assignment of a quoted text that is not empty. -/
def StartsAssignment (s : List Char) : Prop :=
  ∃ blanks sep blanks' q text q' rest,
    s = blanks ++ sep :: (blanks' ++ q :: (text ++ q' :: rest)) ∧ AllBlank blanks ∧
    (sep = ':' ∨ sep = '=') ∧ AllBlank blanks' ∧ isQuote q ∧ text ≠ [] ∧
    (∀ c ∈ text, isQuote c = false) ∧ isQuote q'

/-- A quoted text is assigned to a password. -/
def AssignsPassword (s : List Char) : Prop :=
  ∃ a w rest, s = a ++ w ++ rest ∧ Spells "password".toList w ∧ StartsAssignment rest

/-- A quoted text is assigned to an API key. -/
def AssignsApiKey (s : List Char) : Prop :=
  ∃ a api sep key rest, s = a ++ api ++ sep ++ key ++ rest ∧ Spells "api".toList api ∧
    (sep = [] ∨ sep = ['_'] ∨ sep = ['-']) ∧ Spells "key".toList key ∧ StartsAssignment rest

/-- `eval` is called. -/
def CallsEval (s : List Char) : Prop :=
  ∃ a w blanks rest, s = a ++ w ++ blanks ++ '(' :: rest ∧ Spells "eval".toList w ∧ AllBlank blanks

/-! ## The searches find them -/

theorem logsSecret_iff {s : List Char} : logsSecret s ↔ LogsSecret s := by
  have hlog : logsSecret s = someSuffix (fun here ↦
      (afterFolded? "console.log".toList here).any fun rest ↦ someSuffix (fun t ↦
        (["password", "token", "key", "secret"].map String.toList).any fun w ↦
          (afterFolded? w t).any fun _ ↦ true) (rest.takeWhile (· ≠ '\n'))) s := by
    have hany (o : Option (List Char)) : (o.any fun _ ↦ true) = o.isSome := by cases o <;> rfl
    simp only [hany]
    refine congrArg (someSuffix · s) (funext fun here ↦ ?_)
    cases afterFolded? "console.log".toList here <;> rfl
  have hwords : ∀ word ∈ ["password", "token", "key", "secret"], IsFolded word.toList := by decide
  rw [hlog, someSuffix_afterFolded? (by decide)]
  simp only [someSuffix_iff, any_words_iff hwords, and_true]
  constructor
  · rintro ⟨a, call, rest, rfl, hcall, m, t, hline, w, b, rfl, hw⟩
    have hstart : m ++ w <+: rest.takeWhile (· ≠ '\n') := ⟨b, by rw [hline, List.append_assoc]⟩
    obtain ⟨⟨q, rfl⟩, hfree⟩ := prefix_takeWhile_iff.mp hstart
    -- the call holds no line feed either, so all three parts are on one line
    have hcallfree : '\n' ∉ call := hcall.not_mem (by decide) (by decide) (by decide)
    have hpart : call ++ (m ++ w) <:+: a ++ call ++ (m ++ w ++ q) :=
      ⟨a, q, by simp only [List.append_assoc]⟩
    obtain ⟨line, hmem, p, r, rfl⟩ := exists_infix_splitFeeds.mpr
      ⟨hpart, fun hmem ↦ (List.mem_append.mp hmem).elim hcallfree hfree⟩
    exact ⟨_, hmem, p, call, m, w, r, by simp only [List.append_assoc], hcall, hw⟩
  · rintro ⟨line, hmem, a, call, m, w, b, rfl, hcall, hw⟩
    have hpart : call ++ (m ++ w) <:+: a ++ call ++ m ++ w ++ b :=
      ⟨a, b, by simp only [List.append_assoc]⟩
    obtain ⟨⟨p, q, rfl⟩, hfree⟩ := exists_infix_splitFeeds.mp ⟨_, hmem, hpart⟩
    have hstart : m ++ w <+: (m ++ w ++ q).takeWhile (· ≠ '\n') := prefix_takeWhile_iff.mpr
      ⟨List.prefix_append _ _, fun hmem ↦ hfree (List.mem_append_right call hmem)⟩
    obtain ⟨r, hr⟩ := hstart
    exact ⟨p, call, m ++ w ++ q, by simp only [List.append_assoc], hcall, m, w ++ r,
      by rw [← hr, List.append_assoc], w, r, rfl, hw⟩

theorem startsLoopback_iff {s : List Char} : startsLoopback s ↔ StartsLoopback s := by
  have hstarts (host : List Char) : (s.take host.length).map Char.toLower = host ↔
      ∃ h rest, s = h ++ rest ∧ lowerAscii h = host := by
    constructor
    · intro h
      exact ⟨_, _, (List.take_append_drop host.length s).symm, h⟩
    · rintro ⟨h, rest, rfl, rfl⟩
      rw [length_lowerAscii, List.take_left]
      rfl
  simp only [startsLoopback, loopbackHosts, List.any_cons, List.any_nil, Bool.or_false,
    Bool.or_eq_true, beq_iff_eq, hstarts, StartsLoopback]
  constructor
  · rintro (⟨h, rest, hs, hh⟩ | ⟨h, rest, hs, hh⟩)
    · exact ⟨h, rest, hs, .inl hh⟩
    · exact ⟨h, rest, hs, .inr hh⟩
  · rintro ⟨h, rest, hs, hh | hh⟩
    · exact .inl ⟨h, rest, hs, hh⟩
    · exact .inr ⟨h, rest, hs, hh⟩

theorem usesPlainHttp_iff {s : List Char} : usesPlainHttp s ↔ UsesPlainHttp s := by
  have hsearch (rest : List Char) : rest ∈ afterEachFolded "http://".toList 0 s ↔ _ :=
    mem_afterEachFolded_iff (by decide) (by decide) (by decide)
  simp only [usesPlainHttp, List.any_eq_true, hsearch, Bool.not_eq_true', ← Bool.not_eq_true,
    startsLoopback_iff]
  constructor
  · rintro ⟨rest, ⟨a, scheme, hs, hscheme⟩, hrest⟩
    exact ⟨a, scheme, rest, hs, hscheme, hrest⟩
  · rintro ⟨a, scheme, rest, hs, hscheme, hrest⟩
    exact ⟨rest, ⟨a, scheme, hs, hscheme⟩, hrest⟩

example : usesPlainHttp "HTTP://LocalHost http://127.0.0.1:80 http://a.b".toList := by decide

/-! ### Word boundaries -/

theorem isWordCharacter_of_writes {d c : Char} (h : Writes d c) (hd : isWordCharacter d) :
    isWordCharacter c := by
  cases h with
  | plain => exact hd
  | capital letter =>
    have hascii : d.toNat < 128 := Nat.lt_of_le_of_lt (toNat_of_isLower letter).2 (by decide)
    exact forall_ascii (p := fun d ↦ d.isLower → isWordCharacter d.toUpper) (by decide) hascii
      letter
  | kelvin letter => decide +kernel
  | longS letter => decide

/-- A word that is written in a text is made of word characters. -/
theorem isWordCharacter_of_spells {word w : List Char} (h : Spells word w)
    (hword : ∀ d ∈ word, isWordCharacter d) : ∀ c ∈ w, isWordCharacter c := by
  induction h with
  | nil => simp
  | cons hc _ ih =>
    obtain ⟨hd, hword⟩ := List.forall_mem_cons.mp hword
    exact List.forall_mem_cons.mpr ⟨isWordCharacter_of_writes hc hd, ih hword⟩

theorem isWordCharacter_of_weakHash {w : List Char} (h : SpellsOne ["md5", "sha1"] w) :
    w ≠ [] ∧ ∀ c ∈ w, isWordCharacter c := by
  have hwords : ∀ word ∈ ["md5", "sha1"],
      word.toList ≠ [] ∧ word.toList.all isWordCharacter := by decide
  obtain ⟨word, hmem, hw⟩ := h
  refine ⟨?_, isWordCharacter_of_spells hw (List.all_eq_true.mp (hwords word hmem).2)⟩
  rintro rfl
  exact (hwords word hmem).1 (List.forall₂_nil_right_iff.mp hw)

/-- The search for weak hash functions finds those that no word before or behind touches, in a text
that itself may continue a word. -/
theorem namesWeakHash_iff_exists {inWord : Bool} {s : List Char} :
    namesWeakHash inWord s ↔ ∃ a w b, s = a ++ w ++ b ∧ SpellsOne ["md5", "sha1"] w ∧
      (a.getLast?.map isWordCharacter).getD inWord = false ∧ wordEnds b := by
  induction s generalizing inWord with
  | nil =>
    have hnone : ¬ ∃ a w b, [] = a ++ w ++ b ∧ SpellsOne ["md5", "sha1"] w ∧
        (a.getLast?.map isWordCharacter).getD inWord = false ∧ wordEnds b := by
      rintro ⟨a, w, b, hs, hw, -⟩
      exact (isWordCharacter_of_weakHash hw).1
        (List.append_eq_nil_iff.mp (List.append_eq_nil_iff.mp hs.symm).1).2
    exact iff_of_false (by rw [namesWeakHash]; decide) hnone
  | cons c s ih =>
    have hwords : ∀ word ∈ ["md5", "sha1"], IsFolded word.toList := by decide
    have hstep : namesWeakHash inWord (c :: s) =
        (!inWord && (["md5", "sha1"].map String.toList).any
            (fun w ↦ (afterFolded? w (c :: s)).any wordEnds) ||
          namesWeakHash (isWordCharacter c) s) := by
      rw [namesWeakHash]
      refine congrArg (!inWord && List.any _ · || _) (funext fun w ↦ ?_)
      cases afterFolded? w (c :: s) <;> rfl
    have hlast (a : List Char) : ((c :: a).getLast?.map isWordCharacter).getD inWord =
        (a.getLast?.map isWordCharacter).getD (isWordCharacter c) := by
      rw [List.getLast?_cons, Option.map_some, Option.getD_some]
      cases a.getLast? <;> rfl
    rw [hstep, Bool.or_eq_true, Bool.and_eq_true, any_words_iff hwords, ih, Bool.not_eq_true']
    constructor
    · rintro (⟨houtside, w, b, hs, hw, hb⟩ | ⟨a, w, b, rfl, hw, ha, hb⟩)
      · exact ⟨[], w, b, hs, hw, houtside, hb⟩
      · exact ⟨c :: a, w, b, rfl, hw, (hlast a).trans ha, hb⟩
    · rintro ⟨a, w, b, hs, hw, ha, hb⟩
      cases a with
      | nil => exact .inl ⟨ha, w, b, hs, hw, hb⟩
      | cons d a =>
        obtain ⟨rfl, rfl⟩ := List.cons.inj hs
        exact .inr ⟨a, w, b, rfl, hw, (hlast a).symm.trans ha, hb⟩

theorem wordEnds_eq (s : List Char) : wordEnds s = !s.head?.any isWordCharacter := by
  cases s <;> rfl

theorem namesWeakHash_iff {s : List Char} : namesWeakHash false s ↔ NamesWeakHash s := by
  have hboundaries {a w b : List Char} (hw : SpellsOne ["md5", "sha1"] w) :
      (a.getLast?.map isWordCharacter).getD false = false ∧ wordEnds b ↔
        IsBoundary a (w ++ b) ∧ IsBoundary (a ++ w) b := by
    obtain ⟨hne, hword⟩ := isWordCharacter_of_weakHash hw
    have hhead : (w ++ b).head?.any isWordCharacter = true := by
      rw [List.head?_append_of_ne_nil w hne, List.head?_eq_some_head hne, Option.any_some]
      exact hword _ (List.head_mem hne)
    have hlast : (a ++ w).getLast?.any isWordCharacter = true := by
      rw [List.getLast?_append_of_ne_nil a hne, List.getLast?_eq_some_getLast hne, Option.any_some]
      exact hword _ (List.getLast_mem hne)
    have hbefore :
        (a.getLast?.map isWordCharacter).getD false = a.getLast?.any isWordCharacter := by
      cases a.getLast? <;> rfl
    rw [IsBoundary, IsBoundary, hhead, hlast, hbefore, wordEnds_eq, Bool.not_eq_true',
      ne_comm (a := true), ne_eq, ne_eq, Bool.not_eq_true, Bool.not_eq_true]
  rw [namesWeakHash_iff_exists]
  constructor
  · rintro ⟨a, w, b, hs, hw, h⟩
    exact ⟨a, w, b, hs, hw, (hboundaries hw).mp h⟩
  · rintro ⟨a, w, b, hs, hw, h⟩
    exact ⟨a, w, b, hs, hw, (hboundaries hw).mpr h⟩

/-! ### Assignments and calls -/

theorem isBlank_quote {q : Char} (h : isQuote q) : isBlank q = false := by
  rw [isQuote, Bool.or_eq_true, beq_iff_eq, beq_iff_eq] at h
  rcases h with rfl | rfl <;> decide

theorem startsAssignedText_iff {s : List Char} : startsAssignedText s ↔ StartsAssignment s := by
  constructor
  · intro h
    unfold startsAssignedText at h
    split at h
    · next sep rest hsep =>
      rw [Bool.and_eq_true, Bool.or_eq_true, beq_iff_eq, beq_iff_eq] at h
      obtain ⟨hsign, h⟩ := h
      split at h
      · next q quoted hq =>
        simp only [Bool.and_eq_true, Bool.not_eq_true', List.isEmpty_eq_false_iff] at h
        obtain ⟨⟨hquote, htext⟩, hend⟩ := h
        obtain ⟨blanks, hs, hblanks⟩ := append_trimStart s
        obtain ⟨blanks', hrest, hblanks'⟩ := append_trimStart rest
        obtain ⟨q', after, hafter⟩ := List.exists_cons_of_ne_nil hend
        refine ⟨blanks, sep, blanks', q, _, q', after, ?_, hblanks, hsign, hblanks', hquote, htext,
          ?_, ?_⟩
        · rw [← hafter, List.takeWhile_append_dropWhile, ← hq, ← hrest, ← hsep]
          exact hs
        · intro c hc
          simpa using List.all_eq_true.mp List.all_takeWhile c hc
        · have hhead := List.head?_dropWhile_not (!isQuote ·) quoted
          rw [hafter] at hhead
          simpa using hhead
      · cases h
    · cases h
  · rintro ⟨blanks, sep, blanks', q, text, q', rest, rfl, hblanks, hsep, hblanks', hq, hne, htext,
      hq'⟩
    have hsepblank : isBlank sep = false := by
      rcases hsep with rfl | rfl <;> decide
    have hcut : (text ++ q' :: rest).takeWhile (!isQuote ·) = text ∧
        (text ++ q' :: rest).dropWhile (!isQuote ·) = q' :: rest := by
      have hpos : ∀ c ∈ text, (!isQuote c) = true := fun c hc ↦ by rw [htext c hc]; rfl
      have hneg : ¬ (!isQuote q') = true := by rw [hq']; decide
      rw [List.takeWhile_append_of_pos hpos, List.dropWhile_append_of_pos hpos,
        List.takeWhile_cons_of_neg (p := fun c ↦ !isQuote c) hneg,
        List.dropWhile_cons_of_neg (p := fun c ↦ !isQuote c) hneg, List.append_nil]
      exact ⟨rfl, rfl⟩
    rw [startsAssignedText, trimStart_blank_append hblanks hsepblank]
    simp only [trimStart_blank_append hblanks' (isBlank_quote hq), hcut, hq]
    simp [hsep, hne]

theorem assignsPassword_iff {s : List Char} : assignsPassword s ↔ AssignsPassword s := by
  have hword : IsFolded "password".toList := by decide
  simp only [assignsPassword, someSuffix_afterFolded? hword, startsAssignedText_iff]
  rfl

theorem append_afterSeparator (s : List Char) :
    ∃ sep, (sep = [] ∨ sep = ['_'] ∨ sep = ['-']) ∧ s = sep ++ afterSeparator s := by
  unfold afterSeparator
  split
  · exact ⟨['_'], .inr (.inl rfl), rfl⟩
  · exact ⟨['-'], .inr (.inr rfl), rfl⟩
  · exact ⟨[], .inl rfl, rfl⟩

theorem afterSeparator_append {sep key : List Char} (hsep : sep = [] ∨ sep = ['_'] ∨ sep = ['-'])
    (hkey : Spells "key".toList key) (rest : List Char) :
    afterSeparator (sep ++ (key ++ rest)) = key ++ rest := by
  rcases hsep with rfl | rfl | rfl
  · have hline : '_' ∉ key := hkey.not_mem (by decide) (by decide) (by decide)
    have hdash : '-' ∉ key := hkey.not_mem (by decide) (by decide) (by decide)
    cases hkey with
    | @cons _ c _ key hfirst hrest =>
      rw [List.mem_cons, not_or] at hline hdash
      unfold afterSeparator
      split
      · next h => exact absurd (List.cons.inj h).1.symm hline.1
      · next h => exact absurd (List.cons.inj h).1.symm hdash.1
      · rfl
  · rfl
  · rfl

theorem assignsApiKey_iff {s : List Char} : assignsApiKey s ↔ AssignsApiKey s := by
  have hsearch : assignsApiKey s = someSuffix (fun here ↦ (afterFolded? "api".toList here).any
      fun t ↦ (afterFolded? "key".toList (afterSeparator t)).any startsAssignedText) s := by
    refine congrArg (someSuffix · s) (funext fun here ↦ ?_)
    cases afterFolded? "api".toList here <;> rfl
  have hword : IsFolded "key".toList := by decide
  rw [hsearch, someSuffix_afterFolded? (by decide)]
  simp only [any_afterFolded?_iff hword, startsAssignedText_iff]
  constructor
  · rintro ⟨a, api, t, rfl, hapi, key, rest, ht, hkey, hrest⟩
    obtain ⟨sep, hsep, hs⟩ := append_afterSeparator t
    rw [ht] at hs
    refine ⟨a, api, sep, key, rest, ?_, hapi, hsep, hkey, hrest⟩
    rw [hs]
    simp only [List.append_assoc]
  · rintro ⟨a, api, sep, key, rest, rfl, hapi, hsep, hkey, hrest⟩
    exact ⟨a, api, sep ++ (key ++ rest), by simp only [List.append_assoc], hapi, key, rest,
      afterSeparator_append hsep hkey rest, hkey, hrest⟩

theorem callsEval_iff {s : List Char} : callsEval s ↔ CallsEval s := by
  have hcall (t : List Char) : (trimStart t).head? == some '(' ↔
      ∃ blanks rest, t = blanks ++ '(' :: rest ∧ AllBlank blanks := by
    rw [beq_iff_eq, List.head?_eq_some_iff]
    constructor
    · rintro ⟨rest, hrest⟩
      obtain ⟨blanks, ht, hblanks⟩ := append_trimStart t
      exact ⟨blanks, rest, hrest ▸ ht, hblanks⟩
    · rintro ⟨blanks, rest, rfl, hblanks⟩
      exact ⟨rest, trimStart_blank_append hblanks (by decide) rest⟩
  have hword : IsFolded "eval".toList := by decide
  simp only [callsEval, someSuffix_afterFolded? hword, hcall]
  constructor
  · rintro ⟨a, w, t, rfl, hw, blanks, rest, rfl, hblanks⟩
    exact ⟨a, w, blanks, rest, by simp only [List.append_assoc], hw, hblanks⟩
  · rintro ⟨a, w, blanks, rest, rfl, hw, hblanks⟩
    exact ⟨a, w, blanks ++ '(' :: rest, by simp only [List.append_assoc], hw, blanks, rest, rfl,
      hblanks⟩

/-! ## Findings -/

/-- A tag is among the findings of the rules that apply when it is that of such a rule. -/
theorem mem_patterns {Rule : Type} {rules : List Rule} {applies : Rule → Bool}
    {finding : Rule → Finding} {tag : String} :
    tag ∈ ((rules.filter applies).map finding).map (·.pattern) ↔
      ∃ r ∈ rules, applies r ∧ (finding r).pattern = tag := by
  simp only [List.map_map, List.mem_map, List.mem_filter, and_assoc]
  rfl

/-- The rules on plain text report exactly the texts in which what they look for stands. The
findings are among those of the rules, in their order and each at most once. -/
theorem textFindings_iff (content filename : String) :
    ("sensitiveLogging" ∈ (heuristicFindings content).map (·.pattern) ↔
      LogsSecret content.toList) ∧
    ("plaintextHttp" ∈ (heuristicFindings content).map (·.pattern) ↔
      UsesPlainHttp content.toList) ∧
    ("weakHash" ∈ (heuristicFindings content).map (·.pattern) ↔ NamesWeakHash content.toList) ∧
    ("hardcodedPassword" ∈ (fallbackFindings content filename).map (·.pattern) ↔
      AssignsPassword content.toList) ∧
    ("hardcodedApiKey" ∈ (fallbackFindings content filename).map (·.pattern) ↔
      AssignsApiKey content.toList) ∧
    ("codeInjection" ∈ (fallbackFindings content filename).map (·.pattern) ↔
      CallsEval content.toList) ∧
    (heuristicFindings content).Sublist (heuristics.map Heuristic.finding) ∧
    (fallbackFindings content filename).Sublist (fallbackRules.map (·.finding filename)) ∧
    ((heuristicFindings content).map (·.pattern)).Sublist
      ["sensitiveLogging", "plaintextHttp", "weakHash"] ∧
    ((fallbackFindings content filename).map (·.pattern)).Sublist
      ["hardcodedPassword", "hardcodedApiKey", "codeInjection"] := by
  have hheuristics : (heuristicFindings content).Sublist (heuristics.map Heuristic.finding) :=
    List.filter_sublist.map _
  have hfallback : (fallbackFindings content filename).Sublist
      (fallbackRules.map (·.finding filename)) := List.filter_sublist.map _
  refine ⟨?_, ?_, ?_, ?_, ?_, ?_, hheuristics, hfallback, hheuristics.map _, hfallback.map _⟩
  · rw [heuristicFindings, mem_patterns, ← logsSecret_iff]
    simp [heuristics, Heuristic.finding]
  · rw [heuristicFindings, mem_patterns, ← usesPlainHttp_iff]
    simp [heuristics, Heuristic.finding]
  · rw [heuristicFindings, mem_patterns, ← namesWeakHash_iff]
    simp [heuristics, Heuristic.finding]
  · rw [fallbackFindings, mem_patterns, ← assignsPassword_iff]
    simp [fallbackRules, FallbackRule.finding]
  · rw [fallbackFindings, mem_patterns, ← assignsApiKey_iff]
    simp [fallbackRules, FallbackRule.finding]
  · rw [fallbackFindings, mem_patterns, ← callsEval_iff]
    simp [fallbackRules, FallbackRule.finding]

end ChangeReview.Scan
