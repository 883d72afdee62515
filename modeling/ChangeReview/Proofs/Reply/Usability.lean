import ChangeReview.Proofs.Json.Members
import ChangeReview.Proofs.Text.Trimming
import ChangeReview.Reply.Review

/-!
# Fields that cannot be used

A field of a reply that cannot be used counts as absent: reading gives the same without it, and a
file is looked up under its second name. The location is the exception. Its second name is looked
up only when the first is absent, so a location that cannot be used hides a line that can.
-/

namespace ChangeReview.Reply

open Json Text

/-! ## What a field can hold -/

/-- What can be used for a field. -/
inductive FieldKind where
  /-- A text that is not blank. -/
  | text
  /-- A text that is not blank, or a number. -/
  | textOrNumber
  /-- A name that is read as one of several choices. -/
  | choice (reads : String → Bool)
  | items
  /-- A number, or a text that is one. -/
  | score

/-- Whether a value can be used for a field. -/
def FieldKind.accepts : FieldKind → Value → Bool
  | .text, .string s | .textOrNumber, .string s => !decide (AllBlank s.toList)
  | .choice reads, .string s => reads s
  | .score, .string s => (Binary64.ofText? (trim s.toList)).isSome
  | .textOrNumber, .number _ | .score, .number _ | .items, .array _ => true
  | _, _ => false

/-- The fields of an issue. -/
def issueFields : List (String × FieldKind) := [
  ("type", .choice fun s ↦ (IssueType.ofText? s).isSome),
  ("title", .text),
  ("description", .text),
  ("file", .text),
  ("filename", .text),
  ("location", .textOrNumber),
  ("line", .textOrNumber),
  ("severity", .choice fun s ↦ (Severity.ofText? s).isSome),
  ("cwe", .textOrNumber),
  ("confidence", .choice fun s ↦ (Confidence.ofText? s).isSome),
  ("exploitability", .choice fun s ↦ (Exploitability.ofText? s).isSome)]

/-- The fields of a whole reply. -/
def replyFields : List (String × FieldKind) := [
  ("issues", .items),
  ("recommendations", .items),
  ("securityScore", .score)]

/-- Of the fields, only those are dropped whose values cannot be used. -/
def DropsUnusable (fields : List (String × FieldKind)) (o : Members) (dropped : String → Bool) :
    Prop :=
  ∀ field ∈ fields, dropped field.1 → ∀ v ∈ o.get? field.1, field.2.accepts v = false

instance (fields : List (String × FieldKind)) (o : Members) (dropped : String → Bool) :
    Decidable (DropsUnusable fields o dropped) :=
  inferInstanceAs (Decidable (∀ field ∈ fields, _))

/-! ## Readers of single values -/

/-- A text is usable unless it is blank. -/
theorem isSome_usableText? (s : String) :
    (usableText? s).isSome = !decide (AllBlank s.toList) := by
  obtain ⟨x, y, hs, hx, hy⟩ := append_trim s.toList
  have hempty : (trimmed s).isEmpty = true ↔ AllBlank s.toList := by
    rw [trimmed, String.isEmpty_iff, String.ofList_eq_empty_iff]
    constructor
    · intro hnil
      rw [hs, hnil, List.append_nil, allBlank_append]
      exact ⟨hx, hy⟩
    · intro hblank
      rw [hs, allBlank_append, allBlank_append] at hblank
      exact eq_nil_of_trim_right (t := []) rfl hblank.1.2
  rw [usableText?]
  split
  · next h => simp [hempty.mp h]
  · next h =>
    have hnot : ¬ AllBlank s.toList := fun hblank ↦ h (hempty.mpr hblank)
    simp [hnot]

/-- The text of a location, from a text or the number of a line. -/
def placeText? : Value → Option String
  | .string s => usableText? s
  | .number n => some ("Line " ++ n.text)
  | _ => none

/-- The name of a weakness, from a text or its number. -/
def weaknessText? : Value → Option String
  | .string s => usableText? s
  | .number n => some ("CWE-" ++ n.text)
  | _ => none

theorem isSome_text (v : Value) :
    (v.string?.bind usableText?).isSome = FieldKind.text.accepts v := by
  cases v with
  | string s =>
    rw [Value.string?, Option.bind_some, isSome_usableText?]
    rfl
  | _ => rfl

theorem isSome_choice {α : Type} (ofText? : String → Option α) (v : Value) :
    (v.string?.bind ofText?).isSome =
      (FieldKind.choice fun s ↦ (ofText? s).isSome).accepts v := by
  cases v <;> rfl

theorem isSome_placeText? (v : Value) :
    (placeText? v).isSome = FieldKind.textOrNumber.accepts v := by
  cases v with
  | string s =>
    rw [placeText?, isSome_usableText?]
    rfl
  | _ => rfl

theorem isSome_weaknessText? (v : Value) :
    (weaknessText? v).isSome = FieldKind.textOrNumber.accepts v := by
  cases v with
  | string s =>
    rw [weaknessText?, isSome_usableText?]
    rfl
  | _ => rfl

theorem isSome_items? (v : Value) : v.items?.isSome = FieldKind.items.accepts v := by
  cases v <;> rfl

theorem isSome_scoreOfValue? (v : Value) :
    (scoreOfValue? v).isSome = FieldKind.score.accepts v := by
  cases v with
  | string s => exact Option.isSome_map
  | _ => rfl

/-! ## Readers of fields -/

section

variable {fields : List (String × FieldKind)} {o : Members} {dropped : String → Bool}
  {key : String} {kind : FieldKind} {β : Type} {read : Value → Option β}

/-- A reader that takes the values that can be used finds nothing in another. -/
theorem eq_none_of_accepts (hread : ∀ v, (read v).isSome = kind.accepts v) {v : Value}
    (hv : kind.accepts v = false) : read v = none := by
  rwa [← hread, Option.isSome_eq_false_iff, Option.isNone_iff_eq_none] at hv

/-- A field reads the same when values that cannot be used are dropped. -/
theorem bind_get?_without (h : DropsUnusable fields o dropped) (hfield : (key, kind) ∈ fields)
    (hread : ∀ v, (read v).isSome = kind.accepts v) :
    ((o.without dropped).get? key).bind read = (o.get? key).bind read := by
  rw [Members.get?_without]
  split
  · next hdropped =>
    cases hv : o.get? key with
    | none => rfl
    | some v => exact (eq_none_of_accepts hread (h (key, kind) hfield hdropped v hv)).symm
  · rfl

end

section

variable {o : Members} {dropped : String → Bool} (h : DropsUnusable issueFields o dropped)
include h

theorem text?_without (key : String) (hfield : (key, .text) ∈ issueFields) :
    text? (o.without dropped) key = text? o key := by
  rw [text?, text?, Option.bind_assoc, Option.bind_assoc]
  exact bind_get?_without h hfield isSome_text

theorem choice?_without {α : Type} (ofText? : String → Option α) (key : String)
    (hfield : (key, .choice fun s ↦ (ofText? s).isSome) ∈ issueFields) :
    choice? ofText? (o.without dropped) key = choice? ofText? o key := by
  rw [choice?, choice?, Option.bind_assoc, Option.bind_assoc]
  exact bind_get?_without h hfield (isSome_choice ofText?)

end

theorem cwe?_eq (o : Members) : cwe? o = (o.get? "cwe").bind weaknessText? := by
  unfold cwe?
  cases o.get? "cwe" with
  | none => rfl
  | some v => cases v <;> simp only [Option.bind_some, weaknessText?]

/-! ## Locations -/

theorem location_eq (o : Members) :
    location o =
      (((o.get? "location").or (o.get? "line")).bind placeText?).getD unknownLocation := by
  rw [location, Option.orElse_eq_or]
  cases (o.get? "location").or (o.get? "line") with
  | none => rfl
  | some v =>
    cases v <;> simp only [Option.bind_some, placeText?, Option.getD_some, Option.getD_none]

/-- A location that cannot be used stands beside a line that can. -/
structure HidesLine (o : Members) : Prop where
  location : ∃ v ∈ o.get? "location", FieldKind.textOrNumber.accepts v = false
  line : ∃ v ∈ o.get? "line", FieldKind.textOrNumber.accepts v = true

/-- Whatever the line says, a location that cannot be used is unknown. -/
theorem location_of_unusable {o : Members} {v : Value} (hv : v ∈ o.get? "location")
    (hunusable : FieldKind.textOrNumber.accepts v = false) : location o = unknownLocation := by
  rw [location_eq, Option.mem_def.mp hv, Option.some_or, Option.bind_some,
    eq_none_of_accepts isSome_placeText? hunusable, Option.getD_none]

/-- Where there is no location, the line stands in. -/
theorem location_of_line {o : Members} (h : o.get? "location" = none) :
    location o = ((o.get? "line").bind placeText?).getD unknownLocation := by
  rw [location_eq, h, Option.none_or]

section

variable {o : Members} {dropped : String → Bool} (h : DropsUnusable issueFields o dropped)
include h

/-- The line reads the same. -/
theorem bind_line_without :
    ((o.without dropped).get? "line").bind placeText? = (o.get? "line").bind placeText? :=
  bind_get?_without h (by simp [issueFields]) isSome_placeText?

/-- The location reads the same, unless a location that hides a line is dropped. -/
theorem location_without (hhides : ¬ (HidesLine o ∧ dropped "location")) :
    location (o.without dropped) = location o := by
  cases hv : o.get? "location" with
  | none =>
    have hnone : (o.without dropped).get? "location" = none := by
      rw [Members.get?_without, hv, ite_self]
    rw [location_of_line hnone, location_of_line hv, bind_line_without h]
  | some v =>
    cases hdropped : dropped "location" with
    | false =>
      rw [location_eq, location_eq, hv, Members.get?_without_of_kept hdropped hv, Option.some_or,
        Option.some_or]
    | true =>
      have hunusable : FieldKind.textOrNumber.accepts v = false :=
        h ("location", .textOrNumber) (by simp [issueFields]) hdropped v hv
      have hnone : (o.without dropped).get? "location" = none := by
        rw [Members.get?_without, if_pos hdropped]
      have hline : (o.get? "line").bind placeText? = none := by
        rw [Option.bind_eq_none_iff]
        intro w hw
        apply eq_none_of_accepts isSome_placeText?
        rw [Bool.eq_false_iff]
        exact fun haccepts ↦ hhides ⟨⟨⟨v, hv, hunusable⟩, ⟨w, hw, haccepts⟩⟩, hdropped⟩
      rw [location_of_line hnone, bind_line_without h, hline, location_of_unusable hv hunusable,
        Option.getD_none]

/-- When a location that hides a line is dropped, the line comes to light. -/
theorem placeText?_of_hidesLine (hhides : HidesLine o) (hdropped : dropped "location") {v : Value}
    (hv : v ∈ o.get? "line") : placeText? v = some (location (o.without dropped)) := by
  have hnone : (o.without dropped).get? "location" = none := by
    rw [Members.get?_without, if_pos hdropped]
  obtain ⟨w, hw, haccepts⟩ := hhides.line
  obtain rfl : v = w := Option.mem_unique hv hw
  rw [← isSome_placeText?] at haccepts
  obtain ⟨place, hplace⟩ := Option.isSome_iff_exists.mp haccepts
  rw [location_of_line hnone, bind_line_without h, Option.mem_def.mp hv, Option.bind_some, hplace,
    Option.getD_some]

/-! ## Issues and replies -/

/-- But for the location, an issue reads the same. -/
theorem issueOfObject_without :
    issueOfObject (o.without dropped) =
      { issueOfObject o with location := location (o.without dropped) } := by
  have htype := choice?_without h IssueType.ofText? "type" (by simp [issueFields])
  have htitle := text?_without h "title" (by simp [issueFields])
  have hdescription := text?_without h "description" (by simp [issueFields])
  have hfile := text?_without h "file" (by simp [issueFields])
  have hfilename := text?_without h "filename" (by simp [issueFields])
  have hseverity := choice?_without h Severity.ofText? "severity" (by simp [issueFields])
  have hcwe : cwe? (o.without dropped) = cwe? o := by
    rw [cwe?_eq, cwe?_eq]
    exact bind_get?_without h (by simp [issueFields]) isSome_weaknessText?
  have hconfidence := choice?_without h Confidence.ofText? "confidence" (by simp [issueFields])
  have hexploitability :=
    choice?_without h Exploitability.ofText? "exploitability" (by simp [issueFields])
  simp only [issueOfObject, htype, htitle, hdescription, hfile, hfilename, hseverity, hcwe,
    hconfidence, hexploitability]

end

theorem itemsOf_without {o : Members} {dropped : String → Bool}
    (h : DropsUnusable replyFields o dropped) (key : String)
    (hfield : (key, .items) ∈ replyFields) : itemsOf (o.without dropped) key = itemsOf o key := by
  rw [itemsOf, itemsOf, bind_get?_without h hfield isSome_items?]

theorem ofObject_without {o : Members} {dropped : String → Bool}
    (h : DropsUnusable replyFields o dropped) :
    ModelReview.ofObject (o.without dropped) = ModelReview.ofObject o := by
  have hissues := itemsOf_without h "issues" (by simp [replyFields])
  have hrecommendations := itemsOf_without h "recommendations" (by simp [replyFields])
  have hscore : ((o.without dropped).get? "securityScore").bind scoreOfValue? =
      (o.get? "securityScore").bind scoreOfValue? :=
    bind_get?_without h (by simp [replyFields]) isSome_scoreOfValue?
  rw [ModelReview.ofObject, hissues, hrecommendations, hscore]
  rfl

/-- The file is looked up under its second name when the first cannot be used. -/
theorem file_of_filename {o : Members} {s : String}
    (hfile : ∀ v ∈ o.get? "file", FieldKind.text.accepts v = false)
    (hs : o.get? "filename" = some (.string s)) (hblank : ¬ AllBlank s.toList) :
    (issueOfObject o).file = trimmed s := by
  have hnone : text? o "file" = none := by
    rw [text?, Option.bind_assoc, Option.bind_eq_none_iff]
    exact fun v hv ↦ eq_none_of_accepts isSome_text (hfile v hv)
  have husable : usableText? s = some (trimmed s) := by
    have hsome := isSome_usableText? s
    rw [usableText?] at hsome ⊢
    split at hsome
    · simp [hblank] at hsome
    · next h => rw [if_neg h]
  have hname : text? o "filename" = some (trimmed s) := by
    rw [text?, hs, Option.bind_some, Value.string?, Option.bind_some, husable]
  rw [issueOfObject, hnone, hname]
  rfl

/-- Dropping values that cannot be used changes nothing in what is read, from an issue or from a
whole reply, and the second name of the file is used when the first cannot be. But a location that
cannot be used hides a line that can: the location is unknown, and it becomes that of the line when
the other is dropped. -/
theorem reading_of_unusable (o : Members) :
    (∀ dropped : String → Bool, DropsUnusable issueFields o dropped →
      (¬ (HidesLine o ∧ dropped "location") →
        issueOfObject (o.without dropped) = issueOfObject o) ∧
      (HidesLine o → dropped "location" →
        issueOfObject o = { issueOfObject (o.without dropped) with location := unknownLocation } ∧
        ∀ v ∈ o.get? "line", placeText? v = some (issueOfObject (o.without dropped)).location)) ∧
    (∀ s : String, (∀ v ∈ o.get? "file", FieldKind.text.accepts v = false) →
      o.get? "filename" = some (.string s) → ¬ AllBlank s.toList →
      (issueOfObject o).file = trimmed s) ∧
    (∀ v : Value, o.get? "location" = none → o.get? "line" = some v →
      FieldKind.textOrNumber.accepts v → placeText? v = some (issueOfObject o).location) ∧
    ∀ dropped : String → Bool, DropsUnusable replyFields o dropped →
      ModelReview.ofObject (o.without dropped) = ModelReview.ofObject o := by
  refine ⟨fun dropped h ↦ ⟨?same, ?hidden⟩, fun s ↦ file_of_filename, ?line,
    fun dropped ↦ ofObject_without⟩
  case same =>
    intro hhides
    rw [issueOfObject_without h, location_without h hhides]
    simp only [issueOfObject]
  case hidden =>
    intro hhides hdropped
    obtain ⟨v, hv, hunusable⟩ := hhides.location
    refine ⟨?_, fun v hv ↦ placeText?_of_hidesLine h hhides hdropped hv⟩
    rw [issueOfObject_without h, ← location_of_unusable hv hunusable]
    simp only [issueOfObject]
  case line =>
    intro v hnone hv haccepts
    rw [← isSome_placeText?] at haccepts
    obtain ⟨place, hplace⟩ := Option.isSome_iff_exists.mp haccepts
    rw [hplace, issueOfObject, location_of_line hnone, hv, Option.bind_some, hplace,
      Option.getD_some]

/-- An issue with a number for its file and a blank title, a severity that does not exist and a line
for its location reads the same without them. -/
theorem reading_of_unusable_severity :
    let o : Members := [("file", .number (.natural 5)), ("filename", .string " a.js"),
      ("line", .number (.natural 7)), ("severity", .string "urgent"), ("title", .string " ")]
    let dropped : String → Bool := fun key ↦ ["file", "severity", "title"].contains key
    DropsUnusable issueFields o dropped ∧ ¬ (HidesLine o ∧ dropped "location") ∧
      o.without dropped = [("filename", .string " a.js"), ("line", .number (.natural 7))] ∧
      issueOfObject (o.without dropped) = issueOfObject o ∧ (issueOfObject o).file = "a.js" ∧
      (issueOfObject o).location = "Line 7" := by
  intro o dropped
  have hdrops : DropsUnusable issueFields o dropped := by decide +kernel
  have hhides : ¬ (HidesLine o ∧ dropped "location") := fun h ↦ absurd h.2 (by decide)
  obtain ⟨hissue, hfile, hline, -⟩ := reading_of_unusable o
  refine ⟨hdrops, hhides, rfl, (hissue dropped hdrops).1 hhides, ?_, ?_⟩
  · exact (hfile " a.js" (by decide) rfl (by decide)).trans (by decide)
  · exact (Option.some.inj (hline _ rfl rfl rfl)).symm

/-- A location that is `null` hides the line: the location is unknown, and it is the line when the
`null` is dropped. -/
theorem issueOfObject_null_location :
    let o : Members := [("line", .number (.natural 7)), ("location", .null)]
    DropsUnusable issueFields o (· == "location") ∧
      (issueOfObject o).location = "Location unknown" ∧
      (issueOfObject (o.without (· == "location"))).location = "Line 7" := by
  intro o
  exact ⟨by decide, rfl, by decide +kernel⟩

end ChangeReview.Reply
