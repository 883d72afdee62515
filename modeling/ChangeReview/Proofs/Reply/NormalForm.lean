import Mathlib.Data.List.Basic
import ChangeReview.Proofs.Text.Numerals
import ChangeReview.Reply.Review

/-!
# The normal form of a reply

Reading a reply brings its issues into a normal form: their texts are trimmed and those that must
say something do. Written down and read again, an issue in normal form comes back as it was, with
one exception: a weakness that is the empty text is read as none. Reading never gives such a
weakness, so what was read once is read again unchanged.
-/

namespace ChangeReview.Reply

open Text Json

/-- An issue of a reply whose texts are trimmed and, but for the description, not empty. -/
structure IsNormal (i : Issue) : Prop where
  origin : i.origin = .model
  title_ne : i.title ≠ ""
  file_ne : i.file ≠ ""
  location_ne : i.location ≠ ""
  title : Unpadded i.title
  description : Unpadded i.description
  file : Unpadded i.file
  location : Unpadded i.location
  cwe : ∀ c ∈ i.cwe, Unpadded c

/-- The object that holds the issues and the recommendations of a reply. -/
def ModelReview.written (r : ModelReview) : Members :=
  .ofList [("issues", .array (r.issues.map Issue.toJson)),
    ("recommendations", .array (r.recommendations.map .string))]

/-! ## Texts -/

/-- A text that lenient reading keeps. -/
structure IsUsable (s : String) : Prop where
  unpadded : Unpadded s
  ne_empty : s ≠ ""

theorem isUsable_of_usableText? {s t : String} (h : usableText? s = some t) : IsUsable t := by
  rw [usableText?] at h
  split at h
  · exact absurd h (by simp)
  · next hne =>
    obtain rfl := Option.some.inj h
    exact ⟨unpadded_trimmed s, by simpa using hne⟩

theorem IsUsable.usableText?_eq {s : String} (h : IsUsable s) : usableText? s = some s := by
  rw [usableText?, h.unpadded.trimmed_eq, if_neg (by simpa using h.ne_empty)]

theorem isUsable_of_text? {o : Members} {key t : String} (h : text? o key = some t) :
    IsUsable t := by
  obtain ⟨s, -, hs⟩ := Option.bind_eq_some_iff.mp h
  exact isUsable_of_usableText? hs

/-- A text with a number behind it is kept. -/
theorem isUsable_append_text {s : String} (hs : ∃ c ∈ s.toList.head?, isBlank c = false)
    (n : Number) : IsUsable (s ++ n.text) where
  unpadded := unpadded_append hs n.blankFree_text n.text_ne_nil
  ne_empty h := n.text_ne_nil (by
    have hnil := congrArg String.toList h
    rw [String.toList_append] at hnil
    exact (List.append_eq_nil_iff.mp hnil).2)

/-- A default that is kept stands for a text that is not. -/
theorem isUsable_getD {x : Option String} {d : String} (hx : ∀ t, x = some t → IsUsable t)
    (hd : IsUsable d) : IsUsable (x.getD d) := by
  cases x with
  | none => exact hd
  | some t => exact hx t rfl

/-! ## What reading gives -/

theorem isUsable_location (o : Members) : IsUsable (location o) := by
  have hunknown : IsUsable unknownLocation := ⟨by decide, by decide⟩
  unfold location
  split
  · exact isUsable_getD (fun t ↦ isUsable_of_usableText?) hunknown
  · exact isUsable_append_text ⟨'L', by decide, by decide⟩ _
  · exact hunknown

theorem isUsable_of_cwe? {o : Members} {c : String} (h : cwe? o = some c) : IsUsable c := by
  unfold cwe? at h
  split at h
  · exact isUsable_of_usableText? h
  · obtain rfl := Option.some.inj h
    exact isUsable_append_text ⟨'C', by decide, by decide⟩ _
  · exact absurd h (by simp)

/-- Reading an object gives an issue in normal form. -/
theorem isNormal_issueOfObject (o : Members) : IsNormal (issueOfObject o) := by
  have htitle : IsUsable (issueOfObject o).title :=
    isUsable_getD (fun t ↦ isUsable_of_text?) ⟨by decide, by decide⟩
  have hfile : IsUsable (issueOfObject o).file := by
    refine isUsable_getD (fun t ht ↦ ?_) ⟨by decide, by decide⟩
    cases hkey : text? o "file" with
    | none =>
      rw [hkey] at ht
      exact isUsable_of_text? ht
    | some file =>
      rw [hkey] at ht
      exact isUsable_of_text? (hkey.trans ht)
  have hlocation : IsUsable (issueOfObject o).location := isUsable_location o
  have hdescription : Unpadded (issueOfObject o).description := by
    show Unpadded ((text? o "description").getD "")
    cases hkey : text? o "description" with
    | none => exact unpadded_empty
    | some t => exact (isUsable_of_text? hkey).unpadded
  exact {
    origin := rfl
    title_ne := htitle.ne_empty
    file_ne := hfile.ne_empty
    location_ne := hlocation.ne_empty
    title := htitle.unpadded
    description := hdescription
    file := hfile.unpadded
    location := hlocation.unpadded
    cwe := fun c hc ↦ (isUsable_of_cwe? hc).unpadded }

/-- Reading an object never gives an empty weakness. -/
theorem cwe_issueOfObject_ne (o : Members) : (issueOfObject o).cwe ≠ some "" :=
  fun h ↦ (isUsable_of_cwe? h).ne_empty rfl

theorem isUsable_of_mem_recommendations {o : Members} {t : String}
    (h : t ∈ (ModelReview.ofObject o).recommendations) : IsUsable t := by
  obtain ⟨s, -, hs⟩ := List.mem_filterMap.mp h
  exact isUsable_of_usableText? hs

/-! ## Reading again -/

/-- Under each key that reading looks up, an object has the JSON form of the field of an issue. -/
structure Holds (m : Members) (i : Issue) : Prop where
  issueType : m.get? "type" = some (.string i.issueType.name)
  title : m.get? "title" = some (.string i.title)
  description : m.get? "description" = some (.string i.description)
  file : m.get? "file" = some (.string i.file)
  location : m.get? "location" = some (.string i.location)
  severity : m.get? "severity" = some (.string i.severity.name)
  cwe : m.get? "cwe" = some (.ofOption (i.cwe.map .string))
  confidence : m.get? "confidence" = some (.string i.confidence.name)
  exploitability : m.get? "exploitability" = some (.string i.exploitability.name)

/-- The JSON form of an issue is an object that holds it. -/
theorem exists_holds_toJson (i : Issue) : ∃ m, i.toJson = .object m ∧ Holds m i :=
  ⟨_, rfl, {
    issueType := Members.get?_ofList _ _
    title := Members.get?_ofList _ _
    description := Members.get?_ofList _ _
    file := Members.get?_ofList _ _
    location := Members.get?_ofList _ _
    severity := Members.get?_ofList _ _
    cwe := Members.get?_ofList _ _
    confidence := Members.get?_ofList _ _
    exploitability := Members.get?_ofList _ _ }⟩

theorem choice?_of_get? {α : Type} {ofText? : String → Option α} {o : Members} {key s : String}
    (h : o.get? key = some (.string s)) : choice? ofText? o key = ofText? s := by
  rw [choice?, h]
  rfl

theorem text?_of_get? {o : Members} {key s : String} (h : o.get? key = some (.string s)) :
    text? o key = usableText? s := by
  rw [text?, h, Option.bind_some, Value.string?, Option.bind_some]

/-- An issue in normal form is read back from an object that holds it. -/
theorem issueOfObject_of_holds {m : Members} {i : Issue} (hm : Holds m i) (h : IsNormal i)
    (hcwe : i.cwe ≠ some "") : issueOfObject m = i := by
  have htype : choice? IssueType.ofText? m "type" = some i.issueType := by
    rw [choice?_of_get? hm.issueType, IssueType.ofText?_name]
  have htitle : text? m "title" = some i.title := by
    rw [text?_of_get? hm.title, IsUsable.usableText?_eq ⟨h.title, h.title_ne⟩]
  have hdescription : (text? m "description").getD "" = i.description := by
    rw [text?_of_get? hm.description]
    by_cases hempty : i.description = ""
    · rw [hempty]
      rfl
    · rw [IsUsable.usableText?_eq ⟨h.description, hempty⟩]
      rfl
  have hfile : text? m "file" = some i.file := by
    rw [text?_of_get? hm.file, IsUsable.usableText?_eq ⟨h.file, h.file_ne⟩]
  have hlocation : location m = i.location := by
    simp only [location, hm.location, Option.orElse_some,
      IsUsable.usableText?_eq ⟨h.location, h.location_ne⟩, Option.getD_some]
  have hseverity : choice? Severity.ofText? m "severity" = some i.severity := by
    rw [choice?_of_get? hm.severity, Severity.ofText?_name]
  have hweakness : cwe? m = i.cwe := by
    rw [cwe?, hm.cwe]
    cases hc : i.cwe with
    | none => rfl
    | some c =>
      have hne : c ≠ "" := fun he ↦ hcwe (by rw [hc, he])
      show usableText? c = some c
      exact IsUsable.usableText?_eq ⟨h.cwe c hc, hne⟩
  have hconfidence : choice? Confidence.ofText? m "confidence" = some i.confidence := by
    rw [choice?_of_get? hm.confidence, Confidence.ofText?_name]
  have hexploitability :
      choice? Exploitability.ofText? m "exploitability" = some i.exploitability := by
    rw [choice?_of_get? hm.exploitability, Exploitability.ofText?_name]
  rw [issueOfObject, htype, htitle, hdescription, hfile, hlocation, hseverity, hweakness,
    hconfidence, hexploitability, ← h.origin]
  rfl

/-- An issue is read back from its JSON form exactly when it is in normal form and does not name
the empty text as its weakness. -/
theorem readBack_toJson_iff (i : Issue) :
    i.toJson.members?.map issueOfObject = some i ↔ IsNormal i ∧ i.cwe ≠ some "" := by
  obtain ⟨m, hm, hholds⟩ := exists_holds_toJson i
  have hread : i.toJson.members?.map issueOfObject = some (issueOfObject m) := by rw [hm]; rfl
  rw [hread, Option.some.injEq]
  constructor
  · intro h
    rw [← h]
    exact ⟨isNormal_issueOfObject m, cwe_issueOfObject_ne m⟩
  · rintro ⟨hnormal, hcwe⟩
    exact issueOfObject_of_holds hholds hnormal hcwe

theorem itemsOf_written_issues (r : ModelReview) :
    itemsOf r.written "issues" = r.issues.map Issue.toJson := by
  rw [itemsOf, ModelReview.written, Members.get?_ofList]
  rfl

theorem itemsOf_written_recommendations (r : ModelReview) :
    itemsOf r.written "recommendations" = r.recommendations.map .string := by
  rw [itemsOf, ModelReview.written, Members.get?_ofList]
  rfl

/-- Issues that are read back one by one are read back from an object that holds them. -/
theorem issues_ofObject_written {r : ModelReview}
    (h : ∀ i ∈ r.issues, i.toJson.members?.map issueOfObject = some i) :
    (ModelReview.ofObject r.written).issues = r.issues := by
  show ((itemsOf r.written "issues").filterMap Value.members?).map issueOfObject = r.issues
  rw [itemsOf_written_issues, List.filterMap_map, List.map_filterMap]
  exact (List.filterMap_congr h).trans List.filterMap_some

theorem recommendations_ofObject_written {r : ModelReview}
    (h : ∀ t ∈ r.recommendations, IsUsable t) :
    (ModelReview.ofObject r.written).recommendations = r.recommendations := by
  show ((itemsOf r.written "recommendations").filterMap Value.string?).filterMap usableText? =
    r.recommendations
  rw [itemsOf_written_recommendations, List.filterMap_map, List.filterMap_filterMap]
  have hkeep : r.recommendations.filterMap
      (fun t ↦ ((Value.string? ∘ Value.string) t).bind usableText?) =
      r.recommendations.filterMap some := by
    apply List.filterMap_congr
    intro t ht
    rw [Function.comp_apply, Value.string?, Option.bind_some, (h t ht).usableText?_eq]
  rw [hkeep, List.filterMap_some]

/-- Reading a reply gives one issue for each object among its issues, all in normal form, and
trimmed recommendations, and reading what was read gives the same again. An issue in normal form
whose weakness is not the empty text is read back from its JSON form, and no other issue is. -/
theorem ofObject_normalizes (o : Members) :
    ((ModelReview.ofObject o).issues =
      match o.get? "issues" with
      | some (.array items) => (items.filterMap Value.members?).map issueOfObject
      | _ => []) ∧
    (∀ i ∈ (ModelReview.ofObject o).issues, IsNormal i) ∧
    (∀ t ∈ (ModelReview.ofObject o).recommendations, Unpadded t) ∧
    (ModelReview.ofObject (ModelReview.ofObject o).written).issues =
      (ModelReview.ofObject o).issues ∧
    (ModelReview.ofObject (ModelReview.ofObject o).written).recommendations =
      (ModelReview.ofObject o).recommendations ∧
    ∀ i : Issue, i.toJson.members?.map issueOfObject = some i ↔ IsNormal i ∧ i.cwe ≠ some "" := by
  have hissue : ∀ i ∈ (ModelReview.ofObject o).issues, IsNormal i ∧ i.cwe ≠ some "" := by
    intro i hi
    obtain ⟨m, -, rfl⟩ := List.mem_map.mp hi
    exact ⟨isNormal_issueOfObject m, cwe_issueOfObject_ne m⟩
  refine ⟨?_, fun i hi ↦ (hissue i hi).1, fun t ht ↦ (isUsable_of_mem_recommendations ht).unpadded,
    ?_, ?_, readBack_toJson_iff⟩
  · show ((itemsOf o "issues").filterMap Value.members?).map issueOfObject = _
    rw [itemsOf]
    cases o.get? "issues" with
    | none => rfl
    | some v => cases v <;> rfl
  · exact issues_ofObject_written fun i hi ↦ (readBack_toJson_iff i).mpr (hissue i hi)
  · exact recommendations_ofObject_written fun t ht ↦ isUsable_of_mem_recommendations ht

/-- The issues of a reply with padded texts, a number for a weakness and an entry that is no
object. -/
theorem ofObject_padded_reply :
    let o : Members := [
      ("issues", .array [.string "none", .object [
        ("cwe", .number (.natural 79)), ("location", .string " "), ("title", .string "\tXSS ")]]),
      ("recommendations", .array [.string " ", .string " Escape output\n"])]
    let i : Issue := ⟨.improvement, "XSS", "", "unknown", "Location unknown", .medium,
      some "CWE-79", .medium, .none, .model⟩
    (ModelReview.ofObject o).issues = [i] ∧ IsNormal i ∧
      i.toJson.members?.map issueOfObject = some i ∧
      (ModelReview.ofObject o).recommendations = ["Escape output"] ∧ Unpadded "Escape output" := by
  intro o i
  have hissues : (ModelReview.ofObject o).issues = [i] := by with_unfolding_all rfl
  have hrecommendations : (ModelReview.ofObject o).recommendations = ["Escape output"] := by
    with_unfolding_all rfl
  obtain ⟨-, hnormal, hunpadded, -, -, hread⟩ := ofObject_normalizes o
  have hi : IsNormal i := hnormal i (by rw [hissues]; exact List.mem_singleton.mpr rfl)
  refine ⟨hissues, hi, (hread i).mpr ⟨hi, by decide⟩, hrecommendations, ?_⟩
  exact hunpadded _ (by rw [hrecommendations]; exact List.mem_singleton.mpr rfl)

/-- An issue that names the empty text as its weakness comes back without a weakness. -/
theorem readBack_empty_weakness :
    let i : Issue := ⟨.security, "XSS", "", "a.js", "Line 1", .high, some "", .high, .low, .model⟩
    IsNormal i ∧ i.toJson.members?.map issueOfObject = some { i with cwe := none } ∧
      i.toJson.members?.map issueOfObject ≠ some i := by
  intro i
  have hi : IsNormal i := {
    origin := rfl
    title_ne := by decide
    file_ne := by decide
    location_ne := by decide
    title := by decide
    description := unpadded_empty
    file := by decide
    location := by decide
    cwe := fun c hc ↦ by
      obtain rfl := Option.some.inj hc
      exact unpadded_empty }
  have hread : i.toJson.members?.map issueOfObject = some { i with cwe := none } := by
    decide
  refine ⟨hi, hread, ?_⟩
  rw [hread]
  decide

end ChangeReview.Reply
