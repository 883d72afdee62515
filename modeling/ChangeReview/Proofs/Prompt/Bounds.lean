import ChangeReview.Prompt

/-!
# What of a change reaches the model

The prompt shows the first files of a change, and of each patch the first characters. So it is the
same for changes that agree on this part, and this part can be read off it. Patches are cut by
characters and not by bytes.
-/

namespace ChangeReview.Prompt

/-! ## Cutting a text -/

section

variable {text text' : String} {limit : Nat}

theorem truncated_of_le (h : text.length ≤ limit) : truncated text limit = text := by
  unfold truncated
  rw [if_neg]
  rw [String.length_toList]
  omega

theorem truncated_of_lt (h : limit < text.length) :
    truncated text limit = String.ofList (text.toList.take limit) ++ truncationMark := by
  unfold truncated
  rw [if_pos]
  rw [String.length_toList]
  exact h

/-- A text that was cut is longer than the limit, with the mark, so it is no text left whole. -/
theorem truncated_ne (hcut : limit < text.length) (hwhole : text'.length ≤ limit) :
    truncated text limit ≠ truncated text' limit := by
  intro h
  have hlength := congrArg String.length h
  rw [truncated_of_lt hcut, truncated_of_le hwhole, String.length_append, String.length_ofList,
    List.length_take, String.length_toList] at hlength
  have hmark : 0 < truncationMark.length := by decide
  omega

/-- Two texts are cut to the same when they are the same, or both are too long and begin with the
same characters. -/
theorem truncated_eq_iff : truncated text limit = truncated text' limit ↔
    text = text' ∨ limit < text.length ∧ limit < text'.length ∧
      text.toList.take limit = text'.toList.take limit := by
  constructor
  case mp =>
    intro h
    by_cases hcut : limit < text.length
    · by_cases hcut' : limit < text'.length
      · rw [truncated_of_lt hcut, truncated_of_lt hcut', String.append_left_inj,
          String.ofList_inj] at h
        exact .inr ⟨hcut, hcut', h⟩
      · exact absurd h (truncated_ne hcut (Nat.le_of_not_lt hcut'))
    · by_cases hcut' : limit < text'.length
      · exact absurd h.symm (truncated_ne hcut' (Nat.le_of_not_lt hcut))
      · rw [truncated_of_le (Nat.le_of_not_lt hcut), truncated_of_le (Nat.le_of_not_lt hcut')] at h
        exact .inl h
  case mpr =>
    rintro (rfl | ⟨hcut, hcut', hsame⟩)
    · rfl
    · rw [truncated_of_lt hcut, truncated_of_lt hcut', hsame]

/-- A text that is too long is cut between two characters, after the first `limit` of them. -/
theorem exists_kept_of_lt (h : limit < text.length) :
    ∃ kept rest : String, text = kept ++ rest ∧ kept.length = limit ∧
      String.Pos.Raw.IsValid text kept.rawEndPos ∧
      truncated text limit = kept ++ truncationMark := by
  have hparts :
      text = String.ofList (text.toList.take limit) ++ String.ofList (text.toList.drop limit) := by
    rw [← String.ofList_append, List.take_append_drop, String.ofList_toList]
  refine ⟨_, _, hparts, ?length, ?boundary, truncated_of_lt h⟩
  case length =>
    rw [String.length_ofList, List.length_take, String.length_toList]
    omega
  case boundary => exact String.Pos.Raw.isValid_iff_exists_append.mpr ⟨_, _, hparts, rfl⟩

end

/-! ## Patches -/

/-- A text between the fences of a difference. -/
def fenced (text : String) : String := "```diff\n" ++ text ++ "\n```\n"

/-- What stands in place of a patch that is absent or empty. -/
def noDifference : String := "(no diff available)\n"

/-- Two patches that agree within a limit. -/
inductive PatchAgrees (limit : Nat) : Option String → Option String → Prop where
  /-- Both are absent or empty. -/
  | nothing {patch patch' : Option String} (h : patch.getD "" = "") (h' : patch'.getD "" = "") :
      PatchAgrees limit patch patch'
  | same (patch : Option String) : PatchAgrees limit patch patch
  /-- Both are too long, and begin with the same characters. -/
  | cut {text text' : String} (h : limit < text.length) (h' : limit < text'.length)
      (hsame : text.toList.take limit = text'.toList.take limit) :
      PatchAgrees limit (some text) (some text')

/-- What a block shows of a patch. -/
structure ShowsPatch (limit : Nat) (patch : Option String) (block : String) : Prop where
  nothing : patch.getD "" = "" → block = noDifference
  whole : ∀ text, patch = some text → text ≠ "" → text.length ≤ limit → block = fenced text
  /-- The part that is shown is made of the first characters and ends between two of them. -/
  cut : ∀ text, patch = some text → limit < text.length →
    ∃ kept rest : String, text = kept ++ rest ∧ kept.length = limit ∧
      String.Pos.Raw.IsValid text kept.rawEndPos ∧ block = fenced (kept ++ truncationMark)

section

variable {patch patch' : Option String} {limit : Nat}

theorem patchBlock_of_empty (h : patch.getD "" = "") : patchBlock patch limit = noDifference := by
  cases patch with
  | none => rfl
  | some text =>
    obtain rfl : text = "" := h
    rfl

theorem patchBlock_some {text : String} (h : text ≠ "") :
    patchBlock (some text) limit = fenced (truncated text limit) := by
  rw [patchBlock, if_neg]
  · rfl
  · rw [String.isEmpty_iff]
    exact h

/-- A text that is too long is not empty, so it is shown. -/
theorem patchBlock_some_of_lt {text : String} (h : limit < text.length) :
    patchBlock (some text) limit = fenced (truncated text limit) := by
  apply patchBlock_some
  rintro rfl
  exact Nat.not_lt_zero _ h

theorem eq_some_of_getD_ne (h : patch.getD "" ≠ "") : ∃ text, patch = some text ∧ text ≠ "" := by
  cases patch with
  | none => exact absurd rfl h
  | some text => exact ⟨text, rfl, h⟩

theorem fenced_inj {text text' : String} : fenced text = fenced text' ↔ text = text' := by
  rw [fenced, fenced, String.append_left_inj, String.append_right_inj]

theorem fenced_ne_noDifference (text : String) : fenced text ≠ noDifference := by
  intro h
  have hhead := congrArg (fun s ↦ s.toList.head?) h
  simp [fenced, noDifference] at hhead

/-- A block tells of a patch the part within the limit, and nothing else. -/
theorem patchBlock_eq_iff :
    patchBlock patch limit = patchBlock patch' limit ↔ PatchAgrees limit patch patch' := by
  constructor
  case mp =>
    intro h
    by_cases hempty : patch.getD "" = ""
    · by_cases hempty' : patch'.getD "" = ""
      · exact .nothing hempty hempty'
      · obtain ⟨text', rfl, hne'⟩ := eq_some_of_getD_ne hempty'
        rw [patchBlock_of_empty hempty, patchBlock_some hne'] at h
        exact absurd h.symm (fenced_ne_noDifference _)
    · obtain ⟨text, rfl, hne⟩ := eq_some_of_getD_ne hempty
      by_cases hempty' : patch'.getD "" = ""
      · rw [patchBlock_of_empty hempty', patchBlock_some hne] at h
        exact absurd h (fenced_ne_noDifference _)
      · obtain ⟨text', rfl, hne'⟩ := eq_some_of_getD_ne hempty'
        rw [patchBlock_some hne, patchBlock_some hne', fenced_inj, truncated_eq_iff] at h
        rcases h with rfl | ⟨hcut, hcut', hsame⟩
        · exact .same _
        · exact .cut hcut hcut' hsame
  case mpr =>
    intro h
    cases h with
    | nothing h h' => rw [patchBlock_of_empty h, patchBlock_of_empty h']
    | same => rfl
    | cut h h' hsame =>
      rw [patchBlock_some_of_lt h, patchBlock_some_of_lt h',
        truncated_eq_iff.mpr (.inr ⟨h, h', hsame⟩)]

theorem showsPatch_patchBlock : ShowsPatch limit patch (patchBlock patch limit) where
  nothing := patchBlock_of_empty
  whole := by
    rintro text rfl hne hle
    rw [patchBlock_some hne, truncated_of_le hle]
  cut := by
    rintro text rfl hlt
    obtain ⟨kept, rest, hparts, hlength, hvalid, htruncated⟩ := exists_kept_of_lt hlt
    refine ⟨kept, rest, hparts, hlength, hvalid, ?_⟩
    rw [patchBlock_some_of_lt hlt, htruncated]

end

/-! ## Files -/

/-- Two files of which the prompt may show the same. Nothing is said of their contents. -/
structure FileAgrees (limit : Nat) (f f' : SourceFile) : Prop where
  filename : f.filename = f'.filename
  status : f.status = f'.status
  additions : f.additions = f'.additions
  deletions : f.deletions = f'.deletions
  patch : PatchAgrees limit f.patch f'.patch

/-- The heading of the section of a file. -/
def fileHeading (f : SourceFile) : String :=
  "\n### " ++ f.filename ++ " (" ++ f.status.name ++ ", +" ++ toString f.additions ++ "/-" ++
    toString f.deletions ++ ")\n"

/-- The scanner's note on the file of a name, or nothing when it has no findings. -/
def noteOn (analyses : List FileAnalysis) (filename : String) : String :=
  ((analysisOf? analyses filename).filter FileAnalysis.hasFindings).elim "" scannerNote

theorem fileSection_eq (analyses : List FileAnalysis) (limit : Nat) (f : SourceFile) :
    fileSection analyses limit f =
      fileHeading f ++ noteOn analyses f.filename ++ patchBlock f.patch limit := by
  unfold fileSection noteOn fileHeading
  cases (analysisOf? analyses f.filename).filter FileAnalysis.hasFindings with
  | none => rfl
  | some a => rfl

/-- Files that agree within the limit have the same section. -/
theorem FileAgrees.same_section {limit : Nat} {f f' : SourceFile} (h : FileAgrees limit f f')
    (analyses : List FileAnalysis) :
    fileSection analyses limit f = fileSection analyses limit f' := by
  have hheading : fileHeading f = fileHeading f' := by
    rw [fileHeading, fileHeading, h.filename, h.status, h.additions, h.deletions]
  rw [fileSection_eq, fileSection_eq, hheading, h.filename, patchBlock_eq_iff.mpr h.patch]

/-- The sections of the files that are shown. -/
def sections (files : List SourceFile) (analyses : List FileAnalysis) (limits : PromptLimits) :
    List String :=
  (files.take limits.maxFiles).map (fileSection analyses limits.maxPatchChars)

variable {files files' : List SourceFile} {analyses : List FileAnalysis} {limits : PromptLimits}

theorem getElem?_sections (i : Nat) (hi : i < limits.maxFiles) :
    (sections files analyses limits)[i]? =
      files[i]?.map (fileSection analyses limits.maxPatchChars) := by
  rw [sections, List.getElem?_map, List.getElem?_take, if_pos hi]

theorem length_sections :
    (sections files analyses limits).length = min files.length limits.maxFiles := by
  rw [sections, List.length_map, List.length_take, Nat.min_comm]

theorem sections_congr (hlength : files.length = files'.length)
    (h : ∀ i f f', i < limits.maxFiles → files[i]? = some f → files'[i]? = some f' →
      FileAgrees limits.maxPatchChars f f') :
    sections files analyses limits = sections files' analyses limits := by
  apply List.ext_getElem
  case hl => rw [length_sections, length_sections, hlength]
  case h =>
    intro i hi hi'
    rw [length_sections] at hi hi'
    have hfile : i < files.length := by omega
    have hfile' : i < files'.length := by omega
    have hagree := h i files[i] files'[i] (by omega) (List.getElem?_eq_getElem hfile)
      (List.getElem?_eq_getElem hfile')
    simp only [sections, List.getElem_map, List.getElem_take]
    exact hagree.same_section analyses

/-- The prompt depends only on the bounded part of a change, and shows this part. Two lists of as
many files give the same prompt when their files agree within the limit as far as files are shown.
Around the sections, only the number of files counts. The section of each file that is shown has its
heading, the scanner's note and its patch, whole when it is within the limit, and else its first
characters and the mark. -/
theorem build_bounded (messages : String) (analyses : List FileAnalysis) (limits : PromptLimits) :
    (∀ files files' : List SourceFile, files.length = files'.length →
      (∀ i f f', i < limits.maxFiles → files[i]? = some f → files'[i]? = some f' →
        FileAgrees limits.maxPatchChars f f') →
      build messages files analyses limits = build messages files' analyses limits) ∧
    ∃ (before : Nat → String) (after : String), ∀ files : List SourceFile,
      ∃ shown : List String,
        build messages files analyses limits = before files.length ++ String.join shown ++ after ∧
        shown.length = min files.length limits.maxFiles ∧
        ∀ i f, i < limits.maxFiles → files[i]? = some f →
          ∃ block, shown[i]? = some (fileHeading f ++ noteOn analyses f.filename ++ block) ∧
            ShowsPatch limits.maxPatchChars f.patch block := by
  let before (count : Nat) : String :=
    opening ++ summary analyses limits.maxHighlighted ++ commits messages ++
      "\n## Changed files (" ++ toString (min count limits.maxFiles) ++ " of " ++
      toString count ++ ")\n"
  let after : String := "\n## Response format\n" ++ responseFormat ++ "\n"
  have hbuild : ∀ files, build messages files analyses limits =
      before files.length ++ String.join (sections files analyses limits) ++ after := by
    intro files
    simp only [build, before, after, sections, String.append_assoc]
  refine ⟨?same, before, after, fun files ↦
    ⟨sections files analyses limits, hbuild files, length_sections, ?shown⟩⟩
  case same =>
    intro files files' hlength h
    rw [hbuild, hbuild, hlength, sections_congr hlength h]
  case shown =>
    intro i f hi hf
    refine ⟨patchBlock f.patch limits.maxPatchChars, ?_, showsPatch_patchBlock⟩
    rw [getElem?_sections i hi, hf, Option.map_some, fileSection_eq]

/-- Of a patch that begins with two characters of two bytes each, a limit of two shows both. What
follows, the content and the second file make no difference. -/
theorem build_bounded_wide_characters :
    let limits : PromptLimits := ⟨1, 2, 5⟩
    let files : List SourceFile := [⟨"a.js", .modified, some "let a", some "éñ+x", 3, 1⟩,
      ⟨"b.js", .added, none, some "+y", 1, 0⟩]
    let files' : List SourceFile := [⟨"a.js", .modified, none, some "éñ-password", 3, 1⟩,
      ⟨"c.js", .removed, some "let c", none, 0, 9⟩]
    build "fix" files [] limits = build "fix" files' [] limits ∧
      ∃ before after, build "fix" files' [] limits = before ++
        "\n### a.js (modified, +3/-1)\n```diff\néñ\n... [diff truncated]\n```\n" ++ after := by
  intro limits files files'
  obtain ⟨hsame, before, after, hshown⟩ := build_bounded "fix" [] limits
  have hagree : ∀ i f f', i < limits.maxFiles → files[i]? = some f → files'[i]? = some f' →
      FileAgrees limits.maxPatchChars f f' := by
    intro i f f' hi hf hf'
    obtain rfl : i = 0 := Nat.lt_one_iff.mp hi
    obtain rfl := Option.some.inj hf
    obtain rfl := Option.some.inj hf'
    exact ⟨rfl, rfl, rfl, rfl, .cut (by decide) (by decide) (by decide)⟩
  refine ⟨hsame files files' rfl hagree, before files'.length, after, ?_⟩
  obtain ⟨shown, hbuild, hlength, hsections⟩ := hshown files'
  obtain ⟨block, hsection, hblock⟩ := hsections 0 _ Nat.one_pos rfl
  obtain ⟨kept, rest, hparts, hkept, -, rfl⟩ := hblock.cut _ rfl (by decide)
  have hchars := congrArg (fun s ↦ s.toList.take 2) hparts
  rw [String.toList_append, List.take_left' hkept] at hchars
  obtain rfl : kept = "éñ" := String.toList_inj.mp hchars.symm
  obtain ⟨only, rfl⟩ := List.length_eq_one_iff.mp hlength
  obtain rfl := Option.some.inj hsection
  rw [hbuild]
  rfl

end ChangeReview.Prompt
