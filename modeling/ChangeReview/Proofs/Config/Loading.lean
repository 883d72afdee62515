import ChangeReview.Config.Discovery
import ChangeReview.Proofs.Config.Ancestors

/-!
# What configuration is loaded

Loading a configuration gives a valid one in every case. Validation names the first setting that it
refuses, and of the configuration files on the way up the nearest decides alone.
-/

namespace ChangeReview

/-! ## Validation -/

namespace ReviewConfig

variable {c : ReviewConfig}

/-- The settings that are validated, in order, and whether each is acceptable. -/
def checks (c : ReviewConfig) : List (String × Bool) := [
  ("prompt.max_files", c.prompt.maxFiles ≠ 0),
  ("prompt.max_patch_chars", c.prompt.maxPatchChars ≠ 0),
  ("prompt.max_highlighted_findings", c.prompt.maxHighlighted ≠ 0),
  ("scanner.source_extensions", c.scanner.sourceExtensions ≠ [] ∧
    ∀ ext ∈ c.scanner.sourceExtensions, ext.toList.head? ≠ some '.'),
  ("parallel.max_concurrency", c.parallel.maxConcurrency ≠ some 0)]

theorem find?_isDotted_eq_none_iff {extensions : List String} :
    extensions.find? isDotted = none ↔ ∀ ext ∈ extensions, ext.toList.head? ≠ some '.' := by
  simp only [List.find?_eq_none, isDotted, beq_iff_eq, ne_eq]

/-- The fault is in the first setting that is not acceptable. -/
theorem field_fault? (c : ReviewConfig) :
    c.fault?.map ConfigFault.field = (c.checks.find? (!·.2)).map (·.1) := by
  unfold fault? checks
  by_cases hfiles : c.prompt.maxFiles = 0
  · simp [hfiles, ConfigFault.field]
  by_cases hchars : c.prompt.maxPatchChars = 0
  · simp [hfiles, hchars, ConfigFault.field]
  by_cases hhighlighted : c.prompt.maxHighlighted = 0
  · simp [hfiles, hchars, hhighlighted, ConfigFault.field]
  by_cases hempty : c.scanner.sourceExtensions = []
  · simp [hfiles, hchars, hhighlighted, hempty, ConfigFault.field]
  simp only [hfiles, hchars, hhighlighted, hempty, if_false, ← find?_isDotted_eq_none_iff]
  cases hdotted : c.scanner.sourceExtensions.find? isDotted with
  | some ext => simp [hfiles, hchars, hhighlighted, ConfigFault.field]
  | none =>
    by_cases hzero : c.parallel.maxConcurrency = some 0
    · simp [hfiles, hchars, hhighlighted, hempty, hzero, ConfigFault.field]
    · simp [hfiles, hchars, hhighlighted, hempty, hzero]

theorem validate_eq_ok_iff : c.validate = .ok () ↔ c.fault? = none := by
  unfold validate
  cases c.fault? <;> simp

theorem validate_eq_error_iff {f : ConfigFault} : c.validate = .error f ↔ c.fault? = some f := by
  unfold validate
  cases c.fault? <;> simp

/-- A configuration is valid when every setting is acceptable. -/
theorem validate_eq_ok_iff_checks : c.validate = .ok () ↔ ∀ s ∈ c.checks, s.2 := by
  rw [validate_eq_ok_iff, ← Option.map_eq_none_iff (f := ConfigFault.field), field_fault?,
    Option.map_eq_none_iff, List.find?_eq_none]
  simp only [Bool.not_eq_true', Bool.not_eq_false]

/-- A rejection names the first setting that is not acceptable. -/
theorem field_of_validate {f : ConfigFault} (h : c.validate = .error f) :
    (c.checks.find? (!·.2)).map (·.1) = some f.field := by
  rw [← field_fault?, validate_eq_error_iff.mp h, Option.map_some]

theorem validate_default : default.validate = .ok () := validate_eq_ok_iff.mpr fault?_default

end ReviewConfig

namespace ConfigFile

/-! ## One file -/

/-- A file whose content reads and parses as a valid configuration. -/
def Entry.Yields (entry : Entry) (config : ReviewConfig) : Prop :=
  ∃ text, entry = .file (some text) ∧ parse? text = some config ∧ config.validate = .ok ()

section

variable {files : FileSystem} {path : String}

theorem loadFrom_of_yields {config : ReviewConfig} (h : (files path).Yields config) :
    loadFrom files path = config := by
  obtain ⟨text, hentry, hparse, hvalid⟩ := h
  simp only [loadFrom, hentry, parseAndValidate, hparse, ReviewConfig.validate_eq_ok_iff.mp hvalid]

/-- The default holds when the file yields no configuration, whatever the reason. -/
theorem loadFrom_of_not_yields (h : ∀ config, ¬ (files path).Yields config) :
    loadFrom files path = .default := by
  unfold loadFrom
  split
  · next text hentry =>
    split
    · next config hconfig =>
      unfold parseAndValidate at hconfig
      split at hconfig
      · cases hconfig
      · next parsed hparse =>
        split at hconfig
        · cases hconfig
        · next hfault =>
          obtain rfl := Except.ok.inj hconfig
          exact absurd ⟨text, hentry, hparse, ReviewConfig.validate_eq_ok_iff.mpr hfault⟩ (h parsed)
    · rfl
  · rfl

theorem validate_loadFrom (files : FileSystem) (path : String) :
    (loadFrom files path).validate = .ok () := by
  by_cases h : ∃ config, (files path).Yields config
  · obtain ⟨config, hyields⟩ := h
    rw [loadFrom_of_yields hyields]
    obtain ⟨-, -, -, hvalid⟩ := hyields
    exact hvalid
  · rw [loadFrom_of_not_yields (not_exists.mp h)]
    exact ReviewConfig.validate_default

end

/-! ## The nearest file -/

/-- Whether a directory holds a configuration file. -/
def holdsConfig (files : FileSystem) (dir : String) : Bool :=
  (files (Path.join dir fileName)).isFile

/-- A directory on the way up that is looked at and holds a configuration file, while no directory
nearer to the start does. -/
structure IsNearest (files : FileSystem) (start : String) (k : Nat) (dir : String) : Prop where
  within : k < searchDepth
  above : Path.above? start k = some dir
  holds : holdsConfig files dir
  nearer : ∀ j < k, ∀ d, Path.above? start j = some d → holdsConfig files d = false

section

variable {files : FileSystem} {start : String}

theorem mem_ancestors_iff {dir : String} :
    dir ∈ Path.ancestors start searchDepth ↔
      ∃ k < searchDepth, Path.above? start k = some dir := by
  simp only [List.mem_iff_getElem?, Path.getElem?_ancestors]
  constructor
  · rintro ⟨k, hk⟩
    split at hk
    · next hwithin => exact ⟨k, hwithin, hk⟩
    · cases hk
  · rintro ⟨k, hwithin, hk⟩
    exact ⟨k, by rw [if_pos hwithin, hk]⟩

theorem load_of_none
    (h : ∀ k < searchDepth, ∀ d, Path.above? start k = some d → holdsConfig files d = false) :
    load files start = .default := by
  have hnone : find? files start = none := by
    rw [find?, List.find?_map, Option.map_eq_none_iff, List.find?_eq_none]
    intro dir hdir
    obtain ⟨k, hwithin, hk⟩ := mem_ancestors_iff.mp hdir
    exact Bool.eq_false_iff.mp (h k hwithin dir hk)
  rw [load, hnone]

theorem load_of_isNearest {k : Nat} {dir : String} (h : IsNearest files start k dir) :
    load files start = loadFrom files (Path.join dir fileName) := by
  have hfound : (Path.ancestors start searchDepth).find? (holdsConfig files) = some dir := by
    have hk : (Path.ancestors start searchDepth)[k]? = some dir := by
      rw [Path.getElem?_ancestors, if_pos h.within, h.above]
    obtain ⟨hlt, hget⟩ := List.getElem?_eq_some_iff.mp hk
    refine List.find?_eq_some_iff_getElem.mpr ⟨h.holds, k, hlt, hget, fun j hj ↦ ?_⟩
    have hj' := List.getElem?_eq_getElem (Nat.lt_trans hj hlt)
    rw [Path.getElem?_ancestors, if_pos (Nat.lt_trans hj h.within)] at hj'
    rw [h.nearer j hj _ hj']
    rfl
  have hsome : find? files start = some (Path.join dir fileName) := by
    rw [find?, List.find?_map]
    exact congrArg (Option.map (Path.join · fileName)) hfound
  rw [load, hsome]

/-- What stands farther away than the nearest file has no influence. -/
theorem load_congr {files' : FileSystem} {k : Nat} {dir : String} (h : IsNearest files start k dir)
    (hagree : ∀ j ≤ k, ∀ d, Path.above? start j = some d →
      files' (Path.join d fileName) = files (Path.join d fileName)) :
    load files' start = load files start := by
  have hsame {j : Nat} (hj : j ≤ k) {d : String} (hd : Path.above? start j = some d) :
      holdsConfig files' d = holdsConfig files d := by
    rw [holdsConfig, holdsConfig, hagree j hj d hd]
  have h' : IsNearest files' start k dir :=
    { within := h.within
      above := h.above
      holds := (hsame (Nat.le_refl k) h.above).trans h.holds
      nearer := fun j hj d hd ↦ (hsame (Nat.le_of_lt hj) hd).trans (h.nearer j hj d hd) }
  rw [load_of_isNearest h, load_of_isNearest h', loadFrom, loadFrom,
    hagree k (Nat.le_refl k) dir h.above]

theorem exists_isNearest {k : Nat} {dir : String} (hwithin : k < searchDepth)
    (hdir : Path.above? start k = some dir) (hholds : holdsConfig files dir) :
    ∃ k dir, IsNearest files start k dir := by
  induction k using Nat.strong_induction_on generalizing dir with
  | _ k ih =>
    by_cases hnearer : ∃ j < k, ∃ d, Path.above? start j = some d ∧ holdsConfig files d
    · obtain ⟨j, hj, d, hd, hholds⟩ := hnearer
      exact ih j hj (Nat.lt_trans hj hwithin) hd hholds
    · refine ⟨k, dir, hwithin, hdir, hholds, fun j hj d hd ↦ ?_⟩
      exact Bool.eq_false_iff.mpr fun h ↦ hnearer ⟨j, hj, d, hd, h⟩

/-- A valid configuration is loaded, whatever stands in the files. -/
theorem validate_load (files : FileSystem) (start : String) :
    (load files start).validate = .ok () := by
  unfold load
  split
  · exact validate_loadFrom files _
  · exact ReviewConfig.validate_default

end

/-- Loading gives a valid configuration: the one that the nearest file on the way up yields, the
default when that file yields none or no directory that is looked at holds a file. Files farther
away than the nearest have no influence, and the directories get shorter on the way. Validation
accepts exactly the configurations with acceptable settings and names the first that is not. -/
theorem load_nearest (files : FileSystem) (start : String) :
    (load files start).validate = .ok () ∧
    ((∀ k < searchDepth, ∀ d, Path.above? start k = some d → holdsConfig files d = false) →
      load files start = .default) ∧
    (∀ k dir, IsNearest files start k dir →
      (∀ config, (files (Path.join dir fileName)).Yields config → load files start = config) ∧
      ((∀ config, ¬ (files (Path.join dir fileName)).Yields config) →
        load files start = .default) ∧
      ∀ files' : FileSystem, (∀ j ≤ k, ∀ d, Path.above? start j = some d →
        files' (Path.join d fileName) = files (Path.join d fileName)) →
        load files' start = load files start) ∧
    ((∃ k < searchDepth, ∃ d, Path.above? start k = some d ∧ holdsConfig files d) →
      ∃ k dir, IsNearest files start k dir) ∧
    (Path.ancestors start searchDepth).Pairwise (fun near far ↦ far.length < near.length) ∧
    ∀ c : ReviewConfig,
      (c.validate = .ok () ↔ c.prompt.maxFiles ≠ 0 ∧ c.prompt.maxPatchChars ≠ 0 ∧
        c.prompt.maxHighlighted ≠ 0 ∧ (c.scanner.sourceExtensions ≠ [] ∧
          ∀ ext ∈ c.scanner.sourceExtensions, ext.toList.head? ≠ some '.') ∧
        c.parallel.maxConcurrency ≠ some 0) ∧
      ∀ f, c.validate = .error f → (c.checks.find? (!·.2)).map (·.1) = some f.field := by
  refine ⟨validate_load files start, load_of_none, fun k dir h ↦ ⟨?yields, ?faulty, ?farther⟩,
    ?nearest, Path.pairwise_ancestors start searchDepth,
    fun c ↦ ⟨?accepts, fun f ↦ ReviewConfig.field_of_validate⟩⟩
  case yields =>
    intro config hyields
    rw [load_of_isNearest h, loadFrom_of_yields hyields]
  case faulty =>
    intro hnone
    rw [load_of_isNearest h, loadFrom_of_not_yields hnone]
  case farther => exact fun files' hagree ↦ load_congr h hagree
  case nearest =>
    rintro ⟨k, hwithin, d, hd, hholds⟩
    exact exists_isNearest hwithin hd hholds
  case accepts =>
    rw [ReviewConfig.validate_eq_ok_iff_checks]
    simp [ReviewConfig.checks]

/-- A rejected file is not passed over for a valid one farther away. -/
theorem load_nearest_rejected_file :
    let files : FileSystem := fun path ↦
      if path = "/a/.diffwarden.toml" then .file (some "[prompt]\nmax_files = 3")
      else if path = "/a/b/.diffwarden.toml" then .file (some "[prompt]\nmax_files = 0")
      else .missing
    IsNearest files "/a/b/c" 1 "/a/b" ∧ load files "/a/b/c" = .default ∧
      IsNearest files "/a" 0 "/a" ∧
      load files "/a" = { ReviewConfig.default with prompt := ⟨3, 2000, 5⟩ } := by
  intro files
  have hrejected : IsNearest files "/a/b/c" 1 "/a/b" :=
    { within := by decide
      above := by decide +kernel
      holds := by decide +kernel
      nearer := by
        intro j hj d hd
        obtain rfl : j = 0 := by omega
        obtain rfl := Option.some.inj hd
        decide +kernel }
  have hvalid : IsNearest files "/a" 0 "/a" :=
    { within := by decide
      above := rfl
      holds := by decide +kernel
      nearer := fun j hj ↦ absurd hj (Nat.not_lt_zero j) }
  have hfaulty : ((parse? "[prompt]\nmax_files = 0").all fun c ↦ c.fault?.isSome) = true := by
    decide +kernel
  refine ⟨hrejected, ?rejected, hvalid, ?valid⟩
  case rejected =>
    obtain ⟨-, hdefault, -⟩ := (load_nearest files "/a/b/c").2.2.1 1 "/a/b" hrejected
    refine hdefault fun config hyields ↦ ?_
    obtain ⟨text, hfile, hparse, hok⟩ := hyields
    have hentry : files (Path.join "/a/b" fileName) =
        .file (some "[prompt]\nmax_files = 0") := by decide +kernel
    rw [hentry] at hfile
    obtain rfl := Option.some.inj (Entry.file.inj hfile)
    rw [hparse, Option.all_some, ReviewConfig.validate_eq_ok_iff.mp hok] at hfaulty
    exact absurd hfaulty (by decide)
  case valid =>
    have hyields : (files (Path.join "/a" fileName)).Yields
        { ReviewConfig.default with prompt := ⟨3, 2000, 5⟩ } :=
      ⟨"[prompt]\nmax_files = 3", by decide +kernel, by decide +kernel, by decide +kernel⟩
    exact ((load_nearest files "/a").2.2.1 0 "/a" hvalid).1 _ hyields

end ConfigFile

end ChangeReview
