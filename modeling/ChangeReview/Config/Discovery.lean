import ChangeReview.Config
import ChangeReview.Toml.Document

/-!
# Finding and loading the configuration

The configuration stands in a file of a fixed name, in the start directory or in one of its nearest
parents. The nearest such file decides; when it cannot be read, parsed or validated, the defaults
hold. The file system is any function that says what stands at a path.
-/

namespace ChangeReview.ConfigFile

def fileName : String := ".diffwarden.toml"

/-- How many directories are looked at. -/
def searchDepth : Nat := 10

/-- Why a text is no configuration. -/
inductive LoadFault where
  /-- It is not TOML, or a value has the wrong type. -/
  | malformed
  | invalid (fault : ConfigFault)
  deriving DecidableEq, Repr

/-- The number of fields of each section. -/
def sectionSizes : List (String × Nat) := [
  ("prompt", PromptLimits.fields.names.length),
  ("scanner", ScannerConfig.fields.names.length),
  ("parallel", ParallelConfig.fields.names.length),
  ("model", ModelConfig.fields.names.length),
  ("scoring", ScoringConfig.fields.names.length)]

/-- A section that is given as an array, without what follows its last field. -/
def withoutExcess : String × Json.Value → String × Json.Value
  | (name, .array items) => (name, .array (items.take ((sectionSizes.lookup name).getD items.length)))
  | member => member

/-- Read a text as a configuration. -/
def parse? (text : String) : Option ReviewConfig :=
  match Toml.parse? text with
  | some table =>
    (ReviewConfig.ofJson (.ofPairs ((Toml.Value.membersJson table).map withoutExcess))).toOption
  | none => none

/-- Read a text as a valid configuration. -/
def parseAndValidate (text : String) : Except LoadFault ReviewConfig :=
  match parse? text with
  | none => .error .malformed
  | some config =>
    match config.fault? with
    | some f => .error (.invalid f)
    | none => .ok config

/-- What stands at a path. -/
inductive Entry where
  /-- A file; none when its content is no text or cannot be read. -/
  | file (content : Option String)
  | directory
  | missing
  deriving DecidableEq, Repr

/-- A file system. -/
abbrev FileSystem := String → Entry

def Entry.isFile : Entry → Bool
  | .file _ => true
  | _ => false

/-- Load one file; the defaults hold when anything is wrong with it. -/
def loadFrom (files : FileSystem) (path : String) : ReviewConfig :=
  match files path with
  | .file (some text) =>
    match parseAndValidate text with
    | .ok config => config
    | .error _ => .default
  | _ => .default

/-- The nearest configuration file at or above a directory. -/
def find? (files : FileSystem) (start : String) : Option String :=
  ((Path.ancestors start searchDepth).map (Path.join · fileName)).find? fun path =>
    (files path).isFile

/-- The configuration that holds in a directory. -/
def load (files : FileSystem) (start : String) : ReviewConfig :=
  match find? files start with
  | some path => loadFrom files path
  | none => .default

end ChangeReview.ConfigFile
