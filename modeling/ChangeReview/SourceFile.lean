import ChangeReview.Path
import ChangeReview.Severity

/-!
# Changed files

One file of a change set: what happened to it, and what of its content and difference is known.
-/

namespace ChangeReview

/-- What happened to a file. -/
inductive FileStatus where
  | added
  | modified
  | removed
  | renamed
  deriving DecidableEq, Repr, Inhabited

namespace FileStatus

def all : List FileStatus := [.added, .modified, .removed, .renamed]

def name : FileStatus → String
  | .added => "added"
  | .modified => "modified"
  | .removed => "removed"
  | .renamed => "renamed"

def toJson (s : FileStatus) : Json.Value := .string s.name

def ofJson : Json.Value → Record.Read FileStatus := Record.plainVariant all name

theorem ofJson_toJson (s : FileStatus) : ofJson s.toJson = .ok s := by cases s <;> rfl

end FileStatus

/-- A changed file. -/
structure SourceFile where
  filename : String
  status : FileStatus
  content : Option String
  patch : Option String
  additions : Nat
  deletions : Nat
  deriving DecidableEq, Repr, Inhabited

namespace SourceFile

open Record.Fields

/-- Lines that were added or deleted, counted in 32 bits. -/
def changes (f : SourceFile) : Nat := (f.additions + f.deletions) % Nat.pow 2 32

/-- The extension of the file name, in lower case. -/
def extension? (f : SourceFile) : Option String := (Path.extension? f.filename).map Text.loweredAscii

def toJson (f : SourceFile) : Json.Value := .ofPairs [
  ("filename", .string f.filename),
  ("status", f.status.toJson),
  ("content", .ofOption (f.content.map .string)),
  ("patch", .ofOption (f.patch.map .string)),
  ("additions", .ofNat f.additions),
  ("deletions", .ofNat f.deletions)]

def fields : Record.Fields SourceFile :=
  SourceFile.mk
    <$> required "filename" Record.string
    <*> required "status" FileStatus.ofJson
    <*> withDefault "content" (Record.optional Record.string) none
    <*> withDefault "patch" (Record.optional Record.string) none
    <*> withDefault "additions" Record.nat32 0
    <*> withDefault "deletions" Record.nat32 0

def ofJson : Json.Value → Record.Read SourceFile := Record.Fields.record "SourceFile" fields

end SourceFile

end ChangeReview
