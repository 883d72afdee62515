/-!
# Phases of a review

The states of one review run, and the record of the current one. The record is a cell that may be
empty. A guard remembers what the cell held when the guard was made and puts that back when it is
dropped.
-/

namespace ChangeReview

/-- States of one review run. -/
inductive Phase where
  | init
  | scanning
  | prompting
  | awaitingModel
  | decoding
  | merged
  | fallback
  | scored
  | done
  | error
  deriving DecidableEq, Repr, Inhabited

namespace Phase

def all : List Phase := [
  .init, .scanning, .prompting, .awaitingModel, .decoding, .merged, .fallback, .scored, .done,
  .error]

def name : Phase → String
  | .init => "init"
  | .scanning => "scanning"
  | .prompting => "prompting"
  | .awaitingModel => "awaiting_model"
  | .decoding => "decoding"
  | .merged => "merged"
  | .fallback => "fallback"
  | .scored => "scored"
  | .done => "done"
  | .error => "error"

def ofName? (s : String) : Option Phase := all.find? (·.name == s)

theorem ofName?_name (p : Phase) : ofName? p.name = some p := by cases p <;> rfl

end Phase

/-- What the current phase is, if any. -/
abbrev PhaseContext := Option Phase

/-- Remembers the context from before a phase was set. -/
structure PhaseGuard where
  previous : PhaseContext
  deriving DecidableEq, Repr

namespace PhaseContext

/-- Set a phase under a guard. -/
def enter (context : PhaseContext) (phase : Phase) : PhaseGuard × PhaseContext :=
  (⟨context⟩, some phase)

/-- Put back what the guard remembers, whatever the context is now. -/
def leave (_context : PhaseContext) (guard : PhaseGuard) : PhaseContext := guard.previous

/-- Set a phase for good. -/
def persist (_context : PhaseContext) (phase : Phase) : PhaseContext := some phase

/-- Forget the phase. -/
def reset (_context : PhaseContext) : PhaseContext := none

end PhaseContext

/-- One operation on the context. Guards are numbered in the order in which they are made. -/
inductive PhaseOperation where
  | set (phase : Phase)
  | persist (phase : Phase)
  | drop (guard : Nat)
  | reset
  deriving DecidableEq, Repr

/-- The context with the guards made so far; a dropped guard is gone. -/
structure PhaseHistory where
  context : PhaseContext
  guards : List (Option PhaseGuard)
  deriving DecidableEq, Repr

namespace PhaseHistory

/-- No phase and no guard. -/
def start : PhaseHistory := ⟨none, []⟩

/-- Drop a guard; nothing happens when there is no such guard any more. -/
def drop (h : PhaseHistory) (guard : Nat) : PhaseHistory :=
  match h.guards[guard]? with
  | some (some g) => ⟨h.context.leave g, h.guards.set guard none⟩
  | _ => h

/-- One operation. -/
def step (h : PhaseHistory) : PhaseOperation → PhaseHistory
  | .set phase =>
    let (guard, context) := h.context.enter phase
    ⟨context, h.guards ++ [some guard]⟩
  | .persist phase => { h with context := h.context.persist phase }
  | .drop guard => h.drop guard
  | .reset => { h with context := h.context.reset }

/-- The histories after each of a list of operations. -/
def steps (h : PhaseHistory) : List PhaseOperation → List PhaseHistory
  | [] => []
  | op :: ops => h.step op :: steps (h.step op) ops

/-- All operations in turn. -/
def run (h : PhaseHistory) (ops : List PhaseOperation) : PhaseHistory := ops.foldl step h

/-- Drop the guards that are left, in the order in which they were made. -/
def dropAll (h : PhaseHistory) : PhaseHistory :=
  (List.range h.guards.length).foldl drop h

end PhaseHistory

end ChangeReview
