import ChangeReview.Phase

/-!
# The model

The outside party that answers a prompt. It answers with a text or an error, or it breaks off; a
break carries a text or nothing readable. While it answers it may run other reviews, so an answer
also says what the current phase is afterwards.
-/

namespace ChangeReview

/-- What a computation that broke off leaves behind. -/
inductive Breakdown where
  | text (message : String)
  /-- Something that is no text. -/
  | unreadable
  deriving DecidableEq, Repr

/-- The readable message. -/
def Breakdown.message : Breakdown → String
  | .text message => message
  | .unreadable => "unknown panic"

/-- Why a model gave no reply. -/
inductive ModelError where
  | transport (text : String)
  | timeout (seconds : Nat)
  | quotaExceeded (text : String)
  | brokeOff (message : String)
  deriving DecidableEq, Repr

def ModelError.message : ModelError → String
  | .transport text => "model transport error: " ++ text
  | .timeout seconds => "model call timed out after " ++ toString seconds ++ " seconds"
  | .quotaExceeded text => "model quota exhausted: " ++ text
  | .brokeOff message => "model call panicked: " ++ message

/-- How a model answers a prompt. -/
inductive Answer where
  | reply (text : String)
  | error (e : ModelError)
  | breakdown (b : Breakdown)
  deriving DecidableEq, Repr

/-- A model: its name, unless asking for it breaks off, and its answers. -/
structure Model where
  name : Except Breakdown String
  generate : String → PhaseContext → Answer × PhaseContext

namespace Model

/-- A model that answers every prompt alike and leaves the phase alone. -/
def constant (name : Except Breakdown String) (answer : Answer) : Model :=
  ⟨name, fun _ context => (answer, context)⟩

end Model

/-- The reply of an answer; a breakdown counts as an error. -/
def Answer.reply? : Answer → Except ModelError String
  | .reply text => .ok text
  | .error e => .error e
  | .breakdown b => .error (.brokeOff b.message)

end ChangeReview
