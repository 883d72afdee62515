import ChangeReview.Reply.Strategy

/-!
# Decoding a reply

The strategies are tried in order, and the first candidate that is a JSON object wins. When none
is, the failure of the last strategy is reported.
-/

namespace ChangeReview.Reply

open Json

/-- Why a strategy did not give an object. -/
inductive DecodeFault where
  | noCandidate (strategy : Strategy)
  | invalidJson (strategy : Strategy) (failure : Failure)
  | notAnObject (strategy : Strategy) (found : String)
  deriving DecidableEq, Repr

/-- The fault in words. -/
def DecodeFault.message : DecodeFault → String
  | .noCandidate s => s.name ++ ": no candidate payload found"
  | .invalidJson s failure => s.name ++ ": invalid JSON: " ++ failure.message
  | .notAnObject s found => s.name ++ ": expected a JSON object, found " ++ found

/-- All strategies failed; the fault of the last one. -/
structure Exhausted where
  last : DecodeFault
  deriving DecidableEq, Repr

def Exhausted.message (e : Exhausted) : String :=
  "unable to decode model response (" ++ e.last.message ++ ")"

/-- Read a candidate as an object, blanks at its ends aside. -/
def parseObject (strategy : Strategy) (candidate : List Char) : Except DecodeFault Members :=
  match Json.parse (Text.trim candidate) with
  | .error failure => .error (.invalidJson strategy failure)
  | .ok (.object members) => .ok members
  | .ok v => .error (.notAnObject strategy v.kind)

/-- Try one strategy. -/
def Strategy.apply (strategy : Strategy) (raw : List Char) : Except DecodeFault Members :=
  match strategy.candidate raw with
  | none => .error (.noCandidate strategy)
  | some c => parseObject strategy c

/-- An object and the strategy that found it. -/
structure Decoded where
  value : Members
  strategy : Strategy
  deriving Repr

/-- Try strategies in turn; `last` is the fault of the one before. -/
def decodeWith (raw : List Char) (last : DecodeFault) : List Strategy → Except Exhausted Decoded
  | [] => .error ⟨last⟩
  | s :: rest =>
    match s.apply raw with
    | .ok value => .ok ⟨value, s⟩
    | .error fault => decodeWith raw fault rest

/-- Decode a reply. -/
def decode (raw : String) : Except Exhausted Decoded :=
  decodeWith raw.toList (.noCandidate .direct) Strategy.all

end ChangeReview.Reply
