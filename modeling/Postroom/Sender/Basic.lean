import Postroom.Requirement.Basic
import Postroom.Selection.Fallback
import Postroom.Selection.NoMatch
import Postroom.Subject

namespace Postroom

open Text

inductive SendError
  | declined (sender reason : String)
  | failed (sender reason : String)
  | noSender (cause : NoMatch)
  | allFailed (cause : Exhausted)
  deriving DecidableEq, Repr

namespace SendError

def message : SendError → String
  | declined sender reason => "sender '" ++ sender ++ "' declined: " ++ reason
  | failed sender reason => "sender '" ++ sender ++ "' failed: " ++ reason
  | noSender cause => "no sender available: " ++ cause.message
  | allFailed cause => cause.message

/-- What an error is to a fallback: only a sender that declined is taken to have declined. -/
def refusal : SendError → Refusal
  | declined _ reason => .declined reason
  | e => .failed e.message

end SendError

/-- What delivers messages, acting on a world of type `σ`. -/
structure Sender (σ : Type) where
  name : String
  send : Message → StateM σ (Except SendError Unit)
  requirements : Requirements := {}
  enabled : Option (Condition Check) := none

namespace Sender

variable {σ : Type}

def attempt (m : Message) (s : Sender σ) : StateM σ (Except Refusal Unit) := do
  match ← s.send m with
  | .ok _ => return .ok ()
  | .error e => return .error e.refusal

def executor (name : String) (senders : List (Sender σ)) : Fallback (Sender σ) :=
  ⟨name, senders.map fun s => (s.name, s)⟩

/-- A sender that tries others in turn until one delivers the message. -/
def fallback (name : String) (senders : List (Sender σ)) : Sender σ where
  name := name
  send m := do
    match ← (executor name senders).run (attempt m) with
    | .ok _ => return .ok ()
    | .error e => return .error (.allFailed e)

end Sender

def shownFallbackSender {σ : Type} (f : Fallback (Sender σ)) : String :=
  shownRecord "FallbackSender" [("executor", f.shown)]

end Postroom
