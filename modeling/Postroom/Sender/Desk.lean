import Postroom.Message.Document
import Postroom.Report
import Postroom.Selection.Registry
import Postroom.Sender.Basic

namespace Postroom

open Text

/-- The senders of one kind that are to be set up. -/
structure DeskPlan (σ : Type) where
  kind : MessageKind
  senders : List (Sender σ) := []

/-- The senders of one kind, each guarded by the kind, by what it requires, and by the condition
under which it is enabled. -/
structure Desk (σ : Type) where
  kind : MessageKind
  registry : Registry Check (Sender σ)

namespace DeskPlan

variable {σ : Type}

def add (p : DeskPlan σ) (s : Sender σ) : DeskPlan σ :=
  if (p.senders.map Sender.name).contains s.name then p
  else { p with senders := p.senders ++ [s] }

def ofList (kind : MessageKind) (senders : List (Sender σ)) : DeskPlan σ :=
  senders.foldl add { kind }

def isEmpty (p : DeskPlan σ) : Bool := p.senders.isEmpty

/-- The candidate of a sender: it takes messages of the kind if its requirements are met and it is
enabled. -/
def candidate (kind : MessageKind) (s : Sender σ) :
    Except (Report SelectionError) (Candidate Check (Sender σ)) :=
  match s.requirements.compile with
  | .error cause =>
    .error ⟨.invalidPattern cause,
      ["compiling requirements of " ++ kind.name ++ " sender '" ++ s.name ++ "'"]⟩
  | .ok met =>
    let ofKind : Condition Check := .test (.ofKind kind)
    .ok { key := s.name, implementation := s, hooked := true,
          guard := some (if met.isTrue then ofKind else .all [ofKind, met]) }

def build (p : DeskPlan σ) : Except (Report SelectionError) (Desk σ) := do
  let candidates ← p.senders.mapM (candidate p.kind)
  return ⟨p.kind, .ofList (p.kind.name ++ "-senders") candidates⟩

end DeskPlan

namespace Desk

variable {σ : Type}

def names (d : Desk σ) : List String := d.registry.keys

def enabling : Enabling Check (Sender σ) := fun s => s.enabled.getD (.always true)

def supports (sur : Surroundings) (d : Desk σ) (m : Message) : Eval Check Bool := do
  return (← d.registry.find? (sur.about (.message m)) enabling).isSome

def select (sur : Surroundings) (d : Desk σ) (m : Message) :
    Eval Check (Except NoMatch (Sender σ)) := do
  return (← d.registry.select (sur.about (.message m)) enabling m.shown).map Candidate.implementation

/-- Delivers a message by the sender that is selected. -/
def send (sur : Surroundings) (d : Desk σ) (m : Message) :
    Work σ (Except SendError Unit) := do
  match ← Work.ofEval (d.select sur m) with
  | .ok s => Work.ofAction (s.send m)
  | .error cause => return .error (.noSender cause)

def shown (d : Desk σ) : String :=
  shownRecord "MultiImplementationSender"
    [("kind", d.kind.shown), ("registry", d.registry.shown)]

end Desk

end Postroom
