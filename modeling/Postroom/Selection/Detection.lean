import Postroom.Condition.Evaluation
import Postroom.Selection.NoMatch

namespace Postroom

open Text

structure Detectable (α ι : Type) where
  key : String
  implementation : ι
  detector : Condition α
  guard : Condition α := .always true

/-- Candidates with a guard, which decides whether one is eligible, and a detector, which looks at
the invocation. -/
structure Dispatcher (α ι : Type) where
  name : String
  candidates : List (Detectable α ι) := []

/-- A candidate that was chosen, and whether detection was passed over. -/
structure Detected (α ι : Type) where
  candidate : Detectable α ι
  bypassed : Bool

namespace Dispatcher

variable {α ι : Type}

def keys (d : Dispatcher α ι) : List String := d.candidates.map Detectable.key

def register (d : Dispatcher α ι) (c : Detectable α ι) : Dispatcher α ι :=
  if d.keys.contains c.key then d else { d with candidates := d.candidates ++ [c] }

def get? (d : Dispatcher α ι) (key : String) : Option ι :=
  (d.candidates.find? (·.key == key)).map Detectable.implementation

def eligibleOf (w : Outside α) : List (Detectable α ι) → Eval α (List (Detectable α ι))
  | [] => pure []
  | c :: cs => do
    let accepted ← c.guard.eval w
    let rest ← eligibleOf w cs
    return if accepted then c :: rest else rest

def eligible (w : Outside α) (d : Dispatcher α ι) : Eval α (List (Detectable α ι)) :=
  eligibleOf w d.candidates

def eligibleKeys (w : Outside α) (d : Dispatcher α ι) : Eval α (List String) := do
  return (← d.eligible w).map Detectable.key

def detectOf (w : Outside α) : List (Detectable α ι) → Eval α (Option (Detectable α ι))
  | [] => pure none
  | c :: cs => do if ← c.detector.eval w then return some c else detectOf w cs

variable [Named α]

def stepText (c : Detectable α ι) : String :=
  if c.guard.isTrue then c.detector.shown else c.guard.shown ++ " then " ++ c.detector.shown

def noMatch (d : Dispatcher α ι) (subject : String) : NoMatch :=
  ⟨d.name, subject, d.candidates.map fun c => (c.key, stepText c)⟩

/-- The candidate for an invocation. A single eligible candidate is taken without detection, and of
several the first whose detector accepts. Guards are put to one outside, as they look at no
invocation, and detectors to another. -/
def dispatch (guards detectors : Outside α) (d : Dispatcher α ι) (subject : String) :
    Eval α (Except NoMatch (Detected α ι)) := do
  match ← d.eligible guards with
  | [c] => return .ok ⟨c, true⟩
  | cs =>
    match ← detectOf detectors cs with
    | some c => return .ok ⟨c, false⟩
    | none => return .error (d.noMatch subject)

def shown (d : Dispatcher α ι) : String :=
  shownRecord "DetectingDispatcher"
    [("name", quote d.name), ("candidates", shownList (d.keys.map quote))]

end Dispatcher

end Postroom
