import Postroom.Condition.Evaluation
import Postroom.Selection.NoMatch

namespace Postroom

open Text

/-- A guarded implementation. -/
structure Candidate (α ι : Type) where
  key : String
  implementation : ι
  guard : Option (Condition α) := none
  /-- Whether the implementation is asked, at every selection, when it is enabled. -/
  hooked : Bool := false

/-- Guarded candidates in the order of registration, of which the first of each key is kept. -/
structure Registry (α ι : Type) where
  name : String
  candidates : List (Candidate α ι) := []

inductive Demand
  | optional | atLeastOne
  deriving DecidableEq, Repr

/-- The condition under which each implementation is enabled now. -/
abbrev Enabling (α ι : Type) := ι → Condition α

def Enabling.unconditional {α ι : Type} : Enabling α ι := fun _ => .always true

namespace Candidate

variable {α ι : Type}

def accepts (w : Outside α) (now : Enabling α ι) (c : Candidate α ι) : Eval α Bool := do
  let guarded ← match c.guard with
    | none => pure true
    | some g => g.eval w
  if guarded && c.hooked then
    Session.note (.hook c.key)
    (now c.implementation).eval w
  else return guarded

variable [Named α]

def guardText (c : Candidate α ι) : String :=
  match c.guard, c.hooked with
  | none, false => "true"
  | some g, false => g.shown
  | none, true => "runtime()"
  | some g, true => "and(" ++ g.shown ++ ", runtime())"

def shown (c : Candidate α ι) : String :=
  "Candidate \x7b key: " ++ quote c.key ++ ", guard: " ++ quote c.guardText ++ ", .. \x7d"

end Candidate

namespace Registry

variable {α ι : Type}

def keys (r : Registry α ι) : List String := r.candidates.map Candidate.key

def get? (r : Registry α ι) (key : String) : Option (Candidate α ι) :=
  r.candidates.find? (·.key == key)

/-- Appends a candidate. A key that is held already keeps its candidate. -/
def register (r : Registry α ι) (c : Candidate α ι) : Registry α ι :=
  if r.keys.contains c.key then r else { r with candidates := r.candidates ++ [c] }

def enter (r : Registry α ι) (c : Candidate α ι) : Candidate α ι × Registry α ι :=
  ((r.get? c.key).getD c, r.register c)

def ofList (name : String) (cs : List (Candidate α ι)) : Registry α ι :=
  cs.foldl register { name }

def firstOf (w : Outside α) (now : Enabling α ι) :
    List (Candidate α ι) → Eval α (Option (Candidate α ι))
  | [] => pure none
  | c :: cs => do if ← c.accepts w now then return some c else firstOf w now cs

def allOf (w : Outside α) (now : Enabling α ι) :
    List (Candidate α ι) → Eval α (List (Candidate α ι))
  | [] => pure []
  | c :: cs => do
    let accepted ← c.accepts w now
    let rest ← allOf w now cs
    return if accepted then c :: rest else rest

/-- The earliest candidate that accepts the subject. -/
def find? (w : Outside α) (now : Enabling α ι) (r : Registry α ι) :
    Eval α (Option (Candidate α ι)) :=
  firstOf w now r.candidates

section

variable [Named α]

def noMatch (r : Registry α ι) (subject : String) : NoMatch :=
  ⟨r.name, subject, r.candidates.map fun c => (c.key, c.guardText)⟩

/-- The earliest candidate that accepts the subject, which there has to be. -/
def select (w : Outside α) (now : Enabling α ι) (r : Registry α ι) (subject : String) :
    Eval α (Except NoMatch (Candidate α ι)) := do
  match ← r.find? w now with
  | some c => return .ok c
  | none => return .error (r.noMatch subject)

/-- Every candidate that accepts the subject, in the order of registration. -/
def selectAll (w : Outside α) (now : Enabling α ι) (r : Registry α ι) (subject : String)
    (demand : Demand) : Eval α (Except NoMatch (List (Candidate α ι))) := do
  let found ← allOf w now r.candidates
  if found.isEmpty && demand == .atLeastOne then return .error (r.noMatch subject)
  else return .ok found

def shown (r : Registry α ι) : String :=
  shownRecord "Registry"
    [("name", quote r.name), ("candidates", shownList (r.candidates.map Candidate.shown))]

end

end Registry

end Postroom
