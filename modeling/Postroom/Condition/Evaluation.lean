import Postroom.Capability.Facts
import Postroom.Capability.Source
import Postroom.Condition.Basic

namespace Postroom

/-- A question put to the outside. -/
inductive Query (α : Type)
  | component (name : String)
  | presence (key : String)
  | value (key : String)
  | test (p : α)
  | hook (candidate : String)
  deriving DecidableEq, Repr

/-- What the outside answers at one moment, about one subject. -/
structure Answers (α : Type) where
  source : Source
  test : α → Bool

/-- The outside: its answers, given all questions asked before. -/
abbrev Outside (α : Type) := List (Query α) → Answers α

def Outside.steady {α : Type} (a : Answers α) : Outside α := fun _ => a

def Outside.ofTests {α : Type} (test : α → Bool) : Outside α := .steady ⟨.bare, test⟩

/-- What lasts from one evaluation to the next: the facts, and every question put so far, in order.
-/
structure Session (α : Type) where
  facts : Facts := {}
  asked : List (Query α) := []

abbrev Eval (α : Type) := StateM (Session α)

namespace Session

variable {α : Type}

def note (q : Query α) : Eval α Unit := modify fun s => { s with asked := s.asked ++ [q] }

/-- Presence of a component: the fact if there is one, else the source's answer, which becomes the
fact. -/
def component (w : Outside α) (name : String) : Eval α Bool := fun s =>
  match s.facts.components.lookup name with
  | some b => (b, s)
  | none =>
    let b := (w s.asked).source.loadable name
    (b, ⟨{ s.facts with components := (name, b) :: s.facts.components },
      s.asked ++ [.component name]⟩)

def key (w : Outside α) (key : String) : Eval α Bool := fun s =>
  match s.facts.keys.lookup key with
  | some b => (b, s)
  | none =>
    let b := (w s.asked).source.hasValue key
    (b, ⟨{ s.facts with keys := (key, b) :: s.facts.keys }, s.asked ++ [.presence key]⟩)

def value (w : Outside α) (key : String) : Eval α (Option String) := fun s =>
  ((w s.asked).source.value key, ⟨s.facts, s.asked ++ [.value key]⟩)

def test (w : Outside α) (p : α) : Eval α Bool := fun s =>
  ((w s.asked).test p, ⟨s.facts, s.asked ++ [.test p]⟩)

def reset : Eval α Unit := modify fun s => { s with facts := {} }

def alone {β : Type} (e : Eval α β) : β := (e.run {}).1

end Session

namespace Condition

variable {α : Type}

mutual

/-- The answer of a condition. The members of a conjunction are evaluated up to the first that
rejects, those of a disjunction up to the first that accepts. -/
def eval (w : Outside α) : Condition α → Eval α Bool
  | always b => pure b
  | all cs => evalAll w cs
  | any cs => evalAny w cs
  | not c => do return !(← eval w c)
  | component n => Session.component w n
  | key k => Session.key w k
  | equals k v => do return (← Session.value w k) == some v
  | matching k p => do return (← Session.value w k).any p.accepts
  | test p => Session.test w p

def evalAll (w : Outside α) : List (Condition α) → Eval α Bool
  | [] => pure true
  | c :: cs => do if ← eval w c then evalAll w cs else pure false

def evalAny (w : Outside α) : List (Condition α) → Eval α Bool
  | [] => pure false
  | c :: cs => do if ← eval w c then pure true else evalAny w cs

end

end Condition

end Postroom
