import Postroom.Condition.Evaluation
import Postroom.Message.Basic
import Postroom.Template.Request

namespace Postroom

open Text

inductive Subject
  | message (m : Message)
  | template (r : TemplateRequest)

/-- A test of a subject. -/
inductive Check
  | ofKind (kind : MessageKind)
  | ending (extensions : List String)
  | containing (marker : String)
  | custom (p : Predicate)
  deriving DecidableEq, Repr

namespace Check

def name : Check → String
  | ofKind kind => "kind(" ++ kind.name ++ ")"
  | ending extensions => "extension(" ++ String.intercalate "|" extensions ++ ")"
  | containing marker => "contains(" ++ marker ++ ")"
  | custom p => p.label

instance : Named Check := ⟨name⟩

def holds (ask : Subject → Predicate → Bool) (s : Subject) : Check → Bool
  | ofKind kind =>
    match s with
    | .message m => m.kind == kind
    | .template _ => false
  | ending extensions =>
    match s with
    | .message _ => false
    | .template r => extensions.any (endsWith r.path.path)
  | containing marker =>
    match s with
    | .message _ => false
    | .template r => contains r.source marker
  | custom p => ask s p

end Check

/-- What surrounds the work: the source of capabilities, and the answers of predicates. -/
structure Surroundings where
  source : Source
  ask : Subject → Predicate → Bool

namespace Surroundings

def about (sur : Surroundings) (s : Subject) : Outside Check :=
  .steady ⟨sur.source, Check.holds sur.ask s⟩

def aboutNothing (sur : Surroundings) : Outside Check := .steady ⟨sur.source, fun _ => false⟩

end Surroundings

/-- Work on a world of type `σ`, within a session. -/
abbrev Work (σ : Type) := StateT σ (Eval Check)

namespace Work

variable {σ β : Type}

def ofEval (e : Eval Check β) : Work σ β := fun s => do return (← e, s)

def ofAction (a : StateM σ β) : Work σ β := fun s => pure (a.run s)

end Work

end Postroom
