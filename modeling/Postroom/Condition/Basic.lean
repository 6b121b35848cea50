import Postroom.Pattern.WholeValue

namespace Postroom

open Pattern

class Named (α : Type) where
  name : α → String

export Named (name)

/-- A Boolean formula over the capabilities of an environment and over tests of a subject. Tests are
plain data of a type `α`; what a test answers is given where a condition is evaluated, so a
condition can be shown and compared. -/
inductive Condition (α : Type)
  | always (answer : Bool)
  | all (cs : List (Condition α))
  | any (cs : List (Condition α))
  | not (c : Condition α)
  | component (name : String)
  | key (key : String)
  | equals (key value : String)
  | matching (key : String) (pattern : ValuePattern)
  | test (p : α)

namespace Condition

variable {α : Type}

/-- Both conditions; a conjunction on the left takes the right one as its last member. -/
def and : Condition α → Condition α → Condition α
  | all cs, d => all (cs ++ [d])
  | c, d => all [c, d]

def or : Condition α → Condition α → Condition α
  | any cs, d => any (cs ++ [d])
  | c, d => any [c, d]

instance : AndOp (Condition α) := ⟨and⟩
instance : OrOp (Condition α) := ⟨or⟩
instance : Complement (Condition α) := ⟨not⟩

def isTrue : Condition α → Bool
  | always b => b
  | _ => false

mutual

def beq [BEq α] : Condition α → Condition α → Bool
  | always a, always b => a == b
  | all cs, all ds => beqList cs ds
  | any cs, any ds => beqList cs ds
  | not c, not d => beq c d
  | component a, component b => a == b
  | key a, key b => a == b
  | equals k v, equals k' v' => k == k' && v == v'
  | matching k p, matching k' p' => k == k' && p == p'
  | test p, test q => p == q
  | _, _ => false

def beqList [BEq α] : List (Condition α) → List (Condition α) → Bool
  | [], [] => true
  | c :: cs, d :: ds => beq c d && beqList cs ds
  | _, _ => false

end

instance [BEq α] : BEq (Condition α) := ⟨beq⟩

mutual

def shown [Named α] : Condition α → String
  | always b => if b then "true" else "false"
  | all cs => "and(" ++ Text.commas (shownList cs) ++ ")"
  | any cs => "or(" ++ Text.commas (shownList cs) ++ ")"
  | not c => "not(" ++ shown c ++ ")"
  | component n => "type(" ++ n ++ ")"
  | key k => "config(" ++ k ++ ")"
  | equals k v => "config(" ++ k ++ " == " ++ Text.quote v ++ ")"
  | matching k p => "config(" ++ k ++ " ~ /" ++ p.source ++ "/)"
  | test p => "fn(" ++ name p ++ ")"

def shownList [Named α] : List (Condition α) → List String
  | [] => []
  | c :: cs => shown c :: shownList cs

end

mutual

def map {β : Type} (f : α → β) : Condition α → Condition β
  | always b => always b
  | all cs => all (mapList f cs)
  | any cs => any (mapList f cs)
  | not c => not (map f c)
  | component n => component n
  | key k => key k
  | equals k v => equals k v
  | matching k p => matching k p
  | test p => test (f p)

def mapList {β : Type} (f : α → β) : List (Condition α) → List (Condition β)
  | [] => []
  | c :: cs => map f c :: mapList f cs

end

end Condition

/-- A test that comes from outside: a name to be shown by and an identity. Two tests of one name are
the same only if their identities are. -/
structure Predicate where
  label : String
  id : Nat
  deriving DecidableEq, Repr

instance : Named Predicate := ⟨Predicate.label⟩

end Postroom
