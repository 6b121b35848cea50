import Postroom.Condition.Evaluation

namespace Postroom

open Pattern Condition

/-- A component, or one of its alternatives, without the excluded ones. -/
structure RequiredComponent where
  name : String
  alternatives : List String := []
  excludes : List String := []
  deriving DecidableEq, Repr

inductive ValueConstraint
  | equals (value : String)
  | matching (pattern : String)
  deriving DecidableEq, Repr

/-- A property under one of several keys, without the excluded keys. -/
structure RequiredProperty where
  key : String
  alternatives : List String := []
  excludes : List String := []
  constraint : Option ValueConstraint := none
  deriving DecidableEq, Repr

/-- Everything that one implementation declares. -/
structure Requirements where
  components : List String := []
  componentSpecs : List RequiredComponent := []
  properties : List String := []
  propertySpecs : List RequiredProperty := []
  deriving DecidableEq, Repr

structure InvalidPattern where
  pattern : String
  deriving DecidableEq, Repr

variable {α : Type}

/-- A choice of conditions of which one has to accept, and others of which none may. -/
def oneWithout (accepted excluded : List (Condition α)) : Condition α :=
  all [any accepted, not (any excluded)]

namespace RequiredComponent

def names (r : RequiredComponent) : List String := r.name :: r.alternatives

def compile (r : RequiredComponent) : Condition α :=
  oneWithout (r.names.map component) (r.excludes.map component)

end RequiredComponent

def ValueConstraint.leaf? : Option ValueConstraint → String → Except InvalidPattern (Condition α)
  | none, k => .ok (.key k)
  | some (.equals v), k => .ok (.equals k v)
  | some (.matching p), k =>
    match ValuePattern.ofText? p with
    | some pattern => .ok (.matching k pattern)
    | none => .error ⟨p⟩

namespace RequiredProperty

def keys (r : RequiredProperty) : List String := r.key :: r.alternatives

def compile (r : RequiredProperty) : Except InvalidPattern (Condition α) := do
  let accepted ← r.keys.mapM (ValueConstraint.leaf? r.constraint)
  return oneWithout accepted (r.excludes.map Condition.key)

def firstValue (w : Outside α) : List String → Eval α (Option (String × String))
  | [] => pure none
  | k :: ks => do
    match ← Session.value w k with
    | some v => return some (k, v)
    | none => firstValue w ks

/-- The value to use: that of the first declared key that has one. -/
def resolve (w : Outside α) (r : RequiredProperty) : Eval α (Option (String × String)) :=
  firstValue w r.keys

end RequiredProperty

namespace Requirements

def isEmpty (r : Requirements) : Bool :=
  r.components.isEmpty && r.componentSpecs.isEmpty && r.properties.isEmpty &&
    r.propertySpecs.isEmpty

/-- The condition that everything declared is there. Nothing declared is the constant truth. -/
def compile (r : Requirements) : Except InvalidPattern (Condition α) :=
  if r.isEmpty then .ok (always true)
  else do
    let specs ← r.propertySpecs.mapM RequiredProperty.compile
    return all (r.components.map component ++ r.componentSpecs.map RequiredComponent.compile ++
      r.properties.map Condition.key ++ specs)

/-- The condition of several blocks at once. Empty blocks do not count, and a single block keeps its
own condition. -/
def compileAll (rs : List Requirements) : Except InvalidPattern (Condition α) := do
  match ← (rs.filter fun r => !r.isEmpty).mapM compile with
  | [] => return always true
  | [c] => return c
  | cs => return all cs

def resolveProperty (w : Outside α) (r : Requirements) (k : String) :
    Eval α (Option (String × String)) :=
  match r.propertySpecs.find? (·.key == k) with
  | some spec => spec.resolve w
  | none => pure none

end Requirements

end Postroom
