import Postroom.Text.Quoted

namespace Postroom

/-- The answers about presence, each name once, kept until everything is forgotten at once.
Components and configuration keys of one name are kept apart. -/
structure Facts where
  components : List (String × Bool) := []
  keys : List (String × Bool) := []
  deriving DecidableEq, Repr

inductive FactKind
  | component | key
  deriving DecidableEq, Repr

structure Fact where
  kind : FactKind
  name : String
  present : Bool
  deriving DecidableEq, Repr

namespace Facts

def byName (answers : List (String × Bool)) : List (String × Bool) :=
  answers.mergeSort fun a b => a.1 ≤ b.1

def toList (f : Facts) : List Fact :=
  (byName f.components).map (fun a => ⟨.component, a.1, a.2⟩) ++
    (byName f.keys).map fun a => ⟨.key, a.1, a.2⟩

def shown (f : Facts) : String :=
  Text.shownRecord "CapabilityProbe"
    [("types", toString f.components.length), ("config_keys", toString f.keys.length)]

end Facts

end Postroom
