import Postroom.Capability.Source
import Postroom.Property.Evaluation

namespace Postroom

open Text

/-- Names of available components, in order and without repetition. -/
structure Catalog where
  components : List String := []
  deriving DecidableEq, Repr

namespace Catalog

def insertName (n : String) : List String → List String
  | [] => [n]
  | m :: ms => if n == m then m :: ms else if n < m then n :: m :: ms else m :: insertName n ms

def register (c : Catalog) (n : String) : Catalog := ⟨insertName n c.components⟩

def ofList (ns : List String) : Catalog := ns.foldl register {}

def contains (c : Catalog) (n : String) : Bool := c.components.contains n

def shown (c : Catalog) : String :=
  shownRecord "ComponentCatalog"
    [("components", "\x7b" ++ commas (c.components.map quote) ++ "\x7d")]

end Catalog

structure Environment where
  catalog : Catalog := {}
  properties : Layers := {}

namespace Environment

/-- The value of a key; a text that cannot be evaluated is no value. -/
def value? (e : Environment) (key : String) : Option String :=
  match e.properties.get key with
  | .ok v => v
  | .error _ => none

def source (e : Environment) : Source where
  loadable := e.catalog.contains
  value := e.value?

def shown (e : Environment) : String :=
  shownRecord "Environment"
    [("catalog", e.catalog.shown), ("properties", e.properties.shown)]

end Environment

end Postroom
