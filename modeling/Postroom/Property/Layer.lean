import Postroom.Selection.Adapter
import Postroom.Selection.Registry
import Postroom.Text.Slices

namespace Postroom

open Text

/-- A source of properties: it holds the keys that it has a value for. Its values are finitely many
texts, so references lead from one of its keys to finitely many others. -/
structure Layer where
  name : String
  get? : String → Option String
  holds : String → Bool := fun key => (get? key).isSome
  texts : List String
  mem_texts : ∀ {key text}, get? key = some text → text ∈ texts
  holds_eq : ∀ key, holds key = (get? key).isSome := by intro _; rfl

/-- The variable that a key is read from: dots and hyphens become underscores, ASCII letters upper
case, and a lead is put in front. -/
def variableName (lead : Option String) (key : String) : String :=
  let name := String.ofList (key.toList.map fun c => if c == '.' || c == '-' then '_' else c.toUpper)
  match lead with
  | some l => asciiUpper l ++ "_" ++ name
  | none => name

namespace Layer

theorem mem_values_of_lookup {values : List (String × String)} {key text : String}
    (h : values.lookup key = some text) : text ∈ values.map Prod.snd := by
  obtain ⟨front, back, rfl, -⟩ := List.lookup_eq_some_iff.mp h
  simp

def table (name : String) (values : List (String × String)) : Layer where
  name
  get? key := values.lookup key
  texts := values.map Prod.snd
  mem_texts := mem_values_of_lookup

def process (lead : Option String) (vars : List (String × String)) : Layer where
  name := "environment"
  get? key := vars.lookup (variableName lead key)
  texts := vars.map Prod.snd
  mem_texts := mem_values_of_lookup

def ofPuts (name : String) (puts : List (String × String)) : Layer :=
  .table name (puts.foldl (fun values p => putKey p.1 p.2 values) [])

def shownTable (name : String) (values : List (String × String)) : String :=
  shownRecord "MapPropertySource" [("name", quote name),
    ("values", shownMap ((values.mergeSort fun a b => a.1 ≤ b.1).map fun v =>
      (quote v.1, quote v.2)))]

end Layer

structure HoldingTest where
  layer : Layer

instance : Named HoldingTest := ⟨fun t => "holds(" ++ t.layer.name ++ ")"⟩

def HoldingTest.holds (key : String) (t : HoldingTest) : Bool := t.layer.holds key

/-- Layers in the order of precedence, each name once. -/
structure Layers where
  layers : List Layer := []

namespace Layers

def names (ls : Layers) : List String := ls.layers.map Layer.name

def candidate (l : Layer) : Candidate HoldingTest Layer :=
  { key := l.name, implementation := l, guard := some (.test ⟨l⟩) }

def registry (ls : Layers) : Registry HoldingTest Layer :=
  { name := "property-sources", candidates := ls.layers.map candidate }

/-- Adds a layer behind the others; a name that is there already keeps its layer. -/
def add (ls : Layers) (l : Layer) : Layers :=
  ⟨(ls.registry.register (candidate l)).candidates.map Candidate.implementation⟩

def ofList (ls : List Layer) : Layers := ls.foldl add {}

def holder? (ls : Layers) (key : String) : Option Layer :=
  (Session.alone (ls.registry.find? (.ofTests (HoldingTest.holds key)) .unconditional)).map
    Candidate.implementation

def contains (ls : Layers) (key : String) : Bool := (ls.holder? key).isSome

def sourceOf? (ls : Layers) (key : String) : Option String := (ls.holder? key).map Layer.name

def raw? (ls : Layers) (key : String) : Option String := (ls.holder? key).bind (·.get? key)

def shown (ls : Layers) : String :=
  shownRecord "PropertyResolver" [("sources", shownList (ls.names.map quote))]

end Layers

end Postroom
