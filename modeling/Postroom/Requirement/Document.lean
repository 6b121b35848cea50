import Postroom.Document.Reading
import Postroom.Requirement.Basic

namespace Postroom

open Document Text

def textList (ss : List String) : Tree := .list (ss.map .text)

namespace RequiredComponent

def toTree (r : RequiredComponent) : Tree :=
  .table [("name", .text r.name), ("alternatives", textList r.alternatives),
    ("excludes", textList r.excludes)]

def ofTree? (c : Conventions) (t : Tree) : Option RequiredComponent := do
  match ← record? c ["name", "alternatives", "excludes"] t with
  | [some name, alternatives, excludes] =>
    return ⟨← c.text? name, ← orDefault [] (texts? c) alternatives,
      ← orDefault [] (texts? c) excludes⟩
  | _ => none

def shown (r : RequiredComponent) : String :=
  shownRecord "RequiredComponent" [("name", quote r.name),
    ("alternatives", shownList (r.alternatives.map quote)),
    ("excludes", shownList (r.excludes.map quote))]

end RequiredComponent

namespace ValueConstraint

def toTree : ValueConstraint → Tree
  | .equals v => .table [("equals", .text v)]
  | .matching p => .table [("matches", .text p)]

def ofTree? (c : Conventions) (t : Tree) : Option ValueConstraint := do
  match ← choice? t with
  | (name, some t) =>
    if c.sameChoice name "equals" then (c.text? t).map .equals
    else if c.sameChoice name "matches" then (c.text? t).map .matching
    else none
  | (_, none) => none

def shown : ValueConstraint → String
  | .equals v => shownApply "Equals" (quote v)
  | .matching p => shownApply "Matches" (quote p)

end ValueConstraint

namespace RequiredProperty

def toTree (r : RequiredProperty) : Tree :=
  .table [("key", .text r.key), ("alternatives", textList r.alternatives),
    ("excludes", textList r.excludes),
    ("constraint", match r.constraint with
      | none => .null
      | some k => k.toTree)]

def ofTree? (c : Conventions) (t : Tree) : Option RequiredProperty := do
  match ← record? c ["key", "alternatives", "excludes", "constraint"] t with
  | [some key, alternatives, excludes, constraint] =>
    return ⟨← c.text? key, ← orDefault [] (texts? c) alternatives,
      ← orDefault [] (texts? c) excludes, ← optional (ValueConstraint.ofTree? c) constraint⟩
  | _ => none

def shown (r : RequiredProperty) : String :=
  shownRecord "RequiredProperty" [("key", quote r.key),
    ("alternatives", shownList (r.alternatives.map quote)),
    ("excludes", shownList (r.excludes.map quote)),
    ("constraint", shownOption (r.constraint.map ValueConstraint.shown))]

end RequiredProperty

namespace Requirements

def toTree (r : Requirements) : Tree :=
  .table [("components", textList r.components),
    ("component_specs", .list (r.componentSpecs.map RequiredComponent.toTree)),
    ("properties", textList r.properties),
    ("property_specs", .list (r.propertySpecs.map RequiredProperty.toTree))]

def ofTree? (c : Conventions) (t : Tree) : Option Requirements := do
  match ← record? c ["components", "component_specs", "properties", "property_specs"] t with
  | [components, specs, properties, propertySpecs] =>
    return ⟨← orDefault [] (texts? c) components,
      ← orDefault [] (listOf? (RequiredComponent.ofTree? c)) specs,
      ← orDefault [] (texts? c) properties,
      ← orDefault [] (listOf? (RequiredProperty.ofTree? c)) propertySpecs⟩
  | _ => none

def shown (r : Requirements) : String :=
  shownRecord "Requirements" [("components", shownList (r.components.map quote)),
    ("component_specs", shownList (r.componentSpecs.map RequiredComponent.shown)),
    ("properties", shownList (r.properties.map quote)),
    ("property_specs", shownList (r.propertySpecs.map RequiredProperty.shown))]

end Requirements

end Postroom
