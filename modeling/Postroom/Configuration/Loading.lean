import Postroom.Configuration.Format
import Postroom.Configuration.Merge
import Postroom.Configuration.Substitution
import Postroom.Document.Flatten
import Postroom.Files
import Postroom.Text.Slices

namespace Postroom.Configuration

open Document Text

/-- A configuration text with its format. -/
structure ConfigText where
  content : String
  format : Format
  deriving DecidableEq, Repr

namespace ConfigText

def ofFile (files : Files) (path : String) : Except ConfigError ConfigText := do
  let format ← Format.ofPath path
  match files.read path with
  | .error _ => .error .io
  | .ok bytes =>
    match String.fromUTF8? bytes with
    | some content => .ok ⟨content, format⟩
    | none => .error .io

def substituted (vars : List (String × String)) (t : ConfigText) : ConfigText :=
  { t with content := substitute vars t.content }

end ConfigText

def assembled (texts : List ConfigText) : Except ConfigError Tree := do
  let tables ← texts.mapM fun t => t.format.readFields t.content
  return tables.foldl overlay (.table [])

/-- The variables whose names have a lead, as fields. After the lead two underscores stand for a
step, and case does not count. -/
def overrides (lead : String) (vars : List (String × String)) : Fields :=
  vars.filterMap fun v =>
    (after? (lower (lead ++ "_")).toList (lower v.1).toList).map fun rest =>
      (replace (.ofList rest) "__" ".", .text v.2)

/-- The document of some texts with their variables replaced, under the overrides of a lead. -/
def loaded (vars : List (String × String)) (texts : List ConfigText) (lead : Option String) :
    Except ConfigError Tree := do
  let t ← assembled (texts.map (·.substituted vars))
  match lead with
  | some l => return overlay t (overrides l vars)
  | none => return t

def settings {τ : Type} (read : Tree → Option τ) (t : Tree) : Except ConfigError τ :=
  match read t with
  | some s => .ok s
  | none => .error .serialization

def properties (t : ConfigText) : Except ConfigError (List (String × String)) := do
  return flatten (← assembled [t])

end Postroom.Configuration
