import Postroom.Document.Tree
import Postroom.Text.Casing

namespace Postroom.Document

open Text

structure Conventions where
  text? : Tree → Option String
  sameChoice : String → String → Bool
  surplus : Bool

namespace Conventions

def strict : Conventions where
  text?
    | .text s => some s
    | _ => none
  sameChoice a b := a == b
  surplus := false

/-- Numbers and truth values are taken for their texts, and names are compared without regard to
case. -/
def generous : Conventions where
  text?
    | .text s => some s
    | .bool b => some (if b then "true" else "false")
    | .int n => some (toString n)
    | .real x => some x.plain
    | _ => none
  sameChoice a b := lower a == lower b
  surplus := true

end Conventions

variable (c : Conventions)

/-- The fields of a record, by name out of a table or by place out of a list. -/
def record? (names : List String) : Tree → Option (List (Option Tree))
  | .table fs => some (names.map fun n => Fields.get? fs n)
  | .list ts =>
    if !c.surplus && names.length < ts.length then none
    else some ((List.range names.length).map fun i => ts[i]?)
  | _ => none

def texts? : Tree → Option (List String)
  | .list ts => ts.mapM c.text?
  | _ => none

def listOf? {α : Type} (read : Tree → Option α) : Tree → Option (List α)
  | .list ts => ts.mapM read
  | _ => none

def orDefault {α : Type} (default : α) (read : Tree → Option α) : Option Tree → Option α
  | none => some default
  | some t => read t

def optional {α : Type} (read : Tree → Option α) : Option Tree → Option (Option α)
  | none | some .null => some none
  | some t => (read t).map some

def choice? : Tree → Option (String × Option Tree)
  | .text s => some (s, none)
  | .table [(name, t)] => some (name, some t)
  | _ => none

def bareChoice? (t : Tree) : Option String :=
  match choice? t with
  | some (name, none) | some (name, some .null) => some name
  | _ => none

def textMap? : Tree → Option (List (String × String))
  | .table fs => fs.mapM fun f => (c.text? f.2).map fun s => (f.1, s)
  | _ => none

end Postroom.Document
