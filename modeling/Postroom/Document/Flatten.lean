import Postroom.Document.Json
import Postroom.Selection.Adapter

namespace Postroom.Document

/-- A step into a document: a field of a table or an item of a list. -/
inductive Step
  | field (name : String)
  | item (index : Nat)
  deriving DecidableEq, Repr

def Step.extend (path : String) : Step → String
  | .field name => if path.isEmpty then name else path ++ "." ++ name
  | .item index => path ++ "[" ++ toString index ++ "]"

def scalarText? : Tree → Option String
  | .text s => some s
  | .bool b => some (if b then "true" else "false")
  | .int n => some (toString n)
  | .real x => x.document?
  | _ => none

mutual

def leavesFrom (path : String) : Tree → List (String × String)
  | .list ts => itemLeaves path 0 ts
  | .table fs => fieldLeaves path fs
  | t => ((scalarText? t).map fun s => (path, s)).toList

def itemLeaves (path : String) : Nat → List Tree → List (String × String)
  | _, [] => []
  | i, t :: ts => leavesFrom (Step.extend path (.item i)) t ++ itemLeaves path (i + 1) ts

def fieldLeaves (path : String) : List (String × Tree) → List (String × String)
  | [] => []
  | (name, t) :: fs => leavesFrom (Step.extend path (.field name)) t ++ fieldLeaves path fs

end

mutual

def Tree.sorted : Tree → Tree
  | .list ts => .list (sortedItems ts)
  | .table fs => .table (Fields.sorted (sortedFields fs))
  | t => t

def sortedItems : List Tree → List Tree
  | [] => []
  | t :: ts => t.sorted :: sortedItems ts

def sortedFields : List (String × Tree) → List (String × Tree)
  | [] => []
  | (name, t) :: fs => (name, t.sorted) :: sortedFields fs

end

/-- The properties of a document: every path with the text of its last leaf. Tables are visited in
the order of their names, and nulls are no leaves. -/
def flatten (t : Tree) : List (String × String) :=
  (leavesFrom "" t.sorted).foldl (fun props l => putKey l.1 l.2 props) []

end Postroom.Document
