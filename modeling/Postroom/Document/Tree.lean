import Postroom.Number.Double
import Postroom.Number.Range

namespace Postroom.Document

open Postroom.Number

inductive Tree
  | null
  | bool (b : Bool)
  | int (n : Int)
  | real (x : Double)
  | text (s : String)
  | list (items : List Tree)
  | table (fields : List (String × Tree))
  deriving Inhabited, Repr

/-- The fields of a table, each name once. -/
abbrev Fields := List (String × Tree)

namespace Fields

def get? (fs : Fields) (name : String) : Option Tree := fs.lookup name

/-- Gives a field a value; a field that is there keeps its place. -/
def put : Fields → String → Tree → Fields
  | [], name, t => [(name, t)]
  | (n, u) :: fs, name, t => if n == name then (n, t) :: fs else (n, u) :: put fs name t

def sorted (fs : Fields) : Fields := fs.mergeSort fun a b => a.1 ≤ b.1

end Fields

def Tree.get? : Tree → String → Option Tree
  | .table fs, name => Fields.get? fs name
  | _, _ => none

end Postroom.Document
