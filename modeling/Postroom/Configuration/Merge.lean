import Postroom.Document.Tree
import Postroom.Number.Integer
import Postroom.Text.Casing

namespace Postroom.Configuration

open Document Number Text

mutual

def setField (t : Tree) (name : String) : Tree → Tree
  | .table gs =>
    let fs := fieldsOf t
    .table (fs.put name (mergeFields ((fs.get? name).getD (.table [])) gs))
  | v => .table ((fieldsOf t).put name v)
where
  fieldsOf : Tree → Fields
    | .table fs => fs
    | _ => []

def mergeFields (t : Tree) : List (String × Tree) → Tree
  | [] => t
  | (name, v) :: gs => mergeFields (setField t (lower name) v) gs

end

/-- A step of a path: a field of a table, or an item of a list counted from the front or, if
negative, from the end. -/
inductive Selector
  | field (name : String)
  | item (index : Int)
  deriving DecidableEq, Repr

def isPathChar (c : Char) : Bool := c.isAlphanum || c == ' ' || c == '_' || c == '-'

def subscript? (cs : List Char) : Option (Int × List Char) :=
  let cs := cs.dropWhile fun c => c == ' ' || c == '\t'
  let (sign, cs) := match cs with
    | '-' :: cs => (['-'], cs)
    | cs => ([], cs)
  let ds := cs.takeWhile Char.isDigit
  match (cs.dropWhile Char.isDigit).dropWhile fun c => c == ' ' || c == '\t' with
  | ']' :: rest =>
    match readInteger (.signed 64) (.ofList (sign ++ ds)) with
    | .ok n => some (n, rest)
    | .error _ => none
  | _ => none

def selectors? : Nat → List Char → Option (List Selector)
  | 0, _ => none
  | _ + 1, [] => some []
  | fuel + 1, '.' :: cs =>
    let name := cs.takeWhile isPathChar
    if name.isEmpty then none
    else (selectors? fuel (cs.dropWhile isPathChar)).map (.field (.ofList name) :: ·)
  | fuel + 1, '[' :: cs =>
    match subscript? cs with
    | some (n, rest) => (selectors? fuel rest).map (.item n :: ·)
    | none => none
  | _ + 1, _ => none

/-- The path that a name at the top is read as; a name that cannot be read is one step. -/
def path (name : String) : List Selector :=
  let cs := name.toList
  let first := cs.takeWhile isPathChar
  match if first.isEmpty then none
    else selectors? (cs.length + 1) (cs.dropWhile isPathChar) with
  | some rest => .field (.ofList first) :: rest
  | none => [.field name]

def place? (index : Int) (size : Nat) : Option Nat :=
  if 0 ≤ index then some index.toNat
  else if index.natAbs ≤ size then some (size - index.natAbs) else none

def itemsUpTo (place : Nat) : Tree → List Tree
  | .list ts => ts ++ List.replicate (place + 1 - ts.length) .null
  | _ => List.replicate (place + 1) .null

def sizeOf : Tree → Nat
  | .list ts => ts.length
  | _ => 0

/-- Sets the value at the end of a path; tables and lists on the way are made where they are
missing. -/
def setAt (v : Tree) : List Selector → Tree → Tree
  | [], _ => v
  | [.field name], t => setField t name v
  | .field name :: steps, t =>
    let fs := setField.fieldsOf t
    .table (fs.put name (setAt v steps ((fs.get? name).getD .null)))
  | .item index :: steps, t =>
    match place? index (sizeOf t) with
    | some i =>
      let ts := itemsUpTo i t
      .list (ts.set i (setAt v steps ((ts[i]?).getD .null)))
    | none => t

/-- Lays fields over a table. Names of tables are put in lower case, while lists are kept as
written; tables are merged field by field, and anything else replaces what was there. -/
def overlay (t : Tree) (fs : Fields) : Tree :=
  fs.foldl (fun t f => setAt f.2 (path (lower f.1)) t) t

end Postroom.Configuration
