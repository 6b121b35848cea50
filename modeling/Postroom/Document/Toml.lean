import Postroom.Document.Toml.Value

namespace Postroom.Document.Toml

/-- How a table came to be: by a header, as a step of a header, or as a step of a key. -/
inductive Origin
  | header | headerStep | keyStep
  deriving DecidableEq, Repr

/-- A document under construction: only tables from headers and keys can grow. -/
inductive Node
  | value (t : Tree)
  | table (origin : Origin) (fields : List (String × Node))
  | tables (items : List (List (String × Node)))

abbrev Nodes := List (String × Node)

def putNode (name : String) (n : Node) : Nodes → Nodes
  | [] => [(name, n)]
  | (k, m) :: ns => if k == name then (k, n) :: ns else (k, m) :: putNode name n ns

def within (f : Nodes → Option Nodes) : List String → Nodes → Option Nodes
  | [], ns => f ns
  | k :: ks, ns =>
    match ns.lookup k with
    | none => (within f ks []).map fun ms => putNode k (.table .headerStep ms) ns
    | some (.table o ms) => (within f ks ms).map fun ms => putNode k (.table o ms) ns
    | some (.tables items) =>
      match items.reverse with
      | [] => none
      | last :: before =>
        (within f ks last).map fun ms => putNode k (.tables (ms :: before).reverse) ns
    | some (.value _) => none

def openTable (k : String) (ns : Nodes) : Option Nodes :=
  match ns.lookup k with
  | none => some (putNode k (.table .header []) ns)
  | some (.table .headerStep ms) => some (putNode k (.table .header ms) ns)
  | some _ => none

def openItem (k : String) (ns : Nodes) : Option Nodes :=
  match ns.lookup k with
  | none => some (putNode k (.tables [[]]) ns)
  | some (.tables items) => some (putNode k (.tables (items ++ [[]])) ns)
  | some _ => none

def putValue (t : Tree) : List String → Nodes → Option Nodes
  | [], _ => none
  | [k], ns => if (ns.lookup k).isSome then none else some (putNode k (.value t) ns)
  | k :: ks, ns =>
    match ns.lookup k with
    | none => (putValue t ks []).map fun ms => putNode k (.table .keyStep ms) ns
    | some (.table .keyStep ms) => (putValue t ks ms).map fun ms => putNode k (.table .keyStep ms) ns
    | some _ => none

def header? (closing : List Char) (cs : List Char) : Option (List String × List Char) :=
  match key? (cs.length + 1) cs with
  | some (key, rest) => (Text.after? closing rest).map fun rest => (key, rest)
  | none => none

def finishLine? (cs : List Char) : Option (List Char) := lineEnd? (skipComment (skipSpace cs))

def lines? : Nat → List String → Nodes → List Char → Option Nodes
  | 0, _, _, _ => none
  | fuel + 1, here, root, cs =>
    match skipLines cs.length cs with
    | [] => some root
    | '[' :: '[' :: cs =>
      match header? [']', ']'] cs with
      | none => none
      | some (key, rest) =>
        match within (openItem (key.getLast?.getD "")) key.dropLast root, finishLine? rest with
        | some root, some rest => lines? fuel key root rest
        | _, _ => none
    | '[' :: cs =>
      match header? [']'] cs with
      | none => none
      | some (key, rest) =>
        match within (openTable (key.getLast?.getD "")) key.dropLast root, finishLine? rest with
        | some root, some rest => lines? fuel key root rest
        | _, _ => none
    | cs =>
      match key? (cs.length + 1) cs with
      | some (key, '=' :: rest) =>
        match value? (rest.length + 1) (skipSpace rest) with
        | none => none
        | some (t, rest) =>
          match within (putValue t key) here root, finishLine? rest with
          | some root, some rest => lines? fuel here root rest
          | _, _ => none
      | _ => none

mutual

def Node.toTree : Node → Tree
  | .value t => t
  | .table _ ns => .table (fieldTrees ns)
  | .tables items => .list (itemTrees items)

def fieldTrees : List (String × Node) → List (String × Tree)
  | [] => []
  | (k, n) :: ns => (k, n.toTree) :: fieldTrees ns

def itemTrees : List (List (String × Node)) → List Tree
  | [] => []
  | ns :: items => .table (fieldTrees ns) :: itemTrees items

end

/-- The document of a TOML text, which is a table. No key is given twice, and no header reopens a
table that was opened or written out before. -/
def read? (text : String) : Option Tree :=
  (lines? (text.length + 1) [] [] text.toList).map fun ns => .table (fieldTrees ns)

end Postroom.Document.Toml
