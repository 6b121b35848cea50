import Postroom.Document.Tree
import Postroom.Number.Digits
import Postroom.Text.Slices

namespace Postroom.Document.Ini

open Number Text

def escape? : List Char → Option (List Char × List Char)
  | '0' :: cs => some (['\x00'], cs)
  | 'a' :: cs => some (['\x07'], cs)
  | 'b' :: cs => some (['\x08'], cs)
  | 't' :: cs => some (['\t'], cs)
  | 'r' :: cs => some (['\r'], cs)
  | 'n' :: cs => some (['\n'], cs)
  | '\n' :: cs => some ([], cs)
  | 'x' :: a :: b :: c :: d :: cs =>
    (hexChar? [a, b, c, d]).map fun e => ([e], cs)
  | 'x' :: _ => none
  | c :: cs => some ([c], cs)
  | [] => none

/-- The text up to one of the marks, which is not taken. The end of the input counts as a mark only
if `atEnd` says so. -/
def until? (marks : List Char) (atEnd : Bool) : Nat → List Char → List Char →
    Option (List Char × List Char)
  | 0, _, _ => none
  | _ + 1, acc, [] => if atEnd then some (acc.reverse, []) else none
  | fuel + 1, acc, c :: cs =>
    if marks.contains c then some (acc.reverse, c :: cs)
    else if c == '\\' then
      match escape? cs with
      | some (e, cs) => until? marks atEnd fuel (e.reverse ++ acc) cs
      | none => none
    else until? marks atEnd fuel (c :: acc) cs

/-- A value after its sign. Only the first unquoted part is trimmed at its start. -/
def value? : Nat → Bool → List Char → List Char → Option (List Char × List Char)
  | 0, _, _, _ => none
  | _ + 1, _, acc, [] => some (acc, [])
  | fuel + 1, first, acc, c :: cs =>
    if c == '"' || c == '\x27' then
      match until? [c] false (cs.length + 1) [] cs with
      | some (s, rest) => value? fuel false (acc ++ s) (rest.drop 1)
      | none => none
    else
      match until? ['\n', '\r'] true (cs.length + 2) [] (c :: cs) with
      | some (s, rest) => some (acc ++ trimRight (if first then trimLeft s else s), rest)
      | none => none

def trimmed (cs : List Char) : String := .ofList (trimRight (trimLeft cs))

def insert (root : Fields) (sec : Option String) (key value : String) : Fields :=
  match sec with
  | none => root.put key (.text value)
  | some s =>
    match root.get? s with
    | some (.table fs) => root.put s (.table (Fields.put fs key (.text value)))
    | _ => root.put s (.table [(key, .text value)])

def lines? : Nat → Fields → Option String → Bool → List Char → Option Fields
  | 0, _, _, _, _ => none
  | _ + 1, root, _, _, [] => some root
  | fuel + 1, root, sec, startOfLine, c :: cs =>
    if c == '\n' then lines? fuel root sec true cs
    else if c == ' ' || c == '\t' || c == '\r' then lines? fuel root sec false cs
    else if c == ';' || c == '#' then
      if startOfLine then lines? fuel root sec true ((cs.dropWhile (· != '\n')).drop 1) else none
    else if c == '[' then
      match until? [']'] false (cs.length + 1) [] cs with
      | some (s, rest) =>
        let s := trimmed s
        lines? fuel (root.put s (.table [])) (some s) false (rest.drop 1)
      | none => none
    else
      match until? ['=', ':'] false (cs.length + 2) [] (c :: cs) with
      | some (key, rest) =>
        let key := trimmed key
        if key.isEmpty then none
        else
          match value? (cs.length + 2) true []
              ((rest.drop 1).dropWhile fun c => c == ' ' || c == '\t') with
          | some (v, rest) => lines? fuel (insert root sec key (.ofList v)) sec false rest
          | none => none
      | none => none

/-- The document of an INI text: a table of texts and of tables of texts. Quoted parts of a value
keep their blanks and lose their quotes, and a section that comes again replaces the one before. -/
def read? (text : String) : Option Tree :=
  (lines? (text.length + 1) [] none true text.toList).map .table

end Postroom.Document.Ini
