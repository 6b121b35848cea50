import Postroom.Document.Reading

namespace Postroom

open Document

inductive Variant
  | html
  | text
  | custom (name : String)
  deriving DecidableEq, Repr

namespace Variant

def name : Variant → String
  | html => "html"
  | text => "text"
  | custom name => name

def toTree : Variant → Tree
  | html => .text "html"
  | text => .text "text"
  | custom name => .table [("custom", .text name)]

def ofTree? (t : Tree) : Option Variant :=
  match choice? t with
  | some ("html", none) | some ("html", some .null) => some html
  | some ("text", none) | some ("text", some .null) => some text
  | some ("custom", some (.text name)) => some (custom name)
  | _ => none

end Variant

end Postroom
