import Postroom.Template.Request
import Postroom.Text.Slices

namespace Postroom

open Text

inductive Placeholders
  | braces | dollar
  deriving DecidableEq, Repr

namespace Placeholders

def opening : Placeholders → List Char
  | braces => ['\x7b', '\x7b']
  | dollar => ['$', '\x7b']

def closing : Placeholders → List Char
  | braces => ['\x7d', '\x7d']
  | dollar => ['\x7d']

def ofName? : String → Option Placeholders
  | "braces" => some braces
  | "dollar" => some dollar
  | _ => none

def marker (s : Placeholders) : String := .ofList s.opening

def isNameChar (c : Char) : Bool := c.isAlphanum || c == '_' || c == '.' || c == '-'

/-- The name of the placeholder that a text begins with, and what follows it. A name is of ASCII
letters, digits, underscores, dots and hyphens, with white space around it. -/
def placeholder? (s : Placeholders) (cs : List Char) : Option (String × List Char) :=
  match after? s.opening cs with
  | none => none
  | some inner =>
    let inner := trimLeft inner
    let name := inner.takeWhile isNameChar
    if name.isEmpty then none
    else (after? s.closing (trimLeft (inner.dropWhile isNameChar))).map fun rest =>
      (.ofList name, rest)

inductive Piece
  | literal (c : Char)
  | placeholder (name : String)
  deriving DecidableEq, Repr

def piecesFrom (s : Placeholders) : Nat → List Char → List Piece
  | 0, _ => []
  | _ + 1, [] => []
  | fuel + 1, c :: cs =>
    match s.placeholder? (c :: cs) with
    | some (name, rest) => .placeholder name :: piecesFrom s fuel rest
    | none => .literal c :: piecesFrom s fuel cs

def pieces (s : Placeholders) (source : String) : List Piece :=
  s.piecesFrom source.length source.toList

def Piece.name? : Piece → Option String
  | literal _ => none
  | placeholder name => some name

/-- What a piece becomes; a name without a variable becomes nothing. -/
def Piece.filled (bindings : List (String × String)) : Piece → String
  | literal c => .singleton c
  | placeholder name => (bindings.lookup name).getD ""

def missing? (s : Placeholders) (bindings : List (String × String)) (source : String) :
    Option String :=
  ((s.pieces source).filterMap Piece.name?).find? fun name => (bindings.lookup name).isNone

def replaceAll (s : Placeholders) (bindings : List (String × String)) (source : String) : String :=
  String.join ((s.pieces source).map (Piece.filled bindings))

/-- A source with its placeholders replaced by variables, once it is known that none is missing. -/
def render (s : Placeholders) (bindings : List (String × String)) (source : String) :
    Except String String :=
  match s.missing? bindings source with
  | some name => .error name
  | none => .ok (s.replaceAll bindings source)

end Placeholders

end Postroom
