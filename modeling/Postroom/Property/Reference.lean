import Postroom.Text.Slices

namespace Postroom.Property

open Text

/-- A piece of a property text: a character that stands for itself, or a reference. -/
inductive Piece
  | literal (c : Char)
  | reference (key : String) (default : Option String)
  deriving DecidableEq, Repr

/-- What follows the opening of a reference: its key and default, and the text behind it. A key is
not empty and holds neither a closing brace nor a colon, and a default holds no closing brace, so it
never holds a reference. -/
def reference? (cs : List Char) : Option (Piece × List Char) :=
  let key := cs.takeWhile fun c => c != '\x7d' && c != ':'
  if key.isEmpty then none
  else
    match cs.dropWhile fun c => c != '\x7d' && c != ':' with
    | '\x7d' :: rest => some (.reference (trim (.ofList key)) none, rest)
    | ':' :: more =>
      match more.dropWhile (· != '\x7d') with
      | '\x7d' :: rest =>
        some (.reference (trim (.ofList key)) (some (.ofList (more.takeWhile (· != '\x7d')))), rest)
      | _ => none
    | _ => none

def piecesFrom : Nat → List Char → List Piece
  | 0, _ => []
  | _ + 1, [] => []
  | fuel + 1, '$' :: '\x7b' :: cs =>
    match reference? cs with
    | some (piece, rest) => piece :: piecesFrom fuel rest
    | none => .literal '$' :: piecesFrom fuel ('\x7b' :: cs)
  | fuel + 1, c :: cs => .literal c :: piecesFrom fuel cs

def pieces (text : String) : List Piece := piecesFrom text.length text.toList

def referredKeys (text : String) : List String :=
  (pieces text).filterMap fun
    | .literal _ => none
    | .reference key _ => some key

end Postroom.Property
