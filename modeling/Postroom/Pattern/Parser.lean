import Postroom.Pattern.Token

namespace Postroom.Pattern

/-- An element of the branch being read: a pattern, or the mark left by a change of flags, which
cannot be repeated. -/
inductive Element
  | pattern (r : Regex)
  | mark
  deriving DecidableEq, Repr

/-- What is suspended while a group is read: the flags to return to, and the alternatives and the
branch read so far. -/
structure Frame where
  flags : Flags
  earlier : Option Regex
  branch : List Element
  deriving DecidableEq, Repr

structure Reader extends Frame where
  names : List String
  outer : List Frame
  deriving DecidableEq, Repr

namespace Reader

def start : Reader := ⟨⟨{}, none, []⟩, [], []⟩

def result (s : Reader) : Regex :=
  let branch := Regex.ofList (s.branch.reverse.filterMap fun
    | .pattern r => some r
    | .mark => none)
  match s.earlier with
  | none => branch
  | some r => .alt r branch

def push (s : Reader) : Token → Option Reader
  | .piece r => some { s with branch := .pattern r :: s.branch }
  | .flags f => some { s with flags := f, branch := .mark :: s.branch }
  | .bar => some { s with earlier := some s.result, branch := [] }
  | .quantifier min max =>
    match s.branch with
    | .pattern r :: rest => some { s with branch := .pattern (.rep r min max) :: rest }
    | _ => none
  | .opening f name =>
    if name.any s.names.contains then none
    else some ⟨⟨f, none, []⟩, name.toList ++ s.names, s.toFrame :: s.outer⟩
  | .closing =>
    match s.outer with
    | [] => none
    | frame :: outer =>
      some ⟨{ frame with branch := .pattern s.result :: frame.branch }, s.names, outer⟩

def run : Nat → Reader → List Char → Option Reader
  | 0, _, _ => none
  | fuel + 1, s, cs =>
    match skipSpace s.flags cs with
    | [] => some s
    | c :: cs =>
      match Token.next? s.flags c cs with
      | none => none
      | some (t, rest) =>
        match s.push t with
        | none => none
        | some s => run fuel s rest

end Reader

/-- The pattern that a text writes, if it is well formed. -/
def Regex.parse? (text : String) : Option Regex :=
  match Reader.start.run (text.length + 1) text.toList with
  | some s => if s.outer.isEmpty then some s.result else none
  | none => none

end Postroom.Pattern
