import Postroom.Text.Casing
import Postroom.Text.Digit
import Postroom.Text.Letter
import Postroom.Text.Word

namespace Postroom.Pattern

open Postroom.Text

inductive Property
  | digit | word | blank | letter
  deriving DecidableEq, Repr

def Property.has : Property → Char → Bool
  | .digit, c => isDigitOfAnyScript c
  | .word, c => isWordChar c
  | .blank, c => isBlank c
  | .letter, c => isLetter c

/-- A set of characters as it is written. -/
inductive CharSet
  | nothing
  | range (lo hi : Nat)
  | property (p : Property)
  | union (a b : CharSet)
  | inter (a b : CharSet)
  | compl (a : CharSet)
  | folded (a : CharSet)
  deriving DecidableEq, Repr

namespace CharSet

def has : CharSet → Char → Bool
  | nothing, _ => false
  | range lo hi, c => lo ≤ c.toNat && c.toNat ≤ hi
  | property p, c => p.has c
  | union a b, c => a.has c || b.has c
  | inter a b, c => a.has c && b.has c
  | compl a, c => !a.has c
  | folded a, c => (caseClass c).any a.has

def single (c : Char) : CharSet := range c.toNat c.toNat

def ofChars (cs : List Char) : CharSet := cs.foldr (fun c s => union (single c) s) nothing

def ofRanges (rs : List (Char × Char)) : CharSet :=
  rs.foldr (fun r s => union (range r.1.toNat r.2.toNat) s) nothing

def minus (a b : CharSet) : CharSet := inter a (compl b)

def exclusive (a b : CharSet) : CharSet := union (minus a b) (minus b a)

end CharSet

/-- A condition on a place between two characters. -/
inductive Edge
  | textStart | textEnd
  | lineStart (crlf : Bool) | lineEnd (crlf : Bool)
  | wordEdge (ascii : Bool) | noWordEdge
  | wordStart | wordEnd | wordStartHalf | wordEndHalf
  deriving DecidableEq, Repr

def asciiWord : CharSet := .ofRanges [('0', '9'), ('A', 'Z'), ('_', '_'), ('a', 'z')]

def besideWord (c : Option Char) : Bool := c.any isWordChar

def Edge.holds (before next : Option Char) : Edge → Bool
  | .textStart => before.isNone
  | .textEnd => next.isNone
  | .lineStart crlf =>
    before.all (· == '\n') || crlf && before == some '\r' && next != some '\n'
  | .lineEnd crlf =>
    if crlf then next.all (· == '\r') || next == some '\n' && before != some '\r'
    else next.all (· == '\n')
  | .wordEdge ascii =>
    if ascii then before.any asciiWord.has != next.any asciiWord.has
    else besideWord before != besideWord next
  | .noWordEdge => besideWord before == besideWord next
  | .wordStart => !besideWord before && besideWord next
  | .wordEnd => besideWord before && !besideWord next
  | .wordStartHalf => !besideWord before
  | .wordEndHalf => !besideWord next

/-- A pattern. Only which texts it matches matters here, so a repetition has no preference for few
or many turns and a group no name. -/
inductive Regex
  | empty
  | one (s : CharSet)
  | edge (e : Edge)
  | seq (a b : Regex)
  | alt (a b : Regex)
  | rep (r : Regex) (min : Nat) (max : Option Nat)
  deriving DecidableEq, Repr

def Regex.ofList : List Regex → Regex
  | [] => .empty
  | [r] => r
  | r :: rs => .seq r (Regex.ofList rs)

end Postroom.Pattern
