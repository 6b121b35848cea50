import Postroom.Number.Digits
import Postroom.Pattern.Basic
import Postroom.Text.Slices

namespace Postroom.Pattern

open Number Text

structure Flags where
  fold : Bool := false
  dotAll : Bool := false
  multiLine : Bool := false
  swapGreed : Bool := false
  unicode : Bool := true
  crlf : Bool := false
  spaced : Bool := false
  deriving DecidableEq, Repr

def Flags.put? (f : Flags) (letter : Char) (on : Bool) : Option Flags :=
  match letter with
  | 'i' => some { f with fold := on }
  | 's' => some { f with dotAll := on }
  | 'm' => some { f with multiLine := on }
  | 'U' => some { f with swapGreed := on }
  | 'u' => some { f with unicode := on }
  | 'R' => some { f with crlf := on }
  | 'x' => some { f with spaced := on }
  | _ => none

/-- A piece of a written pattern. Assumed of the patterns that are read: the Unicode properties they
name are letters, decimal digits, white space and word characters, with Unicode on; and where blanks
and comments are skipped, no blank stands between the digits of a counted repetition and no comment
beside them. -/
inductive Token
  | piece (r : Regex)
  | opening (inside : Flags) (name : Option String)
  | closing
  | bar
  | flags (f : Flags)
  | quantifier (min : Nat) (max : Option Nat)
  deriving DecidableEq, Repr

def skipSpace (f : Flags) : List Char → List Char
  | [] => []
  | c :: cs =>
    if f.spaced then
      if isBlank c then skipSpace f cs
      else if c == '#' then skipComment f cs
      else c :: cs
    else c :: cs
where
  skipComment (f : Flags) : List Char → List Char
    | [] => []
    | '\n' :: cs => skipSpace f cs
    | _ :: cs => skipComment f cs

/-- What an escape or a single character stands for. -/
inductive Primitive
  | char (c : Char)
  | set (s : CharSet)
  | edge (e : Edge)
  deriving DecidableEq, Repr

def until? (d : Char) (cs : List Char) : Option (List Char × List Char) :=
  match cs.dropWhile (· != d) with
  | _ :: rest => some (cs.takeWhile (· != d), rest)
  | [] => none

def exactly? (n : Nat) (cs : List Char) : Option (List Char × List Char) :=
  if cs.length < n then none else some (cs.take n, cs.drop n)

def hexEscape? (width : Nat) : List Char → Option (Char × List Char)
  | '\x7b' :: cs => (until? '\x7d' cs).bind fun r => (hexChar? r.1).map fun c => (c, r.2)
  | cs => (exactly? width cs).bind fun r => (hexChar? r.1).map fun c => (c, r.2)

def propertyOf? (name : List Char) : Option Property :=
  match String.ofList ((name.filter fun c => c != '_' && c != '-' && c != ' ').map Char.toLower) with
  | "l" | "letter" => some .letter
  | "nd" | "decimalnumber" | "digit" => some .digit
  | "whitespace" | "wspace" | "space" => some .blank
  | "word" | "w" => some .word
  | _ => none

def namedProperty? : List Char → Option CharSet
  | '^' :: name => (propertyOf? name).map fun p => .compl (.property p)
  | name => (propertyOf? name).map .property

def propertyClass? : List Char → Option (CharSet × List Char)
  | '\x7b' :: cs => (until? '\x7d' cs).bind fun r => (namedProperty? r.1).map fun s => (s, r.2)
  | c :: cs => (propertyOf? [c]).map fun p => (.property p, cs)
  | [] => none

def asciiDigits : CharSet := .ofRanges [('0', '9')]

def asciiBlanks : CharSet := .ofChars ['\t', '\n', '\x0b', '\x0c', '\r', ' ']

/-- A class escape under the flags. Without Unicode the classes are ASCII, and their complements
could match part of a character, so they are refused. -/
def classEscape? (f : Flags) (p : Property) (negated : Bool) : Option CharSet :=
  if f.unicode then some (if negated then .compl (.property p) else .property p)
  else if negated then none
  else match p with
    | .digit => some asciiDigits
    | .word => some asciiWord
    | .blank => some asciiBlanks
    | .letter => some (.property .letter)

def namedEdge? (cs : List Char) : Option (Edge × List Char) :=
  match after? "\x7bstart\x7d".toList cs, after? "\x7bend\x7d".toList cs,
      after? "\x7bstart-half\x7d".toList cs, after? "\x7bend-half\x7d".toList cs with
  | some r, _, _, _ => some (.wordStart, r)
  | _, some r, _, _ => some (.wordEnd, r)
  | _, _, some r, _ => some (.wordStartHalf, r)
  | _, _, _, some r => some (.wordEndHalf, r)
  | _, _, _, _ => none

/-- What follows a backslash. A letter or digit without a meaning is refused, and so is every
character outside ASCII. -/
def escape? (f : Flags) : List Char → Option (Primitive × List Char)
  | [] => none
  | c :: cs =>
    match c with
    | 'd' => (classEscape? f .digit false).map fun s => (.set s, cs)
    | 'D' => (classEscape? f .digit true).map fun s => (.set s, cs)
    | 's' => (classEscape? f .blank false).map fun s => (.set s, cs)
    | 'S' => (classEscape? f .blank true).map fun s => (.set s, cs)
    | 'w' => (classEscape? f .word false).map fun s => (.set s, cs)
    | 'W' => (classEscape? f .word true).map fun s => (.set s, cs)
    | 'p' => (propertyClass? cs).map fun r => (.set r.1, r.2)
    | 'P' => (propertyClass? cs).map fun r => (.set (.compl r.1), r.2)
    | 'x' => (hexEscape? 2 cs).map fun r => (.char r.1, r.2)
    | 'u' => (hexEscape? 4 cs).map fun r => (.char r.1, r.2)
    | 'U' => (hexEscape? 8 cs).map fun r => (.char r.1, r.2)
    | 'a' => some (.char '\x07', cs)
    | 'f' => some (.char '\x0c', cs)
    | 't' => some (.char '\t', cs)
    | 'n' => some (.char '\n', cs)
    | 'r' => some (.char '\r', cs)
    | 'v' => some (.char '\x0b', cs)
    | 'A' => some (.edge .textStart, cs)
    | 'z' => some (.edge .textEnd, cs)
    | 'b' =>
      match namedEdge? cs with
      | some r => some (.edge r.1, r.2)
      | none => some (.edge (.wordEdge (!f.unicode)), cs)
    | 'B' => if f.unicode then some (.edge .noWordEdge, cs) else none
    | '<' => some (.edge .wordStart, cs)
    | '>' => some (.edge .wordEnd, cs)
    | c => if c.toNat < 128 && !c.isAlphanum then some (.char c, cs) else none

def namedClass? (name : String) : Option CharSet :=
  match name with
  | "alnum" => some (.ofRanges [('0', '9'), ('A', 'Z'), ('a', 'z')])
  | "alpha" => some (.ofRanges [('A', 'Z'), ('a', 'z')])
  | "ascii" => some (.ofRanges [('\x00', '\x7f')])
  | "blank" => some (.ofChars ['\t', ' '])
  | "cntrl" => some (.ofRanges [('\x00', '\x1f'), ('\x7f', '\x7f')])
  | "digit" => some asciiDigits
  | "graph" => some (.ofRanges [('!', '~')])
  | "lower" => some (.ofRanges [('a', 'z')])
  | "print" => some (.ofRanges [(' ', '~')])
  | "punct" => some (.ofRanges [('!', '/'), (':', '@'), ('[', '\x60'), ('\x7b', '~')])
  | "space" => some asciiBlanks
  | "upper" => some (.ofRanges [('A', 'Z')])
  | "word" => some asciiWord
  | "xdigit" => some (.ofRanges [('0', '9'), ('A', 'F'), ('a', 'f')])
  | _ => none

def namedClassBody? (cs : List Char) : Option (CharSet × List Char) :=
  (until? ':' cs).bind fun r => (after? [']'] r.2).bind fun rest =>
    (namedClass? (.ofList r.1)).map fun s => (s, rest)

def namedClassItem? : List Char → Option (CharSet × List Char)
  | ':' :: '^' :: cs => (namedClassBody? cs).map fun r => (.compl r.1, r.2)
  | ':' :: cs => namedClassBody? cs
  | _ => none

inductive SetOp
  | inter | minus | exclusive
  deriving DecidableEq, Repr

def SetOp.apply : SetOp → CharSet → CharSet → CharSet
  | .inter => .inter
  | .minus => .minus
  | .exclusive => .exclusive

def member? (f : Flags) : List Char → Option (Primitive × List Char)
  | '\\' :: cs => escape? f cs
  | c :: cs => some (.char c, cs)
  | [] => none

def Primitive.alone? : Primitive → Option CharSet
  | .char c => some (.single c)
  | .set s => some s
  | .edge _ => none

def Primitive.to? : Primitive → Primitive → Option CharSet
  | .char lo, .char hi => if lo ≤ hi then some (.range lo.toNat hi.toNat) else none
  | _, _ => none

/-- What follows the first member of a range or of the class. A dash before the closing bracket or
another dash does not make a range. -/
def rangeRest? (f : Flags) (first : Primitive) (cs : List Char) : Option (CharSet × List Char) :=
  match cs with
  | '-' :: more =>
    match skipSpace f more with
    | ']' :: _ | '-' :: _ => first.alone?.map fun s => (s, cs)
    | more => (member? f more).bind fun r => (first.to? r.1).map fun s => (s, r.2)
  | _ => first.alone?.map fun s => (s, cs)

def rangeItem? (f : Flags) (cs : List Char) : Option (CharSet × List Char) :=
  (member? f cs).bind fun r => rangeRest? f r.1 (skipSpace f r.2)

def joined (f : Flags) (pending : Option (CharSet × SetOp)) (s : CharSet) : CharSet :=
  match pending with
  | none => s
  | some (left, op) => if f.fold then op.apply (.folded left) (.folded s) else op.apply left s

def negation (f : Flags) (cs : List Char) : Bool × List Char :=
  match skipSpace f cs with
  | '^' :: rest => (true, skipSpace f rest)
  | rest => (false, rest)

def firstMembers (cs : List Char) : CharSet × List Char :=
  match cs with
  | ']' :: rest => (.single ']', rest)
  | _ => (.ofChars (cs.takeWhile (· == '-')), cs.dropWhile (· == '-'))

def closed? (f : Flags) (negated : Bool) (s : CharSet) : Option CharSet :=
  let s := if f.fold then .folded s else s
  if negated then if f.unicode then some (.compl s) else none
  else some s

def bracket? (f : Flags) : Nat → List Char → Option (CharSet × List Char)
  | 0, _ => none
  | fuel + 1, cs =>
    let (negated, cs) := negation f cs
    let (first, cs) := firstMembers cs
    (items fuel none first cs).bind fun r => (closed? f negated r.1).map fun s => (s, r.2)
where
  items : Nat → Option (CharSet × SetOp) → CharSet → List Char → Option (CharSet × List Char)
    | 0, _, _, _ => none
    | fuel + 1, pending, s, cs =>
      match skipSpace f cs with
      | [] => none
      | ']' :: rest => some (joined f pending s, rest)
      | '&' :: '&' :: rest => items fuel (some (joined f pending s, .inter)) .nothing rest
      | '-' :: '-' :: rest => items fuel (some (joined f pending s, .minus)) .nothing rest
      | '~' :: '~' :: rest => items fuel (some (joined f pending s, .exclusive)) .nothing rest
      | '[' :: rest =>
        match namedClassItem? rest with
        | some r => items fuel pending (.union s r.1) r.2
        | none => (bracket? f fuel rest).bind fun r => items fuel pending (.union s r.1) r.2
      | cs => (rangeItem? f cs).bind fun r => items fuel pending (.union s r.1) r.2

def decimal? (cs : List Char) : Option (Nat × List Char) :=
  let cs := cs.dropWhile isBlank
  let digits := cs.takeWhile Char.isDigit
  let n := decimalValue digits
  if digits.isEmpty || 4294967295 < n then none
  else some (n, (cs.dropWhile Char.isDigit).dropWhile isBlank)

def dropLazy : List Char → List Char
  | '?' :: cs => cs
  | cs => cs

def counted? (f : Flags) (cs : List Char) : Option (Token × List Char) := do
  let (min, rest) ← decimal? (skipSpace f cs)
  match rest with
  | '\x7d' :: rest => some (.quantifier min (some min), dropLazy (skipSpace f rest))
  | ',' :: rest =>
    match skipSpace f rest with
    | '\x7d' :: rest => some (.quantifier min none, dropLazy (skipSpace f rest))
    | rest =>
      match ← decimal? rest with
      | (max, '\x7d' :: rest) =>
        if min ≤ max then some (.quantifier min (some max), dropLazy (skipSpace f rest)) else none
      | _ => none
  | _ => none

/-- Flag letters up to the colon or parenthesis that ends them. A letter may stand once, and the
minus that clears the letters after it may stand once and not last. -/
def flagLetters? (f : Flags) (seen : List Char) (on : Bool) :
    List Char → Option (Flags × List Char × Char × List Char)
  | [] => none
  | c :: cs =>
    if c == ':' || c == ')' then
      if seen.head? == some '-' then none else some (f, seen, c, cs)
    else if seen.contains c then none
    else if c == '-' then flagLetters? f ('-' :: seen) false cs
    else match f.put? c on with
      | some f => flagLetters? f (c :: seen) on cs
      | none => none

def isGroupName : List Char → Bool
  | c :: more => (c == '_' || isLetter c) &&
      more.all (fun d => d == '_' || d == '.' || d == '[' || d == ']' || isLetter d ||
        isDigitOfAnyScript d)
  | [] => false

def groupName? (cs : List Char) : Option (String × List Char) :=
  (until? '>' cs).bind fun r => if isGroupName r.1 then some (.ofList r.1, r.2) else none

def group? (f : Flags) (cs : List Char) : Option (Token × List Char) :=
  match skipSpace f cs with
  | '?' :: 'P' :: '<' :: rest => (groupName? rest).map fun r => (.opening f (some r.1), r.2)
  | '?' :: '<' :: rest => (groupName? rest).map fun r => (.opening f (some r.1), r.2)
  | '?' :: rest =>
    match flagLetters? f [] true rest with
    | some (g, seen, ')', rest) => if seen.isEmpty then none else some (.flags g, rest)
    | some (g, _, _, rest) => some (.opening g none, rest)
    | none => none
  | rest => some (.opening f none, rest)

def literal (f : Flags) (c : Char) : Regex :=
  .one (if f.fold then .folded (.single c) else .single c)

def dot? (f : Flags) : Option Regex :=
  if !f.unicode then none
  else if f.dotAll then some (.one (.compl .nothing))
  else if f.crlf then some (.one (.compl (.ofChars ['\r', '\n'])))
  else some (.one (.compl (.single '\n')))

def Primitive.regex (f : Flags) : Primitive → Regex
  | .char c => literal f c
  | .set s => .one s
  | .edge e => .edge e

def Token.next? (f : Flags) (c : Char) (cs : List Char) : Option (Token × List Char) :=
  match c with
  | '(' => group? f cs
  | ')' => some (.closing, cs)
  | '|' => some (.bar, cs)
  | '[' => (bracket? f (cs.length + 1) cs).map fun r => (.piece (.one r.1), r.2)
  | '?' => some (.quantifier 0 (some 1), dropLazy cs)
  | '*' => some (.quantifier 0 none, dropLazy cs)
  | '+' => some (.quantifier 1 none, dropLazy cs)
  | '\x7b' => counted? f cs
  | '.' => (dot? f).map fun r => (.piece r, cs)
  | '^' => some (.piece (.edge (if f.multiLine then .lineStart f.crlf else .textStart)), cs)
  | '$' => some (.piece (.edge (if f.multiLine then .lineEnd f.crlf else .textEnd)), cs)
  | '\\' => (escape? f cs).map fun r => (.piece (r.1.regex f), r.2)
  | c => some (.piece (literal f c), cs)

end Postroom.Pattern
