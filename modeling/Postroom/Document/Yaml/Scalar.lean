import Postroom.Document.Tree
import Postroom.Number.Decimal
import Postroom.Text.Slices

namespace Postroom.Document.Yaml

open Number Text

/-- A character with the line and column where it stands. -/
structure Placed where
  char : Char
  line : Nat
  column : Nat
  deriving DecidableEq, Repr

def placesFrom (line column : Nat) : List Char → List Placed
  | [] => []
  | '\r' :: '\n' :: cs | '\r' :: cs | '\n' :: cs =>
    ⟨'\n', line, column⟩ :: placesFrom (line + 1) 0 cs
  | c :: cs => ⟨c, line, column⟩ :: placesFrom line (column + 1) cs

def isSpace (c : Char) : Bool := c == ' ' || c == '\t'

def isGap (c : Char) : Bool := c == ' ' || c == '\t' || c == '\n'

def gapAhead : List Placed → Bool
  | [] => true
  | p :: _ => isGap p.char

def isFlowMark (c : Char) : Bool :=
  c == ',' || c == '[' || c == ']' || c == '\x7b' || c == '\x7d'

def markerAhead (mark : Char) : List Placed → Bool
  | a :: b :: c :: rest =>
    a.column == 0 && a.char == mark && b.char == mark && c.char == mark && gapAhead rest
  | _ => false

def boundAhead (ps : List Placed) : Bool := markerAhead '-' ps || markerAhead '.' ps

def chars (ps : List Placed) : List Char := ps.map Placed.char

def folded (breaks : Nat) : List Char :=
  if breaks ≤ 1 then [' '] else List.replicate (breaks - 1) '\n'

def gapText (gap : List Char) : List Char :=
  let breaks := gap.count '\n'
  if breaks == 0 then gap else folded breaks

def endsPlain (flow : Bool) (c : Char) (next : List Placed) : Bool :=
  if c == ':' then gapAhead next || (flow && next.head?.any fun p => isFlowMark p.char)
  else flow && isFlowMark c

def plainRun (flow : Bool) : List Placed → List Placed × List Placed
  | [] => ([], [])
  | p :: ps =>
    if isGap p.char || endsPlain flow p.char ps then ([], p :: ps)
    else
      let (run, rest) := plainRun flow ps
      (p :: run, rest)

/-- A plain scalar, which goes on over lines that are indented by so much. -/
def plain (flow : Bool) (indent : Nat) : Nat → List Char → List Char → List Placed →
    List Char × List Placed
  | 0, acc, _, ps => (acc, ps)
  | fuel + 1, acc, gap, ps =>
    if boundAhead ps || ps.head?.any (·.char == '#') then (acc, ps)
    else
      let (run, rest) := plainRun flow ps
      let acc := if run.isEmpty then acc else acc ++ gapText gap ++ chars run
      let gap' := if run.isEmpty then gap else []
      let blanks := rest.takeWhile fun p => isGap p.char
      let next := rest.dropWhile fun p => isGap p.char
      if blanks.isEmpty then (acc, rest)
      else if !flow && (next.head?.map Placed.column).getD 0 < indent &&
          blanks.any (·.char == '\n') then (acc, next)
      else plain flow indent fuel acc (gap' ++ chars blanks) next

def wholeIn? (base : Nat) (cs : List Char) : Option Int :=
  match cs with
  | '-' :: ds => (digitsValue? base ds).bind fun n => int64? (-(n : Int))
  | '+' :: ds => (digitsValue? base ds).bind fun n => int64? n
  | ds => (digitsValue? base ds).bind fun n => int64? n

def whole? (cs : List Char) : Option Int :=
  let based? : Option Int :=
    match cs with
    | '0' :: 'x' :: ds => wholeIn? 16 ds
    | '0' :: 'o' :: ds => wholeIn? 8 ds
    | '+' :: ds => wholeIn? 10 ds
    | _ => none
  based?.or (wholeIn? 10 cs)

/-- Spellings that are no text, although no number is read from them. -/
def unreadNumbers : List String :=
  [".inf", ".Inf", ".INF", "+.inf", "+.Inf", "+.INF", "-.inf", "-.Inf", "-.INF", ".nan", ".NAN"]

def plainValue? (cs : List Char) : Option Tree :=
  let s := String.ofList cs
  if s == "~" || s == "null" then some .null
  else if s == "true" then some (.bool true)
  else if s == "false" then some (.bool false)
  else
    match whole? cs with
    | some z => some (.int z)
    | none =>
      if unreadNumbers.contains s then none
      else
        match readDouble? cs with
        | some x => some (.real x)
        | none => some (.text s)

def taggedValue? (tag : String) (cs : List Char) : Option Tree :=
  let s := String.ofList cs
  match tag with
  | "!!bool" => some (if s == "true" then .bool true else if s == "false" then .bool false else .null)
  | "!!int" => some (((wholeIn? 10 cs).map Tree.int).getD .null)
  | "!!float" =>
    if unreadNumbers.contains s then none else some (((readDouble? cs).map Tree.real).getD .null)
  | "!!null" => some .null
  | _ => some (.text s)

def escape? : List Placed → Option (Char × List Placed)
  | [] => none
  | p :: ps =>
    let digits (n : Nat) : Option (Char × List Placed) :=
      if ps.length < n then none else (hexChar? (chars (ps.take n))).map fun c => (c, ps.drop n)
    match p.char with
    | '0' => some ('\x00', ps)
    | 'a' => some ('\x07', ps)
    | 'b' => some ('\x08', ps)
    | 't' | '\t' => some ('\t', ps)
    | 'n' => some ('\n', ps)
    | 'v' => some ('\x0b', ps)
    | 'f' => some ('\x0c', ps)
    | 'r' => some ('\r', ps)
    | 'e' => some ('\x1b', ps)
    | ' ' => some (' ', ps)
    | '"' => some ('"', ps)
    | '\\' => some ('\\', ps)
    | 'N' => some ('\u0085', ps)
    | '_' => some ('\u00a0', ps)
    | 'L' => some ('\u2028', ps)
    | 'P' => some ('\u2029', ps)
    | 'x' => digits 2
    | 'u' => digits 4
    | 'U' => digits 8
    | _ => none

def quoted? (quote : Char) : Nat → List Char → List Placed → Option (List Char × List Placed)
  | 0, _, _ => none
  | _ + 1, _, [] => none
  | fuel + 1, acc, p :: ps =>
    if boundAhead (p :: ps) then none
    else if p.char == quote then
      if quote == '\x27' && ps.head?.any (·.char == quote) then
        quoted? quote fuel (acc ++ [quote]) (ps.drop 1)
      else some (acc, ps)
    else if p.char == '\\' && quote == '"' then
      if ps.head?.any (·.char == '\n') then
        let gap := (ps.drop 1).takeWhile fun p => isGap p.char
        quoted? quote fuel (acc ++ List.replicate (gap.countP (·.char == '\n')) '\n')
          ((ps.drop 1).dropWhile fun p => isGap p.char)
      else
        match escape? ps with
        | some (c, ps) => quoted? quote fuel (acc ++ [c]) ps
        | none => none
    else if isGap p.char then
      let gap := (p :: ps).takeWhile fun p => isGap p.char
      quoted? quote fuel (acc ++ gapText (chars gap)) ((p :: ps).dropWhile fun p => isGap p.char)
    else quoted? quote fuel (acc ++ [p.char]) ps

/-- What becomes of the line ends at the end of a block scalar. -/
inductive Chomping
  | clip | strip | keep
  deriving DecidableEq, Repr

def blockHeader? (ps : List Placed) : Option (Chomping × Nat × List Placed) :=
  let chomping (c : Char) : Option Chomping :=
    if c == '+' then some .keep else if c == '-' then some .strip else none
  let digit (c : Char) : Nat := if c.isDigit then c.toNat - 48 else 0
  let (ch, n, rest) := match ps with
    | a :: b :: rest =>
      match chomping a.char with
      | some ch => if b.char.isDigit then (ch, some (digit b.char), rest) else (ch, none, b :: rest)
      | none =>
        if a.char.isDigit then
          match chomping b.char with
          | some ch => (ch, some (digit a.char), rest)
          | none => (.clip, some (digit a.char), b :: rest)
        else (.clip, none, ps)
    | ps => (.clip, none, ps)
  let rest := rest.dropWhile fun p => isSpace p.char
  let rest := if rest.head?.any (·.char == '#') then rest.dropWhile (·.char != '\n') else rest
  if n == some 0 then none
  else
    match rest with
    | [] => some (ch, n.getD 0, [])
    | p :: rest => if p.char == '\n' then some (ch, n.getD 0, rest) else none

/-- Skips empty lines and the indentation of the first other line. It answers how many lines were
empty and how deep the deepest indentation was. -/
def blockGap (indent : Nat) : Nat → Nat → Nat → List Placed → Nat × Nat × List Placed
  | 0, breaks, deepest, ps => (breaks, deepest, ps)
  | fuel + 1, breaks, deepest, ps =>
    let here := (ps.head?.map Placed.column).getD 0
    let width := (ps.takeWhile (·.char == ' ')).length
    let take := if indent == 0 then width else min width (indent - here)
    let rest := ps.drop take
    let deepest := max deepest (here + take)
    match rest with
    | p :: more =>
      if p.char == '\n' then blockGap indent fuel (breaks + 1) deepest more
      else (breaks, deepest, rest)
    | [] => (breaks, deepest, rest)

/-- The lines of a block scalar that are indented by so much. `ends` and `breaks` are the line end
and the empty lines since the line before, which started with a space if `spaced`. -/
def blockLines (literal : Bool) (indent : Nat) : Nat → List Char → Nat → Nat → Bool → List Placed →
    List Char × Nat × Nat × List Placed
  | 0, acc, ends, breaks, _, ps => (acc, ends, breaks, ps)
  | fuel + 1, acc, ends, breaks, spaced, ps =>
    match ps with
    | [] => (acc, ends, breaks, ps)
    | p :: _ =>
      if p.column != indent then (acc, ends, breaks, ps)
      else
        let space := isSpace p.char
        let joined :=
          if !literal && ends != 0 && !spaced && !space then
            if breaks == 0 then [' '] else []
          else List.replicate ends '\n'
        let line := ps.takeWhile (·.char != '\n')
        let acc := acc ++ joined ++ List.replicate breaks '\n' ++ chars line
        match ps.dropWhile (·.char != '\n') with
        | [] => (acc, 0, 0, [])
        | _ :: rest =>
          let (breaks, _, rest) := blockGap indent (rest.length + 1) 0 0 rest
          blockLines literal indent fuel acc 1 breaks space rest

def block? (literal : Bool) (parent : Int) (ps : List Placed) :
    Option (List Char × List Placed) := do
  let (chomping, deeper, rest) ← blockHeader? ps
  let given := if deeper == 0 then 0 else (max parent 0).toNat + deeper
  let (breaks, deepest, rest) := blockGap given (rest.length + 1) 0 0 rest
  let indent := if given == 0 then max deepest (max (parent + 1).toNat 1) else given
  let (acc, ends, breaks, rest) := blockLines literal indent (rest.length + 1) [] 0 breaks false rest
  let acc := if chomping == .strip then acc else acc ++ List.replicate ends '\n'
  return (if chomping == .keep then acc ++ List.replicate breaks '\n' else acc, rest)

end Postroom.Document.Yaml
