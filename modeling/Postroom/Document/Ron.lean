import Postroom.Document.Tree
import Postroom.Number.Decimal
import Postroom.Text.Blank
import Postroom.Text.Letter

namespace Postroom.Document.Ron

open Number Text

def skipBlock : Nat → List Char → Option (List Char)
  | _, [] => none
  | 0, '*' :: '/' :: cs => some cs
  | n + 1, '*' :: '/' :: cs => skipBlock n cs
  | n, '/' :: '*' :: cs => skipBlock (n + 1) cs
  | n, _ :: cs => skipBlock n cs

def skip : Nat → List Char → Option (List Char)
  | 0, cs => some cs
  | fuel + 1, cs =>
    match cs.dropWhile fun c => c == ' ' || c == '\t' || c == '\n' || c == '\r' || c == '\x0b' ||
        c == '\x0c' || c == '\u0085' || c == '\u200e' || c == '\u200f' || c == '\u2028' ||
        c == '\u2029' with
    | '/' :: '/' :: rest => skip fuel ((rest.dropWhile (· != '\n')).drop 1)
    | '/' :: '*' :: rest =>
      match skipBlock 0 rest with
      | some rest => skip fuel rest
      | none => none
    | rest => some rest

def isNameStart (c : Char) : Bool := c == '_' || isLetter c

def isNameChar (c : Char) : Bool := isNameStart c || c.isDigit

def escape? : List Char → Option (Char × List Char)
  | '\x27' :: cs => some ('\x27', cs)
  | '"' :: cs => some ('"', cs)
  | '\\' :: cs => some ('\\', cs)
  | 'n' :: cs => some ('\n', cs)
  | 'r' :: cs => some ('\r', cs)
  | 't' :: cs => some ('\t', cs)
  | '0' :: cs => some ('\x00', cs)
  | 'x' :: a :: b :: cs => (hexChar? [a, b]).map fun c => (c, cs)
  | 'u' :: '\x7b' :: cs =>
    (hexChar? (cs.takeWhile (· != '\x7d'))).map fun c => (c, (cs.dropWhile (· != '\x7d')).drop 1)
  | _ => none

def string? : Nat → List Char → List Char → Option (String × List Char)
  | 0, _, _ => none
  | _ + 1, acc, '"' :: cs => some (.ofList acc.reverse, cs)
  | fuel + 1, acc, '\\' :: cs =>
    match escape? cs with
    | some (c, cs) => string? fuel (c :: acc) cs
    | none => none
  | fuel + 1, acc, c :: cs => string? fuel (c :: acc) cs
  | _ + 1, _, [] => none

def raw? (hashes : Nat) : List Char → List Char → Option (String × List Char)
  | _, [] => none
  | acc, c :: cs =>
    if c == '"' && (List.replicate hashes '#').isPrefixOf cs then
      some (.ofList acc.reverse, cs.drop hashes)
    else raw? hashes (c :: acc) cs

def digitsIn? (base : Nat) (cs : List Char) : Option Nat :=
  if cs.head? == some '_' then none else digitsValue? base (cs.filter (· != '_'))

def numberOf? (cs : List Char) : Option Tree :=
  let (negative, body) := match cs with
    | '-' :: cs => (true, cs)
    | '+' :: cs => (false, cs)
    | cs => (false, cs)
  let whole (n : Nat) : Option Tree :=
    let z : Int := if negative then -(n : Int) else n
    (int64? z).map .int
  match body with
  | '0' :: 'x' :: ds => (digitsIn? 16 ds).bind whole
  | '0' :: 'b' :: ds => (digitsIn? 2 ds).bind whole
  | '0' :: 'o' :: ds => (digitsIn? 8 ds).bind whole
  | ds =>
    if ds.any fun c => c == '.' || c == 'e' || c == 'E' then
      (decimal? negative (ds.filter (· != '_'))).map .real
    else (digitsIn? 10 ds).bind whole

def isNumberChar (c : Char) : Bool := c.isAlphanum || c == '.' || c == '_' || c == '+' || c == '-'

/-- A number at the start of a text. A sign inside it belongs to an exponent. -/
def number? (cs : List Char) : Option (Tree × List Char) :=
  let token := cs.takeWhile isNumberChar
  (numberOf? token).map fun t => (t, cs.drop token.length)

mutual

def value? : Nat → List Char → Option (Tree × List Char)
  | 0, _ => none
  | fuel + 1, cs =>
    match skip cs.length cs with
    | none => none
    | some cs =>
      match cs with
      | '(' :: cs => record? fuel cs
      | '[' :: cs => items? fuel ']' [] cs
      | '\x7b' :: cs => entries? fuel [] cs
      | '"' :: cs => (string? (cs.length + 1) [] cs).map fun r => (.text r.1, r.2)
      | 'r' :: '"' :: cs => (raw? 0 [] cs).map fun r => (.text r.1, r.2)
      | 'r' :: '#' :: cs =>
        let hashes := (cs.takeWhile (· == '#')).length + 1
        match cs.dropWhile (· == '#') with
        | '"' :: cs => (raw? hashes [] cs).map fun r => (.text r.1, r.2)
        | _ => none
      | '\x27' :: '\\' :: cs =>
        match escape? cs with
        | some (c, '\x27' :: cs) => some (.text (.singleton c), cs)
        | _ => none
      | '\x27' :: c :: '\x27' :: cs => some (.text (.singleton c), cs)
      | '-' :: 'i' :: 'n' :: 'f' :: cs => some (.real (.infinite true), cs)
      | c :: _ =>
        if isNameStart c then
          let name := String.ofList (cs.takeWhile isNameChar)
          let rest := cs.dropWhile isNameChar
          if name == "true" then some (.bool true, rest)
          else if name == "false" then some (.bool false, rest)
          else if name == "None" then some (.null, rest)
          else if name == "inf" then some (.real (.infinite false), rest)
          else if name == "NaN" then some (.real .nan, rest)
          else
            match skip rest.length rest with
            | some ('(' :: more) =>
              if name == "Some" then
                match value? fuel more with
                | some (t, more) =>
                  match skip more.length more with
                  | some (',' :: more) =>
                    match skip more.length more with
                    | some (')' :: more) => some (t, more)
                    | _ => none
                  | some (')' :: more) => some (t, more)
                  | _ => none
                | none => none
              else record? fuel more
            | _ => if name == "Some" then none else some (.null, rest)
        else number? cs
      | [] => none

def record? : Nat → List Char → Option (Tree × List Char)
  | 0, _ => none
  | fuel + 1, cs =>
    match skip cs.length cs with
    | none => none
    | some (')' :: cs) => some (.null, cs)
    | some cs =>
      let name := cs.takeWhile isNameChar
      let rest := cs.dropWhile isNameChar
      match skip rest.length rest with
      | some (':' :: _) =>
        if name.isEmpty || !name.head?.any isNameStart then none else fields? fuel [] cs
      | _ => items? fuel ')' [] cs

def fields? : Nat → Fields → List Char → Option (Tree × List Char)
  | 0, _, _ => none
  | fuel + 1, acc, cs =>
    match skip cs.length cs with
    | none => none
    | some (')' :: cs) => some (.table acc, cs)
    | some cs =>
      let name := cs.takeWhile isNameChar
      let rest := cs.dropWhile isNameChar
      match name.head?.any isNameStart, skip rest.length rest with
      | true, some (':' :: rest) =>
        match value? fuel rest with
        | none => none
        | some (t, rest) =>
          match skip rest.length rest with
          | some (',' :: rest) => fields? fuel (acc.put (.ofList name) t) rest
          | some (')' :: rest) => some (.table (acc.put (.ofList name) t), rest)
          | _ => none
      | _, _ => none

def items? : Nat → Char → List Tree → List Char → Option (Tree × List Char)
  | 0, _, _, _ => none
  | fuel + 1, close, acc, cs =>
    match skip cs.length cs with
    | none | some [] => none
    | some (c :: cs) =>
      if c == close then some (.list acc.reverse, cs)
      else
        match value? fuel (c :: cs) with
        | none => none
        | some (t, rest) =>
          match skip rest.length rest with
          | some (d :: rest) =>
            if d == ',' then items? fuel close (t :: acc) rest
            else if d == close then some (.list (t :: acc).reverse, rest)
            else none
          | _ => none

def entries? : Nat → Fields → List Char → Option (Tree × List Char)
  | 0, _, _ => none
  | fuel + 1, acc, cs =>
    match skip cs.length cs with
    | none => none
    | some ('\x7d' :: cs) => some (.table acc, cs)
    | some cs =>
      match value? fuel cs with
      | some (.text key, rest) =>
        match skip rest.length rest with
        | some (':' :: rest) =>
          match value? fuel rest with
          | none => none
          | some (t, rest) =>
            match skip rest.length rest with
            | some (',' :: rest) => entries? fuel (acc.put key t) rest
            | some ('\x7d' :: rest) => some (.table (acc.put key t), rest)
            | _ => none
        | _ => none
      | _ => none

end

def skipExtensions (cs : List Char) : Option (List Char) :=
  match skip cs.length cs with
  | some ('#' :: '!' :: '[' :: rest) => some ((rest.dropWhile (· != ']')).drop 1)
  | r => r

/-- The document of a RON text: a record is a table, a tuple a list, an absent value null, and a
character a text. -/
def read? (text : String) : Option Tree := do
  let cs ← skipExtensions text.toList
  let (t, rest) ← value? (2 * text.length + 2) cs
  if (← skip rest.length rest).isEmpty then return t else none

end Postroom.Document.Ron
