import Postroom.Document.Tree
import Postroom.Number.Decimal
import Postroom.Text.Blank
import Postroom.Text.Letter

namespace Postroom.Document.Json5

open Number Text

def isSpace (c : Char) : Bool :=
  c == '\ufeff' || (isBlank c && c != '\u0085')

def skip : Nat → List Char → Option (List Char)
  | 0, cs => some cs
  | fuel + 1, cs =>
    match cs.dropWhile isSpace with
    | '/' :: '/' :: rest =>
      skip fuel (rest.dropWhile fun c => c != '\n' && c != '\r' && c != '\u2028' && c != '\u2029')
    | '/' :: '*' :: rest =>
      match blockEnd rest with
      | some rest => skip fuel rest
      | none => none
    | rest => some rest
where
  blockEnd : List Char → Option (List Char)
    | '*' :: '/' :: cs => some cs
    | _ :: cs => blockEnd cs
    | [] => none

def unit? : List Char → Option (Nat × List Char)
  | a :: b :: c :: d :: cs => (digitsValue? 16 [a, b, c, d]).map fun n => (n, cs)
  | _ => none

/-- What a backslash and the characters behind it stand for. A line's end stands for nothing. -/
def escape? : List Char → Option (List Char × List Char)
  | 'b' :: cs => some (['\x08'], cs)
  | 'f' :: cs => some (['\x0c'], cs)
  | 'n' :: cs => some (['\n'], cs)
  | 'r' :: cs => some (['\r'], cs)
  | 't' :: cs => some (['\t'], cs)
  | 'v' :: cs => some (['\x0b'], cs)
  | '\r' :: '\n' :: cs => some ([], cs)
  | '\n' :: cs | '\r' :: cs | '\u2028' :: cs | '\u2029' :: cs => some ([], cs)
  | '0' :: cs => if cs.head?.any Char.isDigit then none else some (['\x00'], cs)
  | 'x' :: a :: b :: cs => (hexChar? [a, b]).map fun c => ([c], cs)
  | 'u' :: cs => do
    let (n, cs) ← unit? cs
    if 0xd800 ≤ n && n ≤ 0xdbff then
      match cs with
      | '\\' :: 'u' :: cs =>
        let (m, cs) ← unit? cs
        if 0xdc00 ≤ m && m ≤ 0xdfff then
          return ([Char.ofNat (0x10000 + (n - 0xd800) * 0x400 + (m - 0xdc00))], cs)
        else none
      | _ => none
    else if 0xdc00 ≤ n && n ≤ 0xdfff then none
    else return ([Char.ofNat n], cs)
  | c :: cs => if c.isDigit || c == 'x' then none else some ([c], cs)
  | [] => none

def string? (quote : Char) : Nat → List Char → List Char → Option (String × List Char)
  | 0, _, _ => none
  | _ + 1, _, [] => none
  | fuel + 1, acc, c :: cs =>
    if c == quote then some (.ofList acc.reverse, cs)
    else if c == '\\' then
      match escape? cs with
      | some (e, cs) => string? quote fuel (e.reverse ++ acc) cs
      | none => none
    else if c == '\n' || c == '\r' then none
    else string? quote fuel (c :: acc) cs

def isNameStart (c : Char) : Bool := c == '$' || c == '_' || isLetter c

def isNameChar (c : Char) : Bool :=
  isNameStart c || c.isDigit || c == '\u200c' || c == '\u200d'

def number? (negative : Bool) (cs : List Char) : Option (Tree × List Char) :=
  let whole (n : Nat) (rest : List Char) : Option (Tree × List Char) :=
    let z : Int := if negative then -(n : Int) else n
    (int64? z).map fun z => (.int z, rest)
  match cs with
  | 'I' :: 'n' :: 'f' :: 'i' :: 'n' :: 'i' :: 't' :: 'y' :: rest =>
    some (.real (.infinite negative), rest)
  | 'N' :: 'a' :: 'N' :: rest => some (.real .nan, rest)
  | '0' :: x :: rest =>
    if x == 'x' || x == 'X' then
      let ds := rest.takeWhile isHexDigit
      (digitsValue? 16 ds).bind fun n => whole n (rest.drop ds.length)
    else plain whole cs
  | _ => plain whole cs
where
  plain (whole : Nat → List Char → Option (Tree × List Char)) (cs : List Char) :
      Option (Tree × List Char) :=
    let ds := cs.takeWhile Char.isDigit
    let rest := cs.dropWhile Char.isDigit
    let (point, part, rest) := match rest with
      | '.' :: rest => (true, rest.takeWhile Char.isDigit, rest.dropWhile Char.isDigit)
      | rest => (false, [], rest)
    if ds.isEmpty && part.isEmpty || ds.head? == some '0' && 1 < ds.length then none
    else
      let exponent := match rest with
        | e :: s :: more =>
          if e == 'e' || e == 'E' then
            let sign := if s == '+' || s == '-' then [s] else []
            let digits := (if sign.isEmpty then s :: more else more).takeWhile Char.isDigit
            if digits.isEmpty then [] else e :: sign ++ digits
          else []
        | _ => []
      if !point && exponent.isEmpty then
        (digitsValue? 10 ds).bind fun n => whole n rest
      else
        (decimal? negative (ds ++ '.' :: part ++ exponent)).map fun x =>
          (.real x, rest.drop exponent.length)

mutual

def value? : Nat → List Char → Option (Tree × List Char)
  | 0, _ => none
  | fuel + 1, cs =>
    match skip cs.length cs with
    | none => none
    | some cs =>
      match cs with
      | 'n' :: 'u' :: 'l' :: 'l' :: cs => some (.null, cs)
      | 't' :: 'r' :: 'u' :: 'e' :: cs => some (.bool true, cs)
      | 'f' :: 'a' :: 'l' :: 's' :: 'e' :: cs => some (.bool false, cs)
      | '"' :: cs => (string? '"' (cs.length + 1) [] cs).map fun r => (.text r.1, r.2)
      | '\x27' :: cs => (string? '\x27' (cs.length + 1) [] cs).map fun r => (.text r.1, r.2)
      | '[' :: cs => items? fuel [] cs
      | '\x7b' :: cs => fields? fuel [] cs
      | '-' :: cs => number? true cs
      | '+' :: cs => number? false cs
      | cs => number? false cs

def items? : Nat → List Tree → List Char → Option (Tree × List Char)
  | 0, _, _ => none
  | fuel + 1, acc, cs =>
    match skip cs.length cs with
    | none => none
    | some (']' :: cs) => some (.list acc.reverse, cs)
    | some cs =>
      match value? fuel cs with
      | none => none
      | some (t, rest) =>
        match skip rest.length rest with
        | some (',' :: rest) => items? fuel (t :: acc) rest
        | some (']' :: rest) => some (.list (t :: acc).reverse, rest)
        | _ => none

def fields? : Nat → Fields → List Char → Option (Tree × List Char)
  | 0, _, _ => none
  | fuel + 1, acc, cs =>
    match skip cs.length cs with
    | none => none
    | some ('\x7d' :: cs) => some (.table acc, cs)
    | some cs =>
      let key : Option (String × List Char) := match cs with
        | '"' :: cs => string? '"' (cs.length + 1) [] cs
        | '\x27' :: cs => string? '\x27' (cs.length + 1) [] cs
        | c :: _ =>
          if isNameStart c then
            some (.ofList (cs.takeWhile isNameChar), cs.dropWhile isNameChar)
          else none
        | [] => none
      match key with
      | none => none
      | some (name, rest) =>
        match skip rest.length rest with
        | some (':' :: rest) =>
          match value? fuel rest with
          | none => none
          | some (t, rest) =>
            match skip rest.length rest with
            | some (',' :: rest) => fields? fuel (acc.put name t) rest
            | some ('\x7d' :: rest) => some (.table (acc.put name t), rest)
            | _ => none
        | _ => none

end

/-- The document of a JSON5 text. -/
def read? (text : String) : Option Tree := do
  let (t, rest) ← value? (2 * text.length + 2) text.toList
  if (← skip rest.length rest).isEmpty then return t else none

end Postroom.Document.Json5
