import Postroom.Document.Tree
import Postroom.Number.Digits

namespace Postroom.Document.Json

open Postroom.Number

def isSpace (c : Char) : Bool := c == ' ' || c == '\n' || c == '\t' || c == '\r'

def skip (cs : List Char) : List Char := cs.dropWhile isSpace

def hex4? : List Char → Option (Nat × List Char)
  | a :: b :: c :: d :: cs => (digitsValue? 16 [a, b, c, d]).map fun n => (n, cs)
  | _ => none

/-- What follows the backslash and the letter of a code point; two halves make one character. -/
def codePoint? (cs : List Char) : Option (Char × List Char) := do
  let (n, cs) ← hex4? cs
  if 0xd800 ≤ n && n ≤ 0xdbff then
    match cs with
    | '\\' :: 'u' :: cs =>
      let (m, cs) ← hex4? cs
      if 0xdc00 ≤ m && m ≤ 0xdfff then
        return (Char.ofNat (0x10000 + (n - 0xd800) * 0x400 + (m - 0xdc00)), cs)
      else none
    | _ => none
  else if 0xdc00 ≤ n && n ≤ 0xdfff then none
  else return (Char.ofNat n, cs)

def string? : Nat → List Char → List Char → Option (String × List Char)
  | 0, _, _ => none
  | fuel + 1, acc, cs =>
    match cs with
    | '"' :: cs => some (.ofList acc.reverse, cs)
    | '\\' :: '"' :: cs => string? fuel ('"' :: acc) cs
    | '\\' :: '\\' :: cs => string? fuel ('\\' :: acc) cs
    | '\\' :: '/' :: cs => string? fuel ('/' :: acc) cs
    | '\\' :: 'b' :: cs => string? fuel ('\x08' :: acc) cs
    | '\\' :: 'f' :: cs => string? fuel ('\x0c' :: acc) cs
    | '\\' :: 'n' :: cs => string? fuel ('\n' :: acc) cs
    | '\\' :: 'r' :: cs => string? fuel ('\r' :: acc) cs
    | '\\' :: 't' :: cs => string? fuel ('\t' :: acc) cs
    | '\\' :: 'u' :: cs =>
      match codePoint? cs with
      | some (c, cs) => string? fuel (c :: acc) cs
      | none => none
    | '\\' :: _ => none
    | c :: cs => if c.toNat < 32 then none else string? fuel (c :: acc) cs
    | [] => none

/-- Digits into a number while it fits 64 bits; the second part counts the digits left out. -/
def takeDigits : Nat → List Char → Nat × Nat
  | n, [] => (n, 0)
  | n, d :: ds =>
    let m := n * 10 + (d.toNat - 48)
    if m < Nat.pow 2 64 then takeDigits m ds else (n, ds.length + 1)

def scaleTen (x : Double) (e : Int) : Option Double :=
  match x with
  | .finite neg m q =>
    let (num, den) := ratio m q
    let scaled :=
      if 0 ≤ e then Double.ofRatio neg (num * Nat.pow 10 e.toNat) den
      else Double.ofRatio neg num (den * Nat.pow 10 (-e).toNat)
    match scaled with
    | .infinite _ => none
    | x => some x
  | _ => none

/-- A number with a point or an exponent. The first digits that fit 64 bits are kept, rounded to a
double, and scaled by one power of ten, or by several if it is below `10 ^ -308`. -/
def real? (negative : Bool) (whole part : List Char) (exponent : Int) : Option Double :=
  let (n, left) := takeDigits 0 whole
  let (n, used) :=
    if left = 0 then
      let (n, leftPart) := takeDigits n part
      (n, part.length - leftPart)
    else (n, 0)
  let e := exponent + left - used
  let x := Double.ofRatio negative n 1
  if n = 0 then some x
  else if 308 < e then none
  else if e < -308 then
    if e < -1000 then some (.finite negative 0 leastExponent)
    else (scaleTen x (-308)).bind fun x =>
      if e < -616 then some (.finite negative 0 leastExponent) else scaleTen x (e + 308)
  else scaleTen x e

def exponent? : List Char → Option (Option Int × List Char)
  | c :: cs =>
    if c == 'e' || c == 'E' then
      let (neg, cs) := match cs with
        | '-' :: cs => (true, cs)
        | '+' :: cs => (false, cs)
        | cs => (false, cs)
      let ds := cs.takeWhile Char.isDigit
      if ds.isEmpty then none
      else
        let n : Int := decimalValue ds
        some (some (if neg then -n else n), cs.dropWhile Char.isDigit)
    else some (none, c :: cs)
  | [] => some (none, [])

/-- A number after its sign. Whole numbers that fit 64 bits stay whole, but for a negative zero. -/
def number? (negative : Bool) (cs : List Char) : Option (Tree × List Char) := do
  let whole := cs.takeWhile Char.isDigit
  let cs := cs.dropWhile Char.isDigit
  if whole.isEmpty || (whole.head? == some '0' && 1 < whole.length) then none
  else
    let (part, cs) ← match cs with
      | '.' :: cs =>
        let part := cs.takeWhile Char.isDigit
        if part.isEmpty then none else some (some part, cs.dropWhile Char.isDigit)
      | cs => some (none, cs)
    let (exponent, cs) ← exponent? cs
    let n := decimalValue whole
    if part.isNone && exponent.isNone &&
        (if negative then n != 0 && n ≤ Nat.pow 2 63 else n < Nat.pow 2 64) then
      return (.int (if negative then -(n : Int) else n), cs)
    else
      let x ← real? negative whole (part.getD []) (exponent.getD 0)
      return (.real x, cs)

mutual

def value? : Nat → Nat → List Char → Option (Tree × List Char)
  | 0, _, _ => none
  | fuel + 1, depth, cs =>
    match skip cs with
    | 'n' :: 'u' :: 'l' :: 'l' :: cs => some (.null, cs)
    | 't' :: 'r' :: 'u' :: 'e' :: cs => some (.bool true, cs)
    | 'f' :: 'a' :: 'l' :: 's' :: 'e' :: cs => some (.bool false, cs)
    | '"' :: cs => (string? (cs.length + 1) [] cs).map fun r => (.text r.1, r.2)
    | '-' :: cs => number? true cs
    | '[' :: cs =>
      match depth with
      | 0 => none
      | depth + 1 =>
        match skip cs with
        | ']' :: cs => some (.list [], cs)
        | cs => items? fuel depth [] cs
    | '\x7b' :: cs =>
      match depth with
      | 0 => none
      | depth + 1 =>
        match skip cs with
        | '\x7d' :: cs => some (.table [], cs)
        | cs => fields? fuel depth [] cs
    | cs => number? false cs

def items? : Nat → Nat → List Tree → List Char → Option (Tree × List Char)
  | 0, _, _, _ => none
  | fuel + 1, depth, acc, cs =>
    match value? fuel depth cs with
    | none => none
    | some (t, cs) =>
      match skip cs with
      | ',' :: cs => items? fuel depth (t :: acc) cs
      | ']' :: cs => some (.list (t :: acc).reverse, cs)
      | _ => none

def fields? : Nat → Nat → Fields → List Char → Option (Tree × List Char)
  | 0, _, _, _ => none
  | fuel + 1, depth, acc, cs =>
    match skip cs with
    | '"' :: cs =>
      match string? (cs.length + 1) [] cs with
      | none => none
      | some (name, cs) =>
        match skip cs with
        | ':' :: cs =>
          match value? fuel depth cs with
          | none => none
          | some (t, cs) =>
            match skip cs with
            | ',' :: cs => fields? fuel depth (acc.put name t) cs
            | '\x7d' :: cs => some (.table (acc.put name t), cs)
            | _ => none
        | _ => none
    | _ => none

end

def maxDepth : Nat := 127

/-- The document of a JSON text, read strictly: without comments, trailing commas, unescaped
controls or halves of surrogate pairs. Of two fields with one name the later counts. -/
def read? (text : String) : Option Tree :=
  match value? (2 * text.length + 2) maxDepth text.toList with
  | some (t, rest) => if (skip rest).isEmpty then some t else none
  | none => none

def writtenChar (c : Char) : List Char :=
  if c == '"' then ['\\', '"']
  else if c == '\\' then ['\\', '\\']
  else if c == '\n' then ['\\', 'n']
  else if c == '\r' then ['\\', 'r']
  else if c == '\t' then ['\\', 't']
  else if c == '\x08' then ['\\', 'b']
  else if c == '\x0c' then ['\\', 'f']
  else if c.toNat < 32 then
    ['\\', 'u', '0', '0', Nat.digitChar (c.toNat / 16), Nat.digitChar (c.toNat % 16)]
  else [c]

def writeString (s : String) : String :=
  .ofList ('"' :: s.toList.flatMap writtenChar ++ ['"'])

mutual

/-- The text of a document without spaces. A number that is not finite is written as null. -/
def write : Tree → String
  | .null => "null"
  | .bool b => if b then "true" else "false"
  | .int n => toString n
  | .real x => x.document?.getD "null"
  | .text s => writeString s
  | .list ts => "[" ++ String.intercalate "," (writeItems ts) ++ "]"
  | .table fs => "\x7b" ++ String.intercalate "," (writeFields fs) ++ "\x7d"

def writeItems : List Tree → List String
  | [] => []
  | t :: ts => write t :: writeItems ts

def writeFields : List (String × Tree) → List String
  | [] => []
  | (name, t) :: fs => (writeString name ++ ":" ++ write t) :: writeFields fs

end

end Postroom.Document.Json
