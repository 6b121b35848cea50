import Postroom.Document.Tree
import Postroom.Number.Decimal
import Postroom.Text.Slices

namespace Postroom.Document.Toml

open Number Text

def skipSpace (cs : List Char) : List Char := cs.dropWhile fun c => c == ' ' || c == '\t'

def lineEnd? : List Char → Option (List Char)
  | '\n' :: cs | '\r' :: '\n' :: cs => some cs
  | [] => some []
  | _ => none

def skipComment : List Char → List Char
  | '#' :: cs => cs.dropWhile (· != '\n')
  | cs => cs

def skipLines : Nat → List Char → List Char
  | 0, cs => cs
  | fuel + 1, cs =>
    match skipSpace cs with
    | '#' :: rest => skipLines fuel (rest.dropWhile (· != '\n'))
    | '\n' :: rest | '\r' :: '\n' :: rest => skipLines fuel rest
    | rest => rest

def escape? : List Char → Option (Char × List Char)
  | 'b' :: cs => some ('\x08', cs)
  | 't' :: cs => some ('\t', cs)
  | 'n' :: cs => some ('\n', cs)
  | 'f' :: cs => some ('\x0c', cs)
  | 'r' :: cs => some ('\r', cs)
  | '"' :: cs => some ('"', cs)
  | '\\' :: cs => some ('\\', cs)
  | 'u' :: cs =>
    if cs.length < 4 then none else (hexChar? (cs.take 4)).map fun c => (c, cs.drop 4)
  | 'U' :: cs =>
    if cs.length < 8 then none else (hexChar? (cs.take 8)).map fun c => (c, cs.drop 8)
  | _ => none

def isControl (c : Char) : Bool := (c.toNat < 32 && c != '\t') || c.toNat == 127

def basic? : Nat → List Char → List Char → Option (String × List Char)
  | 0, _, _ => none
  | _ + 1, acc, '"' :: cs => some (.ofList acc.reverse, cs)
  | fuel + 1, acc, '\\' :: cs =>
    match escape? cs with
    | some (c, cs) => basic? fuel (c :: acc) cs
    | none => none
  | fuel + 1, acc, c :: cs => if isControl c then none else basic? fuel (c :: acc) cs
  | _ + 1, _, [] => none

def literal? : List Char → List Char → Option (String × List Char)
  | acc, '\x27' :: cs => some (.ofList acc.reverse, cs)
  | acc, c :: cs => if isControl c then none else literal? (c :: acc) cs
  | _, [] => none

/-- The characters of a multi-line string up to three quotes, before which two more may stand. -/
def multiLine? (quote : Char) : Nat → List Char → List Char → Option (String × List Char)
  | 0, _, _ => none
  | _ + 1, _, [] => none
  | fuel + 1, acc, c :: cs =>
    let run := (c :: cs).takeWhile (· == quote)
    if 3 ≤ run.length then
      if 5 < run.length then none
      else some (.ofList (acc.reverse ++ run.drop 3), (c :: cs).drop run.length)
    else if c == '\\' && quote == '"' then
      match skipSpace cs with
      | '\n' :: rest | '\r' :: '\n' :: rest =>
        multiLine? quote fuel acc (rest.dropWhile fun c =>
          c == ' ' || c == '\t' || c == '\n' || c == '\r')
      | _ =>
        match escape? cs with
        | some (e, cs) => multiLine? quote fuel (e :: acc) cs
        | none => none
    else
      match c, cs with
      | '\r', '\n' :: cs => multiLine? quote fuel ('\n' :: acc) cs
      | '\n', cs => multiLine? quote fuel ('\n' :: acc) cs
      | c, cs => if isControl c then none else multiLine? quote fuel (c :: acc) cs

def dropFirstLineEnd : List Char → List Char
  | '\n' :: cs | '\r' :: '\n' :: cs => cs
  | cs => cs

def string? : List Char → Option (String × List Char)
  | '"' :: '"' :: '"' :: cs => multiLine? '"' (cs.length + 1) [] (dropFirstLineEnd cs)
  | '\x27' :: '\x27' :: '\x27' :: cs => multiLine? '\x27' (cs.length + 1) [] (dropFirstLineEnd cs)
  | '"' :: cs => basic? (cs.length + 1) [] cs
  | '\x27' :: cs => literal? [] cs
  | _ => none

def isBareChar (c : Char) : Bool := c.isAlphanum || c == '_' || c == '-'

def keyPart? : List Char → Option (String × List Char)
  | '"' :: cs => basic? (cs.length + 1) [] cs
  | '\x27' :: cs => literal? [] cs
  | cs =>
    let name := cs.takeWhile isBareChar
    if name.isEmpty then none else some (.ofList name, cs.dropWhile isBareChar)

def key? : Nat → List Char → Option (List String × List Char)
  | 0, _ => none
  | fuel + 1, cs => do
    let (part, rest) ← keyPart? (skipSpace cs)
    match skipSpace rest with
    | '.' :: rest =>
      let (parts, rest) ← key? fuel rest
      return (part :: parts, rest)
    | rest => return ([part], rest)

def underscored? (base : Nat) (cs : List Char) : Option Nat :=
  if (cs.splitOn '_').any List.isEmpty then none
  else digitsValue? base (cs.filter (· != '_'))

def integer? (cs : List Char) : Option Int :=
  let plain (ds : List Char) : Option Nat :=
    if ds.head? == some '0' && 1 < ds.length then none else underscored? 10 ds
  match cs with
  | '0' :: 'x' :: ds => (underscored? 16 ds).bind fun n => int64? n
  | '0' :: 'o' :: ds => (underscored? 8 ds).bind fun n => int64? n
  | '0' :: 'b' :: ds => (underscored? 2 ds).bind fun n => int64? n
  | '-' :: ds => (plain ds).bind fun n => int64? (-(n : Int))
  | '+' :: ds => (plain ds).bind fun n => int64? n
  | ds => (plain ds).bind fun n => int64? n

def float? (cs : List Char) : Option Double :=
  let (negative, ds) := match cs with
    | '-' :: ds => (true, ds)
    | '+' :: ds => (false, ds)
    | ds => (false, ds)
  match ds with
  | ['i', 'n', 'f'] => some (.infinite negative)
  | ['n', 'a', 'n'] => some .nan
  | ds =>
    let inDigits (c : Char) : Bool := c.isDigit || c == '_'
    let whole := ds.takeWhile inDigits
    let rest := ds.dropWhile inDigits
    let (part, rest) := match rest with
      | '.' :: rest => (some (rest.takeWhile inDigits), rest.dropWhile inDigits)
      | rest => (none, rest)
    let exponent := match rest with
      | _ :: '+' :: e | _ :: '-' :: e => some e
      | _ :: e => some e
      | [] => none
    if (part.isNone && exponent.isNone) || (whole.head? == some '0' && 1 < whole.length) ||
        (underscored? 10 whole).isNone || part.any (fun p => (underscored? 10 p).isNone) ||
        exponent.any (fun e => (underscored? 10 e).isNone) then none
    else decimal? negative (ds.filter (· != '_'))

def twoDigits? (least greatest : Nat) (a b : Char) : Option Nat :=
  (digitsValue? 10 [a, b]).bind fun n => if least ≤ n && n ≤ greatest then some n else none

def daysIn (year month : Nat) : Nat :=
  if month == 2 then
    if year % 4 == 0 && (year % 100 != 0 || year % 400 == 0) then 29 else 28
  else if [4, 6, 9, 11].contains month then 30 else 31

def date? : List Char → Option (List Char × List Char)
  | a :: b :: c :: d :: '-' :: e :: f :: '-' :: g :: h :: rest => do
    let y ← digitsValue? 10 [a, b, c, d]
    let m ← twoDigits? 1 12 e f
    let _ ← twoDigits? 1 (daysIn y m) g h
    return ([a, b, c, d, '-', e, f, '-', g, h], rest)
  | _ => none

def time? : List Char → Option (List Char × List Char)
  | a :: b :: ':' :: c :: d :: ':' :: e :: f :: rest => do
    let _ ← twoDigits? 0 23 a b
    let _ ← twoDigits? 0 59 c d
    let _ ← twoDigits? 0 60 e f
    let base := [a, b, ':', c, d, ':', e, f]
    match rest with
    | '.' :: rest =>
      let part := rest.takeWhile Char.isDigit
      if part.isEmpty then none
      else
        let shown := ((part.take 9).reverse.dropWhile (· == '0')).reverse
        return (if shown.isEmpty then base else base ++ '.' :: shown, rest.dropWhile Char.isDigit)
    | rest => return (base, rest)
  | _ => none

def offset? : List Char → Option (List Char × List Char)
  | s :: a :: b :: ':' :: c :: d :: rest =>
    if s == '+' || s == '-' then do
      let _ ← twoDigits? 0 23 a b
      let _ ← twoDigits? 0 59 c d
      return ([s, a, b, ':', c, d], rest)
    else if s == 'Z' || s == 'z' then some (['Z'], a :: b :: ':' :: c :: d :: rest)
    else none
  | s :: rest => if s == 'Z' || s == 'z' then some (['Z'], rest) else none
  | [] => none

def moment? (cs : List Char) : Option (String × List Char) :=
  match date? cs with
  | some (date, sep :: rest) =>
    let joined : Option (String × List Char) :=
      if sep == 'T' || sep == 't' || sep == ' ' then do
        let (time, rest) ← time? rest
        match offset? rest with
        | some (offset, rest) => return (.ofList (date ++ 'T' :: time ++ offset), rest)
        | none => return (.ofList (date ++ 'T' :: time), rest)
      else none
    joined.or (some (.ofList date, sep :: rest))
  | some (date, []) => some (.ofList date, [])
  | none => (time? cs).map fun r => (.ofList r.1, r.2)

def isScalarChar (c : Char) : Bool := c.isAlphanum || c == '_' || c == '+' || c == '-' || c == '.'

def scalar? (cs : List Char) : Option (Tree × List Char) :=
  let token := cs.takeWhile isScalarChar
  let rest := cs.dropWhile isScalarChar
  match token with
  | [] => none
  | ['t', 'r', 'u', 'e'] => some (.bool true, rest)
  | ['f', 'a', 'l', 's', 'e'] => some (.bool false, rest)
  | token =>
    match integer? token with
    | some z => some (.int z, rest)
    | none => (float? token).map fun x => (.real x, rest)

def putInline : List String → Tree → Fields → Option Fields
  | [], _, _ => none
  | [k], t, fs => if (fs.get? k).isSome then none else some (fs.put k t)
  | k :: ks, t, fs =>
    match fs.get? k with
    | none => (putInline ks t []).map fun gs => fs.put k (.table gs)
    | some (.table gs) => (putInline ks t gs).map fun gs => fs.put k (.table gs)
    | some _ => none

mutual

def value? : Nat → List Char → Option (Tree × List Char)
  | 0, _ => none
  | fuel + 1, cs =>
    match cs with
    | '[' :: cs => array? fuel [] cs
    | '\x7b' :: cs =>
      match skipSpace cs with
      | '\x7d' :: cs => some (.table [], cs)
      | cs => inline? fuel [] cs
    | c :: _ =>
      if c == '"' || c == '\x27' then (string? cs).map fun r => (.text r.1, r.2)
      else
        match moment? cs with
        | some (s, rest) => some (.text s, rest)
        | none => scalar? cs
    | [] => none

def array? : Nat → List Tree → List Char → Option (Tree × List Char)
  | 0, _, _ => none
  | fuel + 1, acc, cs =>
    match skipLines cs.length cs with
    | ']' :: rest => some (.list acc.reverse, rest)
    | cs =>
      match value? fuel cs with
      | none => none
      | some (t, rest) =>
        match skipLines rest.length rest with
        | ',' :: rest => array? fuel (t :: acc) rest
        | ']' :: rest => some (.list (t :: acc).reverse, rest)
        | _ => none

def inline? : Nat → Fields → List Char → Option (Tree × List Char)
  | 0, _, _ => none
  | fuel + 1, acc, cs =>
    match key? (cs.length + 1) cs with
    | some (key, '=' :: rest) =>
      match value? fuel (skipSpace rest) with
      | none => none
      | some (t, rest) =>
        match putInline key t acc, skipSpace rest with
        | some acc, ',' :: rest => inline? fuel acc rest
        | some acc, '\x7d' :: rest => some (.table acc, rest)
        | _, _ => none
    | _ => none

end

end Postroom.Document.Toml
