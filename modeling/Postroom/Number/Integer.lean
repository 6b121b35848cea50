import Postroom.Number.Range

namespace Postroom.Number

def invalidDigit : String := "invalid digit found in string"

def readDigits (r : IntRange) (negative : Bool) : Int → List Char → Except String Int
  | n, [] => .ok n
  | n, c :: cs =>
    if !c.isDigit then .error invalidDigit
    else
      let d : Int := (c.toNat - 48 : Nat)
      let m := if negative then n * 10 - d else n * 10 + d
      if m < r.least then .error "number too small to fit in target type"
      else if r.greatest < m then .error "number too large to fit in target type"
      else readDigits r negative m cs

/-- A whole number of a range. A plus may stand in front, and a minus where the range has negative
numbers. -/
def readInteger (r : IntRange) (s : String) : Except String Int :=
  match s.toList with
  | [] => .error "cannot parse integer from empty string"
  | ['+'] | ['-'] => .error invalidDigit
  | '+' :: cs => readDigits r false 0 cs
  | '-' :: cs => if r.least < 0 then readDigits r true 0 cs else .error invalidDigit
  | cs => readDigits r false 0 cs

def readBool : String → Except String Bool
  | "true" => .ok true
  | "false" => .ok false
  | _ => .error "provided string was not \x60true\x60 or \x60false\x60"

def readChar (s : String) : Except String Char :=
  match s.toList with
  | [] => .error "cannot parse char from empty string"
  | [c] => .ok c
  | _ => .error "too many characters in string"

end Postroom.Number
