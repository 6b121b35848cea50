import Postroom.Number.Digits
import Postroom.Number.Double

namespace Postroom.Number

def decimal? (negative : Bool) (cs : List Char) : Option Double :=
  let whole := cs.takeWhile Char.isDigit
  let rest := cs.dropWhile Char.isDigit
  let (part, rest) := match rest with
    | '.' :: rest => (rest.takeWhile Char.isDigit, rest.dropWhile Char.isDigit)
    | rest => ([], rest)
  if whole.isEmpty && part.isEmpty then none
  else
    let done (e : Int) : Option Double :=
      some (.ofDecimal negative (decimalValue (whole ++ part)) (e - part.length))
    match rest with
    | [] => done 0
    | c :: rest =>
      if c == 'e' || c == 'E' then
        let (neg, ds) := match rest with
          | '-' :: ds => (true, ds)
          | '+' :: ds => (false, ds)
          | ds => (false, ds)
        if ds.isEmpty || !ds.all Char.isDigit then none
        else done (if neg then -(decimalValue ds : Int) else decimalValue ds)
      else none

def sameLetters (cs : List Char) (word : String) : Bool := cs.map Char.toLower == word.toList

def readDouble? (cs : List Char) : Option Double :=
  let (negative, body) := match cs with
    | '-' :: cs => (true, cs)
    | '+' :: cs => (false, cs)
    | cs => (false, cs)
  if sameLetters body "inf" || sameLetters body "infinity" then some (.infinite negative)
  else if sameLetters body "nan" then some .nan
  else decimal? negative body

end Postroom.Number
