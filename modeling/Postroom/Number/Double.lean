namespace Postroom.Number

/-- A double: `mantissa * 2 ^ exponent` with a sign, an infinity, or no number at all. The mantissa
is below `2 ^ 53`, and below `2 ^ 52` only at the least exponent. -/
inductive Double
  | finite (negative : Bool) (mantissa : Nat) (exponent : Int)
  | infinite (negative : Bool)
  | nan
  deriving DecidableEq, Repr

def leastExponent : Int := -1074

def scaled (num den : Nat) (e : Int) : Nat × Nat :=
  if 0 ≤ e then (num, den * Nat.pow 2 e.toNat) else (num * Nat.pow 2 (-e).toNat, den)

def roundHalfEven (num den : Nat) : Nat :=
  let q := num / den
  let r := num % den
  if 2 * r < den then q
  else if den < 2 * r then q + 1
  else if q % 2 = 0 then q else q + 1

def exponentFor (num den : Nat) : Int :=
  let guess : Int := (Nat.log2 num : Int) - (Nat.log2 den : Int) - 52
  let (n, d) := scaled num den guess
  max leastExponent (if n < d * Nat.pow 2 52 then guess - 1 else guess)

def Double.ofRatio (negative : Bool) (num den : Nat) : Double :=
  if num = 0 then .finite negative 0 leastExponent
  else
    let e := exponentFor num den
    let (n, d) := scaled num den e
    let m := roundHalfEven n d
    let (m, e) := if m = Nat.pow 2 53 then (Nat.pow 2 52, e + 1) else (m, e)
    if 971 < e then .infinite negative else .finite negative m e

/-- The double nearest to `digits * 10 ^ exponent`. The exponent is limited first: beyond the limits
the answer no longer depends on it. -/
def Double.ofDecimal (negative : Bool) (digits : Nat) (exponent : Int) : Double :=
  if digits = 0 then .finite negative 0 leastExponent
  else
    let size : Int := (Nat.toDigits 10 digits).length
    if 400 < exponent + size then .infinite negative
    else if exponent + size < -400 then .finite negative 0 leastExponent
    else if 0 ≤ exponent then .ofRatio negative (digits * Nat.pow 10 exponent.toNat) 1
    else .ofRatio negative digits (Nat.pow 10 (-exponent).toNat)

def ratio (m : Nat) (e : Int) : Nat × Nat :=
  if 0 ≤ e then (m * Nat.pow 2 e.toNat, 1) else (m, Nat.pow 2 (-e).toNat)

def timesTen (n : Nat) (e : Int) : Nat := if 0 ≤ e then n * Nat.pow 10 e.toNat else n

def leadingExponent (num den : Nat) : Int :=
  let guess : Int :=
    ((Nat.toDigits 10 num).length : Int) - ((Nat.toDigits 10 den).length : Int)
  if timesTen den guess ≤ timesTen num (-guess) then guess else guess - 1

def readsBack (m : Nat) (x : Int) (digits : Nat) (e : Int) : Bool :=
  Double.ofDecimal false digits e == .finite false m x

def distance (num den digits : Nat) (e : Int) : Nat :=
  let a := timesTen digits e * den
  let b := timesTen num (-e)
  if a ≤ b then b - a else a - b

/-- The shortest decimal that reads back, as digits and an exponent: on the grids of one to
seventeen digits the first one with a hit, and of two hits the nearer. -/
def shortestOn (m : Nat) (x : Int) (num den : Nat) (lead : Int) : Nat → Nat → Nat × Int
  | 0, _ => (m, 0)
  | fuel + 1, size =>
    let e := lead + 1 - size
    let low := timesTen num (-e) / timesTen den e
    let hit := readsBack m x
    match hit low e, hit (low + 1) e with
    | true, true =>
      if distance num den (low + 1) e < distance num den low e then (low + 1, e) else (low, e)
    | true, false => (low, e)
    | false, true => (low + 1, e)
    | false, false => shortestOn m x num den lead fuel (size + 1)

def shortest (m : Nat) (x : Int) : Nat × Int :=
  let (num, den) := ratio m x
  shortestOn m x num den (leadingExponent num den) 20 1

def dropZeros : Nat → Nat → Int → Nat × Int
  | 0, n, e => (n, e)
  | fuel + 1, n, e => if n % 10 = 0 then dropZeros fuel (n / 10) (e + 1) else (n, e)

def digitsAndPoint (m : Nat) (x : Int) : List Char × Int :=
  let (n, e) := shortest m x
  let (n, e) := dropZeros 20 n e
  let digits := Nat.toDigits 10 n
  (digits, digits.length + e)

def zeros (n : Nat) : List Char := List.replicate n '0'

def positional (digits : List Char) (point : Int) (whole : List Char) : List Char :=
  if point ≤ 0 then '0' :: '.' :: zeros (-point).toNat ++ digits
  else if point < digits.length then digits.take point.toNat ++ '.' :: digits.drop point.toNat
  else digits ++ zeros (point - digits.length).toNat ++ whole

def scientific (digits : List Char) (point : Int) : List Char :=
  let exponent := 'e' :: (toString (point - 1)).toList
  match digits with
  | [] => []
  | [d] => d :: exponent
  | d :: ds => d :: '.' :: ds ++ exponent

def signed (negative : Bool) (digits : List Char) : String :=
  .ofList (if negative then '-' :: digits else digits)

/-- The text of a double in a document: positional from `10 ^ -5` to below `10 ^ 16`, with at least
one decimal, and scientific elsewhere. There is none for what is not finite. -/
def Double.document? : Double → Option String
  | .finite neg 0 _ => some (signed neg ['0', '.', '0'])
  | .finite neg m x =>
    let (digits, point) := digitsAndPoint m x
    some (signed neg
      (if -5 < point && point ≤ 16 then positional digits point ['.', '0']
       else scientific digits point))
  | _ => none

def Double.plain : Double → String
  | .finite neg 0 _ => signed neg ['0']
  | .finite neg m x =>
    let (digits, point) := digitsAndPoint m x
    signed neg (positional digits point [])
  | .infinite neg => signed neg ['i', 'n', 'f']
  | .nan => "NaN"

def Double.round? : Double → Option Int
  | .finite neg m x =>
    let (num, den) := ratio m x
    let n : Int := (2 * num + den) / (2 * den)
    some (if neg then -n else n)
  | _ => none

end Postroom.Number
