namespace Postroom.Number

def digitValue? (base : Nat) (c : Char) : Option Nat :=
  let d? : Option Nat :=
    if '0' ≤ c && c ≤ '9' then some (c.toNat - 48)
    else if 'a' ≤ c && c ≤ 'z' then some (c.toNat - 87)
    else if 'A' ≤ c && c ≤ 'Z' then some (c.toNat - 55)
    else none
  d?.filter (· < base)

def digitsValue? (base : Nat) (cs : List Char) : Option Nat :=
  if cs.isEmpty then none else cs.foldlM (fun n c => (digitValue? base c).map (n * base + ·)) 0

def isHexDigit (c : Char) : Bool := (digitValue? 16 c).isSome

def decimalValue (cs : List Char) : Nat := cs.foldl (fun n c => n * 10 + (c.toNat - 48)) 0

def hexChar? (cs : List Char) : Option Char :=
  (digitsValue? 16 cs).bind fun n => if n.isValidChar then some (Char.ofNat n) else none

end Postroom.Number
