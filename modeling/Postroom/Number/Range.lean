namespace Postroom.Number

structure IntRange where
  least : Int
  greatest : Int
  deriving DecidableEq, Repr

namespace IntRange

def unsigned (bits : Nat) : IntRange := ⟨0, Int.ofNat (Nat.pow 2 bits) - 1⟩

def signed (bits : Nat) : IntRange :=
  ⟨-Int.ofNat (Nat.pow 2 (bits - 1)), Int.ofNat (Nat.pow 2 (bits - 1)) - 1⟩

def has (r : IntRange) (n : Int) : Bool := r.least ≤ n && n ≤ r.greatest

end IntRange

def int64? (n : Int) : Option Int := if (IntRange.signed 64).has n then some n else none

end Postroom.Number
