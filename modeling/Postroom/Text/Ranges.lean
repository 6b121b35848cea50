namespace Postroom.Text

abbrev Ranges := List (Nat × Nat)

def Ranges.has : Ranges → Nat → Bool
  | [], _ => false
  | (lo, hi) :: rs, n => if n < lo then false else n ≤ hi || Ranges.has rs n

end Postroom.Text
