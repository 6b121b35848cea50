import Postroom.Pattern.Basic

namespace Postroom.Pattern

def Edge.holdsAt (t : Array Char) (i : Nat) (e : Edge) : Bool :=
  e.holds (if i = 0 then none else t[i - 1]?) t[i]?

/-- The pattern covers the text from place `i` to place `j`. -/
inductive Regex.Spans (t : Array Char) : Regex → Nat → Nat → Prop
  | empty (i) : Spans t .empty i i
  | one {s c i} : t[i]? = some c → s.has c = true → Spans t (.one s) i (i + 1)
  | edge {e i} : e.holdsAt t i = true → Spans t (.edge e) i i
  | seq {a b i j k} : Spans t a i j → Spans t b j k → Spans t (.seq a b) i k
  | altLeft {a b i j} : Spans t a i j → Spans t (.alt a b) i j
  | altRight {a b i j} : Spans t b i j → Spans t (.alt a b) i j
  | stop {r max i} : Spans t (.rep r 0 max) i i
  | turn {r min max max' i j k} : (max = none ∧ max' = none ∨ ∃ m, max = some (m + 1) ∧ max' = some m) →
      Spans t r i j → Spans t (.rep r (min - 1) max') j k → Spans t (.rep r min max) i k

def fresh (seen more : List Nat) : List Nat :=
  more.foldl (fun acc i => if seen.contains i || acc.contains i then acc else i :: acc) []

def joinPlaces (a b : List Nat) : List Nat := a ++ fresh a b

def times (step : List Nat → List Nat) : Nat → List Nat → List Nat
  | 0, is => is
  | n + 1, is => if is.isEmpty then [] else times step n (step is)

def reach (step : List Nat → List Nat) : Nat → List Nat → List Nat → List Nat
  | 0, seen, _ => seen
  | n + 1, seen, edge =>
    match fresh seen (step edge) with
    | [] => seen
    | edge => reach step n (seen ++ edge) edge

/-- The places where a match that begins at one of `is` can end. -/
def Regex.ends (t : Array Char) : Regex → List Nat → List Nat
  | .empty, is => is
  | .one s, is => is.filterMap fun i => if t[i]?.any s.has then some (i + 1) else none
  | .edge e, is => is.filter fun i => e.holdsAt t i
  | .seq a b, is => b.ends t (a.ends t is)
  | .alt a b, is => joinPlaces (a.ends t is) (b.ends t is)
  | .rep r min max, is =>
    let first := times (r.ends t) min is
    let turns := match max with
      | none => t.size + 1
      | some m => m - min
    reach (r.ends t) turns first first

def Regex.isMatch (r : Regex) (text : String) : Bool :=
  let t := text.toList.toArray
  !(r.ends t (List.range (t.size + 1))).isEmpty

def Regex.Finds (r : Regex) (text : String) : Prop :=
  ∃ i j, i ≤ j ∧ j ≤ text.toList.length ∧ r.Spans text.toList.toArray i j

def Regex.Covers (r : Regex) (text : String) : Prop :=
  r.Spans text.toList.toArray 0 text.toList.length

end Postroom.Pattern
