import Postroom.Property.Evaluation
import Postroom.Requirement.Basic

namespace Postroom

/-- A setting: given explicitly, read from properties, or defaulted, in this order of precedence. A
property that has a value but cannot be read as one is an error, whatever follows. -/
structure Setting (τ : Type) where
  keys : List String := []
  explicit : Option τ := none
  fallback : Option τ := none
  deriving DecidableEq, Repr

namespace Setting

variable {τ α : Type}

def properties (s : Setting τ) (keys : List String) : Setting τ := { s with keys := s.keys ++ keys }

def value (s : Setting τ) (v : τ) : Setting τ := { s with explicit := some v }

def defaultValue (s : Setting τ) (v : τ) : Setting τ := { s with fallback := some v }

def resolve (w : Outside α) (read : String → Except String τ) (s : Setting τ) :
    Eval α (Except PropertyError (Option τ)) :=
  match s.explicit with
  | some v => pure (.ok (some v))
  | none => do
    match ← lookUp s.keys with
    | none => return .ok s.fallback
    | some (key, text) =>
      match read text with
      | .ok v => return .ok (some v)
      | .error reason => return .error (.invalid key text reason)
where
  lookUp : List String → Eval α (Option (String × String))
    | [] => pure none
    | key :: keys => do
      match ← Session.value w key with
      | some text => return some (key, text)
      | none => lookUp keys

end Setting

end Postroom
