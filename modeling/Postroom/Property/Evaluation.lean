import Postroom.Property.Layer
import Postroom.Property.Reference

namespace Postroom

open Property

inductive PropertyError
  | unresolvable (key expression : String)
  | circular (chain : List String)
  | invalid (key value reason : String)
  deriving DecidableEq, Repr

def PropertyError.message : PropertyError → String
  | unresolvable key expression =>
    "property '" ++ key ++ "' referenced by '" ++ expression ++ "' is not defined"
  | circular chain => "circular property reference: " ++ String.intercalate " -> " chain
  | invalid key value reason =>
    "property '" ++ key ++ "' has invalid value '" ++ value ++ "': " ++ reason

namespace Layers

/-- The text that a piece stands for. Stored texts and defaults are evaluated by `nested`, below the
chain that it is given. -/
def pieceText (ls : Layers) (nested : List String → String → Except PropertyError String)
    (chain : List String) (expression : String) : Piece → Except PropertyError String
  | .literal c => .ok (.singleton c)
  | .reference key default =>
    match ls.raw? key with
    | some text =>
      if chain.contains key then .error (.circular (chain ++ [key]))
      else nested (chain ++ [key]) text
    | none =>
      match default with
      | some d => nested chain d
      | none => .error (.unresolvable key expression)

/-- Evaluation below a chain of keys, with a bound on how many evaluations may still begin one
inside the other. While the value of a key is evaluated the key is on the chain, and a reference to
a key on the chain is circular. -/
def evaluateWith (ls : Layers) : Nat → List String → String → Except PropertyError String
  | 0, chain, _ => .error (.circular chain)
  | fuel + 1, chain, expression => do
    let parts ← (pieces expression).mapM (ls.pieceText (ls.evaluateWith fuel) chain expression)
    return String.join parts

/-- The number of references in all stored texts. A chain holds no key twice, and all its keys but
the first are referred to by some stored text, so no chain is longer than this by more than one. -/
def referenceCount (ls : Layers) : Nat :=
  ((ls.layers.flatMap Layer.texts).flatMap referredKeys).length

/-- The value of an expression. The bound is enough for the longest chain, and for a default below
it. -/
def evaluate (ls : Layers) (expression : String) : Except PropertyError String :=
  ls.evaluateWith (ls.referenceCount + 3) [] expression

/-- The value of a key, if it is held. -/
def get (ls : Layers) (key : String) : Except PropertyError (Option String) :=
  match ls.raw? key with
  | some text => (ls.evaluateWith (ls.referenceCount + 2) [key] text).map some
  | none => .ok none

end Layers

end Postroom
