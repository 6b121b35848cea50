import Postroom.Text.Quoted

namespace Postroom

open Text

/-- A consumer has no adapter for the candidate that was chosen. -/
structure MissingAdapter where
  consumer : String
  candidate : String
  deriving DecidableEq, Repr

def MissingAdapter.message (e : MissingAdapter) : String :=
  "'" ++ e.consumer ++ "' has no adapter for candidate '" ++ e.candidate ++ "'"

def putKey {β : Type} (key : String) (b : β) : List (String × β) → List (String × β)
  | [] => [(key, b)]
  | (k, c) :: rest => if k == key then (key, b) :: rest else (k, c) :: putKey key b rest

structure AdapterTable (β : Type) where
  consumer : String
  entries : List (String × β) := []

namespace AdapterTable

variable {β : Type}

def get? (t : AdapterTable β) (candidate : String) : Option β := t.entries.lookup candidate

def register (t : AdapterTable β) (candidate : String) (b : β) : AdapterTable β :=
  { t with entries := putKey candidate b t.entries }

def adapt (t : AdapterTable β) (candidate : String) : Except MissingAdapter β :=
  match t.get? candidate with
  | some b => .ok b
  | none => .error ⟨t.consumer, candidate⟩

def shown (t : AdapterTable β) : String :=
  shownRecord "AdapterTable" [("consumer", quote t.consumer),
    ("candidates", shownList (((t.entries.map Prod.fst).mergeSort (· ≤ ·)).map quote))]

end AdapterTable

end Postroom
