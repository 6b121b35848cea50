import Postroom.Text.Quoted

namespace Postroom

open Text

/-- Why an attempt did not succeed: the candidate would not, or it tried and broke. -/
inductive Refusal
  | declined (reason : String)
  | failed (cause : String)
  deriving DecidableEq, Repr

namespace Refusal

def isDeclined : Refusal → Bool
  | declined _ => true
  | failed _ => false

def text : Refusal → String
  | declined reason => "declined: " ++ reason
  | failed cause => "failed: " ++ cause

end Refusal

structure Attempt where
  index : Nat
  candidate : String
  cause : Refusal
  deriving DecidableEq, Repr

structure Exhausted where
  executor : String
  attempts : List Attempt
  deriving DecidableEq, Repr

def Attempt.text (a : Attempt) : String :=
  "#" ++ toString a.index ++ " " ++ a.candidate ++ ": " ++ a.cause.text

def Exhausted.message (e : Exhausted) : String :=
  "all " ++ toString e.attempts.length ++ " candidates of '" ++ e.executor ++ "' failed: [" ++
    String.intercalate "; " (e.attempts.map Attempt.text) ++ "]"

structure Succeeded (ρ : Type) where
  index : Nat
  candidate : String
  value : ρ
  deriving DecidableEq, Repr

/-- Candidates in the order in which they are tried; keys may repeat. -/
structure Fallback (ι : Type) where
  name : String
  candidates : List (String × ι) := []

namespace Fallback

variable {ι ρ σ : Type}

def push (f : Fallback ι) (key : String) (i : ι) : Fallback ι :=
  { f with candidates := f.candidates ++ [(key, i)] }

def keys (f : Fallback ι) : List String := f.candidates.map Prod.fst

def tryFrom (executor : String) (attempt : ι → StateM σ (Except Refusal ρ)) :
    Nat → List Attempt → List (String × ι) → StateM σ (Except Exhausted (Succeeded ρ))
  | _, attempts, [] => pure (.error ⟨executor, attempts⟩)
  | index, attempts, (key, i) :: cs => do
    match ← attempt i with
    | .ok v => return .ok ⟨index, key, v⟩
    | .error cause => tryFrom executor attempt (index + 1) (attempts ++ [⟨index, key, cause⟩]) cs

/-- The first success. -/
def run (f : Fallback ι) (attempt : ι → StateM σ (Except Refusal ρ)) :
    StateM σ (Except Exhausted (Succeeded ρ)) :=
  tryFrom f.name attempt 0 [] f.candidates

def shown (f : Fallback ι) : String :=
  shownRecord "FallbackExecutor"
    [("name", quote f.name), ("candidates", shownList (f.keys.map quote))]

end Fallback

end Postroom
