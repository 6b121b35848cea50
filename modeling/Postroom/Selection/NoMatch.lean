import Postroom.Text.Quoted

namespace Postroom

/-- No candidate of `target` accepts the subject; every candidate is listed with its guard. -/
structure NoMatch where
  target : String
  subject : String
  evaluated : List (String × String)
  deriving DecidableEq, Repr

def NoMatch.message (e : NoMatch) : String :=
  "no candidate in '" ++ e.target ++ "' accepts " ++ e.subject ++ " (evaluated: [" ++
    String.intercalate "; " (e.evaluated.map fun g => g.1 ++ ": " ++ g.2) ++ "])"

end Postroom
