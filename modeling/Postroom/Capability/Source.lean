namespace Postroom

/-- What an environment answers at one moment. -/
structure Source where
  loadable : String → Bool
  value : String → Option String
  hasValue : String → Bool := fun key => (value key).isSome

namespace Source

def bare : Source where
  loadable _ := false
  value _ := none

def ofTable (components : List String) (values : List (String × String)) : Source where
  loadable := components.contains
  value key := values.lookup key

end Source

end Postroom
