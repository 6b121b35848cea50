namespace Postroom

def fileName? (path : String) : Option (List Char) :=
  match ((path.toList.splitOn '/').filter fun c => c != [] && c != ['.']).getLast? with
  | some ['.', '.'] => none
  | name => name

/-- The extension of a path: what follows the last dot of its file name, unless nothing stands
before that dot. -/
def extension? (path : String) : Option String :=
  match fileName? path with
  | none => none
  | some name =>
    let ext := (name.reverse.takeWhile (· != '.')).reverse
    if name.length ≤ ext.length + 1 then none else some (.ofList ext)

end Postroom
