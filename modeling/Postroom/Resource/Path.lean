import Postroom.Text.Quoted
import Postroom.Text.Slices

namespace Postroom

open Text

/-- Where a resource lives: among those bundled with the application, in a file, or in the path
itself. -/
inductive Lookup
  | bundled | file | inPath
  deriving DecidableEq, Repr

namespace Lookup

def name : Lookup → String
  | bundled => "classpath"
  | file => "file"
  | inPath => "string"

def ofName? : String → Option Lookup
  | "classpath" => some bundled
  | "file" => some file
  | "string" => some inPath
  | _ => none

def opening (l : Lookup) : String := l.name ++ ":"

def shown : Lookup → String
  | bundled => "Classpath"
  | file => "File"
  | inPath => "String"

/-- Every opening with its lookup. One lookup has a short opening besides its own. -/
def openings : List (String × Lookup) :=
  [("classpath:", bundled), ("file:", file), ("string:", inPath), ("s:", inPath)]

def split (text : String) : Option Lookup × String :=
  match openings.findSome? fun o =>
      (after? o.1.toList text.toList).map fun rest => (o.2, String.ofList rest) with
  | some (l, rest) => (some l, rest)
  | none => (none, text)

end Lookup

/-- A path as it is written, the lookup it begins with, and the path proper. -/
structure ResourcePath where
  written : String
  lookup : Option Lookup
  path : String
  deriving DecidableEq, Repr

namespace ResourcePath

def parse (written : String) : ResourcePath :=
  let (l, path) := Lookup.split written
  ⟨written, l, path⟩

def orLookup (p : ResourcePath) (l : Option Lookup) : ResourcePath :=
  match p.lookup, l with
  | none, some l => ⟨l.opening ++ p.path, some l, p.path⟩
  | _, _ => p

def withPath (p : ResourcePath) (path : String) : ResourcePath :=
  match p.lookup with
  | some l => ⟨l.opening ++ path, some l, path⟩
  | none => ⟨path, none, path⟩

def shown (p : ResourcePath) : String :=
  shownRecord "ResourcePath" [("original", quote p.written),
    ("lookup", shownOption (p.lookup.map Lookup.shown)), ("path", quote p.path)]

end ResourcePath

end Postroom
