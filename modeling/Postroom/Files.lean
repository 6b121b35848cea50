namespace Postroom

/-- The files and directories by their components below the root, and the working directory. The
directories above an entry exist. -/
structure Files where
  files : List (List String × ByteArray) := []
  directories : List (List String) := []
  working : List String := []

inductive FileError
  | notFound
  | notDirectory
  | isDirectory
  | tooLong
  | invalidName
  deriving DecidableEq, Repr

def FileError.message : FileError → String
  | notFound => "No such file or directory (os error 2)"
  | notDirectory => "Not a directory (os error 20)"
  | isDirectory => "Is a directory (os error 21)"
  | tooLong => "File name too long (os error 36)"
  | invalidName => "file name contained an unexpected NUL byte"

namespace Files

def file? (fs : Files) (p : List String) : Option ByteArray := fs.files.lookup p

def isDirectory (fs : Files) (p : List String) : Bool :=
  p.isPrefixOf fs.working || fs.directories.any (p.isPrefixOf ·) ||
    fs.files.any fun f => p.isPrefixOf f.1 && p.length < f.1.length

def step (fs : Files) (here : List String) (component : String) :
    Except FileError (List String) :=
  if !fs.isDirectory here then .error .notDirectory
  else if component == "" || component == "." then .ok here
  else if component == ".." then .ok here.dropLast
  else if 255 < component.utf8ByteSize then .error .tooLong
  else
    let next := here ++ [component]
    if (fs.file? next).isSome || fs.isDirectory next then .ok next else .error .notFound

def walk (fs : Files) (here : List String) (cs : List String) : Except FileError (List String) :=
  cs.foldlM fs.step here

def components (path : String) : List String := (path.toList.splitOn '/').map String.ofList

def start (fs : Files) (path : String) : List String :=
  if path.toList.head? == some '/' then [] else fs.working

def follow (fs : Files) (path : String) : Except FileError (List String) :=
  fs.walk (fs.start path) (components path)

def locate (fs : Files) (path : String) : Except FileError (List String) :=
  if path.toList.contains '\x00' then .error .invalidName
  else if path.isEmpty then .error .notFound
  else if 4096 ≤ path.utf8ByteSize then .error .tooLong
  else fs.follow path

def read (fs : Files) (path : String) : Except FileError ByteArray :=
  match fs.locate path with
  | .error e => .error e
  | .ok p =>
    if fs.isDirectory p then .error .isDirectory
    else
      match fs.file? p with
      | some content => .ok content
      | none => .error .notFound

def isFile (fs : Files) (path : String) : Bool :=
  match fs.locate path with
  | .ok p => !fs.isDirectory p && (fs.file? p).isSome
  | .error _ => false

end Files

end Postroom
