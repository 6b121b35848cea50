import Postroom.Files
import Postroom.Resource.Path
import Postroom.Selection.Adapter
import Postroom.Selection.NoMatch

namespace Postroom

inductive ResourceError
  | notFound (path : String)
  | io (path : String) (cause : FileError)
  | invalidText (path : String)
  | noResolver (cause : NoMatch)
  deriving DecidableEq, Repr

def ResourceError.message : ResourceError → String
  | notFound path => "resource '" ++ path ++ "' not found"
  | io path cause => "failed to read resource '" ++ path ++ "': " ++ cause.message
  | invalidText path => "resource '" ++ path ++ "' is not valid UTF-8"
  | noResolver cause => "no resolver for resource: " ++ cause.message

/-- A resource that was found. -/
structure Resource where
  path : ResourcePath
  content : ByteArray

def Resource.text (r : Resource) : Except ResourceError String :=
  match String.fromUTF8? r.content with
  | some s => .ok s
  | none => .error (.invalidText r.path.written)

structure Resolver where
  name : String
  lookups : List Lookup
  resolve : ResourcePath → Except ResourceError Resource
  has : ResourcePath → Bool := fun p => (resolve p).isOk
  /-- Whether a parent path and an extension apply to it. -/
  relativisable : Bool := true

def withoutLeadingSlashes (path : String) : String :=
  .ofList (path.toList.dropWhile (· == '/'))

namespace Resolver

def inPath : Resolver where
  name := "string"
  lookups := [.inPath]
  resolve p := .ok ⟨p, p.path.toUTF8⟩
  has _ := true
  relativisable := false

def location (base : Option String) (path : String) : String :=
  match base with
  | none => path
  | some b =>
    let inner := withoutLeadingSlashes path
    if b.isEmpty then inner else if Text.endsWith b "/" then b ++ inner else b ++ "/" ++ inner

def ofFiles (files : Files) (base : Option String := none) : Resolver where
  name := "file"
  lookups := [.file]
  resolve p :=
    match files.read (location base p.path) with
    | .ok content => .ok ⟨p, content⟩
    | .error .notFound => .error (.notFound p.written)
    | .error cause => .error (.io p.written cause)
  has p := files.isFile (location base p.path)

def bundled (puts : List (String × ByteArray)) : Resolver :=
  let entries := puts.foldl (fun es e => putKey (withoutLeadingSlashes e.1) e.2 es) []
  { name := "classpath"
    lookups := [.bundled]
    resolve := fun p =>
      match entries.lookup (withoutLeadingSlashes p.path) with
      | some content => .ok ⟨p, content⟩
      | none => .error (.notFound p.written)
    has := fun p => (entries.lookup (withoutLeadingSlashes p.path)).isSome }

def ofTable (name : String) (lookups : List Lookup) (puts : List (String × ByteArray)) : Resolver :=
  let entries := puts.foldl (fun es e => putKey e.1 e.2 es) []
  { name, lookups
    resolve := fun p =>
      match entries.lookup p.path with
      | some content => .ok ⟨p, content⟩
      | none => .error (.notFound p.written) }

/-- A path behind a parent path and with an extension, which is not put twice. -/
def relativize (parent extension : String) (p : ResourcePath) : ResourcePath :=
  let full := parent ++ p.path
  p.withPath (if Text.endsWith full extension then full else full ++ extension)

def relative (parent extension : String) (inner : Resolver) : Resolver where
  name := inner.name
  lookups := inner.lookups
  resolve p := inner.resolve (relativize parent extension p)
  has p := inner.has (relativize parent extension p)
  relativisable := false

end Resolver

end Postroom
