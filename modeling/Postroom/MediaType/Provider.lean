import Postroom.FileName
import Postroom.Files
import Postroom.Selection.Adapter
import Postroom.Selection.Fallback
import Postroom.Text.Slices

namespace Postroom

open Text

structure MediaType where
  essence : String
  deriving DecidableEq, Repr

def MediaType.primary (m : MediaType) : String :=
  .ofList (m.essence.toList.takeWhile (· != '/'))

inductive MediaInput
  | bytes (content : ByteArray)
  | fileName (name : String)

def MediaInput.text : MediaInput → String
  | bytes content => toString content.size ++ " bytes"
  | fileName name => name

inductive MediaTypeError
  | undetected (provider input : String)
  | noProvider (cause : Exhausted)
  deriving DecidableEq, Repr

namespace MediaTypeError

def message : MediaTypeError → String
  | undetected provider input => provider ++ " could not detect the mime type of " ++ input
  | noProvider cause => "no mime type provider could detect the mime type: " ++ cause.message

def refusal : MediaTypeError → Refusal
  | undetected provider input => .declined (message (.undetected provider input))
  | noProvider cause => .failed (message (.noProvider cause))

end MediaTypeError

/-- What tells media types, acting on a world of type `σ`. -/
structure MediaTypeProvider (σ : Type) where
  name : String
  detect : MediaInput → StateM σ (Except MediaTypeError MediaType)

def signatures : List (List UInt8 × String) :=
  [([0x89, 0x50, 0x4e, 0x47, 0x0d, 0x0a, 0x1a, 0x0a], "image/png"),
   ([0xff, 0xd8, 0xff], "image/jpeg"),
   ([0x47, 0x49, 0x46, 0x38, 0x37, 0x61], "image/gif"),
   ([0x47, 0x49, 0x46, 0x38, 0x39, 0x61], "image/gif"),
   ([0x25, 0x50, 0x44, 0x46, 0x2d], "application/pdf"),
   ([0x50, 0x4b, 0x03, 0x04], "application/zip")]

def signed? (content : ByteArray) : Option MediaType :=
  (signatures.find? fun s => s.1.isPrefixOf content.data.toList).map fun s => ⟨s.2⟩

def knownExtensions : List (String × MediaType) :=
  [("html", ⟨"text/html"⟩), ("htm", ⟨"text/html"⟩), ("txt", ⟨"text/plain"⟩), ("css", ⟨"text/css"⟩),
   ("json", ⟨"application/json"⟩), ("pdf", ⟨"application/pdf"⟩), ("zip", ⟨"application/zip"⟩),
   ("png", ⟨"image/png"⟩), ("jpg", ⟨"image/jpeg"⟩), ("jpeg", ⟨"image/jpeg"⟩),
   ("gif", ⟨"image/gif"⟩)]

/-- Media types by extension. -/
structure ExtensionTable where
  entries : List (String × MediaType) := knownExtensions
  deriving DecidableEq, Repr

namespace ExtensionTable

def withEntry (t : ExtensionTable) (extension essence : String) : ExtensionTable :=
  ⟨putKey extension ⟨essence⟩ t.entries⟩

/-- The type of a file by the extension of its name in lower case. -/
def typeOf? (t : ExtensionTable) (fileName : String) : Option MediaType :=
  (extension? fileName).bind fun ext => t.entries.lookup (asciiLower ext)

end ExtensionTable

namespace MediaTypeProvider

variable {σ : Type}

def answer (name : String) (i : MediaInput) (m : Option MediaType) :
    StateM σ (Except MediaTypeError MediaType) :=
  pure (match m with
    | some m => .ok m
    | none => .error (.undetected name i.text))

/-- By the bytes that a content begins with. A file that cannot be read has none, and the report
then names the file. -/
def magic (files : Files) : MediaTypeProvider σ where
  name := "magic-bytes"
  detect
    | .bytes content => answer "magic-bytes" (.bytes content) (signed? content)
    | .fileName f =>
      match files.read f with
      | .ok content => answer "magic-bytes" (.bytes content) (signed? content)
      | .error _ => answer "magic-bytes" (.fileName f) none

def ofExtensions (t : ExtensionTable) : MediaTypeProvider σ where
  name := "extension"
  detect
    | .bytes content => answer "extension" (.bytes content) none
    | .fileName f => answer "extension" (.fileName f) (t.typeOf? f)

def fixed (m : MediaType) : MediaTypeProvider σ where
  name := "fixed"
  detect _ := pure (.ok m)

def attempt (i : MediaInput) (p : MediaTypeProvider σ) : StateM σ (Except Refusal MediaType) := do
  match ← p.detect i with
  | .ok m => return .ok m
  | .error e => return .error e.refusal

def fallbackName : String := "mime-type-providers"

def executor (ps : List (MediaTypeProvider σ)) : Fallback (MediaTypeProvider σ) :=
  ⟨fallbackName, ps.map fun p => (p.name, p)⟩

def fallback (ps : List (MediaTypeProvider σ)) : MediaTypeProvider σ where
  name := fallbackName
  detect i := do
    match ← (executor ps).run (attempt i) with
    | .ok s => return .ok s.value
    | .error e => return .error (.noProvider e)

def usual (files : Files) : List (MediaTypeProvider σ) := [magic files, ofExtensions {}]

def shownFallback (ps : List (MediaTypeProvider σ)) : String :=
  shownRecord "FallbackMimeTypeProvider" [("providers", shownList (ps.map fun p => quote p.name))]

end MediaTypeProvider

end Postroom
