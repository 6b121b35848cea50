import Postroom.Document.Ini
import Postroom.Document.Json
import Postroom.Document.Json5
import Postroom.Document.Ron
import Postroom.Document.Toml
import Postroom.Document.Yaml
import Postroom.FileName
import Postroom.Text.Casing

namespace Postroom

open Document Number Text

inductive ConfigError
  | io
  | parse
  | serialization
  | unsupportedFormat (what : String)
  deriving DecidableEq, Repr

def ConfigError.message : ConfigError → String
  | io => "IO error"
  | parse => "Config parsing error"
  | unsupportedFormat what => "Unsupported format: " ++ what
  | serialization => "Serialization error"

namespace Configuration

inductive Format
  | yaml | toml | json | ini | ron | json5
  deriving DecidableEq, Repr

namespace Format

def ofName? : String → Option Format
  | "yaml" | "yml" => some .yaml
  | "toml" => some .toml
  | "json" => some .json
  | "ini" => some .ini
  | "ron" => some .ron
  | "json5" => some .json5
  | _ => none

def name : Format → String
  | yaml => "yaml"
  | toml => "toml"
  | json => "json"
  | ini => "ini"
  | ron => "ron"
  | json5 => "json5"

def ofPath (path : String) : Except ConfigError Format :=
  match extension? path with
  | none => .error (.unsupportedFormat ("no file extension in '" ++ path ++ "'"))
  | some ext =>
    match ofName? (lower ext) with
    | some f => .ok f
    | none => .error (.unsupportedFormat ext)

mutual

/-- A document in which whole numbers beyond 64 bits with sign are reals. -/
def narrowed : Tree → Tree
  | .int n =>
    if n ≤ (IntRange.signed 64).greatest then .int n else .real (.ofRatio false n.toNat 1)
  | .list ts => .list (narrowedItems ts)
  | .table fs => .table (narrowedFields fs)
  | t => t

def narrowedItems : List Tree → List Tree
  | [] => []
  | t :: ts => narrowed t :: narrowedItems ts

def narrowedFields : List (String × Tree) → List (String × Tree)
  | [] => []
  | (name, t) :: fs => (name, narrowed t) :: narrowedFields fs

end

def read? (text : String) : Format → Option Tree
  | yaml => Yaml.read? text
  | toml => Toml.read? text
  | json => (Json.read? text).map narrowed
  | ini => Ini.read? text
  | ron => Ron.read? text
  | json5 => Json5.read? text

def readFields (f : Format) (text : String) : Except ConfigError Fields :=
  match f.read? text with
  | some (.table fs) => .ok fs
  | _ => .error .parse

end Format

end Configuration

end Postroom
