import Postroom.Text.Hidden

namespace Postroom.Text

/-- One character inside quotes. A hidden character is shown by its code point. -/
def quotedChar (c : Char) : List Char :=
  if c == '"' then ['\\', '"']
  else if c == '\\' then ['\\', '\\']
  else if c == '\n' then ['\\', 'n']
  else if c == '\r' then ['\\', 'r']
  else if c == '\t' then ['\\', 't']
  else if c == '\x00' then ['\\', '0']
  else if isHidden c then ['\\', 'u', '\x7b'] ++ Nat.toDigits 16 c.toNat ++ ['\x7d']
  else [c]

def quote (s : String) : String := .ofList ('"' :: s.toList.flatMap quotedChar ++ ['"'])

def commas (parts : List String) : String := String.intercalate ", " parts

def shownRecord (name : String) (fields : List (String × String)) : String :=
  name ++ " \x7b " ++ commas (fields.map fun f => f.1 ++ ": " ++ f.2) ++ " \x7d"

def shownApply (name value : String) : String := name ++ "(" ++ value ++ ")"

def shownList (values : List String) : String := "[" ++ commas values ++ "]"

def shownMap (entries : List (String × String)) : String :=
  "\x7b" ++ commas (entries.map fun e => e.1 ++ ": " ++ e.2) ++ "\x7d"

def shownOption : Option String → String
  | none => "None"
  | some v => shownApply "Some" v

end Postroom.Text
