import Postroom.Text.Word

namespace Postroom.Configuration

open Text

def isNameStart (c : Char) : Bool := c.isAlpha || c == '_'

def isNameChar (c : Char) : Bool := c.isAlphanum || c == '_'

def name? (cs : List Char) : Option (List Char × List Char) :=
  if cs.head?.any isNameStart then some (cs.takeWhile isNameChar, cs.dropWhile isNameChar) else none

/-- The two ways to refer to a variable. -/
inductive VariableForm
  | braced | bare
  deriving DecidableEq, Repr

def VariableForm.reference? : VariableForm → List Char → Option (List Char × List Char)
  | .braced, '\x7b' :: cs =>
    match name? cs with
    | some (name, '\x7d' :: rest) => some (name, rest)
    | _ => none
  | .braced, _ => none
  | .bare, cs =>
    match name? cs with
    | some (name, rest) => if rest.head?.any isWordChar then none else some (name, rest)
    | none => none

def VariableForm.written : VariableForm → List Char → List Char
  | .braced, name => '$' :: '\x7b' :: name ++ ['\x7d']
  | .bare, name => '$' :: name

/-- Replaces the references of one form from left to right, with a bound on the length. -/
def substituteForm (form : VariableForm) (vars : List (String × String)) :
    Nat → List Char → List Char
  | 0, cs => cs
  | _ + 1, [] => []
  | fuel + 1, c :: cs =>
    if c == '$' then
      match form.reference? cs with
      | some (name, rest) =>
        let value := match vars.lookup (.ofList name) with
          | some v => v.toList
          | none => form.written name
        value ++ substituteForm form vars fuel rest
      | none => c :: substituteForm form vars fuel cs
    else c :: substituteForm form vars fuel cs

def pass (form : VariableForm) (vars : List (String × String)) (cs : List Char) : List Char :=
  substituteForm form vars cs.length cs

/-- The text with its variables replaced: first every `${NAME}`, and then, in the result, every
`$NAME` that ends at a word boundary. A name that is no variable is left as written. -/
def substitute (vars : List (String × String)) (text : String) : String :=
  .ofList (pass .bare vars (pass .braced vars text.toList))

end Postroom.Configuration
