import Postroom.Sender.Basic
import Postroom.Template.Engine
import Postroom.Translator

namespace Postroom

inductive Entry
  | delivered (sender : Nat) (message : Message)
  | failed (sender : Nat)
  | declined (sender : Nat)
  | rendered (parser : Nat) (path : String)
  deriving Repr

/-- A world that is a journal. Each sender and parser has a number, under which the journal has its
entries. -/
abbrev Journal := List Entry

namespace Journal

def write (e : Entry) : StateM Journal Unit := modify (· ++ [e])

def deliveries (j : Journal) (sender : Nat) : List Message :=
  j.filterMap fun
    | .delivered s m => if s = sender then some m else none
    | _ => none

def failures (j : Journal) (sender : Nat) : Nat :=
  j.countP fun
    | .failed s => s == sender
    | _ => false

def refusals (j : Journal) (sender : Nat) : Nat :=
  j.countP fun
    | .declined s => s == sender
    | _ => false

def renderings (j : Journal) (parser : Nat) : List String :=
  j.filterMap fun
    | .rendered p path => if p = parser then some path else none
    | _ => none

end Journal

namespace Sender

def delivering (number : Nat) (name : String) (requirements : Requirements := {})
    (enabled : Option (Condition Check) := none) : Sender Journal where
  name := name
  send m := do
    Journal.write (.delivered number m)
    return .ok ()
  requirements := requirements
  enabled := enabled

def failing (number : Nat) (name reason : String) : Sender Journal where
  name := name
  send _ := do
    Journal.write (.failed number)
    return .error (.failed name reason)

def declining (number : Nat) (name reason : String) : Sender Journal where
  name := name
  send _ := do
    Journal.write (.declined number)
    return .error (.declined name reason)

end Sender

def TemplateParser.constant (number : Nat) (name output : String)
    (requirements : Requirements := {}) : TemplateParser Journal where
  name := name
  parse r := do
    Journal.write (.rendered number r.path.written)
    return .ok output
  requirements := requirements

/-- What a translator of texts does with a text; it passes on other contents. -/
inductive TextAction
  | suffix
  | suffixAny
  | wrap
  | fail
  | failContaining
  deriving DecidableEq, Repr

namespace TextAction

def ofName? : String → Option TextAction
  | "suffix" => some suffix
  | "suffix_any" => some suffixAny
  | "wrap" => some wrap
  | "fail" => some fail
  | "fail_containing" => some failContaining
  | _ => none

def translator {σ : Type} (name argument : String) (a : TextAction) : Translator σ where
  name := name
  supports c :=
    match a, c with
    | suffixAny, _ => true
    | failContaining, .text s => Text.contains s argument
    | _, .text _ => true
    | _, _ => false
  translate _ c :=
    match c with
    | .text s =>
      match a with
      | suffix | suffixAny => pure (.text (s ++ argument))
      | wrap => pure (.multi [.text s])
      | fail | failContaining => throw (.configuration argument)
    | c => pure c

end TextAction

end Postroom
