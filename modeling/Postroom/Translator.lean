import Postroom.Message.Document
import Postroom.Report
import Postroom.Resource.Resolution

namespace Postroom

open Text

/-- What may fail with an error of messaging while it works. -/
abbrev Attempting (σ : Type) := ExceptT MessagingError (Work σ)

structure Translator (σ : Type) where
  name : String
  supports : Content → Bool
  translate : Surroundings → Content → Attempting σ Content

namespace Translator

variable {σ : Type}

def ofTemplates (engine : TemplateEngine σ) (resources : Resolution) : Translator σ where
  name := "template"
  supports := Content.isTemplate
  translate sur
    | .template t => do
      let path := ResourcePath.parse t.path
      let source ← match resources.resolve path with
        | .error e => throw (.resource e)
        | .ok found =>
          match found.text with
          | .ok s => pure s
          | .error e => throw (.resource e)
      match ← ExceptT.lift (engine.parse sur ⟨path, source, t.bindings⟩) with
      | .ok text => return .text text
      | .error e => throw (.template e)
    | c => pure c

end Translator

/-- Whether a translator supports a content. -/
structure SupportTest where
  name : String
  supports : Content → Bool

instance : Named SupportTest := ⟨fun t => "supports(" ++ t.name ++ ")"⟩

def SupportTest.about (c : Content) : Outside SupportTest := .ofTests fun t => t.supports c

structure Translators (σ : Type) where
  registry : Registry SupportTest (Translator σ) := { name := "content-translators" }

namespace Translators

variable {σ : Type}

def add (t : Translators σ) (translator : Translator σ) : Translators σ :=
  ⟨t.registry.register
    { key := translator.name, implementation := translator,
      guard := some (.test ⟨translator.name, translator.supports⟩) }⟩

def ofList (ts : List (Translator σ)) : Translators σ := ts.foldl add {}

def names (t : Translators σ) : List String := t.registry.keys

def supportsWhole (t : Translators σ) (c : Content) : Bool :=
  (Session.alone (t.registry.find? (SupportTest.about c) .unconditional)).isSome

mutual

def supports (t : Translators σ) : Content → Bool
  | .multi parts => supportsSome t parts
  | .text s => t.supportsWhole (.text s)
  | .template r => t.supportsWhole (.template r)

def supportsSome (t : Translators σ) : List Content → Bool
  | [] => false
  | c :: cs => supports t c || supportsSome t cs

end

def matching (t : Translators σ) (c : Content) : Except NoMatch (List (Translator σ)) :=
  (Session.alone (t.registry.selectAll (SupportTest.about c) .unconditional c.shown .optional)).map
    fun cs => cs.map Candidate.implementation

def applyEach (sur : Surroundings) : List (Translator σ) → Content → Attempting σ Content
  | [], c => pure c
  | t :: ts, c => do applyEach sur ts (← t.translate sur c)

def translateWhole (sur : Surroundings) (t : Translators σ) (c : Content) : Attempting σ Content :=
  match t.matching c with
  | .ok ts => applyEach sur ts c
  | .error e => throw (.selection (.noMatch e))

mutual

/-- Translates a content, or each of its parts up to the first that fails. -/
def translate (sur : Surroundings) (t : Translators σ) : Content → Attempting σ Content
  | .multi parts => do return .multi (← translateParts sur t parts)
  | .text s => translateWhole sur t (.text s)
  | .template r => translateWhole sur t (.template r)

def translateParts (sur : Surroundings) (t : Translators σ) :
    List Content → Attempting σ (List Content)
  | [] => pure []
  | c :: cs => do
    let c ← translate sur t c
    return c :: (← translateParts sur t cs)

end

def shown (t : Translators σ) : String :=
  shownRecord "EveryContentTranslator" [("translators", shownList (t.names.map quote))]

end Translators

end Postroom
