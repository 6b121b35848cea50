import Postroom.Requirement.Basic
import Postroom.Resource.Resolver
import Postroom.Selection.Detection
import Postroom.Subject
import Postroom.Template.Placeholder
import Postroom.Variant.Resolution

namespace Postroom

open Text

inductive TemplateError
  | noParser
  | notDetected (cause : NoMatch)
  | missingVariable (template name : String)
  | missingAdapter (cause : MissingAdapter)
  | unsupportedVariant (engine : String) (variant : Variant)
  | resource (cause : ResourceError)
  | requirements (engine : String) (cause : InvalidPattern)
  deriving DecidableEq, Repr

def TemplateError.message : TemplateError → String
  | noParser => "no template parser configured"
  | notDetected cause => "no template engine detected: " ++ cause.message
  | missingVariable t v => "template '" ++ t ++ "' uses undefined variable '" ++ v ++ "'"
  | missingAdapter cause => cause.message
  | unsupportedVariant engine v =>
    "engine '" ++ engine ++ "' has no extension for the " ++ v.name ++ " variant"
  | resource cause => cause.message
  | requirements engine cause =>
    "invalid requirements for template engine '" ++ engine ++ "': " ++ cause.pattern

/-- What renders templates, acting on a world of type `σ`. -/
structure TemplateParser (σ : Type) where
  name : String
  parse : TemplateRequest → StateM σ (Except TemplateError String)
  requirements : Requirements := {}

def TemplateParser.placeholders {σ : Type} (name : String) (syn : Placeholders)
    (requirements : Requirements := {}) : TemplateParser σ where
  name := name
  parse r := pure (match syn.render r.bindings r.source with
    | .ok text => .ok text
    | .error missing => .error (.missingVariable r.path.written missing))
  requirements := requirements

/-- An engine to be set up. Without a detector it accepts every template. -/
structure EnginePlan (σ : Type) where
  parser : TemplateParser σ
  detector : Option (Condition Check) := none

/-- The engines to be set up, and the extension of a variant for an engine. -/
structure TemplatePlan (σ : Type) where
  engines : List (EnginePlan σ) := []
  variants : List (String × Variant × String) := []

structure TemplateEngine (σ : Type) where
  dispatcher : Dispatcher Check (TemplateParser σ)
  variants : AdapterTable (List (Variant × String))

namespace TemplatePlan

variable {σ : Type}

def isEmpty (p : TemplatePlan σ) : Bool := p.engines.isEmpty

def candidate (e : EnginePlan σ) :
    Except TemplateError (Detectable Check (TemplateParser σ)) :=
  match e.parser.requirements.compile with
  | .ok guard => .ok ⟨e.parser.name, e.parser, e.detector.getD (.always true), guard⟩
  | .error cause => .error (.requirements e.parser.name cause)

/-- Extensions by engine and variant; the last one given for a pair counts. -/
def table (variants : List (String × Variant × String)) :
    AdapterTable (List (Variant × String)) :=
  variants.foldl
    (fun t v => t.register v.1 (putVariant v.2.1 v.2.2 ((t.get? v.1).getD [])))
    { consumer := "template-variants" }

/-- The engines of a plan. Every engine's requirements have to be valid, also those of an engine
whose name is taken. -/
def build (p : TemplatePlan σ) : Except TemplateError (TemplateEngine σ) := do
  if p.engines.isEmpty then .error .noParser
  else
    let candidates ← p.engines.mapM candidate
    return ⟨candidates.foldl Dispatcher.register { name := "template-engines" }, table p.variants⟩

end TemplatePlan

namespace TemplateEngine

variable {σ : Type}

def names (sur : Surroundings) (e : TemplateEngine σ) : Eval Check (List String) :=
  e.dispatcher.eligibleKeys sur.aboutNothing

def detect (sur : Surroundings) (e : TemplateEngine σ) (r : TemplateRequest) :
    Eval Check (Except NoMatch (Detected Check (TemplateParser σ))) :=
  e.dispatcher.dispatch sur.aboutNothing (sur.about (.template r)) r.shown

def parse (sur : Surroundings) (e : TemplateEngine σ) (r : TemplateRequest) :
    Work σ (Except TemplateError String) := do
  match ← Work.ofEval (e.detect sur r) with
  | .ok d => Work.ofAction (d.candidate.implementation.parse r)
  | .error cause => return .error (.notDetected cause)

def variantExtension (sur : Surroundings) (e : TemplateEngine σ) (r : TemplateRequest)
    (v : Variant) : Eval Check (Except TemplateError String) := do
  match ← e.detect sur r with
  | .error cause => return .error (.notDetected cause)
  | .ok d =>
    match e.variants.adapt d.candidate.key with
    | .error cause => return .error (.missingAdapter cause)
    | .ok extensions =>
      match extensions.lookup v with
      | some x => return .ok x
      | none => return .error (.unsupportedVariant d.candidate.key v)

def variantResolvers (sur : Surroundings) (e : TemplateEngine σ) :
    Eval Check (List VariantResolver) := do
  return (← e.names sur).filterMap fun n => (e.variants.get? n).map fun xs => ⟨n, xs⟩

def shown (e : TemplateEngine σ) : String :=
  shownRecord "TemplateEngine"
    [("dispatcher", e.dispatcher.shown), ("variants", e.variants.shown)]

end TemplateEngine

end Postroom
