import Postroom.Environment
import Postroom.Sender.Desk
import Postroom.Translator

namespace Postroom

open Text

/-- What messaging is made of. -/
structure MessagingPlan (σ : Type) where
  environment : Environment := {}
  email : DeskPlan σ := { kind := .email }
  sms : DeskPlan σ := { kind := .sms }
  templates : TemplatePlan σ := {}
  resources : ResolutionPlan := {}
  translators : List (Translator σ) := []

structure Messaging (σ : Type) where
  email : Desk σ
  sms : Desk σ
  translators : Translators σ
  resources : Resolution
  variants : VariantResolution

namespace MessagingPlan

variable {σ : Type}

def desk (p : DeskPlan σ) : Except (Report MessagingError) (Desk σ) :=
  match p.build with
  | .ok d => .ok d
  | .error r => .error (r.inContext (.configuration (p.kind.name ++ " senders")))

/-- The translators and the variants of a plan. Templates are rendered before any other translator
is applied, and only if there are engines. -/
def content (sur : Surroundings) (p : MessagingPlan σ) (resources : Resolution) :
    Eval Check (Except (Report MessagingError) (Translators σ × VariantResolution)) := do
  let variants : VariantResolution := { resources }
  if p.templates.isEmpty then return .ok (.ofList p.translators, variants)
  else
    match p.templates.build with
    | .error e => return .error ⟨.template e, ["building template engines"]⟩
    | .ok engine =>
      let found ← engine.variantResolvers sur
      return .ok (.ofList (.ofTemplates engine resources :: p.translators),
        found.foldl VariantResolution.add variants)

/-- The messaging of a plan, which needs a sender. -/
def build (sur : Surroundings) (p : MessagingPlan σ) :
    Eval Check (Except (Report MessagingError) (Messaging σ)) := do
  if p.email.isEmpty && p.sms.isEmpty then
    return .error ⟨.configuration "no email or sms sender registered", []⟩
  else
    let resources := p.resources.build
    match ← p.content sur resources with
    | .error r => return .error r
    | .ok (translators, variants) =>
      return do
        let email ← desk p.email
        let sms ← desk p.sms
        .ok { email, sms, translators, resources, variants }

def shown (p : MessagingPlan σ) : String :=
  let yes (b : Bool) : String := if b then "true" else "false"
  shownRecord "MessagingBuilder"
    [("email_senders", yes !p.email.isEmpty), ("sms_senders", yes !p.sms.isEmpty),
      ("template_engines", yes !p.templates.isEmpty),
      ("translators", toString p.translators.length)]

end MessagingPlan

namespace Messaging

variable {σ : Type}

def desk (m : Messaging σ) : MessageKind → Desk σ
  | .email => m.email
  | .sms => m.sms

def supports (sur : Surroundings) (s : Messaging σ) (m : Message) : Eval Check Bool :=
  (s.desk m.kind).supports sur m

def resolveVariant (s : Messaging σ) (template : ResourcePath) (v : Variant) :
    Except (Report MessagingError) ResourcePath :=
  match s.variants.resolve ⟨template, v⟩ with
  | .ok p => .ok p
  | .error e => .error ⟨.variant e, []⟩

/-- Translates a message and delivers it. -/
def send (sur : Surroundings) (s : Messaging σ) (m : Message) :
    Work σ (Except (Report MessagingError) Unit) := do
  match ← (s.translators.translate sur m.content).run with
  | .error e => return .error ⟨e, ["translating " ++ m.kind.name ++ " content"]⟩
  | .ok content =>
    match ← (s.desk m.kind).send sur (m.withContent content) with
    | .ok _ => return .ok ()
    | .error e => return .error ⟨.send e, ["sending " ++ m.kind.name ++ " message"]⟩

def shown (s : Messaging σ) : String :=
  shownRecord "MessagingService"
    [("email", s.email.shown), ("sms", s.sms.shown), ("translator", s.translators.shown),
      ("resources", s.resources.shown)]

end Messaging

end Postroom
