import Postroom.Messaging
import Postroom.Proofs.Template.Rendering

namespace Postroom

variable {σ : Type}

theorem Translators.renders_ofTemplates (sur : Surroundings) (engine : TemplateEngine σ)
    (resources : Resolution) :
    Renders sur (ofList [.ofTemplates engine resources]) (engine.render sur resources) where
  text s := rfl
  template t := by
    have happly : (ofList [Translator.ofTemplates engine resources]).translateWhole sur
        (.template t) =
        (Translator.ofTemplates engine resources).translate sur (.template t) >>= pure := rfl
    rw [happly, bind_pure, Translator.ofTemplates_template]

namespace MessagingPlan

variable {p : MessagingPlan σ} {sur : Surroundings} {s s' : Session Check}

theorem content_eq (p : MessagingPlan σ) (sur : Surroundings) (resources : Resolution)
    (s : Session Check) :
    p.content sur resources s =
      if p.templates.isEmpty then (.ok (.ofList p.translators, { resources }), s)
      else match p.templates.build with
        | .error e => (.error ⟨.template e, ["building template engines"]⟩, s)
        | .ok engine =>
          (.ok (.ofList (.ofTemplates engine resources :: p.translators),
            (engine.variantResolvers sur s).1.foldl VariantResolution.add { resources }),
          (engine.variantResolvers sur s).2) := by
  unfold content
  cases p.templates.isEmpty with
  | true => rfl
  | false => cases p.templates.build <;> rfl

theorem engine_of_content {resources : Resolution} {translators : Translators σ}
    {variants : VariantResolution} (hengines : p.templates.isEmpty = false)
    (h : p.content sur resources s = (.ok (translators, variants), s')) :
    ∃ engine, p.templates.build = .ok engine ∧
      translators = .ofList (.ofTemplates engine resources :: p.translators) := by
  rw [content_eq, hengines, if_neg Bool.false_ne_true] at h
  cases hbuild : p.templates.build with
  | error e =>
    rw [hbuild] at h
    cases h
  | ok engine =>
    rw [hbuild] at h
    cases h
    exact ⟨engine, rfl, rfl⟩

theorem build_of_desk {q : DeskPlan σ} {d : Desk σ} (h : desk q = .ok d) : q.build = .ok d := by
  unfold desk at h
  split at h
  · cases h
    assumption
  · cases h

def assemble (p : MessagingPlan σ) (content : Translators σ × VariantResolution) :
    Except (Report MessagingError) (Messaging σ) := do
  let email ← desk p.email
  let sms ← desk p.sms
  return { email, sms, translators := content.1, resources := p.resources.build,
           variants := content.2 }

theorem build_eq (p : MessagingPlan σ) (sur : Surroundings) (s : Session Check) :
    p.build sur s =
      if p.email.isEmpty && p.sms.isEmpty then
        (.error ⟨.configuration "no email or sms sender registered", []⟩, s)
      else
        ((p.content sur p.resources.build s).1.bind p.assemble,
          (p.content sur p.resources.build s).2) := by
  unfold build
  cases p.email.isEmpty && p.sms.isEmpty with
  | true => rfl
  | false =>
    simp only [Bool.false_eq_true, if_false, bind, StateT.bind]
    rcases p.content sur p.resources.build s with ⟨r | content, s'⟩ <;> rfl

theorem parts_of_assemble {content : Translators σ × VariantResolution} {service : Messaging σ}
    (h : p.assemble content = .ok service) :
    content = (service.translators, service.variants) ∧ service.resources = p.resources.build ∧
      p.email.build = .ok service.email ∧ p.sms.build = .ok service.sms := by
  unfold assemble at h
  cases hemail : desk p.email with
  | error e =>
    rw [hemail] at h
    cases h
  | ok email =>
    cases hsms : desk p.sms with
    | error e =>
      rw [hemail, hsms] at h
      cases h
    | ok sms =>
      rw [hemail, hsms] at h
      cases h
      exact ⟨rfl, rfl, build_of_desk hemail, build_of_desk hsms⟩

theorem content_of_build {service : Messaging σ} (h : p.build sur s = (.ok service, s')) :
    (∃ s₁, p.content sur p.resources.build s =
        (.ok (service.translators, service.variants), s₁)) ∧
      service.resources = p.resources.build ∧
      p.email.build = .ok service.email ∧ p.sms.build = .ok service.sms := by
  rw [build_eq] at h
  split at h
  · cases h
  · have hservice := congrArg Prod.fst h
    rcases hcontent : p.content sur p.resources.build s with ⟨e | content, s₁⟩
    · rw [hcontent] at hservice
      cases hservice
    · rw [hcontent] at hservice
      obtain ⟨rfl, hparts⟩ := parts_of_assemble hservice
      exact ⟨⟨s₁, rfl⟩, hparts⟩

theorem parts_of_build {service : Messaging σ} (hengines : p.templates.isEmpty = false)
    (h : p.build sur s = (.ok service, s')) :
    ∃ engine, p.templates.build = .ok engine ∧
      service.translators = .ofList (.ofTemplates engine service.resources :: p.translators) ∧
      p.email.build = .ok service.email ∧ p.sms.build = .ok service.sms := by
  obtain ⟨⟨s₁, hcontent⟩, hresources, hdesks⟩ := content_of_build h
  obtain ⟨engine, hengine, htranslators⟩ := engine_of_content hengines hcontent
  exact ⟨engine, hengine, hresources ▸ htranslators, hdesks⟩

end MessagingPlan

end Postroom
