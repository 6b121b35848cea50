import Postroom.Journal
import Postroom.Proofs.Messaging.Building
import Postroom.Proofs.Sender.Choice

namespace Postroom

variable {σ : Type}

namespace Messaging

variable (sur : Surroundings) (service : Messaging σ) (m : Message) (world : σ) (s : Session Check)

theorem send_eq :
    service.send sur m world s =
      match service.translators.translate sur m.content world s with
      | ((.error e, world'), s') =>
        ((.error ⟨e, ["translating " ++ m.kind.name ++ " content"]⟩, world'), s')
      | ((.ok content, world'), s') =>
        match (service.desk m.kind).send sur (m.withContent content) world' s' with
        | ((.ok _, world''), s'') => ((.ok (), world''), s'')
        | ((.error e, world''), s'') =>
          ((.error ⟨.send e, ["sending " ++ m.kind.name ++ " message"]⟩, world''), s'') := by
  unfold send
  simp only [bind, StateT.bind, ExceptT.run]
  obtain ⟨⟨e | content, world'⟩, s'⟩ := service.translators.translate sur m.content world s
  · rfl
  · simp only [bind, StateT.bind]
    obtain ⟨⟨e | u, world''⟩, s''⟩ :=
      (service.desk m.kind).send sur (m.withContent content) world' s'
    · rfl
    · rfl

end Messaging

namespace Message

def Rendered (render : TemplateContent → Attempting σ String) (m : Message) (world : σ)
    (s : Session Check) (m' : Message) (world' : σ) (s' : Session Check) : Prop :=
  ∃ texts content, m.content.templates.mapM render world s = ((.ok texts, world'), s') ∧
    m.content.fill texts = some (content, []) ∧ content.templates = [] ∧
    m' = m.withContent content

def Unrendered (render : TemplateContent → Attempting σ String) (m : Message) (world : σ)
    (s : Session Check) (e : MessagingError) (world' : σ) (s' : Session Check) : Prop :=
  ∃ front t back texts world₁ s₁, m.content.templates = front ++ t :: back ∧
    front.mapM render world s = ((.ok texts, world₁), s₁) ∧
    render t world₁ s₁ = ((.error e, world'), s')

theorem kind_withContent (m : Message) (c : Content) : (m.withContent c).kind = m.kind := by
  cases m <;> rfl

variable {render : TemplateContent → Attempting σ String} {m m' : Message} {world world' : σ}
  {s s' : Session Check}

theorem Rendered.kind_eq (h : Rendered render m world s m' world' s') : m'.kind = m.kind := by
  obtain ⟨texts, content, -, -, -, rfl⟩ := h
  exact kind_withContent m content

theorem Unrendered.mapM {e : MessagingError} (h : Unrendered render m world s e world' s') :
    m.content.templates.mapM render world s = ((.error e, world'), s') := by
  obtain ⟨front, t, back, texts, world₁, s₁, hsplit, hfront, ht⟩ := h
  rw [hsplit]
  exact Attempting.mapM_of_split hfront ht back

theorem Rendered.of_translate {t : Translators σ} {sur : Surroundings}
    (ht : t.Renders sur render) {texts : List String}
    (h : m.content.templates.mapM render world s = ((.ok texts, world'), s')) :
    ∃ m', Rendered render m world s m' world' s' := by
  have hfollows := Translators.translate_follows ht m.content world s
  rw [h] at hfollows
  obtain ⟨content, hfilled, -⟩ := hfollows
  have hfill := hfilled.fill_eq
  exact ⟨m.withContent content, texts, content, h, hfill, Content.templates_of_fill hfill, rfl⟩

theorem rendered_or_unrendered {t : Translators σ} {sur : Surroundings} (ht : t.Renders sur render)
    (m : Message) (world : σ) (s : Session Check) :
    (∃ m' world' s', Rendered render m world s m' world' s') ∨
      ∃ e world' s', Unrendered render m world s e world' s' := by
  rcases h : m.content.templates.mapM render world s with ⟨⟨e | texts, world'⟩, s'⟩
  · obtain ⟨front, t, back, texts, world₁, s₁, hsplit, hfront, hfails⟩ :=
      Attempting.split_of_mapM_error h
    exact .inr ⟨e, world', s', front, t, back, texts, world₁, s₁, hsplit, hfront, hfails⟩
  · obtain ⟨m', hm'⟩ := Rendered.of_translate ht h
    exact .inl ⟨m', world', s', hm'⟩

end Message

namespace Messaging

variable {sur : Surroundings} {service : Messaging σ} {m m' : Message} {world world' : σ}
  {s s' : Session Check} {render : TemplateContent → Attempting σ String}

theorem send_of_unrendered (ht : service.translators.Renders sur render) {e : MessagingError}
    (h : m.Unrendered render world s e world' s') :
    service.send sur m world s =
      ((.error ⟨e, ["translating " ++ m.kind.name ++ " content"]⟩, world'), s') := by
  have hfollows := Translators.translate_follows ht m.content world s
  rw [h.mapM] at hfollows
  rw [send_eq, hfollows]

theorem translate_of_rendered (ht : service.translators.Renders sur render)
    (h : m.Rendered render world s m' world' s') : ∃ content, m' = m.withContent content ∧
      service.translators.translate sur m.content world s = ((.ok content, world'), s') := by
  obtain ⟨texts, content, hrun, hfill, -, rfl⟩ := h
  have hfollows := Translators.translate_follows ht m.content world s
  rw [hrun] at hfollows
  obtain ⟨d, hfilled, htranslate⟩ := hfollows
  have hd := hfilled.fill_eq
  rw [hfill] at hd
  cases hd
  exact ⟨content, rfl, htranslate⟩

theorem send_of_translate {content : Content}
    (h : service.translators.translate sur m.content world s = ((.ok content, world'), s'))
    {answer : Except SendError Unit} {world'' : σ}
    (hdelivery : (((service.desk m.kind).send sur (m.withContent content) world').run s').1 =
      (answer, world'')) :
    ∃ s'', service.send sur m world s =
      ((answer.mapError fun e => ⟨.send e, ["sending " ++ m.kind.name ++ " message"]⟩,
        world''), s'') := by
  rcases hrun : (service.desk m.kind).send sur (m.withContent content) world' s' with ⟨result, s''⟩
  have hresult : result = (answer, world'') := (congrArg Prod.fst hrun).symm.trans hdelivery
  refine ⟨s'', ?_⟩
  rw [send_eq, h]
  dsimp only
  rw [hrun, hresult]
  cases answer <;> rfl

end Messaging

def MessagingPlan.ofSenders (environment : Environment) (senders : MessageKind → List (Sender σ))
    (templates : TemplatePlan σ) (resources : ResolutionPlan) : MessagingPlan σ where
  environment := environment
  email := .ofList .email (senders .email)
  sms := .ofList .sms (senders .sms)
  templates := templates
  resources := resources

def MessagingPlan.ofRegistered (environment : Environment)
    (senders : MessageKind → List (Sender σ)) (templates : TemplatePlan σ)
    (resources : ResolutionPlan) (translators : List (Translator σ)) : MessagingPlan σ :=
  { ofSenders environment senders templates resources with translators }

namespace Messaging

/-- A view of the world as the calls that senders got, by their names. A sender adds its own call,
and engines add none. -/
structure CallRecord (senders : MessageKind → List (Sender σ)) (templates : TemplatePlan σ) where
  calls : σ → List (String × Message)
  sender : ∀ kind, ∀ x ∈ senders kind, ∀ m world,
    calls ((x.send m).run world).2 = calls world ++ [(x.name, m)]
  engine : ∀ e ∈ templates.engines, ∀ r world,
    calls ((e.parser.parse r).run world).2 = calls world

/-- The first sender of a message's kind that accepts the message, of those that are the first of
their name. -/
def chosen (senders : MessageKind → List (Sender σ)) (sur : Surroundings) (m : Message)
    (s : Session Check) : Option (Sender σ) :=
  (firsts Sender.name (senders m.kind)).find? (·.accepts (Desk.valuation sur m s))

/-- What sending does when templates are rendered in this way. -/
structure SendsOnce (senders : MessageKind → List (Sender σ)) (templates : TemplatePlan σ)
    (render : TemplateContent → Attempting σ String) (sur : Surroundings)
    (service : Messaging σ) : Prop where
  rendered_or_unrendered : ∀ (m : Message) (world : σ) s,
    (∃ m' world' s', m.Rendered render world s m' world' s') ∨
      ∃ e world' s', m.Unrendered render world s e world' s'
  sent : ∀ {m world s world'' s''}, service.send sur m world s = ((.ok (), world''), s'') →
    ∃ m' world' s' x, m.Rendered render world s m' world' s' ∧
      chosen senders sur m' s' = some x ∧ (x.send m').run world' = (.ok (), world'') ∧
      ∀ r : CallRecord senders templates, r.calls world'' = r.calls world ++ [(x.name, m')]
  unrendered : ∀ {m world s e world' s'}, m.Unrendered render world s e world' s' →
    service.send sur m world s =
        ((.error ⟨e, ["translating " ++ m.kind.name ++ " content"]⟩, world'), s') ∧
      ∀ r : CallRecord senders templates, r.calls world' = r.calls world
  unaccepted : ∀ {m world s m' world' s'}, m.Rendered render world s m' world' s' →
    chosen senders sur m' s' = none →
    (∃ s'', service.send sur m world s =
      ((.error ⟨.send (.noSender ((service.desk m.kind).registry.noMatch m'.shown)),
        ["sending " ++ m.kind.name ++ " message"]⟩, world'), s'')) ∧
      ∀ r : CallRecord senders templates, r.calls world' = r.calls world
  called : ∀ {m world s m' world' s' x answer world''}, m.Rendered render world s m' world' s' →
    chosen senders sur m' s' = some x → (x.send m').run world' = (answer, world'') →
    (∃ s'', service.send sur m world s =
      ((answer.mapError fun e => ⟨.send e, ["sending " ++ m.kind.name ++ " message"]⟩,
        world''), s'')) ∧
      ∀ r : CallRecord senders templates, r.calls world'' = r.calls world ++ [(x.name, m')]

variable {senders : MessageKind → List (Sender σ)} {templates : TemplatePlan σ}
  {engine : TemplateEngine σ} {sur : Surroundings} {m : Message} {world world' : σ}
  {s s' : Session Check}

theorem CallRecord.keeps_rendering (r : CallRecord senders templates)
    (hengine : templates.build = .ok engine) (sur : Surroundings) (resources : Resolution)
    (ts : List TemplateContent) :
    Attempting.Keeps r.calls (ts.mapM (engine.render sur resources)) :=
  .mapM (TemplateEngine.keeps_render hengine r.engine sur resources) ts

theorem CallRecord.of_rendered (r : CallRecord senders templates)
    (hengine : templates.build = .ok engine) {resources : Resolution} {m' : Message}
    (h : m.Rendered (engine.render sur resources) world s m' world' s') :
    r.calls world' = r.calls world := by
  obtain ⟨texts, content, hrun, -⟩ := h
  have hkept := r.keeps_rendering hengine sur resources m.content.templates world s
  rwa [hrun] at hkept

theorem CallRecord.of_unrendered (r : CallRecord senders templates)
    (hengine : templates.build = .ok engine) {resources : Resolution} {e : MessagingError}
    (h : m.Unrendered (engine.render sur resources) world s e world' s') :
    r.calls world' = r.calls world := by
  have hkept := r.keeps_rendering hengine sur resources m.content.templates world s
  rwa [h.mapM] at hkept

theorem mem_of_chosen {x : Sender σ} (h : chosen senders sur m s = some x) : x ∈ senders m.kind :=
  firsts_subset _ _ (List.mem_of_find?_eq_some h)

theorem CallRecord.of_chosen (r : CallRecord senders templates)
    (hengine : templates.build = .ok engine) {resources : Resolution} {m' : Message} {x : Sender σ}
    {answer : Except SendError Unit} {world'' : σ}
    (h : m.Rendered (engine.render sur resources) world s m' world' s')
    (hchosen : chosen senders sur m' s' = some x)
    (hcall : (x.send m').run world' = (answer, world'')) :
    r.calls world'' = r.calls world ++ [(x.name, m')] := by
  have hsender := r.sender m'.kind x (mem_of_chosen hchosen) m' world'
  rwa [hcall, r.of_rendered hengine h] at hsender

theorem delivery_of_kind (sur : Surroundings) {service : Messaging σ} {m' : Message}
    (hdesk : ∀ kind, (DeskPlan.ofList kind (senders kind)).build = .ok (service.desk kind))
    (hkind : m'.kind = m.kind) (world : σ) (s : Session Check) :
    (((service.desk m.kind).send sur m' world).run s).1 =
      match chosen senders sur m' s with
      | some x => (x.send m').run world
      | none => (.error (.noSender ((service.desk m.kind).registry.noMatch m'.shown)), world) := by
  have hdelivery := Desk.send_of_build sur m' world s (hdesk m'.kind)
  unfold chosen
  rw [hkind] at hdelivery ⊢
  exact hdelivery

theorem delivery_of_rendered (sur : Surroundings) {service : Messaging σ} {m' : Message}
    {render : TemplateContent → Attempting σ String}
    (hdesk : ∀ kind, (DeskPlan.ofList kind (senders kind)).build = .ok (service.desk kind))
    (h : m.Rendered render world s m' world' s') :
    (((service.desk m.kind).send sur m' world').run s').1 =
      match chosen senders sur m' s' with
      | some x => (x.send m').run world'
      | none => (.error (.noSender ((service.desk m.kind).registry.noMatch m'.shown)), world') :=
  delivery_of_kind sur hdesk h.kind_eq world' s'

theorem send_of_delivery {service : Messaging σ} {m' : Message}
    {render : TemplateContent → Attempting σ String} {answer : Except SendError Unit} {world'' : σ}
    (hrenders : service.translators.Renders sur render)
    (h : m.Rendered render world s m' world' s')
    (hdelivery : (((service.desk m.kind).send sur m' world').run s').1 = (answer, world'')) :
    ∃ s'', service.send sur m world s =
      ((answer.mapError fun e => ⟨.send e, ["sending " ++ m.kind.name ++ " message"]⟩,
        world''), s'') := by
  obtain ⟨content, rfl, htranslate⟩ := translate_of_rendered hrenders h
  exact send_of_translate htranslate hdelivery

/-- The first sender of its name that accepts the rendered message gets it, in one call, and nobody
gets anything else. -/
theorem send_once_of_build (environment : Environment) (senders : MessageKind → List (Sender σ))
    (templates : TemplatePlan σ) (resources : ResolutionPlan) (hengines : templates.engines ≠ [])
    (sur₀ : Surroundings) (s₀ s₁ : Session Check) (service : Messaging σ)
    (hbuild : (MessagingPlan.ofSenders environment senders templates resources).build sur₀ s₀ =
      (.ok service, s₁)) :
    ∃ engine, templates.build = .ok engine ∧ ∀ sur,
      SendsOnce senders templates (engine.render sur service.resources) sur service := by
  have hnonempty : templates.isEmpty = false := by
    rw [TemplatePlan.isEmpty, List.isEmpty_eq_false_iff]
    exact hengines
  obtain ⟨engine, hengine, htranslators, hemail, hsms⟩ :=
    MessagingPlan.parts_of_build hnonempty hbuild
  have hdesk : ∀ kind, (DeskPlan.ofList kind (senders kind)).build = .ok (service.desk kind) := by
    intro kind
    cases kind with
    | email => exact hemail
    | sms => exact hsms
  refine ⟨engine, hengine, fun sur => ?_⟩
  have hrenders : service.translators.Renders sur (engine.render sur service.resources) := by
    rw [htranslators]
    exact Translators.renders_ofTemplates sur engine service.resources
  exact {
    rendered_or_unrendered := Message.rendered_or_unrendered hrenders
    sent := by
      intro m world s world'' s'' hsent
      obtain ⟨m', world', s', hrendered⟩ | ⟨e, world', s', hunrendered⟩ :=
        Message.rendered_or_unrendered hrenders m world s
      · have hresult := delivery_of_rendered sur hdesk hrendered
        cases hchosen : chosen senders sur m' s' with
        | none =>
          rw [hchosen] at hresult
          obtain ⟨s₂, hanswer⟩ := send_of_delivery hrenders hrendered hresult
          rw [hanswer] at hsent
          cases hsent
        | some x =>
          rcases hcall : (x.send m').run world' with ⟨answer, world₂⟩
          rw [hchosen] at hresult
          obtain ⟨s₂, hanswer⟩ := send_of_delivery hrenders hrendered (hresult.trans hcall)
          rw [hanswer] at hsent
          cases answer with
          | error e => cases hsent
          | ok u =>
            cases hsent
            refine ⟨m', world', s', x, hrendered, hchosen, hcall, fun r => ?_⟩
            exact r.of_chosen hengine hrendered hchosen hcall
      · rw [send_of_unrendered hrenders hunrendered] at hsent
        cases hsent
    unrendered := by
      intro m world s e world' s' h
      exact ⟨send_of_unrendered hrenders h, fun r => r.of_unrendered hengine h⟩
    unaccepted := by
      intro m world s m' world' s' h hnone
      have hresult := delivery_of_rendered sur hdesk h
      rw [hnone] at hresult
      exact ⟨send_of_delivery hrenders h hresult, fun r => r.of_rendered hengine h⟩
    called := by
      intro m world s m' world' s' x answer world'' h hchosen hcall
      have hresult := delivery_of_rendered sur hdesk h
      rw [hchosen] at hresult
      exact ⟨send_of_delivery hrenders h (hresult.trans hcall),
        fun r => r.of_chosen hengine h hchosen hcall⟩ }

/-- The first sender misses a component, and the template is part of a part. -/
theorem send_once_of_build_nested :
    let senders : MessageKind → List (Sender Journal) := fun
      | .email => [.delivering 0 "relay" { components := ["mta"] }, .delivering 1 "smtp"]
      | .sms => []
    let templates : TemplatePlan Journal := { engines := [{ parser := .constant 7 "engine" "Hi" }] }
    let sur : Surroundings := ⟨.bare, fun _ _ => true⟩
    let email (c : Content) : Message :=
      .email ⟨"s", none, [], .multi [.text "a", .multi [c, .text "b"]]⟩
    let journal : Journal := [.rendered 7 "string:x", .delivered 1 (email (.text "Hi"))]
    ∃ service s₁ s₂,
      (MessagingPlan.ofSenders {} senders templates { resolvers := [.inPath] }).build sur {} =
        (.ok service, s₁) ∧
      service.send sur (email (.template ⟨"string:x", []⟩)) [] {} = ((.ok (), journal), s₂) ∧
      (∃ r : CallRecord senders templates, r.calls journal = [("smtp", email (.text "Hi"))]) ∧
      ∃ engine, templates.build = .ok engine ∧ ∀ sur,
        SendsOnce senders templates (engine.render sur service.resources) sur service := by
  refine ⟨_, _, _, rfl, rfl, ⟨⟨?_, ?_, ?_⟩, ?_⟩, ?_⟩
  · exact fun j => j.flatMap fun e =>
      (Journal.deliveries [e] 0).map ("relay", ·) ++ (Journal.deliveries [e] 1).map ("smtp", ·)
  · intro kind x hx m world
    cases kind with
    | email =>
      obtain rfl | hx := List.mem_cons.mp hx
      · exact List.flatMap_append
      · obtain rfl := List.mem_singleton.mp hx
        exact List.flatMap_append
    | sms => cases hx
  · intro e he r world
    obtain rfl := List.mem_singleton.mp he
    exact List.flatMap_append.trans (List.append_nil _)
  · rfl
  · exact send_once_of_build {} _ _ { resolvers := [.inPath] } (List.cons_ne_nil _ _)
      ⟨.bare, fun _ _ => true⟩ {} _ _ rfl

end Messaging

end Postroom
