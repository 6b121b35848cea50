import Mathlib.Data.List.Find
import Postroom.Proofs.Message.Translating
import Postroom.Proofs.Messaging.Delivery
import Postroom.Proofs.Sender.Qualifying
import Postroom.Proofs.Steadiness

namespace Postroom

open Session

variable {σ : Type}

namespace TemplateEngine

variable (sur : Surroundings) (engine : TemplateEngine σ)

theorem steady_detect (r : TemplateRequest) : Session.Steady sur.source (engine.detect sur r) :=
  engine.dispatcher.steady_dispatch (a := ⟨sur.source, fun _ => false⟩)
    (b := ⟨sur.source, Check.holds sur.ask (.template r)⟩) rfl r.shown

theorem steady_parse (r : TemplateRequest) : Work.Steady sur.source (engine.parse sur r) := by
  refine .bind (.ofEval (engine.steady_detect sur r)) fun found => ?_
  cases found with
  | ok d => exact .ofAction _
  | error cause => exact .pure _

theorem steady_render (resources : Resolution) (t : TemplateContent) :
    Attempting.Steady sur.source (engine.render sur resources t) := by
  unfold render
  cases resources.resolve (.parse t.path) with
  | error e => exact .throw _
  | ok found =>
    dsimp only
    cases found.text with
    | error e => exact .throw _
    | ok source =>
      refine .bind (.lift (engine.steady_parse sur _)) fun r => ?_
      cases r with
      | ok text => exact .pure text
      | error e => exact .throw _

end TemplateEngine

namespace Translators

variable {sur : Surroundings}

theorem steady_ofTemplates (engine : TemplateEngine σ) (resources : Resolution) (c : Content) :
    Attempting.Steady sur.source ((Translator.ofTemplates engine resources).translate sur c) := by
  cases c with
  | template t =>
    rw [Translator.ofTemplates_template]
    exact .bind (engine.steady_render sur resources t) fun text => .pure _
  | text s => exact .pure _
  | multi parts => exact .pure _

variable {ts : List (Translator σ)}

theorem steady_translate (h : ∀ t ∈ ts, ∀ c, Attempting.Steady sur.source (t.translate sur c))
    (c : Content) : Attempting.Steady sur.source ((ofList ts).translate sur c) := by
  have hwhole : ∀ c, Attempting.Steady sur.source ((ofList ts).translateWhole sur c) := by
    intro c
    rw [translateWhole_ofList]
    refine .foldlM (fun t ht => ?_) c
    exact h t (firsts_subset _ _ (List.mem_filter.mp ht).1)
  induction c with
  | text s => exact hwhole _
  | template r => exact hwhole _
  | multi parts ih =>
    rw [translate, translateParts_eq_mapM]
    exact .bind (.mapM ih) fun ds => .pure _

end Translators

namespace MessagingPlan

variable {p : MessagingPlan σ} {sur₀ sur : Surroundings} {s s' : Session Check}
  {service : Messaging σ}

theorem steady_translate_of_build (h : p.build sur₀ s = (.ok service, s'))
    (ht : ∀ t ∈ p.translators, ∀ c, Attempting.Steady sur.source (t.translate sur c))
    (c : Content) : Attempting.Steady sur.source (service.translators.translate sur c) := by
  cases hengines : p.templates.isEmpty with
  | true =>
    obtain ⟨⟨s₁, hcontent⟩, -⟩ := content_of_build h
    rw [content_eq, hengines, if_pos rfl, Prod.mk.injEq, Except.ok.injEq, Prod.mk.injEq] at hcontent
    rw [← hcontent.1.1]
    exact Translators.steady_translate ht c
  | false =>
    obtain ⟨engine, -, htranslators, -⟩ := parts_of_build hengines h
    rw [htranslators]
    refine Translators.steady_translate (List.forall_mem_cons.mpr ⟨?_, ht⟩) c
    exact Translators.steady_ofTemplates engine service.resources

theorem desk_of_build {environment : Environment} {senders : MessageKind → List (Sender σ)}
    {templates : TemplatePlan σ} {resources : ResolutionPlan} {translators : List (Translator σ)}
    (h : (ofRegistered environment senders templates resources translators).build sur₀ s =
      (.ok service, s')) (kind : MessageKind) :
    (DeskPlan.ofList kind (senders kind)).build = .ok (service.desk kind) := by
  obtain ⟨-, -, hemail, hsms⟩ := content_of_build h
  cases kind with
  | email => exact hemail
  | sms => exact hsms

end MessagingPlan

namespace Desk

variable (sur : Surroundings) (d : Desk σ) (m : Message)

theorem steady_supports : Session.Steady sur.source (d.supports sur m) :=
  .bind (d.registry.steady_find? ⟨sur.source, _⟩ enabling) fun _ => .pure _

theorem steady_select : Session.Steady sur.source (d.select sur m) := by
  have hselect : Session.Steady sur.source
      (d.registry.select (sur.about (.message m)) enabling m.shown) := by
    refine .bind (d.registry.steady_find? ⟨sur.source, _⟩ enabling) fun found => ?_
    cases found with
    | some c => exact .pure _
    | none => exact .pure _
  exact hselect.bind fun r => .pure _

theorem steady_send : Work.Steady sur.source (d.send sur m) := by
  refine .bind (.ofEval (d.steady_select sur m)) fun r => ?_
  cases r with
  | ok x => exact .ofAction _
  | error cause => exact .pure _

end Desk

/-- The sender is enabled for a message whatever the content. -/
def Sender.IgnoresContent (sur : Surroundings) (x : Sender σ) : Prop :=
  ∀ c, x.enabled = some c → ∀ (m : Message) (content : Content) (s : Session Check),
    (c.eval (sur.about (.message (m.withContent content))) s).1 =
      (c.eval (sur.about (.message m)) s).1

theorem Requirements.metBy_test {α : Type} {r : Requirements} {v : Valuation α} (test : α → Bool) :
    r.MetBy { v with test } ↔ r.MetBy v :=
  ⟨fun h => ⟨h.components, h.componentSpecs, h.properties, h.propertySpecs⟩,
    fun h => ⟨h.components, h.componentSpecs, h.properties, h.propertySpecs⟩⟩

theorem Desk.valuation_eq_of_agrees {sur : Surroundings} {s t : Session Check} (m m' : Message)
    (hst : s.Agrees sur.source t) :
    valuation sur m' t =
      { valuation sur m s with test := Check.holds sur.ask (.message m') } :=
  (hst _).symm.trans (Condition.valuation_of_source rfl s)

theorem Sender.accepts_withContent {sur : Surroundings} {s t : Session Check} {x : Sender σ}
    (hx : x.IgnoresContent sur) (m : Message) (content : Content) (hst : s.Agrees sur.source t) :
    x.accepts (Desk.valuation sur (m.withContent content) t) =
      x.accepts (Desk.valuation sur m s) := by
  cases hmet : x.requirements.compile (α := Check) with
  | error e => rw [accepts, accepts, hmet]; rfl
  | ok met =>
    have henabled : ∀ c, x.enabled = some c →
        (c.eval (sur.about (.message (m.withContent content))) t).1 =
          (c.eval (sur.about (.message m)) s).1 := by
      intro c hc
      have hsteady := c.steady_eval ⟨sur.source, Check.holds sur.ask (.message m)⟩ s t hst
      exact (hx c hc m content t).trans hsteady.1.symm
    rw [Bool.eq_iff_iff, accepts_iff hmet, accepts_iff hmet,
      Desk.valuation_eq_of_agrees m (m.withContent content) hst, Requirements.metBy_test]
    refine and_congr_right fun _ => forall₂_congr fun c hc => ?_
    rw [henabled c hc]

namespace Desk

variable {d : Desk σ} {m : Message} {xs : List (Sender σ)}

theorem supports_of_build (h : (DeskPlan.ofList m.kind xs).build = .ok d) (sur : Surroundings)
    (s : Session Check) :
    (d.supports sur m s).1 =
      ((firsts Sender.name xs).find? (·.accepts (valuation sur m s))).isSome := by
  have hkind : (valuation sur m s).test (.ofKind m.kind) = true := beq_self_eq_true m.kind
  have hfind := (Registry.firstOf_steady ⟨sur.source, Check.holds sur.ask (.message m)⟩ enabling s
    d.registry.candidates).1
  rw [← DeskPlan.find?_of_candidates (DeskPlan.candidates_of_build h).2 hkind, Option.isSome_map]
  exact congrArg Option.isSome hfind

end Desk

namespace Messaging

variable {sur : Surroundings} {s s' : Session Check} {senders : MessageKind → List (Sender σ)}
  {service : Messaging σ} {m : Message} {content : Content} {world world' : σ}

theorem chosen_withContent (hx : ∀ x ∈ senders m.kind, x.IgnoresContent sur)
    (content : Content) (hs : s.Agrees sur.source s') :
    chosen senders sur (m.withContent content) s' = chosen senders sur m s := by
  unfold chosen
  rw [m.kind_withContent]
  apply List.find?_congr
  intro x hmem
  exact Sender.accepts_withContent (hx x (firsts_subset _ _ hmem)) m content hs

section

variable (hdesk : ∀ kind, (DeskPlan.ofList kind (senders kind)).build = .ok (service.desk kind))

include hdesk

theorem supports_eq_chosen (m : Message) (s : Session Check) :
    (service.supports sur m s).1 = (chosen senders sur m s).isSome :=
  Desk.supports_of_build (hdesk m.kind) sur s

variable (hx : ∀ x ∈ senders m.kind, x.IgnoresContent sur) (hs : s.Agrees sur.source s')
  (h : service.translators.translate sur m.content world s = ((.ok content, world'), s'))

include hx hs h

theorem send_of_not_supports (hnot : (service.supports sur m s).1 = false) :
    ∃ cause, (service.send sur m world s).1 =
      (.error ⟨.send (.noSender cause), ["sending " ++ m.kind.name ++ " message"]⟩, world') := by
  rw [supports_eq_chosen hdesk, Option.isSome_eq_false_iff, Option.isNone_iff_eq_none] at hnot
  have hdelivery := delivery_of_kind sur hdesk (m.kind_withContent content) world' s'
  rw [chosen_withContent hx content hs, hnot] at hdelivery
  obtain ⟨s'', hsend⟩ := send_of_translate h hdelivery
  exact ⟨_, congrArg Prod.fst hsend⟩

theorem send_of_supports (hyes : (service.supports sur m s).1 = true) :
    ∃ x ∈ senders m.kind, ∃ answer world'',
      (x.send (m.withContent content)).run world' = (answer, world'') ∧
      (service.send sur m world s).1 =
        (answer.mapError fun e => ⟨.send e, ["sending " ++ m.kind.name ++ " message"]⟩,
          world'') := by
  rw [supports_eq_chosen hdesk] at hyes
  obtain ⟨x, hchosen⟩ := Option.isSome_iff_exists.mp hyes
  have hdelivery := delivery_of_kind sur hdesk (m.kind_withContent content) world' s'
  rw [chosen_withContent hx content hs, hchosen] at hdelivery
  obtain ⟨s'', hsend⟩ := send_of_translate h hdelivery
  exact ⟨x, mem_of_chosen hchosen, _, _, rfl, congrArg Prod.fst hsend⟩

end

theorem steady_send
    (ht : ∀ c, Attempting.Steady sur.source (service.translators.translate sur c)) (m : Message) :
    Work.Steady sur.source (service.send sur m) := by
  refine Work.Steady.bind (ht m.content) fun r => ?_
  cases r with
  | error e => exact .pure _
  | ok content =>
    refine .bind ((service.desk m.kind).steady_send sur _) fun r => ?_
    cases r with
    | ok u => exact .pure _
    | error e => exact .pure _

theorem agrees_supports (sur : Surroundings) (service : Messaging σ) (m : Message)
    (s : Session Check) : s.Agrees sur.source (service.supports sur m s).2 :=
  ((service.desk m.kind).steady_supports sur m s s (.refl s)).2

theorem steady_after_supports {β : Type} {x : Work σ β} (hx : Work.Steady sur.source x)
    (before : List Message) (world : σ) (s : Session Check) :
    (((before.mapM fun b => Work.ofEval (service.supports sur b)) >>= fun _ => x) world s).1 =
      (x world s).1 := by
  induction before generalizing s with
  | nil => rfl
  | cons b before ih =>
    simp only [List.mapM_cons, bind_assoc, pure_bind]
    have hnext := ih (service.supports sur b s).2
    exact hnext.trans (hx world _ _ (service.agrees_supports sur b s).symm).1

end Messaging

end Postroom
