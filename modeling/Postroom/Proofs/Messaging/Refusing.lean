import Postroom.Proofs.Messaging.Delivery
import Postroom.Proofs.Requirement.Compiling
import Postroom.Proofs.Sender.Qualifying

namespace Postroom

variable {σ : Type}

namespace TemplatePlan

variable {p : TemplatePlan σ}

theorem candidate_error_iff {e : EnginePlan σ} :
    (∃ cause, candidate e = .error cause) ↔ e.parser.requirements.Malformed := by
  have hcompile : (∃ c, (e.parser.requirements.compile : Except InvalidPattern (Condition Check)) =
      .error c) ↔ e.parser.requirements.Malformed := Requirements.compile_error_iff
  rw [← hcompile, candidate]
  cases e.parser.requirements.compile (α := Check) <;> simp

theorem candidate_of_malformedAt {e : EnginePlan σ} {pattern : String}
    (h : e.parser.requirements.MalformedAt pattern) :
    candidate e = .error (.requirements e.parser.name ⟨pattern⟩) := by
  have hcompile : (e.parser.requirements.compile : Except InvalidPattern (Condition Check)) =
      .error ⟨pattern⟩ := Requirements.compile_eq_error_iff.mpr h
  rw [candidate, hcompile]

theorem exists_engine (hengines : p.engines ≠ [])
    (h : ∀ e ∈ p.engines, ¬e.parser.requirements.Malformed) : ∃ engine, p.build = .ok engine := by
  have hcandidates : ¬∃ cause, p.engines.mapM candidate = .error cause := by
    simpa only [mapM_error_iff, candidate_error_iff, not_exists, not_and] using h
  obtain ⟨cs, hcs⟩ := exists_ok_of_not_error hcandidates
  exact ⟨_, by rw [build_eq hengines, hcs]; rfl⟩

theorem asksSource_variantResolvers {engine : TemplateEngine σ} (h : p.build = .ok engine)
    (sur : Surroundings) (s : Session Check) :
    s.AsksSource (engine.variantResolvers sur s).2 := by
  obtain ⟨cs, hcs, rfl⟩ := engine_of_build h
  have hguards : ∀ c ∈ firsts Detectable.key cs, ∀ s : Session Check,
      s.AsksSource (c.guard.eval sur.aboutNothing s).2 := by
    intro c hc s
    obtain ⟨e, -, he⟩ := exists_of_mem_mapM_ok hcs c (firsts_subset _ _ hc)
    obtain ⟨-, -, hguard⟩ := parts_of_candidate he
    exact (Requirements.testless_compile hguard).asksSource sur.aboutNothing s
  exact Dispatcher.eligibleOf_keeps .refl .trans hguards s

end TemplatePlan

namespace DeskPlan

variable {kind : MessageKind} {xs : List (Sender σ)}

theorem isEmpty_ofList : (ofList kind xs).isEmpty = xs.isEmpty := by
  rw [ofList_eq, isEmpty]
  cases xs <;> rfl

theorem candidate_of_malformed (kind : MessageKind) {x : Sender σ} (h : x.requirements.Malformed) :
    ∃ cause, candidate kind x = .error ⟨.invalidPattern cause,
      ["compiling requirements of " ++ kind.name ++ " sender '" ++ x.name ++ "'"]⟩ := by
  obtain ⟨cause, hcause⟩ := (Requirements.compile_error_iff (α := Check)).mpr h
  exact ⟨cause, by rw [candidate, hcause]⟩

end DeskPlan

namespace MessagingPlan

theorem exists_desk (kind : MessageKind) {xs : List (Sender σ)}
    (h : ∀ x ∈ firsts Sender.name xs, ¬x.requirements.Malformed) :
    ∃ d, desk (.ofList kind xs) = .ok d := by
  obtain ⟨d, hd⟩ := DeskPlan.exists_build kind fun x hx p hp hpattern => h x hx ⟨p, hp, hpattern⟩
  exact ⟨d, by rw [desk, hd]⟩

theorem desk_of_malformed (kind : MessageKind) {xs front back : List (Sender σ)} {x : Sender σ}
    (hsplit : firsts Sender.name xs = front ++ x :: back)
    (hfront : ∀ y ∈ front, ¬y.requirements.Malformed) (h : x.requirements.Malformed) :
    desk (.ofList kind xs) = .error ⟨.configuration (kind.name ++ " senders"),
      ["compiling requirements of " ++ kind.name ++ " sender '" ++ x.name ++ "'"]⟩ := by
  obtain ⟨cause, hx⟩ := DeskPlan.candidate_of_malformed kind h
  have hcandidates := mapM_eq_error_iff.mpr
    ⟨front, x, back, hsplit, fun y hy => mt (DeskPlan.candidate_error_iff kind).mp (hfront y hy), hx⟩
  have hkind : (DeskPlan.ofList kind xs).kind = kind := by rw [DeskPlan.ofList_eq]
  rw [desk, DeskPlan.build_eq, hcandidates, hkind]
  rfl

/-- Why messaging is not built, the reasons that come first hiding those behind them. -/
inductive Refused (senders : MessageKind → List (Sender σ)) (engines : List (EnginePlan σ)) :
    Report MessagingError → Prop
  | unstaffed (h : ∀ kind, senders kind = []) :
    Refused senders engines ⟨.configuration "no email or sms sender registered", []⟩
  /-- An engine counts even if its name is taken. -/
  | engine {kind : MessageKind} {front back : List (EnginePlan σ)} {e : EnginePlan σ}
    {pattern : String} (hstaffed : senders kind ≠ []) (hsplit : engines = front ++ e :: back)
    (hfront : ∀ d ∈ front, ¬d.parser.requirements.Malformed)
    (h : e.parser.requirements.MalformedAt pattern) :
    Refused senders engines
      ⟨.template (.requirements e.parser.name ⟨pattern⟩), ["building template engines"]⟩
  /-- A sender counts if it is the first of its name. -/
  | sender {kind : MessageKind} {front back : List (Sender σ)} {x : Sender σ}
    (hengines : ∀ e ∈ engines, ¬e.parser.requirements.Malformed)
    (hemail : kind = .sms → ∀ y ∈ firsts Sender.name (senders .email), ¬y.requirements.Malformed)
    (hsplit : firsts Sender.name (senders kind) = front ++ x :: back)
    (hfront : ∀ y ∈ front, ¬y.requirements.Malformed) (h : x.requirements.Malformed) :
    Refused senders engines
      ⟨.configuration (kind.name ++ " senders"),
        ["compiling requirements of " ++ kind.name ++ " sender '" ++ x.name ++ "'"]⟩

/-- There is a sender, and every pattern that counts can be read. -/
structure Buildable (senders : MessageKind → List (Sender σ)) (engines : List (EnginePlan σ)) :
    Prop where
  staffed : ∃ kind, senders kind ≠ []
  engines : ∀ e ∈ engines, ¬e.parser.requirements.Malformed
  senders : ∀ kind, ∀ x ∈ firsts Sender.name (senders kind), ¬x.requirements.Malformed

variable {environment : Environment} {senders : MessageKind → List (Sender σ)}
  {templates : TemplatePlan σ} {resources : ResolutionPlan} {translators : List (Translator σ)}
  {sur : Surroundings} {s : Session Check}

theorem exists_refused (h : ¬Buildable senders templates.engines) :
    ∃ r, Refused senders templates.engines r := by
  by_cases hstaffed : ∃ kind, senders kind ≠ []
  case neg => exact ⟨_, .unstaffed (by simpa using hstaffed)⟩
  obtain ⟨kind, hkind⟩ := hstaffed
  by_cases hengines : ∃ e ∈ templates.engines, e.parser.requirements.Malformed
  case pos =>
    obtain ⟨front, e, back, hsplit, hfront, he⟩ := exists_first hengines
    obtain ⟨pattern, hpattern⟩ := he.exists_malformedAt
    exact ⟨_, .engine hkind hsplit hfront hpattern⟩
  simp only [not_exists, not_and] at hengines
  by_cases hemail : ∃ x ∈ firsts Sender.name (senders .email), x.requirements.Malformed
  case pos =>
    obtain ⟨front, x, back, hsplit, hfront, hx⟩ := exists_first hemail
    exact ⟨_, .sender hengines (by simp) hsplit hfront hx⟩
  simp only [not_exists, not_and] at hemail
  by_cases hsms : ∃ x ∈ firsts Sender.name (senders .sms), x.requirements.Malformed
  case pos =>
    obtain ⟨front, x, back, hsplit, hfront, hx⟩ := exists_first hsms
    exact ⟨_, .sender hengines (fun _ => hemail) hsplit hfront hx⟩
  simp only [not_exists, not_and] at hsms
  refine absurd ⟨⟨kind, hkind⟩, hengines, fun kind => ?_⟩ h
  cases kind with
  | email => exact hemail
  | sms => exact hsms

theorem build_of_unstaffed (h : ∀ kind, senders kind = []) :
    (ofRegistered environment senders templates resources translators).build sur s =
      (.error ⟨.configuration "no email or sms sender registered", []⟩, s) := by
  have hempty : ∀ kind, (DeskPlan.ofList kind (senders kind)).isEmpty = true := by
    intro kind
    rw [DeskPlan.isEmpty_ofList, h kind]
    rfl
  rw [build_eq, if_pos (by simp [ofRegistered, ofSenders, hempty])]

theorem build_of_staffed {kind : MessageKind} (h : senders kind ≠ []) :
    let p := ofRegistered environment senders templates resources translators
    p.build sur s = ((p.content sur resources.build s).1.bind p.assemble,
      (p.content sur resources.build s).2) := by
  intro p
  have hstaffed : ¬(p.email.isEmpty && p.sms.isEmpty) = true := by
    have hkind : (senders kind).isEmpty = false := List.isEmpty_eq_false_iff.mpr h
    have hemail : p.email.isEmpty = (senders .email).isEmpty := DeskPlan.isEmpty_ofList
    have hsms : p.sms.isEmpty = (senders .sms).isEmpty := DeskPlan.isEmpty_ofList
    rw [hemail, hsms]
    cases kind <;> simp [hkind]
  rw [build_eq, if_neg hstaffed]
  rfl

theorem exists_content (p : MessagingPlan σ) (sur : Surroundings) (resources : Resolution)
    (s : Session Check) (h : ∀ e ∈ p.templates.engines, ¬e.parser.requirements.Malformed) :
    ∃ content, (p.content sur resources s).1 = .ok content := by
  rw [content_eq]
  cases hempty : p.templates.isEmpty with
  | true => exact ⟨_, rfl⟩
  | false =>
    have hengines : p.templates.engines ≠ [] := List.isEmpty_eq_false_iff.mp hempty
    obtain ⟨engine, hengine⟩ := TemplatePlan.exists_engine hengines h
    exact ⟨_, by rw [hengine]; rfl⟩

theorem asksSource_content (p : MessagingPlan σ) (sur : Surroundings) (resources : Resolution)
    (s : Session Check) : s.AsksSource (p.content sur resources s).2 := by
  rw [content_eq]
  split
  · exact .refl s
  · cases hbuild : p.templates.build with
    | error e => exact .refl s
    | ok engine => exact TemplatePlan.asksSource_variantResolvers hbuild sur s

theorem asksSource_build (p : MessagingPlan σ) (sur : Surroundings) (s : Session Check) :
    s.AsksSource (p.build sur s).2 := by
  rw [build_eq]
  split
  · exact .refl s
  · exact p.asksSource_content sur p.resources.build s

theorem build_of_refused {r : Report MessagingError} (h : Refused senders templates.engines r) :
    ((ofRegistered environment senders templates resources translators).build sur s).1 =
      .error r := by
  cases h with
  | unstaffed h => rw [build_of_unstaffed h]
  | @engine kind front back e pattern hstaffed hsplit hfront h =>
    have hengines : templates.engines ≠ [] := by simp [hsplit]
    have hcandidates := mapM_eq_error_iff.mpr ⟨front, e, back, hsplit,
      fun d hd => mt TemplatePlan.candidate_error_iff.mp (hfront d hd),
      TemplatePlan.candidate_of_malformedAt h⟩
    have hbuild : templates.build = .error (.requirements e.parser.name ⟨pattern⟩) := by
      rw [TemplatePlan.build_eq hengines, hcandidates]
      rfl
    have hnonempty : templates.isEmpty = false := List.isEmpty_eq_false_iff.mpr hengines
    rw [build_of_staffed hstaffed, content_eq]
    simp [ofRegistered, ofSenders, hnonempty, hbuild, Except.bind]
  | @sender kind front back x hengines hemail hsplit hfront h =>
    let p := ofRegistered environment senders templates resources translators
    have hstaffed : senders kind ≠ [] := by
      intro hnone
      simp [hnone, firsts] at hsplit
    have hdesk := desk_of_malformed kind hsplit hfront h
    obtain ⟨content, hcontent⟩ := p.exists_content sur resources.build s hengines
    rw [build_of_staffed hstaffed, hcontent]
    change p.assemble content = _
    cases kind with
    | email =>
      change desk p.email = _ at hdesk
      rw [assemble, hdesk]
      rfl
    | sms =>
      obtain ⟨d, hd⟩ := exists_desk .email (hemail rfl)
      change desk p.email = _ at hd
      change desk p.sms = _ at hdesk
      rw [assemble, hd, hdesk]
      rfl

theorem exists_build_of_buildable (h : Buildable senders templates.engines) :
    ∃ service, ((ofRegistered environment senders templates resources translators).build
      sur s).1 = .ok service := by
  let p := ofRegistered environment senders templates resources translators
  obtain ⟨kind, hkind⟩ := h.staffed
  obtain ⟨content, hcontent⟩ := p.exists_content sur resources.build s h.engines
  obtain ⟨email, hemail⟩ := exists_desk .email (h.senders .email)
  obtain ⟨sms, hsms⟩ := exists_desk .sms (h.senders .sms)
  change desk p.email = _ at hemail
  change desk p.sms = _ at hsms
  rw [build_of_staffed hkind, hcontent]
  change ∃ service, p.assemble content = .ok service
  rw [assemble, hemail, hsms]
  exact ⟨_, rfl⟩

/-- Messaging is built if there is a sender and every pattern can be read that engines declare, those
with a name that is taken included, or senders that are the first of their name. Otherwise it is
refused for the first reason. Building asks the source whether engines take part, and nothing else:
no sender is asked whether it is enabled, and nothing is done to the world. -/
theorem build_iff_buildable (environment : Environment) (senders : MessageKind → List (Sender σ))
    (templates : TemplatePlan σ) (resources : ResolutionPlan) (translators : List (Translator σ))
    (sur : Surroundings) (s : Session Check) :
    let p := ofRegistered environment senders templates resources translators
    ((∃ service, (p.build sur s).1 = .ok service) ↔ Buildable senders templates.engines) ∧
    (∀ r, (p.build sur s).1 = .error r ↔ Refused senders templates.engines r) ∧
    s.AsksSource (p.build sur s).2 ∧
    ∀ world : σ, (Work.ofEval (p.build sur) world s).1.2 = world := by
  intro p
  have hrefused : ∀ r, Refused senders templates.engines r → (p.build sur s).1 = .error r :=
    fun r hr => build_of_refused hr
  refine ⟨⟨?_, exists_build_of_buildable⟩, fun r => ⟨?_, hrefused r⟩, p.asksSource_build sur s,
    fun world => rfl⟩
  · rintro ⟨service, hservice⟩
    by_cases hb : Buildable senders templates.engines
    · exact hb
    · obtain ⟨r, hr⟩ := exists_refused hb
      rw [hrefused r hr] at hservice
      cases hservice
  · intro hr
    by_cases hb : Buildable senders templates.engines
    · obtain ⟨service, hservice⟩ : ∃ service, (p.build sur s).1 = .ok service :=
        exists_build_of_buildable hb
      rw [hservice] at hr
      cases hr
    · obtain ⟨r', hr'⟩ := exists_refused hb
      have hsame := (hrefused r' hr').symm.trans hr
      cases hsame
      exact hr'

end MessagingPlan

end Postroom
