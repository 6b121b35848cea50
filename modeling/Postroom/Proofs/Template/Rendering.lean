import Postroom.Proofs.Message.Rendering
import Postroom.Proofs.Selection.Detection
import Postroom.Proofs.Sequence

namespace Postroom

variable {σ : Type}

namespace TemplatePlan

variable {p : TemplatePlan σ} {engine : TemplateEngine σ}

theorem build_eq (h : p.engines ≠ []) :
    p.build = (p.engines.mapM candidate).map fun cs =>
      ⟨cs.foldl Dispatcher.register { name := "template-engines" }, table p.variants⟩ := by
  rw [build, if_neg (by simpa using h)]
  cases p.engines.mapM candidate <;> rfl

theorem engine_of_build (h : p.build = .ok engine) :
    ∃ cs, p.engines.mapM candidate = .ok cs ∧
      engine = ⟨{ name := "template-engines", candidates := firsts Detectable.key cs },
        table p.variants⟩ := by
  by_cases hengines : p.engines = []
  · rw [build, hengines] at h
    cases h
  · rw [build_eq hengines] at h
    obtain ⟨cs, hcs, rfl⟩ := exists_of_map_ok h
    exact ⟨cs, hcs, by rw [Dispatcher.foldl_register, foldl_appendNew_nil]⟩

theorem parts_of_candidate {e : EnginePlan σ} {c : Detectable Check (TemplateParser σ)}
    (h : candidate e = .ok c) :
    c.key = e.parser.name ∧ c.implementation = e.parser ∧
      e.parser.requirements.compile = .ok c.guard := by
  unfold candidate at h
  split at h
  · rename_i guard hguard
    cases h
    exact ⟨rfl, rfl, hguard⟩
  · cases h

theorem parser_of_build (h : p.build = .ok engine)
    {c : Detectable Check (TemplateParser σ)} (hc : c ∈ engine.dispatcher.candidates) :
    ∃ e ∈ p.engines, c.implementation = e.parser := by
  obtain ⟨cs, hcs, rfl⟩ := engine_of_build h
  obtain ⟨e, he, hcandidate⟩ := exists_of_mem_mapM_ok hcs c (firsts_subset _ _ hc)
  exact ⟨e, he, (parts_of_candidate hcandidate).2.1⟩

end TemplatePlan

/-- The text of a template, whose source is looked up among resources. -/
def TemplateEngine.render (sur : Surroundings) (engine : TemplateEngine σ) (resources : Resolution)
    (t : TemplateContent) : Attempting σ String :=
  match resources.resolve (.parse t.path) with
  | .error e => throw (.resource e)
  | .ok found =>
    match found.text with
    | .error e => throw (.resource e)
    | .ok source => do
      match ← ExceptT.lift (engine.parse sur ⟨.parse t.path, source, t.bindings⟩) with
      | .ok text => return text
      | .error e => throw (.template e)

namespace Translator

variable (sur : Surroundings) (engine : TemplateEngine σ) (resources : Resolution)

theorem ofTemplates_template (t : TemplateContent) :
    (ofTemplates engine resources).translate sur (.template t) = do
      return .text (← engine.render sur resources t) := by
  simp only [ofTemplates, TemplateEngine.render]
  cases resources.resolve (.parse t.path) with
  | error e => rfl
  | ok found =>
    dsimp only
    cases found.text with
    | error e => rfl
    | ok source =>
      simp only [pure_bind, bind_assoc]
      congr 1
      funext r
      cases r <;> rfl

end Translator

namespace TemplateEngine

open Attempting

variable {γ : Type} {view : σ → γ} {p : TemplatePlan σ} {engine : TemplateEngine σ}

theorem keeps_parse (hbuild : p.build = .ok engine)
    (hview : ∀ e ∈ p.engines, ∀ r world, view ((e.parser.parse r).run world).2 = view world)
    (sur : Surroundings) (r : TemplateRequest) (world : σ) (s : Session Check) :
    view (engine.parse sur r world s).1.2 = view world := by
  rcases hd : engine.detect sur r s with ⟨cause | found, s'⟩
  · have hrun : engine.parse sur r world s = ((.error (.notDetected cause), world), s') := by
      simp only [parse, Work.ofEval, bind, StateT.bind, hd]
      rfl
    rw [hrun]
  · have hrun : engine.parse sur r world s =
        ((found.candidate.implementation.parse r).run world, s') := by
      simp only [parse, Work.ofEval, bind, StateT.bind, hd]
      rfl
    have hmem := Dispatcher.mem_of_dispatch s (congrArg Prod.fst hd)
    obtain ⟨e, he, hparser⟩ := TemplatePlan.parser_of_build hbuild hmem
    rw [hrun, hparser]
    exact hview e he r world

theorem keeps_render (hbuild : p.build = .ok engine)
    (hview : ∀ e ∈ p.engines, ∀ r world, view ((e.parser.parse r).run world).2 = view world)
    (sur : Surroundings) (resources : Resolution) (t : TemplateContent) :
    Keeps view (engine.render sur resources t) := by
  unfold render
  cases resources.resolve (.parse t.path) with
  | error e => exact fun world s => rfl
  | ok found =>
    dsimp only
    cases found.text with
    | error e => exact fun world s => rfl
    | ok source =>
      have hlift : Keeps view
          (ExceptT.lift (engine.parse sur ⟨.parse t.path, source, t.bindings⟩)) :=
        keeps_parse hbuild hview sur _
      refine hlift.bind fun r => ?_
      cases r with
      | ok text => exact .pure text
      | error e => exact fun world s => rfl

end TemplateEngine

end Postroom
