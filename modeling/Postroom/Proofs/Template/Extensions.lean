import Postroom.Journal
import Postroom.Proofs.Resource.Resolving
import Postroom.Proofs.Template.Variants

namespace Postroom

namespace TemplatePlan

section

variable {given : List (String × Variant × String)} {e : String} {v : Variant} {x : String}

theorem lastGiven_eq_some_iff : lastGiven given e v = some x ↔
    ∃ front back, given = front ++ (e, v, x) :: back ∧ ∀ g ∈ back, ¬(g.1 = e ∧ g.2.1 = v) := by
  rw [lastGiven, Option.map_eq_some_iff]
  simp only [find?_reverse_eq_some_iff, decide_eq_true_eq, decide_eq_false_iff_not]
  constructor
  · rintro ⟨⟨_, _, _⟩, ⟨⟨rfl, rfl⟩, front, back, hgiven, hback⟩, rfl⟩
    exact ⟨front, back, hgiven, hback⟩
  · rintro ⟨front, back, hgiven, hback⟩
    exact ⟨(e, v, x), ⟨⟨rfl, rfl⟩, front, back, hgiven, hback⟩, rfl⟩

theorem mem_of_lastGiven (h : lastGiven given e v = some x) : (e, v, x) ∈ given := by
  obtain ⟨front, back, hgiven, -⟩ := lastGiven_eq_some_iff.mp h
  rw [hgiven]
  exact List.mem_append_right front List.mem_cons_self

theorem lastGiven_eq_none_iff : lastGiven given e v = none ↔ ∀ g ∈ given, g.1 = e → g.2.1 ≠ v := by
  simp [lastGiven]

theorem consumer_foldl_put (given : List (String × Variant × String))
    (t : AdapterTable (List (Variant × String))) : (given.foldl put t).consumer = t.consumer := by
  induction given generalizing t with
  | nil => rfl
  | cons g given ih => exact ih (put t g)

theorem isSome_get?_foldl_put (given : List (String × Variant × String))
    (t : AdapterTable (List (Variant × String))) (e : String) :
    ((given.foldl put t).get? e).isSome = (given.any (·.1 == e) || (t.get? e).isSome) := by
  induction given generalizing t with
  | nil => rfl
  | cons g given ih =>
    rw [List.foldl_cons, ih, get?_put, List.any_cons]
    by_cases hg : e = g.1
    · simp [hg]
    · simp [hg, beq_false_of_ne (Ne.symm hg)]

theorem isSome_get?_table (given : List (String × Variant × String)) (e : String) :
    ((table given).get? e).isSome = decide (∃ g ∈ given, g.1 = e) := by
  have hany : given.any (·.1 == e) = decide (∃ g ∈ given, g.1 = e) := by
    rw [Bool.eq_iff_iff, List.any_eq_true, decide_eq_true_iff]
    simp only [beq_iff_eq]
  rw [← hany]
  exact (isSome_get?_foldl_put given _ e).trans (Bool.or_false _)

/-- What is answered for an engine about the extension of a variant. -/
def extensionAnswer (given : List (String × Variant × String)) (e : String) (v : Variant) :
    Except TemplateError String :=
  match lastGiven given e v with
  | some x => .ok x
  | none =>
    if ∃ g ∈ given, g.1 = e then .error (.unsupportedVariant e v)
    else .error (.missingAdapter ⟨"template-variants", e⟩)

theorem extensionAnswer_eq_ok_iff :
    extensionAnswer given e v = .ok x ↔ lastGiven given e v = some x := by
  unfold extensionAnswer
  cases lastGiven given e v with
  | some y => simp
  | none => dsimp only; split <;> simp

theorem extensionAnswer_eq_unsupported_iff :
    extensionAnswer given e v = .error (.unsupportedVariant e v) ↔
      (∃ g ∈ given, g.1 = e) ∧ ∀ g ∈ given, g.1 = e → g.2.1 ≠ v := by
  rw [← lastGiven_eq_none_iff]
  unfold extensionAnswer
  cases lastGiven given e v <;> simp

theorem extensionAnswer_eq_missing_iff :
    extensionAnswer given e v = .error (.missingAdapter ⟨"template-variants", e⟩) ↔
      ∀ g ∈ given, g.1 ≠ e := by
  have hnone : (∀ g ∈ given, g.1 ≠ e) ↔ ¬∃ g ∈ given, g.1 = e := by
    rw [not_exists]
    exact forall_congr' fun _ => not_and.symm
  rw [hnone]
  unfold extensionAnswer
  cases hlast : lastGiven given e v with
  | some y =>
    exact iff_of_false nofun (not_not_intro ⟨(e, v, y), mem_of_lastGiven hlast, rfl⟩)
  | none =>
    dsimp only
    split <;> simp [*]

end

variable {σ : Type} {p : TemplatePlan σ} {engine : TemplateEngine σ} {sur : Surroundings}
  {s t : Session Check}

theorem names_of_build (h : p.build = .ok engine) (sur : Surroundings) (s : Session Check) :
    (engine.names sur s).1 =
      (p.eligible (s.valuation ⟨sur.source, fun _ => false⟩)).map (·.parser.name) :=
  eligibleKeys_of_build h ⟨sur.source, fun _ => false⟩ s

theorem mem_names_of_detect {r : TemplateRequest} {d : Detected Check (TemplateParser σ)}
    (h : engine.detect sur r s = (.ok d, t)) : d.candidate.key ∈ (engine.names sur s).1 :=
  List.mem_map_of_mem (Dispatcher.mem_eligible_of_dispatch s (congrArg Prod.fst h))

theorem variantExtension_of_detect (hbuild : p.build = .ok engine) {r : TemplateRequest}
    {d : Detected Check (TemplateParser σ)} (h : engine.detect sur r s = (.ok d, t)) (v : Variant) :
    engine.variantExtension sur r v s = (extensionAnswer p.variants d.candidate.key v, t) := by
  have hvariants : engine.variants = table p.variants := by
    obtain ⟨cs, -, rfl⟩ := engine_of_build hbuild
    rfl
  have hconsumer : (table p.variants).consumer = "template-variants" :=
    consumer_foldl_put p.variants _
  have hknown : (∃ g ∈ p.variants, g.1 = d.candidate.key) ↔
      ((table p.variants).get? d.candidate.key).isSome = true := by
    rw [isSome_get?_table, decide_eq_true_iff]
  simp only [TemplateEngine.variantExtension, bind, StateT.bind, h, hvariants, AdapterTable.adapt,
    hconsumer, extensionAnswer, ← extension?_table, extension?, hknown]
  cases (table p.variants).get? d.candidate.key with
  | none => rfl
  | some extensions =>
    dsimp only [Option.bind_some]
    cases extensions.lookup v <;> rfl

theorem candidate?_of_mem_variantResolvers (hbuild : p.build = .ok engine)
    {resolver : VariantResolver} (h : resolver ∈ (engine.variantResolvers sur s).1)
    (template : ResourcePath) (v : Variant) :
    resolver.candidate? ⟨template, v⟩ = (lastGiven p.variants resolver.name v).map fun x =>
      template.withPath (template.path ++ x) := by
  rw [variantResolvers_of_build hbuild] at h
  obtain ⟨e, -, hresolver⟩ := List.mem_filterMap.mp h
  obtain ⟨extensions, hget, rfl⟩ := Option.map_eq_some_iff.mp hresolver
  rw [← extension?_table, extension?, hget]
  rfl

theorem names_variantResolvers_given (hbuild : p.build = .ok engine) (sur : Surroundings)
    (s : Session Check) :
    (engine.variantResolvers sur s).1.map VariantResolver.name =
      (engine.names sur s).1.filter fun e => ∃ g ∈ p.variants, g.1 = e := by
  simp only [names_variantResolvers hbuild, names_of_build hbuild, isSome_get?_table]

theorem extensionAnswer_iff_proposed (hbuild : p.build = .ok engine) {e : String}
    (he : e ∈ (engine.names sur s).1) (v : Variant) (x : String) :
    extensionAnswer p.variants e v = .ok x ↔
      ∃ resolver ∈ (engine.variantResolvers sur s).1, resolver.name = e ∧ ∀ template,
        resolver.candidate? ⟨template, v⟩ = some (template.withPath (template.path ++ x)) := by
  rw [extensionAnswer_eq_ok_iff]
  constructor
  · intro hlast
    have hgiven : ∃ g ∈ p.variants, g.1 = e := ⟨(e, v, x), mem_of_lastGiven hlast, rfl⟩
    have hname : e ∈ (engine.variantResolvers sur s).1.map VariantResolver.name := by
      rw [names_variantResolvers_given hbuild]
      exact List.mem_filter.mpr ⟨he, decide_eq_true hgiven⟩
    obtain ⟨resolver, hresolver, rfl⟩ := List.mem_map.mp hname
    refine ⟨resolver, hresolver, rfl, fun template => ?_⟩
    rw [candidate?_of_mem_variantResolvers hbuild hresolver, hlast]
    rfl
  · rintro ⟨resolver, hresolver, rfl, hproposed⟩
    have happended := hproposed ⟨"", none, ""⟩
    rw [candidate?_of_mem_variantResolvers hbuild hresolver] at happended
    obtain ⟨y, hlast, hy⟩ := Option.map_eq_some_iff.mp happended
    have hxy : y = x := by simpa using congrArg ResourcePath.path hy
    rw [hlast, hxy]

/-- For the engine that is detected the last extension that was given for the variant is the answer,
an engine with extensions for other variants only does not support the variant, and one without any
has no adapter. The resolvers are those of the engines that take part and have an extension, in the
order of registration, and each appends what is answered for its engine. -/
theorem extension_readers_agree (p : TemplatePlan σ) (engine : TemplateEngine σ)
    (hbuild : p.build = .ok engine) (sur : Surroundings) (s : Session Check) :
    let names := (engine.names sur s).1
    let resolvers := (engine.variantResolvers sur s).1
    (∀ e v x, lastGiven p.variants e v = some x ↔ ∃ front back,
      p.variants = front ++ (e, v, x) :: back ∧ ∀ g ∈ back, ¬(g.1 = e ∧ g.2.1 = v)) ∧
    (∀ r d t, engine.detect sur r s = (.ok d, t) →
      let e := d.candidate.key
      e ∈ names ∧ ∀ v,
        let answer := (engine.variantExtension sur r v s).1
        (∀ x, answer = .ok x ↔ lastGiven p.variants e v = some x) ∧
        (answer = .error (.unsupportedVariant e v) ↔
          (∃ g ∈ p.variants, g.1 = e) ∧ ∀ g ∈ p.variants, g.1 = e → g.2.1 ≠ v) ∧
        (answer = .error (.missingAdapter ⟨"template-variants", e⟩) ↔
          ∀ g ∈ p.variants, g.1 ≠ e) ∧
        ∀ x, answer = .ok x ↔ ∃ resolver ∈ resolvers, resolver.name = e ∧ ∀ template,
          resolver.candidate? ⟨template, v⟩ = some (template.withPath (template.path ++ x))) ∧
    names = (p.eligible (s.valuation ⟨sur.source, fun _ => false⟩)).map (·.parser.name) ∧
    resolvers.map VariantResolver.name = names.filter (fun e => ∃ g ∈ p.variants, g.1 = e) ∧
    (∀ resolver ∈ resolvers, ∀ template v, resolver.candidate? ⟨template, v⟩ =
      (lastGiven p.variants resolver.name v).map fun x =>
        template.withPath (template.path ++ x)) ∧
    ∀ (template : ResourcePath) (path : String),
      (template.withPath path).lookup = template.lookup ∧ (template.withPath path).path = path := by
  intro names resolvers
  refine ⟨fun e v x => lastGiven_eq_some_iff, fun r d t hdetect => ?_, names_of_build hbuild sur s,
    names_variantResolvers_given hbuild sur s,
    fun resolver hresolver => candidate?_of_mem_variantResolvers hbuild hresolver,
    fun template path => ⟨template.lookup_withPath path, template.path_withPath path⟩⟩
  have he : d.candidate.key ∈ names := mem_names_of_detect hdetect
  refine ⟨he, fun v => ?_⟩
  rw [variantExtension_of_detect hbuild hdetect]
  exact ⟨fun x => extensionAnswer_eq_ok_iff, extensionAnswer_eq_unsupported_iff,
    extensionAnswer_eq_missing_iff, extensionAnswer_iff_proposed hbuild he v⟩

/-- An extension is given twice, and one for an engine that is not there. The first engine misses a
component, the second is detected by the ending of a template, and the third has no extension. -/
theorem extension_readers_agree_twice :
    let p : TemplatePlan Journal :=
      { engines := [{ parser := .constant 0 "freemarker" "" { components := ["jvm"] } },
          { parser := .constant 1 "mustache" "", detector := some (.test (.ending [".md"])) },
          { parser := .constant 2 "thymeleaf" "" }, { parser := .constant 3 "mustache" "" }]
        variants := [("mustache", .html, ".html"), ("freemarker", .html, ".ftl"),
          ("velocity", .html, ".vm"), ("mustache", .html, ".mustache")] }
    let sur : Surroundings := ⟨.bare, fun _ _ => false⟩
    let request (path : String) : TemplateRequest := ⟨⟨path, none, path⟩, "", []⟩
    ∃ engine, p.build = .ok engine ∧
      (engine.variantExtension sur (request "a.md") .html {}).1 = .ok ".mustache" ∧
      (engine.variantExtension sur (request "a.md") .text {}).1 =
        .error (.unsupportedVariant "mustache" .text) ∧
      (engine.variantExtension sur (request "a") .html {}).1 =
        .error (.missingAdapter ⟨"template-variants", "thymeleaf"⟩) ∧
      (engine.variantResolvers sur {}).1.map VariantResolver.name = ["mustache"] := by
  intro p sur request
  let detected (engine : TemplateEngine Journal) (path : String) : Except NoMatch String :=
    (engine.detect sur (request path) {}).1.map fun d => d.candidate.key
  obtain ⟨engine, hbuild, hfirst, hlast⟩ : ∃ engine, p.build = .ok engine ∧
      detected engine "a.md" = .ok "mustache" ∧ detected engine "a" = .ok "thymeleaf" :=
    ⟨_, rfl, by decide +kernel, by decide +kernel⟩
  obtain ⟨d, hd, hkey⟩ := exists_of_map_ok hfirst
  obtain ⟨d', hd', hkey'⟩ := exists_of_map_ok hlast
  obtain ⟨-, hread, hnames, hresolvers, -⟩ := extension_readers_agree p engine hbuild sur {}
  obtain ⟨-, hmustache⟩ := hread (request "a.md") d _ (Prod.ext hd rfl)
  obtain ⟨-, hthymeleaf⟩ := hread (request "a") d' _ (Prod.ext hd' rfl)
  rw [hkey] at hmustache
  rw [hkey'] at hthymeleaf
  obtain ⟨hhtml, -⟩ := hmustache .html
  obtain ⟨-, htext, -⟩ := hmustache .text
  obtain ⟨-, -, hmissing, -⟩ := hthymeleaf .html
  refine ⟨engine, hbuild, (hhtml _).mpr (by decide), htext.mpr (by decide),
    hmissing.mpr (by decide), ?_⟩
  rw [hresolvers, hnames]
  decide +kernel

end TemplatePlan

end Postroom
