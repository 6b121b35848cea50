import Postroom.Journal
import Postroom.Proofs.Messaging.Building
import Postroom.Proofs.Resource.Resolving
import Postroom.Proofs.Template.Variants

namespace Postroom

namespace VariantResolution

theorem resolve_foldl_add (resources : Resolution) (rs : List VariantResolver)
    (q : VariantRequest) :
    let proposed := (firsts VariantResolver.name rs).filterMap (·.candidate? q)
    (rs.foldl add { resources }).resolve q =
      match proposed.find? resources.has with
      | some path => .ok path
      | none => .error ⟨q.template.written, q.variant, proposed.map ResourcePath.written⟩ := by
  intro proposed
  let kept := firsts VariantResolver.name rs
  let registry : Registry ExistenceTest VariantResolver :=
    { name := "variant-resolvers", candidates := kept.map (.tested VariantResolver.name .mk) }
  have hbuilt : rs.foldl add { resources } = ⟨resources, registry⟩ := by
    have hadd : rs.foldl add { resources } = ⟨resources, rs.foldl
        (fun r x => r.register (.tested VariantResolver.name ExistenceTest.mk x))
        { name := "variant-resolvers" }⟩ :=
      List.foldl_hom (mk resources) fun _ _ => rfl
    rw [hadd, Registry.foldl_tested]
  have hfind := Registry.alone_find? (r := registry) rfl (ExistenceTest.holds resources q)
  have hproposed : proposed.find? resources.has =
      (kept.find? fun r => (r.candidate? q).any resources.has).bind (·.candidate? q) :=
    List.find?_filterMap
  have hreported : registry.candidates.map Candidate.implementation = kept := by
    rw [List.map_map]
    exact List.map_id kept
  rw [hbuilt, resolve, hfind, hproposed, Option.bind_map, resolvers, hreported, List.map_filterMap]
  rfl

end VariantResolution

namespace MessagingPlan

variable {σ : Type} {p : MessagingPlan σ} {sur : Surroundings} {s s' : Session Check}

theorem variants_of_content {resources : Resolution} {translators : Translators σ}
    {variants : VariantResolution}
    (h : p.content sur resources s = (.ok (translators, variants), s')) :
    ∃ rs : List VariantResolver, variants = rs.foldl VariantResolution.add { resources } ∧
      firsts VariantResolver.name rs = rs ∧
      ∀ q, rs.filterMap (·.candidate? q) =
        p.templates.proposals (s.valuation ⟨sur.source, fun _ => false⟩) q := by
  rw [content_eq] at h
  cases hempty : p.templates.isEmpty with
  | true =>
    rw [hempty, if_pos rfl] at h
    cases h
    have hnone : p.templates.engines = [] := List.isEmpty_iff.mp hempty
    refine ⟨[], rfl, rfl, fun q => ?_⟩
    simp [TemplatePlan.proposals, TemplatePlan.eligible, hnone, firsts]
  | false =>
    rw [hempty, if_neg Bool.false_ne_true] at h
    cases hbuild : p.templates.build with
    | error e =>
      rw [hbuild] at h
      cases h
    | ok engine =>
      rw [hbuild] at h
      cases h
      exact ⟨_, rfl, firsts_of_nodup _ (TemplatePlan.nodup_variantResolvers hbuild sur s),
        TemplatePlan.proposals_of_build hbuild sur s⟩

end MessagingPlan

namespace Messaging

variable {σ : Type}

theorem resolveVariant_of_build {p : MessagingPlan σ} {sur : Surroundings} {s s' : Session Check}
    {service : Messaging σ} (h : p.build sur s = (.ok service, s')) (template : ResourcePath)
    (v : Variant) :
    let proposed := p.templates.proposals (s.valuation ⟨sur.source, fun _ => false⟩) ⟨template, v⟩
    service.resolveVariant template v =
      match proposed.find? service.resources.has with
      | some path => .ok path
      | none => .error ⟨.variant ⟨template.written, v, proposed.map ResourcePath.written⟩, []⟩ := by
  intro proposed
  obtain ⟨⟨s₁, hcontent⟩, hresources, -, -⟩ := MessagingPlan.content_of_build h
  obtain ⟨rs, hvariants, hfirsts, hproposed⟩ := MessagingPlan.variants_of_content hcontent
  have hresolve := VariantResolution.resolve_foldl_add p.resources.build rs ⟨template, v⟩
  rw [hfirsts, hproposed, ← hvariants] at hresolve
  rw [resolveVariant, hresolve, hresources]
  cases proposed.find? p.resources.build.has <;> rfl

/-- A variant is resolved to the first proposed path that exists, and without one the failure names
the template, the variant and every proposed path. What is found can be loaded if the resolvers are
honest, as those of origins are and those that say nothing of their own about what is there. -/
theorem resolveVariant_first_existing (p : MessagingPlan σ) (sur : Surroundings)
    (s s' : Session Check) (service : Messaging σ) (hbuild : p.build sur s = (.ok service, s'))
    (template : ResourcePath) (v : Variant) :
    let proposed := p.templates.proposals (s.valuation ⟨sur.source, fun _ => false⟩) ⟨template, v⟩
    service.resources = p.resources.build ∧
    service.resolveVariant template v =
      (match proposed.find? service.resources.has with
      | some path => .ok path
      | none => .error ⟨.variant ⟨template.written, v, proposed.map ResourcePath.written⟩, []⟩) ∧
    ((∀ r ∈ p.resources.resolvers, r.Honest) → ∀ path,
      service.resolveVariant template v = .ok path →
        ∃ found, service.resources.resolve path = .ok found) ∧
    (∀ (fs : Files) (o : Origin), (o.resolver fs).Honest) ∧
    ∀ r : Resolver, (r.has = fun path => (r.resolve path).isOk) → r.Honest := by
  intro proposed
  have hresources := (MessagingPlan.content_of_build hbuild).2.1
  have hanswer := resolveVariant_of_build hbuild template v
  refine ⟨hresources, hanswer, fun hhonest path hpath => ?_, fun fs o => o.honest_resolver fs,
    fun _ => Resolver.honest_of_isOk⟩
  rw [hanswer] at hpath
  split at hpath
  · rename_i path' hfound
    cases hpath
    have hhas := List.find?_some hfound
    rw [hresources] at hhas ⊢
    exact (p.resources.has_build_iff hhonest path).mp hhas
  · cases hpath

theorem resolveVariant_first_existing_second :
    let p : MessagingPlan Journal :=
      { email := .ofList .email [.delivering 0 "smtp"]
        templates :=
          { engines := [{ parser := .constant 0 "freemarker" "" { components := ["jvm"] } },
              { parser := .constant 1 "mustache" "" }, { parser := .constant 2 "thymeleaf" "" },
              { parser := .constant 3 "mustache" "" }]
            variants := [("mustache", .html, ".html"), ("freemarker", .html, ".ftl"),
              ("thymeleaf", .html, ".html"), ("mustache", .html, ".mustache")] }
        resources :=
          { resolvers := [.bundled [("mail/hello.html", ByteArray.empty)]]
            parent := some "mail/"
            defaultLookup := some .bundled } }
    let sur : Surroundings := ⟨.bare, fun _ _ => true⟩
    let path (s : String) : ResourcePath := ⟨s, none, s⟩
    ∃ service s₁, p.build sur {} = (.ok service, s₁) ∧
      service.resolveVariant (path "hello") .html = .ok (path "hello.html") ∧
      (∃ found, service.resources.resolve (path "hello.html") = .ok found) ∧
      service.resolveVariant (path "hi") .html =
        .error ⟨.variant ⟨"hi", .html, ["hi.mustache", "hi.html"]⟩, []⟩ := by
  intro p sur path
  obtain ⟨service, s₁, hbuild⟩ : ∃ service s₁, p.build sur {} = (.ok service, s₁) := ⟨_, _, rfl⟩
  obtain ⟨hresources, hhello, hload, -⟩ :=
    resolveVariant_first_existing p sur {} s₁ service hbuild (path "hello") .html
  obtain ⟨-, hhi, -, -⟩ :=
    resolveVariant_first_existing p sur {} s₁ service hbuild (path "hi") .html
  have hhonest : ∀ r ∈ p.resources.resolvers, r.Honest := by
    intro r hr
    obtain rfl := List.mem_singleton.mp hr
    exact Resolver.honest_bundled _
  have hfirst : (p.templates.proposals (Session.valuation ⟨sur.source, fun _ => false⟩ {})
      ⟨path "hello", .html⟩).find? p.resources.build.has = some (path "hello.html") := by
    decide +kernel
  have hproposed : p.templates.proposals (Session.valuation ⟨sur.source, fun _ => false⟩ {})
      ⟨path "hi", .html⟩ = [path "hi.mustache", path "hi.html"] := by
    decide +kernel
  have hnone : [path "hi.mustache", path "hi.html"].find? p.resources.build.has = none := by
    decide +kernel
  simp only [hresources, hfirst] at hhello
  simp only [hresources, hproposed, hnone] at hhi
  exact ⟨service, s₁, hbuild, hhello, hload hhonest _ hhello, hhi⟩

end Messaging

end Postroom
