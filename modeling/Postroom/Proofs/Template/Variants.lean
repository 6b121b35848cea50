import Postroom.Proofs.Keyed
import Postroom.Proofs.Requirement.Meaning
import Postroom.Proofs.Template.Rendering

namespace Postroom

theorem lookup_putVariant (v u : Variant) (x : String) (es : List (Variant × String)) :
    (putVariant v x es).lookup u = if u = v then some x else es.lookup u := by
  have hcons : ∀ w y es, putVariant v x ((w, y) :: es) =
      if w = v then (v, x) :: es else (w, y) :: putVariant v x es := fun _ _ _ => rfl
  exact lookup_of_put (putVariant v x) rfl hcons u es

namespace TemplatePlan

def lastGiven (given : List (String × Variant × String)) (engine : String) (v : Variant) :
    Option String :=
  (given.reverse.find? fun x => x.1 = engine ∧ x.2.1 = v).map (·.2.2)

theorem lastGiven_cons (x : String × Variant × String) (given : List (String × Variant × String))
    (engine : String) (v : Variant) :
    lastGiven (x :: given) engine v =
      (lastGiven given engine v).or (if x.1 = engine ∧ x.2.1 = v then some x.2.2 else none) := by
  simp only [lastGiven, List.reverse_cons, List.find?_append, List.find?_singleton,
    decide_eq_true_eq]
  cases given.reverse.find? _ with
  | some y => rfl
  | none => split <;> rfl

def extension? (t : AdapterTable (List (Variant × String))) (engine : String) (v : Variant) :
    Option String :=
  (t.get? engine).bind (·.lookup v)

def put (t : AdapterTable (List (Variant × String))) (x : String × Variant × String) :
    AdapterTable (List (Variant × String)) :=
  t.register x.1 (putVariant x.2.1 x.2.2 ((t.get? x.1).getD []))

theorem get?_put (t : AdapterTable (List (Variant × String))) (x : String × Variant × String)
    (engine : String) :
    (put t x).get? engine = if engine = x.1
      then some (putVariant x.2.1 x.2.2 ((t.get? x.1).getD [])) else t.get? engine :=
  lookup_putKey x.1 engine _ t.entries

theorem extension?_put (t : AdapterTable (List (Variant × String)))
    (x : String × Variant × String) (engine : String) (v : Variant) :
    extension? (put t x) engine v =
      if x.1 = engine ∧ x.2.1 = v then some x.2.2 else extension? t engine v := by
  have hgetD : ((t.get? x.1).getD []).lookup v = extension? t x.1 v := by
    unfold extension?
    cases t.get? x.1 <;> rfl
  rw [extension?, get?_put]
  by_cases he : engine = x.1
  · subst he
    rw [if_pos rfl, Option.bind_some, lookup_putVariant, hgetD]
    simp only [true_and, eq_comm]
  · rw [if_neg he, if_neg fun h => he h.1.symm]
    rfl

theorem extension?_foldl_put (given : List (String × Variant × String))
    (t : AdapterTable (List (Variant × String))) (engine : String) (v : Variant) :
    extension? (given.foldl put t) engine v =
      (lastGiven given engine v).or (extension? t engine v) := by
  -- what the table holds at first counts only where nothing is given
  induction given generalizing t with
  | nil => rfl
  | cons x given ih =>
    rw [List.foldl_cons, ih, extension?_put, lastGiven_cons, Option.or_assoc]
    congr 1
    split <;> rfl

theorem extension?_table (given : List (String × Variant × String)) (engine : String)
    (v : Variant) : extension? (table given) engine v = lastGiven given engine v := by
  refine (extension?_foldl_put given _ engine v).trans ?_
  exact Option.or_none

variable {σ : Type}

def eligible (p : TemplatePlan σ) (v : Valuation Check) : List (EnginePlan σ) :=
  (firsts (·.parser.name) p.engines).filter fun e => e.parser.requirements.MetBy v

/-- Where the variant of a template may be: its path with the extension of each engine that takes
part and has one. -/
def proposals (p : TemplatePlan σ) (v : Valuation Check) (q : VariantRequest) :
    List ResourcePath :=
  (p.eligible v).filterMap fun e =>
    (lastGiven p.variants e.parser.name q.variant).map fun x =>
      q.template.withPath (q.template.path ++ x)

variable {p : TemplatePlan σ} {engine : TemplateEngine σ}

theorem eligibleKeys_of_build (h : p.build = .ok engine) (a : Answers Check)
    (s : Session Check) :
    (engine.dispatcher.eligibleKeys (.steady a) s).1 =
      (p.eligible (s.valuation a)).map (·.parser.name) := by
  obtain ⟨cs, hcs, rfl⟩ := engine_of_build h
  let facts := s.valuation a
  have hanswers : cs.map (fun c => (c.key, c.guard.holds facts)) =
      p.engines.map fun e => (e.parser.name, decide (e.parser.requirements.MetBy facts)) := by
    refine map_of_mapM_ok hcs fun e _ c hc => ?_
    obtain ⟨hkey, -, hguard⟩ := parts_of_candidate hc
    have hmet : c.guard.holds facts = decide (e.parser.requirements.MetBy facts) := by
      rw [Bool.eq_iff_iff, decide_eq_true_iff]
      exact Requirements.holds_compile hguard
    rw [hkey, hmet]
  -- a filter by the answers keeps the same names on both sides
  have hfirsts := congrArg (fun l => ((firsts Prod.fst l).filter Prod.snd).map Prod.fst) hanswers
  simp only [firsts_map, List.filter_map, List.map_map, Function.comp_def] at hfirsts
  have heligible := congrArg Prod.fst (Dispatcher.eligibleOf_steady a s (firsts Detectable.key cs))
  exact (congrArg (List.map Detectable.key) heligible).trans hfirsts

theorem names_of_eligible_nodup (p : TemplatePlan σ) (v : Valuation Check) :
    ((p.eligible v).map (·.parser.name)).Nodup :=
  (List.filter_sublist.map _).nodup (firsts_nodup (fun e => e.parser.name) p.engines)

theorem variantResolvers_of_build (h : p.build = .ok engine) (sur : Surroundings)
    (s : Session Check) :
    (engine.variantResolvers sur s).1 =
      ((p.eligible (s.valuation ⟨sur.source, fun _ => false⟩)).map (·.parser.name)).filterMap
        fun n => ((table p.variants).get? n).map fun xs => ⟨n, xs⟩ := by
  have hnames := eligibleKeys_of_build h ⟨sur.source, fun _ => false⟩ s
  obtain ⟨cs, -, rfl⟩ := engine_of_build h
  rw [← hnames]
  rfl

theorem names_variantResolvers (h : p.build = .ok engine) (sur : Surroundings)
    (s : Session Check) :
    (engine.variantResolvers sur s).1.map VariantResolver.name =
      ((p.eligible (s.valuation ⟨sur.source, fun _ => false⟩)).map (·.parser.name)).filter
        fun n => ((table p.variants).get? n).isSome := by
  have hguard : (fun n => Option.map VariantResolver.name
      (((table p.variants).get? n).map fun xs => ⟨n, xs⟩)) =
        Option.guard fun n => ((table p.variants).get? n).isSome := by
    funext n
    cases hget : (table p.variants).get? n <;> simp [Option.guard, hget]
  rw [variantResolvers_of_build h, List.map_filterMap, hguard, List.filterMap_eq_filter]

theorem nodup_variantResolvers (h : p.build = .ok engine) (sur : Surroundings)
    (s : Session Check) : ((engine.variantResolvers sur s).1.map VariantResolver.name).Nodup := by
  rw [names_variantResolvers h]
  exact List.filter_sublist.nodup (names_of_eligible_nodup p _)

theorem proposals_of_build (h : p.build = .ok engine) (sur : Surroundings) (s : Session Check)
    (q : VariantRequest) :
    (engine.variantResolvers sur s).1.filterMap (·.candidate? q) =
      p.proposals (s.valuation ⟨sur.source, fun _ => false⟩) q := by
  rw [variantResolvers_of_build h, List.filterMap_filterMap, List.filterMap_map, proposals]
  congr 1
  funext e
  rw [Function.comp_apply]
  rw [← extension?_table, extension?]
  cases (table p.variants).get? e.parser.name <;> rfl

end TemplatePlan

end Postroom
