import Postroom.Proofs.Condition.Truth
import Postroom.Proofs.Selection.Firsts
import Postroom.Proofs.Sequence
import Postroom.Selection.Detection

namespace Postroom

namespace Dispatcher

variable {α ι : Type}

section

variable (w : Outside α) (s : Session α)

theorem register_eq (d : Dispatcher α ι) (c : Detectable α ι) :
    d.register c = { d with candidates := appendNew Detectable.key d.candidates c } := by
  unfold register appendNew keys
  split <;> rfl

theorem foldl_register (d : Dispatcher α ι) (cs : List (Detectable α ι)) :
    cs.foldl register d =
      { d with candidates := cs.foldl (appendNew Detectable.key) d.candidates } :=
  List.foldl_hom (fun l => { d with candidates := l }) fun l c =>
    register_eq { d with candidates := l } c

theorem eligibleOf_cons (c : Detectable α ι) (cs : List (Detectable α ι)) :
    eligibleOf w (c :: cs) s =
      (if (c.guard.eval w s).1 then c :: (eligibleOf w cs (c.guard.eval w s).2).1
        else (eligibleOf w cs (c.guard.eval w s).2).1,
      (eligibleOf w cs (c.guard.eval w s).2).2) := rfl

theorem detectOf_cons (c : Detectable α ι) (cs : List (Detectable α ι)) :
    detectOf w (c :: cs) s =
      if (c.detector.eval w s).1 then (some c, (c.detector.eval w s).2)
      else detectOf w cs (c.detector.eval w s).2 := by
  change (match c.detector.eval w s with
    | (b, s') => (if b then pure (some c) else detectOf w cs : Eval α _) s') = _
  cases c.detector.eval w s with
  | mk b s' => cases b <;> rfl

theorem eligibleOf_subset (cs : List (Detectable α ι)) : (eligibleOf w cs s).1 ⊆ cs := by
  induction cs generalizing s with
  | nil => exact List.Subset.refl []
  | cons c cs ih =>
    rw [eligibleOf_cons]
    dsimp only
    split
    · exact List.cons_subset_cons c (ih _)
    · exact List.subset_cons_of_subset c (ih _)

theorem eligibleOf_keeps {R : Session α → Session α → Prop} (hrefl : ∀ s, R s s)
    (htrans : ∀ {s t u}, R s t → R t u → R s u) {w : Outside α} {cs : List (Detectable α ι)}
    (h : ∀ c ∈ cs, ∀ s, R s (c.guard.eval w s).2) (s : Session α) :
    R s (eligibleOf w cs s).2 := by
  induction cs generalizing s with
  | nil => exact hrefl s
  | cons c cs ih =>
    rw [eligibleOf_cons]
    exact htrans (h c List.mem_cons_self s) (ih (fun d hd => h d (List.mem_cons_of_mem c hd)) _)

theorem mem_of_detectOf {cs : List (Detectable α ι)} {c : Detectable α ι}
    (h : (detectOf w cs s).1 = some c) : c ∈ cs := by
  induction cs generalizing s with
  | nil => cases h
  | cons d cs ih =>
    rw [detectOf_cons] at h
    split at h
    · cases h
      exact List.mem_cons_self
    · exact List.mem_cons_of_mem d (ih _ h)

variable [Named α] (guards detectors : Outside α) (subject : String) (d : Dispatcher α ι)

theorem dispatch_eq :
    d.dispatch guards detectors subject s =
      match (d.eligible guards s).1 with
      | [c] => (.ok ⟨c, true⟩, (d.eligible guards s).2)
      | cs =>
        (match (detectOf detectors cs (d.eligible guards s).2).1 with
          | some c => .ok ⟨c, false⟩
          | none => .error (d.noMatch subject),
        (detectOf detectors cs (d.eligible guards s).2).2) := by
  rcases he : d.eligible guards s with ⟨cs, s'⟩
  simp only [dispatch, bind, StateT.bind, he]
  rcases cs with _ | ⟨c, _ | ⟨c', cs⟩⟩
  · rfl
  · rfl
  · simp only [StateT.bind]
    rcases detectOf detectors (c :: c' :: cs) s' with ⟨_ | _, _⟩ <;> rfl

variable {guards detectors subject d}

theorem mem_eligible_of_dispatch {found : Detected α ι}
    (h : (d.dispatch guards detectors subject s).1 = .ok found) :
    found.candidate ∈ (d.eligible guards s).1 := by
  rw [dispatch_eq] at h
  split at h
  · rename_i c hsingle
    cases h
    rw [hsingle]
    exact List.mem_cons_self
  · dsimp only at h
    split at h
    · cases h
      rename_i c hfound
      exact mem_of_detectOf detectors _ hfound
    · cases h

theorem mem_of_dispatch {found : Detected α ι}
    (h : (d.dispatch guards detectors subject s).1 = .ok found) :
    found.candidate ∈ d.candidates :=
  eligibleOf_subset guards s d.candidates (mem_eligible_of_dispatch s h)

end

section

variable (a : Answers α) (s : Session α)

theorem eligibleOf_steady (cs : List (Detectable α ι)) :
    eligibleOf (.steady a) cs s =
      (cs.filter (·.guard.holds (s.valuation a)),
        Condition.consult (.steady a) (cs.map Detectable.guard) s) := by
  induction cs generalizing s with
  | nil => rfl
  | cons c cs ih =>
    have hanswer := congrArg Prod.fst (Condition.eval_lazily (a := a) c.guard s rfl)
    rw [eligibleOf_cons, ih, Condition.valuation_eval, hanswer, List.filter_cons]
    rfl

theorem detectOf_steady (cs : List (Detectable α ι)) :
    detectOf (.steady a) cs s =
      (cs.find? (·.detector.holds (s.valuation a)),
        Condition.consult (.steady a)
          ((through (·.detector.holds (s.valuation a)) cs).map Detectable.detector) s) := by
  induction cs generalizing s with
  | nil => rfl
  | cons c cs ih =>
    have hanswer := congrArg Prod.fst (Condition.eval_lazily (a := a) c.detector s rfl)
    rw [detectOf_cons, ih, Condition.valuation_eval, hanswer, List.find?_cons, through]
    dsimp only
    cases c.detector.holds (s.valuation a) <;> rfl

end

/-- All guards are evaluated once, before any detector. If a single one of the candidates that are
the first of their key is eligible it is taken, and no detector is evaluated; otherwise detectors of
eligible candidates are evaluated up to the first that accepts, and without one every candidate is
reported. -/
theorem dispatch_of_conditions [Named α] (name : String) (cs : List (Detectable α ι))
    (src : Source) (about invoked : α → Bool) (subject : String) (s : Session α) :
    let guards : Answers α := ⟨src, about⟩
    let detectors : Answers α := ⟨src, invoked⟩
    let d : Dispatcher α ι := cs.foldl register { name }
    let registered := firsts Detectable.key cs
    let eligible := registered.filter (·.guard.holds (s.valuation guards))
    let detects : Detectable α ι → Bool := (·.detector.holds (s.valuation detectors))
    let guarded := Condition.consult (.steady guards) (registered.map Detectable.guard) s
    d.eligible (.steady guards) s = (eligible, guarded) ∧
    d.eligibleKeys (.steady guards) s = (eligible.map Detectable.key, guarded) ∧
    d.dispatch (.steady guards) (.steady detectors) subject s =
      match eligible with
      | [c] => (.ok ⟨c, true⟩, guarded)
      | es =>
        (match es.find? detects with
          | some c => .ok ⟨c, false⟩
          | none => .error ⟨name, subject, registered.map fun c => (c.key, stepText c)⟩,
        Condition.consult (.steady detectors) ((through detects es).map Detectable.detector)
          guarded) := by
  intro guards detectors d registered eligible detects guarded
  have hd : d = { name, candidates := registered } := by
    simp only [d, foldl_register, foldl_appendNew_nil, registered]
  have heligible : d.eligible (.steady guards) s = (eligible, guarded) := by
    rw [hd]
    exact eligibleOf_steady guards s registered
  have hsource : guards.source = detectors.source := rfl
  have hkept : guarded.valuation detectors = s.valuation detectors :=
    Condition.valuation_consult_of_source hsource _ s
  refine ⟨heligible, ?_, ?_⟩
  · simp only [eligibleKeys, bind, StateT.bind, heligible]
    rfl
  · rw [dispatch_eq, heligible]
    simp only [detectOf_steady, hkept]
    rw [hd]
    rfl

end Dispatcher

end Postroom
