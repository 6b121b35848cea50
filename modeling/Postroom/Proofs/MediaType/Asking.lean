import Mathlib.Data.List.Forall2
import Postroom.MediaType.Provider
import Postroom.Proofs.Selection.Fallback

namespace Postroom

namespace MediaTypeProvider

variable {σ : Type} {i : MediaInput}

/-- Providers are asked one after the other from one state to another, and none of them can tell. -/
inductive Failing (i : MediaInput) : List (MediaTypeProvider σ) → σ → List MediaTypeError → σ → Prop
  | nil (s : σ) : Failing i [] s [] s
  | cons {p : MediaTypeProvider σ} {ps : List (MediaTypeProvider σ)} {e : MediaTypeError}
    {errors : List MediaTypeError} {s s' s'' : σ} (head : (p.detect i).run s = (.error e, s'))
    (tail : Failing i ps s' errors s'') : Failing i (p :: ps) s (e :: errors) s''

/-- Providers are asked one after the other from one state to another, up to the first that can
tell. -/
inductive Tells (i : MediaInput) : List (MediaTypeProvider σ) → σ → MediaType → σ → Prop
  | head {p : MediaTypeProvider σ} {m : MediaType} {s s' : σ} (ps : List (MediaTypeProvider σ))
    (told : (p.detect i).run s = (.ok m, s')) : Tells i (p :: ps) s m s'
  | tail {p : MediaTypeProvider σ} {ps : List (MediaTypeProvider σ)} {e : MediaTypeError}
    {m : MediaType} {s s' s'' : σ} (failed : (p.detect i).run s = (.error e, s'))
    (rest : Tells i ps s' m s'') : Tells i (p :: ps) s m s''

theorem failing_or_tells (i : MediaInput) (ps : List (MediaTypeProvider σ)) (s : σ) :
    (∃ errors s', Failing i ps s errors s') ∨ ∃ m s', Tells i ps s m s' := by
  induction ps generalizing s with
  | nil => exact .inl ⟨[], s, .nil s⟩
  | cons p ps ih =>
    rcases hp : (p.detect i).run s with ⟨e | m, s₁⟩
    · obtain ⟨errors, s', hps⟩ | ⟨m, s', hps⟩ := ih s₁
      · exact .inl ⟨e :: errors, s', .cons hp hps⟩
      · exact .inr ⟨m, s', .tail hp hps⟩
    · exact .inr ⟨m, s₁, .head ps hp⟩

theorem Failing.split {xs ys : List (MediaTypeProvider σ)} {errors : List MediaTypeError}
    {s s'' : σ} (h : Failing i (xs ++ ys) s errors s'') :
    ∃ errors₁ errors₂ s', errors = errors₁ ++ errors₂ ∧ Failing i xs s errors₁ s' ∧
      Failing i ys s' errors₂ s'' := by
  induction xs generalizing s errors with
  | nil => exact ⟨[], errors, s, rfl, .nil s, h⟩
  | cons x xs ih =>
    cases h with
    | cons head tail =>
      obtain ⟨errors₁, errors₂, s', rfl, hxs, hys⟩ := ih tail
      exact ⟨_ :: errors₁, errors₂, s', rfl, .cons head hxs, hys⟩

theorem Tells.split {xs ys : List (MediaTypeProvider σ)} {m : MediaType} {s s'' : σ}
    (h : Tells i (xs ++ ys) s m s'') :
    Tells i xs s m s'' ∨ ∃ errors s', Failing i xs s errors s' ∧ Tells i ys s' m s'' := by
  induction xs generalizing s with
  | nil => exact .inr ⟨[], s, .nil s, h⟩
  | cons x xs ih =>
    cases h with
    | head _ told => exact .inl (.head xs told)
    | tail failed rest =>
      obtain hxs | ⟨errors, s', hxs, hys⟩ := ih rest
      · exact .inl (.tail failed hxs)
      · exact .inr ⟨_, s', .cons failed hxs, hys⟩

theorem Failing.append_tells {xs ys : List (MediaTypeProvider σ)} {errors : List MediaTypeError}
    {m : MediaType} {s s' s'' : σ} (hxs : Failing i xs s errors s') (hys : Tells i ys s' m s'') :
    Tells i (xs ++ ys) s m s'' := by
  induction hxs with
  | nil => exact hys
  | cons head tail ih => exact .tail head (ih hys)

theorem tells_iff {ps : List (MediaTypeProvider σ)} {m : MediaType} {s s'' : σ} :
    Tells i ps s m s'' ↔ ∃ front p back errors s', ps = front ++ p :: back ∧
      Failing i front s errors s' ∧ (p.detect i).run s' = (.ok m, s'') := by
  constructor
  · intro h
    induction h with
    | @head p m s s' ps told => exact ⟨[], p, ps, [], s, rfl, .nil s, told⟩
    | @tail p ps e m s s' s'' failed rest ih =>
      obtain ⟨front, q, back, errors, s₁, rfl, hfront, hq⟩ := ih
      exact ⟨p :: front, q, back, e :: errors, s₁, rfl, .cons failed hfront, hq⟩
  · rintro ⟨front, p, back, errors, s', rfl, hfront, hp⟩
    exact hfront.append_tells (.head back hp)

theorem Failing.getElem? {ps : List (MediaTypeProvider σ)} {errors : List MediaTypeError}
    {s s' : σ} (h : Failing i ps s errors s') {n : Nat} {p : MediaTypeProvider σ}
    (hp : ps[n]? = some p) :
    ∃ e s₁ s₂, errors[n]? = some e ∧ Failing i (ps.take n) s (errors.take n) s₁ ∧
      (p.detect i).run s₁ = (.error e, s₂) := by
  induction h generalizing n with
  | nil => cases hp
  | @cons q ps e errors s s₁ s₂ head tail ih =>
    cases n with
    | zero =>
      cases hp
      exact ⟨e, s, s₁, rfl, .nil s, head⟩
    | succ n =>
      obtain ⟨e', s₃, s₄, he', hfront, hp'⟩ := ih hp
      exact ⟨e', s₃, s₄, he', .cons head hfront, hp'⟩

theorem attempt_run (i : MediaInput) (p : MediaTypeProvider σ) (s : σ) :
    (attempt i p).run s =
      match (p.detect i).run s with
      | (.ok m, s') => (.ok m, s')
      | (.error e, s') => (.error e.refusal, s') := by
  simp only [attempt, StateT.run_bind]
  rcases (p.detect i).run s with ⟨_ | _, s'⟩ <;> rfl

theorem fallback_run (ps : List (MediaTypeProvider σ)) (i : MediaInput) (s : σ) :
    ((fallback ps).detect i).run s =
      match ((executor ps).run (attempt i)).run s with
      | (.ok w, s') => (.ok w.value, s')
      | (.error e, s') => (.error (.noProvider e), s') := by
  simp only [fallback, StateT.run_bind]
  rcases ((executor ps).run (attempt i)).run s with ⟨_ | _, s'⟩ <;> rfl

theorem Failing.refused {ps : List (MediaTypeProvider σ)} {errors : List MediaTypeError}
    {s s' : σ} (h : Failing i ps s errors s') :
    Fallback.Refused (attempt i) (executor ps).candidates s (errors.map MediaTypeError.refusal)
      s' := by
  induction h with
  | nil s => exact .nil s
  | @cons p ps e errors s s₁ s₂ head tail ih =>
    have hhead : (attempt i p).run s = (.error e.refusal, s₁) := by rw [attempt_run, head]
    exact .cons hhead ih

def report (ps : List (MediaTypeProvider σ)) (errors : List MediaTypeError) : List Attempt :=
  Fallback.attemptsFrom 0 (executor ps).candidates (errors.map MediaTypeError.refusal)

theorem fallback_of_failing {ps : List (MediaTypeProvider σ)} {errors : List MediaTypeError}
    {s s' : σ} (h : Failing i ps s errors s') :
    ((fallback ps).detect i).run s =
      (.error (.noProvider ⟨fallbackName, report ps errors⟩), s') := by
  rw [fallback_run, Fallback.run_of_refused h.refused]
  rfl

theorem fallback_of_tells {ps : List (MediaTypeProvider σ)} {m : MediaType} {s s' : σ}
    (h : Tells i ps s m s') : ((fallback ps).detect i).run s = (.ok m, s') := by
  obtain ⟨front, p, back, errors, s₁, rfl, hfront, hp⟩ := tells_iff.mp h
  have hsuccess : (attempt i p).run s₁ = (.ok m, s') := by rw [attempt_run, hp]
  have hcandidates : (executor (front ++ p :: back)).candidates =
      (executor front).candidates ++ (p.name, p) :: (executor back).candidates := by
    simp [executor]
  rw [fallback_run, Fallback.run_of_success hcandidates hfront.refused hsuccess]

theorem Failing.length_report {ps : List (MediaTypeProvider σ)} {errors : List MediaTypeError}
    {s s' : σ} (h : Failing i ps s errors s') : (report ps errors).length = ps.length := by
  rw [report, Fallback.length_attemptsFrom 0 h.refused.length_eq, executor, List.length_map]

theorem getElem?_report {ps : List (MediaTypeProvider σ)} {errors : List MediaTypeError} {n : Nat}
    {p : MediaTypeProvider σ} {e : MediaTypeError} (hp : ps[n]? = some p)
    (he : errors[n]? = some e) : (report ps errors)[n]? = some ⟨n, p.name, e.refusal⟩ := by
  have hcandidate : (executor ps).candidates[n]? = some (p.name, p) := by simp [executor, hp]
  have hcause : (errors.map MediaTypeError.refusal)[n]? = some e.refusal := by simp [he]
  rw [report, Fallback.getElem?_attemptsFrom 0 hcandidate hcause, Nat.zero_add]

theorem error_of_fallback {ps : List (MediaTypeProvider σ)} {e : MediaTypeError} {s s' : σ}
    (h : ((fallback ps).detect i).run s = (.error e, s')) :
    ∃ attempts, e = .noProvider ⟨fallbackName, attempts⟩ := by
  obtain ⟨errors, s₁, hps⟩ | ⟨m, s₁, hps⟩ := failing_or_tells i ps s
  · rw [fallback_of_failing hps] at h
    cases h
    exact ⟨_, rfl⟩
  · rw [fallback_of_tells hps] at h
    cases h

/-- A provider does in a part of its state what another one does, under the same name. -/
structure Reflects {τ : Type} (view : τ → σ) (p : MediaTypeProvider σ)
    (q : MediaTypeProvider τ) : Prop where
  name : p.name = q.name
  run : ∀ {i s r s'}, (q.detect i).run s = (r, s') → (p.detect i).run (view s) = (r, view s')

section

variable {τ : Type} {view : τ → σ} {ps : List (MediaTypeProvider σ)}
  {qs : List (MediaTypeProvider τ)}

theorem Failing.reflects (h : List.Forall₂ (Reflects view) ps qs) {errors : List MediaTypeError}
    {s s' : τ} (hqs : Failing i qs s errors s') : Failing i ps (view s) errors (view s') := by
  induction h generalizing s errors with
  | nil =>
    cases hqs
    exact .nil _
  | cons hp hps ih =>
    cases hqs with
    | cons head tail => exact .cons (hp.run head) (ih tail)

theorem Tells.reflects (h : List.Forall₂ (Reflects view) ps qs) {m : MediaType} {s s' : τ}
    (hqs : Tells i qs s m s') : Tells i ps (view s) m (view s') := by
  induction h generalizing s with
  | nil => cases hqs
  | cons hp hps ih =>
    cases hqs with
    | head _ told => exact .head _ (hp.run told)
    | tail failed rest => exact .tail (hp.run failed) (ih rest)

theorem report_reflects (h : List.Forall₂ (Reflects view) ps qs) (errors : List MediaTypeError) :
    report ps errors = report qs errors := by
  have hkeys : (executor ps).candidates.map Prod.fst = (executor qs).candidates.map Prod.fst := by
    induction h with
    | nil => rfl
    | cons hp hps ih => exact congrArg₂ List.cons hp.name ih
  rw [report, report, Fallback.attemptsFrom_eq, Fallback.attemptsFrom_eq, hkeys]

theorem reflects_fallback (h : List.Forall₂ (Reflects view) ps qs) :
    Reflects view (fallback ps) (fallback qs) where
  name := rfl
  run := by
    intro i s r s' hr
    obtain ⟨errors, s₁, hqs⟩ | ⟨m, s₁, hqs⟩ := failing_or_tells i qs s
    · rw [fallback_of_failing hqs] at hr
      cases hr
      rw [fallback_of_failing (hqs.reflects h), report_reflects h]
    · rw [fallback_of_tells hqs] at hr
      cases hr
      exact fallback_of_tells (hqs.reflects h)

end

def recorded (p : MediaTypeProvider σ) : MediaTypeProvider (σ × List (MediaTypeProvider σ)) where
  name := p.name
  detect i := fun s =>
    let ended := (p.detect i).run s.1
    (ended.1, ended.2, s.2 ++ [p])

theorem recorded_run {p : MediaTypeProvider σ} {r : Except MediaTypeError MediaType} {s s' : σ}
    (h : (p.detect i).run s = (r, s')) (asked : List (MediaTypeProvider σ)) :
    (p.recorded.detect i).run (s, asked) = (r, s', asked ++ [p]) := by
  change (((p.detect i).run s).1, ((p.detect i).run s).2, asked ++ [p]) = _
  rw [h]

theorem reflects_recorded (p : MediaTypeProvider σ) : Reflects Prod.fst p p.recorded where
  name := rfl
  run h := by
    cases h
    rfl

theorem Failing.recorded {ps : List (MediaTypeProvider σ)} {errors : List MediaTypeError}
    {s s' : σ} (h : Failing i ps s errors s') (asked : List (MediaTypeProvider σ)) :
    Failing i (ps.map .recorded) (s, asked) errors (s', asked ++ ps) := by
  induction h generalizing asked with
  | nil s =>
    rw [List.append_nil]
    exact .nil _
  | @cons p ps e errors s s₁ s₂ head tail ih =>
    have htail := ih (asked ++ [p])
    rw [List.append_assoc, List.singleton_append] at htail
    exact .cons (recorded_run head asked) htail

theorem Failing.recorded_tells {front : List (MediaTypeProvider σ)}
    {errors : List MediaTypeError} {p : MediaTypeProvider σ} {m : MediaType} {s s' s'' : σ}
    (hfront : Failing i front s errors s') (hp : (p.detect i).run s' = (.ok m, s''))
    (back : List (MediaTypeProvider σ)) :
    Tells i ((front ++ p :: back).map .recorded) (s, []) m (s'', front ++ [p]) := by
  rw [List.map_append, List.map_cons]
  exact (hfront.recorded []).append_tells (.head _ (recorded_run hp _))

end MediaTypeProvider

end Postroom
