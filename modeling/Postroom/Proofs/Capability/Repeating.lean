import Postroom.Proofs.Capability.Period

namespace Postroom

variable {α : Type}

namespace Session

variable {w : Outside α} {s : Session α} {x : FactKind × String}

theorem presence_extends (w : Outside α) (x : FactKind × String) (s : Session α) :
    (presence w x s).2.facts.Extends s.facts := by
  cases hx : s.facts.answer? x with
  | some b =>
    rw [presence_known w hx]
    exact .refl _
  | none =>
    rw [presence_unknown w hx]
    exact Facts.extends_remember hx _

theorem answer?_presence (w : Outside α) (x : FactKind × String) (s : Session α) :
    (presence w x s).2.facts.answer? x = some (presence w x s).1 := by
  cases hx : s.facts.answer? x with
  | some b =>
    rw [presence_known w hx]
    exact hx
  | none =>
    rw [presence_unknown w hx, Facts.answer?_remember, if_pos rfl]

end Session

namespace Condition

/-- The condition looks at no value, and all its tests are of a kind. -/
inductive OnFacts (kind : α → Prop) : Condition α → Prop
  | always (b : Bool) : OnFacts kind (.always b)
  | all {cs : List (Condition α)} : (∀ c ∈ cs, OnFacts kind c) → OnFacts kind (.all cs)
  | any {cs : List (Condition α)} : (∀ c ∈ cs, OnFacts kind c) → OnFacts kind (.any cs)
  | not {c : Condition α} : OnFacts kind c → OnFacts kind (.not c)
  | component (n : String) : OnFacts kind (.component n)
  | key (k : String) : OnFacts kind (.key k)
  | test {p : α} : kind p → OnFacts kind (.test p)

theorem eval_extends (w : Outside α) (c : Condition α) (s : Session α) :
    (eval w c s).2.facts.Extends s.facts :=
  eval_keeps (R := fun s t => t.facts.Extends s.facts) (fun _ => .refl _)
    (fun hst htu => htu.trans hst) (fun n s => Session.presence_extends w (.component, n) s)
    (fun k s => Session.presence_extends w (.key, k) s) (fun _ _ => .refl _) c s

theorem evalTo_extends (w : Outside α) (decisive : Bool) (cs : List (Condition α))
    (s : Session α) : (evalTo w decisive cs s).2.facts.Extends s.facts :=
  evalTo_keeps (R := fun s t => t.facts.Extends s.facts) (fun _ => .refl _)
    (fun hst htu => htu.trans hst) decisive cs (fun c _ s => eval_extends w c s) s

/-- Where all facts of the first evaluation are known, the second gives the same answer, leaves the
facts and puts only tests to the outside. -/
def Repeats (second first : Eval α Bool) : Prop :=
  ∀ s t : Session α, t.facts.Extends (first s).2.facts →
    ∃ tests : List α, second t = ((first s).1, ⟨t.facts, t.asked ++ tests.map .test⟩)

section

variable {w₁ w₂ : Outside α}

theorem presence_repeats (x : FactKind × String) :
    Repeats (Session.presence w₂ x) (Session.presence w₁ x) := by
  intro s t h
  have hx := h x _ (Session.answer?_presence w₁ x s)
  exact ⟨[], by simp [Session.presence_known w₂ hx]⟩

theorem evalTo_repeats (decisive : Bool) (cs : List (Condition α))
    (ih : ∀ c ∈ cs, Repeats (eval w₂ c) (eval w₁ c)) :
    Repeats (evalTo w₂ decisive cs) (evalTo w₁ decisive cs) := by
  induction cs with
  | nil => exact fun s t _ => ⟨[], by simp [evalTo]⟩
  | cons c cs ihs =>
    intro s t h
    rw [evalTo] at h
    have hknown : t.facts.Extends (eval w₁ c s).2.facts := by
      split at h
      · exact h
      · exact h.trans (evalTo_extends w₁ decisive cs _)
    obtain ⟨tests, hc⟩ := ih c List.mem_cons_self s t hknown
    rw [evalTo, evalTo, hc]
    by_cases hb : (eval w₁ c s).1 = decisive
    · simp only [hb, if_true]
      exact ⟨tests, rfl⟩
    · simp only [hb, if_false] at h ⊢
      obtain ⟨more, hcs⟩ := ihs (fun d hd => ih d (List.mem_cons_of_mem c hd)) _
        ⟨t.facts, t.asked ++ tests.map .test⟩ h
      exact ⟨tests ++ more, by rw [hcs, List.map_append, List.append_assoc]⟩

def Agree (w₁ w₂ : Outside α) (p : α) : Prop := ∀ h₁ h₂, (w₁ h₁).test p = (w₂ h₂).test p

theorem OnFacts.repeats {c : Condition α} (hc : c.OnFacts (Agree w₁ w₂)) :
    Repeats (eval w₂ c) (eval w₁ c) := by
  induction hc with
  | always b => exact fun s t _ => ⟨[], by simp [eval_always]⟩
  | all hcs ih =>
    intro s t h
    rw [eval_all] at h ⊢
    rw [eval_all]
    exact evalTo_repeats false _ ih s t h
  | any hcs ih =>
    intro s t h
    rw [eval_any] at h ⊢
    rw [eval_any]
    exact evalTo_repeats true _ ih s t h
  | not hc ih =>
    intro s t h
    obtain ⟨tests, hc⟩ := ih s t h
    exact ⟨tests, by rw [eval_not, eval_not, hc]⟩
  | component n => exact presence_repeats (.component, n)
  | key k => exact presence_repeats (.key, k)
  | @test p hp =>
    intro s t _
    have hanswer : (Session.test w₂ p t).1 = (Session.test w₁ p s).1 := (hp _ _).symm
    exact ⟨[p], Prod.ext hanswer rfl⟩

end

end Condition

namespace Period

theorem step_extends (p : Period α) (w : Outside α) {call : Call α} (h : call ≠ .reset) :
    (p.step w call).session.facts.Extends p.session.facts := by
  cases call with
  | component n => exact Session.presence_extends w (.component, n) p.session
  | key k => exact Session.presence_extends w (.key, k) p.session
  | value k => exact .refl _
  | accept c => exact c.eval_extends w p.session
  | reset => exact absurd rfl h

theorem run_append (before after : List (Outside α × Call α)) :
    run (before ++ after) = after.foldl (fun p call => p.step call.1 call.2) (run before) :=
  List.foldl_append

theorem foldl_extends (calls : List (Outside α × Call α)) (h : ∀ call ∈ calls, call.2 ≠ .reset)
    (p : Period α) :
    (calls.foldl (fun p call => p.step call.1 call.2) p).session.facts.Extends p.session.facts := by
  induction calls generalizing p with
  | nil => exact .refl _
  | cons call calls ih =>
    have hstep := p.step_extends call.1 (h call List.mem_cons_self)
    exact (ih (fun d hd => h d (List.mem_cons_of_mem call hd)) _).trans hstep

/-- A condition on facts that was evaluated at some moment of a run keeps its answer for as long as
the facts are not forgotten: another evaluation asks the source nothing and leaves the facts. -/
theorem answer_kept_until_reset (before between : List (Outside α × Call α)) (w₁ w₂ : Outside α)
    (c : Condition α) (hc : c.OnFacts (Condition.Agree w₁ w₂))
    (hbetween : ∀ call ∈ between, call.2 ≠ .reset) :
    let first := c.eval w₁ (run before).session
    let p := run (before ++ (w₁, .accept c) :: between)
    ∃ tests : List α, c.eval w₂ p.session =
      (first.1, ⟨p.session.facts, p.session.asked ++ tests.map .test⟩) := by
  intro first p
  have hp : p = between.foldl (fun p call => p.step call.1 call.2)
      ((run before).step w₁ (.accept c)) := run_append before _
  have hknown : p.session.facts.Extends first.2.facts := hp ▸ foldl_extends between hbetween _
  exact hc.repeats (run before).session p.session hknown

theorem answer_kept_until_reset_gone :
    let up : Outside Nat := .steady ⟨⟨fun _ => true, fun _ => none, fun _ => true⟩, (· == 1)⟩
    let down : Outside Nat := .steady ⟨.bare, (· == 1)⟩
    let c : Condition Nat := .all [.component "smtp", .any [.test 0, .key "host"], .test 1]
    let between : List (Outside Nat × Call Nat) :=
      [(down, .accept (.any [.component "relay", .component "smtp"])), (down, .value "host")]
    let p := run ((up, .accept c) :: between)
    c.OnFacts (Condition.Agree up down) ∧ (∀ call ∈ between, call.2 ≠ .reset) ∧
      (c.eval down {}).1 = false ∧
      ∃ tests : List Nat, c.eval down p.session =
        (true, ⟨p.session.facts, p.session.asked ++ tests.map .test⟩) := by
  intro up down c between p
  have hc : c.OnFacts (Condition.Agree up down) := by
    refine .all ?_
    simp only [List.forall_mem_cons, List.not_mem_nil, false_imp_iff, implies_true, and_true]
    refine ⟨.component "smtp", .any ?_, .test fun _ _ => rfl⟩
    simp only [List.forall_mem_cons, List.not_mem_nil, false_imp_iff, implies_true, and_true]
    exact ⟨.test fun _ _ => rfl, .key "host"⟩
  have hbetween : ∀ call ∈ between, call.2 ≠ .reset := by simp [between]
  exact ⟨hc, hbetween, rfl, answer_kept_until_reset [] between up down c hc hbetween⟩

end Period

end Postroom
