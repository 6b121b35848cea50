import Postroom.Proofs.Attempting
import Postroom.Proofs.Selection.Detection
import Postroom.Proofs.Selection.FirstMatch

namespace Postroom

variable {σ α β γ : Type} {src : Source}

namespace Session

variable {s t u : Session α}

/-- The sessions say the same about every capability, by their facts or by the source. -/
def Agrees (src : Source) (s t : Session α) : Prop :=
  ∀ test, s.valuation ⟨src, test⟩ = t.valuation ⟨src, test⟩

theorem Agrees.refl (s : Session α) : s.Agrees src s := fun _ => rfl

theorem Agrees.symm (h : s.Agrees src t) : t.Agrees src s := fun test => (h test).symm

theorem Agrees.trans (hst : s.Agrees src t) (htu : t.Agrees src u) : s.Agrees src u :=
  fun test => (hst test).trans (htu test)

theorem agrees_of_valuation {a : Answers α} (h : s.valuation a = t.valuation a) :
    s.Agrees a.source t := by
  intro test
  have hsource : a.source = (⟨a.source, test⟩ : Answers α).source := rfl
  rw [Condition.valuation_of_source hsource, Condition.valuation_of_source hsource, h]

theorem agrees_consult (a : Answers α) (cs : List (Condition α)) (s : Session α) :
    s.Agrees a.source (Condition.consult (.steady a) cs s) :=
  agrees_of_valuation (Condition.valuation_consult_of_source rfl cs s).symm

/-- The answer depends only on what is known, which stays as it is. -/
def Steady (src : Source) (e : Eval α β) : Prop :=
  ∀ s t : Session α, s.Agrees src t → (e s).1 = (e t).1 ∧ s.Agrees src (e s).2

theorem Steady.pure (b : β) : Steady src (pure b : Eval α β) :=
  fun s _ _ => ⟨rfl, .refl s⟩

theorem Steady.bind {e : Eval α β} {f : β → Eval α γ} (he : Steady src e)
    (hf : ∀ b, Steady src (f b)) : Steady src (e >>= f) := by
  intro s t hst
  obtain ⟨hanswer, hs⟩ := he s t hst
  have ht := (he t s hst.symm).2
  have hafter : (e s).2.Agrees src (e t).2 := hs.symm.trans (hst.trans ht)
  obtain ⟨hnext, hkept⟩ := hf (e s).1 _ _ hafter
  refine ⟨?_, hs.trans hkept⟩
  change (f (e s).1 (e s).2).1 = (f (e t).1 (e t).2).1
  rw [hnext, hanswer]

end Session

open Session

theorem Condition.steady_eval (a : Answers α) (c : Condition α) :
    Steady a.source (c.eval (.steady a)) := by
  intro s t hst
  rw [eval_lazily c s rfl, eval_lazily c t rfl]
  exact ⟨congrArg c.holds (hst a.test), agrees_consult a _ s⟩

theorem Registry.steady_find? {ι : Type} (a : Answers α) (now : Enabling α ι) (r : Registry α ι) :
    Steady a.source (r.find? (.steady a) now) := by
  intro s t hst
  obtain ⟨hs, hkept⟩ := firstOf_steady a now s r.candidates
  have ht := (firstOf_steady a now t r.candidates).1
  rw [← hst a.test, ← hs] at ht
  exact ⟨ht.symm, agrees_of_valuation hkept.symm⟩

theorem Dispatcher.steady_dispatch {ι : Type} [Named α] (d : Dispatcher α ι) {a b : Answers α}
    (hsource : a.source = b.source) (subject : String) :
    Steady a.source (d.dispatch (.steady a) (.steady b) subject) := by
  intro s t hst
  let guarded := fun u => Condition.consult (.steady a) (d.candidates.map Detectable.guard) u
  have heligible : ∀ u, d.eligible (.steady a) u =
      (d.candidates.filter (·.guard.holds (u.valuation a)), guarded u) :=
    fun u => eligibleOf_steady a u d.candidates
  have hguarded : ∀ u : Session α, (guarded u).valuation b = u.valuation b :=
    fun u => Condition.valuation_consult_of_source hsource _ u
  have ha : s.valuation a = t.valuation a := hst a.test
  have hb : s.valuation b = t.valuation b := by
    have hb := hst b.test
    rw [hsource] at hb
    exact hb
  have hkept : s.Agrees a.source (guarded s) := agrees_consult a _ s
  rw [dispatch_eq, dispatch_eq, heligible, heligible, ha]
  simp only [detectOf_steady, hguarded, hb]
  generalize d.candidates.filter (·.guard.holds (t.valuation a)) = eligible
  match eligible with
  | [c] => exact ⟨rfl, hkept⟩
  | [] | c :: c' :: cs =>
    refine ⟨rfl, hkept.trans ?_⟩
    rw [hsource]
    exact agrees_consult b _ (guarded s)

namespace Work

def Steady (src : Source) (x : Work σ β) : Prop := ∀ world, Session.Steady src (x world)

theorem Steady.pure (b : β) : Steady src (pure b : Work σ β) := fun world => .pure (b, world)

theorem Steady.bind {x : Work σ β} {f : β → Work σ γ} (hx : Steady src x)
    (hf : ∀ b, Steady src (f b)) : Steady src (x >>= f) :=
  fun world => (hx world).bind fun r => hf r.1 r.2

theorem Steady.ofEval {e : Eval Check β} (he : Session.Steady src e) :
    Steady src (ofEval e : Work σ β) :=
  fun world => he.bind fun b => .pure (b, world)

theorem Steady.ofAction (a : StateM σ β) : Steady src (ofAction a) :=
  fun world => .pure (a.run world)

end Work

namespace Attempting

def Steady (src : Source) (x : Attempting σ β) : Prop := Work.Steady src x.run

theorem Steady.agrees {x : Attempting σ β} (hx : Steady src x) {world world' : σ}
    {s s' : Session Check} {r : Except MessagingError β} (h : x world s = ((r, world'), s')) :
    s.Agrees src s' := by
  have hkept := (hx world s s (.refl s)).2
  change s.Agrees src (x world s).2 at hkept
  rwa [h] at hkept

theorem Steady.pure (b : β) : Steady src (pure b : Attempting σ β) :=
  Work.Steady.pure (Except.ok b : Except MessagingError β)

theorem Steady.throw (e : MessagingError) : Steady src (throw e : Attempting σ β) :=
  Work.Steady.pure (Except.error e : Except MessagingError β)

theorem Steady.lift {x : Work σ β} (hx : Work.Steady src x) :
    Steady src (ExceptT.lift x : Attempting σ β) :=
  hx.bind fun b => .pure (Except.ok b : Except MessagingError β)

theorem Steady.bind {x : Attempting σ β} {f : β → Attempting σ γ} (hx : Steady src x)
    (hf : ∀ b, Steady src (f b)) : Steady src (x >>= f) := by
  have hcont : ∀ r, Work.Steady src (ExceptT.bindCont f r) := by
    intro r
    cases r with
    | ok b => exact hf b
    | error e => exact Steady.throw e
  exact Work.Steady.bind hx hcont

theorem Steady.mapM {f : β → Attempting σ γ} {xs : List β} (hf : ∀ x ∈ xs, Steady src (f x)) :
    Steady src (xs.mapM f) := by
  induction xs with
  | nil => exact .pure []
  | cons x xs ih =>
    obtain ⟨hx, hxs⟩ := List.forall_mem_cons.mp hf
    rw [List.mapM_cons]
    exact hx.bind fun y => (ih hxs).bind fun ys => .pure (y :: ys)

theorem Steady.foldlM {f : γ → β → Attempting σ γ} {xs : List β}
    (hf : ∀ x ∈ xs, ∀ c, Steady src (f c x)) (c : γ) : Steady src (xs.foldlM f c) := by
  induction xs generalizing c with
  | nil => exact .pure c
  | cons x xs ih =>
    obtain ⟨hx, hxs⟩ := List.forall_mem_cons.mp hf
    rw [List.foldlM_cons]
    exact (hx c).bind fun d => ih hxs d

end Attempting

end Postroom
