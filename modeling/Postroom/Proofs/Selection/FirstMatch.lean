import Postroom.Proofs.Condition.Truth
import Postroom.Selection.Registry

namespace Postroom

variable {α ι : Type}

namespace Candidate

def holds (v : Valuation α) (now : Enabling α ι) (c : Candidate α ι) : Bool :=
  c.guard.all (·.holds v) && (!c.hooked || (now c.implementation).holds v)

def guarded (w : Outside α) (c : Candidate α ι) : Eval α Bool :=
  match c.guard with
  | none => pure true
  | some g => g.eval w

theorem accepts_eq (w : Outside α) (now : Enabling α ι) (c : Candidate α ι) (s : Session α) :
    c.accepts w now s =
      if (c.guarded w s).1 && c.hooked then
        (now c.implementation).eval w (Session.note (.hook c.key) (c.guarded w s).2).2
      else c.guarded w s := by
  obtain ⟨key, i, guard, hooked⟩ := c
  cases guard with
  | none => cases hooked <;> rfl
  | some g =>
    change (match g.eval w s with
      | (b, s') => (if b && hooked then do
          Session.note (.hook key)
          (now i).eval w
        else pure b : Eval α Bool) s') = _
    change _ = if (g.eval w s).1 && hooked then
        (now i).eval w (Session.note (.hook key) (g.eval w s).2).2 else g.eval w s
    cases g.eval w s with
    | mk b s' => cases b <;> cases hooked <;> rfl

variable (a : Answers α) (now : Enabling α ι) (c : Candidate α ι) (s : Session α)

theorem guarded_steady :
    (c.guarded (.steady a) s).1 = c.guard.all (·.holds (s.valuation a)) ∧
      (c.guarded (.steady a) s).2.valuation a = s.valuation a := by
  unfold guarded
  cases c.guard with
  | none => exact ⟨rfl, rfl⟩
  | some g =>
    exact ⟨congrArg Prod.fst (Condition.eval_lazily g s rfl), Condition.valuation_eval a g s⟩

theorem accepts_steady :
    (c.accepts (.steady a) now s).1 = c.holds (s.valuation a) now ∧
      (c.accepts (.steady a) now s).2.valuation a = s.valuation a := by
  obtain ⟨hanswer, hkept⟩ := guarded_steady a c s
  rw [accepts_eq]
  cases hg : (c.guarded (.steady a) s).1 && c.hooked with
  | false =>
    refine ⟨?_, hkept⟩
    rw [if_neg Bool.false_ne_true, Candidate.holds, ← hanswer]
    cases hh : c.hooked with
    | false => simp
    | true =>
      rw [hh, Bool.and_true] at hg
      rw [hg]
      rfl
  | true =>
    rw [Bool.and_eq_true] at hg
    have hnoted : (Session.note (.hook c.key) (c.guarded (.steady a) s).2).2.valuation a =
        s.valuation a := hkept
    have hhook := Condition.eval_lazily (now c.implementation) _ hnoted
    refine ⟨?_, (Condition.valuation_eval a _ _).trans hnoted⟩
    rw [Candidate.holds, ← hanswer, hg.1, hg.2]
    exact congrArg Prod.fst hhook

end Candidate

namespace Registry

variable (w : Outside α) (a : Answers α) (now : Enabling α ι) (s : Session α)

theorem firstOf_cons (c : Candidate α ι) (cs : List (Candidate α ι)) :
    firstOf w now (c :: cs) s =
      if (c.accepts w now s).1 then (some c, (c.accepts w now s).2)
      else firstOf w now cs (c.accepts w now s).2 := by
  change (match c.accepts w now s with
    | (b, s') => (if b then pure (some c) else firstOf w now cs : Eval α _) s') = _
  cases c.accepts w now s with
  | mk b s' => cases b <;> rfl

theorem firstOf_steady (cs : List (Candidate α ι)) :
    (firstOf (.steady a) now cs s).1 = cs.find? (·.holds (s.valuation a) now) ∧
      (firstOf (.steady a) now cs s).2.valuation a = s.valuation a := by
  induction cs generalizing s with
  | nil => exact ⟨rfl, rfl⟩
  | cons c cs ih =>
    obtain ⟨hanswer, hkept⟩ := c.accepts_steady a now s
    rw [firstOf_cons, hanswer, List.find?_cons]
    cases hc : c.holds (s.valuation a) now with
    | true => exact ⟨rfl, hkept⟩
    | false =>
      obtain ⟨hfirst, hlast⟩ := ih (c.accepts (.steady a) now s).2
      rw [hkept] at hfirst hlast
      exact ⟨hfirst, hlast⟩

variable [Named α]

theorem select_eq (subject : String) (r : Registry α ι) :
    r.select w now subject s =
      (match (r.find? w now s).1 with
        | some c => .ok c
        | none => .error (r.noMatch subject), (r.find? w now s).2) := by
  change (match r.find? w now s with
    | (o, s') => (match o with
      | some c => return .ok c
      | none => return .error (r.noMatch subject) :
      Eval α (Except NoMatch (Candidate α ι))) s') = _
  cases r.find? w now s with
  | mk o s' => cases o <;> rfl

theorem select_steady (r : Registry α ι) (subject : String) :
    (r.select (.steady a) now subject s).1 =
        (match r.candidates.find? (·.holds (s.valuation a) now) with
          | some c => .ok c
          | none => .error (r.noMatch subject)) ∧
      (r.select (.steady a) now subject s).2.valuation a = s.valuation a := by
  obtain ⟨hfirst, hkept⟩ := firstOf_steady a now s r.candidates
  rw [select_eq, ← hfirst]
  exact ⟨rfl, hkept⟩

end Registry

end Postroom
