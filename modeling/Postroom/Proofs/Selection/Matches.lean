import Postroom.Proofs.Selection.FirstMatch
import Postroom.Proofs.Sequence

namespace Postroom

variable {α ι : Type}

namespace Candidate

/-- A part of the evaluation of a candidate. -/
inductive Step (α : Type)
  | guard (c : Condition α)
  | hook (candidate : String) (c : Condition α)

def Step.after (w : Outside α) (s : Session α) : Step α → Session α
  | guard c => (c.eval w s).2
  | hook candidate c => (c.eval w (Session.note (.hook candidate) s).2).2

def steps (v : Valuation α) (now : Enabling α ι) (c : Candidate α ι) : List (Step α) :=
  c.guard.toList.map .guard ++
    if c.hooked && c.guard.all (·.holds v) then [.hook c.key (now c.implementation)] else []

def evaluated (a : Answers α) (now : Enabling α ι) (cs : List (Candidate α ι)) (s : Session α) :
    Session α :=
  (cs.flatMap (steps (s.valuation a) now)).foldl (Step.after (.steady a)) s

section

variable (a : Answers α) (now : Enabling α ι) (c : Candidate α ι) (s : Session α)

theorem guarded_session (w : Outside α) :
    (c.guarded w s).2 = (c.guard.toList.map Step.guard).foldl (Step.after w) s := by
  unfold guarded
  cases c.guard <;> rfl

theorem accepts_session :
    (c.accepts (.steady a) now s).2 =
      (steps (s.valuation a) now c).foldl (Step.after (.steady a)) s := by
  rw [accepts_eq, steps, List.foldl_append, ← guarded_session, (guarded_steady a c s).1,
    Bool.and_comm c.hooked]
  cases c.guard.all (·.holds (s.valuation a)) && c.hooked <;> rfl

theorem evaluated_cons (cs : List (Candidate α ι)) :
    evaluated a now (c :: cs) s = evaluated a now cs (c.accepts (.steady a) now s).2 := by
  unfold evaluated
  rw [List.flatMap_cons, List.foldl_append, ← accepts_session, (c.accepts_steady a now s).2]

end

end Candidate

namespace Registry

section

variable (w : Outside α) (a : Answers α) (now : Enabling α ι) (s : Session α)

theorem firstOf_session (cs : List (Candidate α ι)) :
    (firstOf (.steady a) now cs s).2 =
      Candidate.evaluated a now (through (·.holds (s.valuation a) now) cs) s := by
  induction cs generalizing s with
  | nil => rfl
  | cons c cs ih =>
    obtain ⟨hanswer, hkept⟩ := c.accepts_steady a now s
    rw [firstOf_cons, through, Candidate.evaluated_cons, hanswer]
    cases hc : c.holds (s.valuation a) now with
    | true => rfl
    | false =>
      -- What is known after this candidate is what was known before it.
      have hrest := ih (c.accepts (.steady a) now s).2
      rwa [hkept] at hrest

theorem allOf_cons (c : Candidate α ι) (cs : List (Candidate α ι)) :
    allOf w now (c :: cs) s =
      (if (c.accepts w now s).1 then c :: (allOf w now cs (c.accepts w now s).2).1
        else (allOf w now cs (c.accepts w now s).2).1,
      (allOf w now cs (c.accepts w now s).2).2) := rfl

theorem allOf_steady (cs : List (Candidate α ι)) :
    allOf (.steady a) now cs s =
      (cs.filter (·.holds (s.valuation a) now), Candidate.evaluated a now cs s) := by
  induction cs generalizing s with
  | nil => rfl
  | cons c cs ih =>
    obtain ⟨hanswer, hkept⟩ := c.accepts_steady a now s
    rw [allOf_cons, ih, hanswer, hkept, Candidate.evaluated_cons, List.filter_cons]

theorem evaluated_valuation (cs : List (Candidate α ι)) :
    (Candidate.evaluated a now cs s).valuation a = s.valuation a := by
  induction cs generalizing s with
  | nil => rfl
  | cons c cs ih =>
    rw [Candidate.evaluated_cons, ih]
    exact (c.accepts_steady a now s).2

theorem find?_steady (r : Registry α ι) :
    r.find? (.steady a) now s =
      (r.candidates.find? (·.holds (s.valuation a) now),
        Candidate.evaluated a now (through (·.holds (s.valuation a) now) r.candidates) s) :=
  Prod.ext (firstOf_steady a now s r.candidates).1 (firstOf_session a now s r.candidates)

end

variable [Named α]

theorem selectAll_eq (w : Outside α) (now : Enabling α ι) (subject : String) (demand : Demand)
    (s : Session α) (r : Registry α ι) :
    r.selectAll w now subject demand s =
      (if demand = .atLeastOne ∧ (allOf w now r.candidates s).1 = []
        then .error (r.noMatch subject) else .ok (allOf w now r.candidates s).1,
      (allOf w now r.candidates s).2) := by
  change (match allOf w now r.candidates s with
    | (cs, s') => (if cs.isEmpty && demand == Demand.atLeastOne
      then return .error (r.noMatch subject)
      else return .ok cs : Eval α (Except NoMatch (List (Candidate α ι)))) s') = _
  cases allOf w now r.candidates s with
  | mk cs s' => cases cs <;> cases demand <;> rfl

theorem selectAll_steady (a : Answers α) (now : Enabling α ι) (subject : String) (demand : Demand)
    (s : Session α) (r : Registry α ι) :
    r.selectAll (.steady a) now subject demand s =
      (if demand = .atLeastOne ∧ ∀ c ∈ r.candidates, c.holds (s.valuation a) now = false
        then .error (r.noMatch subject)
        else .ok (r.candidates.filter (·.holds (s.valuation a) now)),
      Candidate.evaluated a now r.candidates s) := by
  simp only [selectAll_eq, allOf_steady, List.filter_eq_nil_iff, Bool.not_eq_true]

/-- A selection for some subject: what tests answer about it, and when implementations are
enabled. -/
inductive Selection (α ι : Type)
  | find (test : α → Bool) (now : Enabling α ι)
  | select (test : α → Bool) (now : Enabling α ι) (subject : String)
  | all (test : α → Bool) (now : Enabling α ι) (subject : String) (demand : Demand)

def Selection.after (src : Source) (r : Registry α ι) (s : Session α) :
    Selection α ι → Session α
  | find test now => (r.find? (.steady ⟨src, test⟩) now s).2
  | select test now subject => (r.select (.steady ⟨src, test⟩) now subject s).2
  | all test now subject demand => (r.selectAll (.steady ⟨src, test⟩) now subject demand s).2

theorem Selection.after_valuation (a : Answers α) (r : Registry α ι) (s : Session α)
    (x : Selection α ι) : (x.after a.source r s).valuation a = s.valuation a := by
  have hkept : ∀ test now (cs : List (Candidate α ι)),
      (Candidate.evaluated ⟨a.source, test⟩ now cs s).valuation a = s.valuation a := by
    intro test now cs
    -- The tests are those of another subject, but facts depend on the source alone.
    have hsource : (⟨a.source, test⟩ : Answers α).source = a.source := rfl
    rw [Condition.valuation_of_source hsource, evaluated_valuation,
      ← Condition.valuation_of_source hsource]
  cases x with
  | find test now =>
    rw [after, find?_steady]
    exact hkept test now _
  | select test now subject =>
    rw [after, select_eq, find?_steady]
    exact hkept test now _
  | all test now subject demand =>
    rw [after, selectAll_steady]
    exact hkept test now _

theorem Selection.foldl_valuation (a : Answers α) (r : Registry α ι) (s : Session α)
    (xs : List (Selection α ι)) :
    (xs.foldl (after a.source r) s).valuation a = s.valuation a := by
  induction xs generalizing s with
  | nil => rfl
  | cons x xs ih =>
    rw [List.foldl_cons, ih]
    exact x.after_valuation a r s

/-- The first match is the first candidate of which the conditions are true, and only the candidates
up to it are evaluated; all matches are all such candidates, and every candidate is evaluated. Where
there has to be a match and is none, the report has every candidate with its guard. Selections made
before, for whatever subjects, do not change what is found. -/
theorem selection_of_conditions (r : Registry α ι) (a : Answers α) (now : Enabling α ι)
    (subject : String) (s : Session α) :
    let w := Outside.steady a
    let accepts : Candidate α ι → Bool := (·.holds (s.valuation a) now)
    let evaluated (cs : List (Candidate α ι)) := Candidate.evaluated a now cs s
    r.find? w now s =
      (r.candidates.find? accepts, evaluated (through accepts r.candidates)) ∧
    r.select w now subject s =
      (match r.candidates.find? accepts with
        | some c => .ok c
        | none => .error (r.noMatch subject), evaluated (through accepts r.candidates)) ∧
    (∀ demand, r.selectAll w now subject demand s =
      (if demand = .atLeastOne ∧ ∀ c ∈ r.candidates, accepts c = false
        then .error (r.noMatch subject)
        else .ok (r.candidates.filter accepts), evaluated r.candidates)) ∧
    r.candidates.find? accepts = (r.candidates.filter accepts).head? ∧
    r.noMatch subject = ⟨r.name, subject, r.candidates.map fun c => (c.key, c.guardText)⟩ ∧
    ∀ before : List (Selection α ι),
      let t := before.foldl (Selection.after a.source r) s
      (r.find? w now t).1 = (r.find? w now s).1 ∧
      (r.select w now subject t).1 = (r.select w now subject s).1 ∧
      ∀ demand, (r.selectAll w now subject demand t).1 = (r.selectAll w now subject demand s).1 := by
  intro w accepts evaluated
  have hfind := find?_steady a now s r
  have hselect : r.select w now subject s = _ := select_eq w now s subject r
  rw [hfind] at hselect
  refine ⟨hfind, hselect, fun demand => selectAll_steady a now subject demand s r,
    (List.head?_filter ..).symm, rfl, ?_⟩
  intro before t
  have hkept : t.valuation a = s.valuation a := Selection.foldl_valuation a r s before
  refine ⟨?_, ?_, ?_⟩
  · rw [find?_steady, find?_steady, hkept]
  · rw [select_eq, select_eq, find?_steady, find?_steady, hkept]
  · intro demand
    rw [selectAll_steady, selectAll_steady, hkept]

end Registry

end Postroom
