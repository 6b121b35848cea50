import Postroom.Proofs.Condition.Running

namespace Postroom

/-- What the leaves of a condition say. -/
structure Valuation (α : Type) where
  component : String → Bool
  key : String → Bool
  value : String → Option String
  test : α → Bool

def Session.valuation {α : Type} (a : Answers α) (s : Session α) : Valuation α where
  component n := (s.facts.components.lookup n).getD (a.source.loadable n)
  key k := (s.facts.keys.lookup k).getD (a.source.hasValue k)
  value := a.source.value
  test := a.test

namespace Condition

variable {α : Type}

mutual

def holds (v : Valuation α) : Condition α → Bool
  | always b => b
  | all cs => holdsAll v cs
  | any cs => holdsAny v cs
  | not c => !holds v c
  | component n => v.component n
  | key k => v.key k
  | equals k x => v.value k == some x
  | matching k p => (v.value k).any p.accepts
  | test p => v.test p

def holdsAll (v : Valuation α) : List (Condition α) → Bool
  | [] => true
  | c :: cs => holds v c && holdsAll v cs

def holdsAny (v : Valuation α) : List (Condition α) → Bool
  | [] => false
  | c :: cs => holds v c || holdsAny v cs

end

mutual

/-- The leaves of a condition up to those that decide it, from left to right. -/
def visited (v : Valuation α) : Condition α → List (Condition α)
  | all cs => visitedTo v false cs
  | any cs => visitedTo v true cs
  | not c => visited v c
  | leaf => [leaf]

def visitedTo (v : Valuation α) (decisive : Bool) : List (Condition α) → List (Condition α)
  | [] => []
  | c :: cs => visited v c ++ if holds v c = decisive then [] else visitedTo v decisive cs

end

def consult (w : Outside α) (leaves : List (Condition α)) (s : Session α) : Session α :=
  leaves.foldl (fun s leaf => (eval w leaf s).2) s

mutual

/-- The conditions differ at most in members of a conjunction behind its first false one, and in
members of a disjunction behind its first true one, at any depth. -/
def Agrees (v : Valuation α) : Condition α → Condition α → Prop
  | all cs, all ds => AgreesTo v false cs ds
  | any cs, any ds => AgreesTo v true cs ds
  | not c, not d => Agrees v c d
  | c, d => c = d

def AgreesTo (v : Valuation α) (decisive : Bool) :
    List (Condition α) → List (Condition α) → Prop
  | [], [] => True
  | c :: cs, d :: ds => Agrees v c d ∧ (holds v c = decisive ∨ AgreesTo v decisive cs ds)
  | _, _ => False

end

theorem holdsAll_iff {v : Valuation α} {cs : List (Condition α)} :
    holdsAll v cs = true ↔ ∀ c ∈ cs, holds v c = true := by
  induction cs with
  | nil => simp [holdsAll]
  | cons c cs ih => simp [holdsAll, ih]

theorem holdsAny_iff {v : Valuation α} {cs : List (Condition α)} :
    holdsAny v cs = true ↔ ∃ c ∈ cs, holds v c = true := by
  induction cs with
  | nil => simp [holdsAny]
  | cons c cs ih => simp [holdsAny, ih]

section

variable (a : Answers α) (s : Session α)

theorem lookup_remembered {l : List (String × Bool)} {name : String} (h : l.lookup name = none)
    (f : String → Bool) (m : String) :
    (List.lookup m ((name, f name) :: l)).getD (f m) = (l.lookup m).getD (f m) := by
  by_cases hm : m = name
  · subst m; simp [h]
  · simp [List.lookup_cons, beq_false_of_ne hm]

theorem valuation_component (n : String) :
    (Session.component (.steady a) n s).2.valuation a = s.valuation a := by
  unfold Session.component
  cases h : s.facts.components.lookup n with
  | some b => rfl
  | none => simp only [Session.valuation, Outside.steady, lookup_remembered h]

theorem valuation_key (k : String) :
    (Session.key (.steady a) k s).2.valuation a = s.valuation a := by
  unfold Session.key
  cases h : s.facts.keys.lookup k with
  | some b => rfl
  | none => simp only [Session.valuation, Outside.steady, lookup_remembered h]

theorem component_answer (n : String) :
    (Session.component (.steady a) n s).1 = (s.valuation a).component n := by
  unfold Session.component
  cases h : s.facts.components.lookup n <;> simp [Session.valuation, Outside.steady, h]

theorem key_answer (k : String) :
    (Session.key (.steady a) k s).1 = (s.valuation a).key k := by
  unfold Session.key
  cases h : s.facts.keys.lookup k <;> simp [Session.valuation, Outside.steady, h]

end

theorem valuation_eval (a : Answers α) (c : Condition α) (s : Session α) :
    (eval (.steady a) c s).2.valuation a = s.valuation a :=
  eval_keeps (R := fun s t => t.valuation a = s.valuation a) (fun _ => rfl)
    (fun hst htu => htu.trans hst) (fun n s => valuation_component a s n)
    (fun k s => valuation_key a s k) (fun _ _ => rfl) c s

theorem valuation_of_source {a b : Answers α} (h : a.source = b.source) (s : Session α) :
    s.valuation b = { s.valuation a with test := b.test } := by
  simp only [Session.valuation, h]

theorem valuation_eval_of_source {a b : Answers α} (h : a.source = b.source) (c : Condition α)
    (s : Session α) : (eval (.steady a) c s).2.valuation b = s.valuation b := by
  rw [valuation_of_source h, valuation_eval, ← valuation_of_source h]

theorem consult_append (w : Outside α) (xs ys : List (Condition α)) (s : Session α) :
    consult w (xs ++ ys) s = consult w ys (consult w xs s) :=
  List.foldl_append

theorem valuation_consult_of_source {a b : Answers α} (h : a.source = b.source)
    (cs : List (Condition α)) (s : Session α) :
    (consult (.steady a) cs s).valuation b = s.valuation b := by
  induction cs generalizing s with
  | nil => rfl
  | cons c cs ih => exact (ih _).trans (valuation_eval_of_source h c s)

/-- Evaluation answers with the truth value, and does to the session what consulting the visited
leaves does. -/
def Lazily (a : Answers α) (v : Valuation α) (c : Condition α) : Prop :=
  ∀ s, s.valuation a = v →
    eval (.steady a) c s = (holds v c, consult (.steady a) (visited v c) s)

section

variable {a : Answers α} {v : Valuation α}

theorem Lazily.valuation_consult {c : Condition α} (hc : Lazily a v c) {s : Session α}
    (hs : s.valuation a = v) : (consult (.steady a) (visited v c) s).valuation a = v := by
  have h := valuation_eval a c s
  rw [hc s hs] at h
  exact h.trans hs

theorem evalAll_lazily (cs : List (Condition α)) (ih : ∀ c ∈ cs, Lazily a v c) (s : Session α)
    (hs : s.valuation a = v) :
    evalAll (.steady a) cs s =
      (holdsAll v cs, consult (.steady a) (visitedTo v false cs) s) := by
  induction cs generalizing s with
  | nil => rfl
  | cons c cs ihs =>
    have hc := ih c List.mem_cons_self
    have hcs := ihs (fun d hd => ih d (List.mem_cons_of_mem c hd)) _ (hc.valuation_consult hs)
    rw [evalAll_cons, hc s hs]
    cases h : holds v c with
    | true => simpa [holdsAll, visitedTo, consult_append, h] using hcs
    | false => simp [holdsAll, visitedTo, h]

theorem evalAny_lazily (cs : List (Condition α)) (ih : ∀ c ∈ cs, Lazily a v c) (s : Session α)
    (hs : s.valuation a = v) :
    evalAny (.steady a) cs s =
      (holdsAny v cs, consult (.steady a) (visitedTo v true cs) s) := by
  induction cs generalizing s with
  | nil => rfl
  | cons c cs ihs =>
    have hc := ih c List.mem_cons_self
    have hcs := ihs (fun d hd => ih d (List.mem_cons_of_mem c hd)) _ (hc.valuation_consult hs)
    rw [evalAny_cons, hc s hs]
    cases h : holds v c with
    | true => simp [holdsAny, visitedTo, h]
    | false => simpa [holdsAny, visitedTo, consult_append, h] using hcs

theorem eval_lazily (c : Condition α) : Lazily a v c := by
  induction c with
  | always b => exact fun s _ => rfl
  | all cs ih => exact fun s hs => evalAll_lazily cs ih s hs
  | any cs ih => exact fun s hs => evalAny_lazily cs ih s hs
  | not c ih =>
    intro s hs
    rw [eval_not, ih s hs]
    rfl
  | component n =>
    intro s hs
    exact Prod.ext ((component_answer a s n).trans (by rw [hs]; rfl)) rfl
  | key k =>
    intro s hs
    exact Prod.ext ((key_answer a s k).trans (by rw [hs]; rfl)) rfl
  | equals k x | matching k p | test p => exact fun s hs => by subst hs; rfl

end

section

variable {v : Valuation α} {cs ds : List (Condition α)}

def Alike (v : Valuation α) (c d : Condition α) : Prop :=
  holds v c = holds v d ∧ visited v c = visited v d

theorem holdsAll_of_agreesTo (ih : ∀ c ∈ cs, ∀ d, Agrees v c d → Alike v c d)
    (h : AgreesTo v false cs ds) : holdsAll v cs = holdsAll v ds := by
  induction cs generalizing ds with
  | nil => cases ds <;> simp_all [AgreesTo]
  | cons c cs ihs =>
    cases ds with
    | nil => exact h.elim
    | cons d ds =>
      have hc := (ih c List.mem_cons_self d h.1).1
      obtain hf | hr := h.2
      · simp only [holdsAll, ← hc, hf, Bool.false_and]
      · rw [holdsAll, holdsAll, hc, ihs (fun e he => ih e (List.mem_cons_of_mem c he)) hr]

theorem holdsAny_of_agreesTo (ih : ∀ c ∈ cs, ∀ d, Agrees v c d → Alike v c d)
    (h : AgreesTo v true cs ds) : holdsAny v cs = holdsAny v ds := by
  induction cs generalizing ds with
  | nil => cases ds <;> simp_all [AgreesTo]
  | cons c cs ihs =>
    cases ds with
    | nil => exact h.elim
    | cons d ds =>
      have hc := (ih c List.mem_cons_self d h.1).1
      obtain ht | hr := h.2
      · simp only [holdsAny, ← hc, ht, Bool.true_or]
      · rw [holdsAny, holdsAny, hc, ihs (fun e he => ih e (List.mem_cons_of_mem c he)) hr]

theorem visitedTo_of_agreesTo {decisive : Bool}
    (ih : ∀ c ∈ cs, ∀ d, Agrees v c d → Alike v c d) (h : AgreesTo v decisive cs ds) :
    visitedTo v decisive cs = visitedTo v decisive ds := by
  induction cs generalizing ds with
  | nil => cases ds <;> simp_all [AgreesTo]
  | cons c cs ihs =>
    cases ds with
    | nil => exact h.elim
    | cons d ds =>
      have hc := ih c List.mem_cons_self d h.1
      obtain hf | hr := h.2
      · simp only [visitedTo, ← hc.1, ← hc.2, hf, if_true]
      · rw [visitedTo, visitedTo, hc.1, hc.2,
          ihs (fun e he => ih e (List.mem_cons_of_mem c he)) hr]

theorem alike_of_agrees {c d : Condition α} (h : Agrees v c d) : Alike v c d := by
  induction c generalizing d with
  | all cs ih =>
    cases d with
    | all ds =>
      exact ⟨holdsAll_of_agreesTo (fun c hc d => ih c hc) h,
        visitedTo_of_agreesTo (fun c hc d => ih c hc) h⟩
    | _ => simp [Agrees] at h
  | any cs ih =>
    cases d with
    | any ds =>
      exact ⟨holdsAny_of_agreesTo (fun c hc d => ih c hc) h,
        visitedTo_of_agreesTo (fun c hc d => ih c hc) h⟩
    | _ => simp [Agrees] at h
  | not c ih =>
    cases d with
    | not d => exact ⟨congrArg Bool.not (ih h).1, (ih h).2⟩
    | _ => simp [Agrees] at h
  | always b | component n | key k | equals k x | matching k p | test p =>
    cases d <;> simp_all [Agrees, Alike]

theorem agreesTo_refl {decisive : Bool} (ih : ∀ c ∈ cs, Agrees v c c) :
    AgreesTo v decisive cs cs := by
  induction cs with
  | nil => trivial
  | cons c cs ihs =>
    exact ⟨ih c List.mem_cons_self, .inr (ihs fun d hd => ih d (List.mem_cons_of_mem c hd))⟩

theorem agrees_refl (c : Condition α) : Agrees v c c := by
  induction c with
  | all cs ih | any cs ih => exact agreesTo_refl ih
  | not c ih => exact ih
  | always b | component n | key k | equals k x | matching k p | test p => simp only [Agrees]

theorem agreesTo_behind {decisive : Bool} {c : Condition α} (h : holds v c = decisive)
    (front cs ds : List (Condition α)) :
    AgreesTo v decisive (front ++ c :: cs) (front ++ c :: ds) := by
  induction front with
  | nil => exact ⟨agrees_refl c, .inl h⟩
  | cons e front ih => exact ⟨agrees_refl e, .inr ih⟩

end

/-- Evaluation answers with the truth value and consults the visited leaves only, so a condition
that agrees with another gets the same answer, asks the same questions and leaves the same facts. -/
theorem eval_truth_of_visited (a : Answers α) (c : Condition α) (s : Session α) :
    eval (.steady a) c s =
        (holds (s.valuation a) c, consult (.steady a) (visited (s.valuation a) c) s) ∧
      ∀ d, Agrees (s.valuation a) c d → eval (.steady a) d s = eval (.steady a) c s := by
  refine ⟨eval_lazily c s rfl, ?_⟩
  intro d hd
  obtain ⟨hholds, hvisited⟩ := alike_of_agrees hd
  rw [eval_lazily c s rfl, eval_lazily d s rfl, hholds, hvisited]

theorem eval_truth_of_visited_stale :
    let a : Answers Nat := ⟨⟨fun _ => true, fun _ => none, fun _ => true⟩, fun p => p == 0⟩
    let s : Session Nat := ⟨⟨[("smtp", false)], []⟩, []⟩
    let c := any [all [component "smtp", test 1], test 0, key "host"]
    let d := any [all [component "smtp", equals "port" "25"], test 0, test 2, test 3]
    Agrees (s.valuation a) c d ∧ eval (.steady a) d s = eval (.steady a) c s ∧
      eval (.steady a) d s = (true, ⟨s.facts, [.test 0]⟩) := by
  intro a s c d
  have hinner : Agrees (s.valuation a) (all [component "smtp", test 1])
      (all [component "smtp", equals "port" "25"]) :=
    agreesTo_behind (by decide) [] _ _
  have h : Agrees (s.valuation a) c d := ⟨hinner, .inr ⟨agrees_refl _, .inl (by decide)⟩⟩
  exact ⟨h, (eval_truth_of_visited a c s).2 d h, rfl⟩

end Condition

end Postroom
