import Postroom.Selection.Fallback

namespace Postroom.Fallback

variable {ι ρ σ : Type} {attempt : ι → StateM σ (Except Refusal ρ)}

/-- Candidates are attempted one after the other from one state to another, and each attempt is
refused. -/
inductive Refused (attempt : ι → StateM σ (Except Refusal ρ)) :
    List (String × ι) → σ → List Refusal → σ → Prop
  | nil (s : σ) : Refused attempt [] s [] s
  | cons {key : String} {i : ι} {cs : List (String × ι)} {s s' s'' : σ} {cause : Refusal}
    {causes : List Refusal} (head : (attempt i).run s = (.error cause, s'))
    (tail : Refused attempt cs s' causes s'') :
    Refused attempt ((key, i) :: cs) s (cause :: causes) s''

def attemptsFrom (index : Nat) (cs : List (String × ι)) (causes : List Refusal) : List Attempt :=
  (cs.zip causes).mapIdx fun n c => ⟨index + n, c.1.1, c.2⟩

theorem attemptsFrom_eq (index : Nat) (cs : List (String × ι)) (causes : List Refusal) :
    attemptsFrom index cs causes =
      ((cs.map Prod.fst).zip causes).mapIdx fun n c => ⟨index + n, c.1, c.2⟩ := by
  refine List.ext_getElem? fun n => ?_
  rw [attemptsFrom, List.zip_map_left, List.getElem?_mapIdx, List.getElem?_mapIdx,
    List.getElem?_map, Option.map_map]
  rfl

theorem attemptsFrom_cons (index : Nat) (key : String) (i : ι) (cs : List (String × ι))
    (cause : Refusal) (causes : List Refusal) :
    attemptsFrom index ((key, i) :: cs) (cause :: causes) =
      ⟨index, key, cause⟩ :: attemptsFrom (index + 1) cs causes := by
  have hindex : ∀ n, index + 1 + n = index + (n + 1) := by omega
  simp only [attemptsFrom, List.zip_cons_cons, List.mapIdx_cons, Nat.add_zero, hindex]

theorem tryFrom_cons (executor : String) (index : Nat) (attempts : List Attempt) (key : String)
    (i : ι) (cs : List (String × ι)) (s : σ) :
    (tryFrom executor attempt index attempts ((key, i) :: cs)).run s =
      match (attempt i).run s with
      | (.ok v, s') => (.ok ⟨index, key, v⟩, s')
      | (.error cause, s') =>
        (tryFrom executor attempt (index + 1) (attempts ++ [⟨index, key, cause⟩]) cs).run s' := by
  simp only [tryFrom, StateT.run_bind]
  rcases (attempt i).run s with ⟨_ | _, s'⟩ <;> rfl

theorem tryFrom_refused {front : List (String × ι)} {s s' : σ} {causes : List Refusal}
    (h : Refused attempt front s causes s') (executor : String) (index : Nat)
    (attempts : List Attempt) (back : List (String × ι)) :
    (tryFrom executor attempt index attempts (front ++ back)).run s =
      (tryFrom executor attempt (index + front.length)
        (attempts ++ attemptsFrom index front causes) back).run s' := by
  -- The report so far and the position grow with every attempt, so they are not fixed.
  induction h generalizing index attempts with
  | nil s => simp [attemptsFrom]
  | cons head tail ih =>
    rw [List.cons_append, tryFrom_cons, head, attemptsFrom_cons]
    dsimp only
    rw [ih, List.append_assoc, List.singleton_append, List.length_cons, Nat.add_right_comm,
      Nat.add_assoc]

theorem run_of_refused {f : Fallback ι} {s s' : σ} {causes : List Refusal}
    (h : Refused attempt f.candidates s causes s') :
    (f.run attempt).run s = (.error ⟨f.name, attemptsFrom 0 f.candidates causes⟩, s') := by
  have hrun := tryFrom_refused h f.name 0 [] []
  rw [List.append_nil] at hrun
  exact hrun

theorem run_of_success {f : Fallback ι} {front back : List (String × ι)} {key : String} {i : ι}
    {s s' s'' : σ} {causes : List Refusal} {v : ρ}
    (hcandidates : f.candidates = front ++ (key, i) :: back)
    (hfront : Refused attempt front s causes s') (hi : (attempt i).run s' = (.ok v, s'')) :
    (f.run attempt).run s = (.ok ⟨front.length, key, v⟩, s'') := by
  have hrun := tryFrom_refused hfront f.name 0 [] ((key, i) :: back)
  rw [← hcandidates, tryFrom_cons, hi, Nat.zero_add] at hrun
  exact hrun

theorem refused_or_success (attempt : ι → StateM σ (Except Refusal ρ)) (cs : List (String × ι))
    (s : σ) :
    (∃ causes s', Refused attempt cs s causes s') ∨
      ∃ front key i back causes s' v s'', cs = front ++ (key, i) :: back ∧
        Refused attempt front s causes s' ∧ (attempt i).run s' = (.ok v, s'') := by
  induction cs generalizing s with
  | nil => exact .inl ⟨[], s, .nil s⟩
  | cons c cs ih =>
    obtain ⟨key, i⟩ := c
    rcases hi : (attempt i).run s with ⟨cause | v, s₁⟩
    · rcases ih s₁ with ⟨causes, s', hcs⟩ | ⟨front, k, j, back, causes, s', v, s'', rfl, hfront, hj⟩
      · exact .inl ⟨cause :: causes, s', .cons hi hcs⟩
      · exact .inr ⟨(key, i) :: front, k, j, back, cause :: causes, s', v, s'', rfl,
          .cons hi hfront, hj⟩
    · exact .inr ⟨[], key, i, cs, [], s, v, s₁, rfl, .nil s, hi⟩

theorem Refused.length_eq {cs : List (String × ι)} {s s' : σ} {causes : List Refusal}
    (h : Refused attempt cs s causes s') : causes.length = cs.length := by
  induction h with
  | nil => rfl
  | cons head tail ih => rw [List.length_cons, List.length_cons, ih]

theorem length_attemptsFrom (index : Nat) {cs : List (String × ι)} {causes : List Refusal}
    (h : causes.length = cs.length) : (attemptsFrom index cs causes).length = cs.length := by
  simp [attemptsFrom, h]

theorem getElem?_attemptsFrom (index : Nat) {cs : List (String × ι)} {causes : List Refusal}
    {n : Nat} {key : String} {i : ι} {cause : Refusal} (hc : cs[n]? = some (key, i))
    (hcause : causes[n]? = some cause) :
    (attemptsFrom index cs causes)[n]? = some ⟨index + n, key, cause⟩ := by
  have hzip : (cs.zip causes)[n]? = some ((key, i), cause) :=
    List.getElem?_zip_eq_some.mpr ⟨hc, hcause⟩
  rw [attemptsFrom, List.getElem?_mapIdx, hzip, Option.map_some]

structure Call (ι ρ : Type) where
  candidate : ι
  outcome : Except Refusal ρ

def recorded (attempt : ι → StateM σ (Except Refusal ρ)) (i : ι) :
    StateM (σ × List (Call ι ρ)) (Except Refusal ρ) := fun s =>
  let ended := (attempt i).run s.1
  (ended.1, ended.2, s.2 ++ [⟨i, ended.1⟩])

/-- Calls as they follow one another, each made in the state that the one before it left. -/
inductive Made (attempt : ι → StateM σ (Except Refusal ρ)) : List (Call ι ρ) → σ → σ → Prop
  | nil (s : σ) : Made attempt [] s s
  | cons {i : ι} {outcome : Except Refusal ρ} {calls : List (Call ι ρ)} {s s' s'' : σ}
    (head : (attempt i).run s = (outcome, s')) (tail : Made attempt calls s' s'') :
    Made attempt (⟨i, outcome⟩ :: calls) s s''

def refusals (cs : List (String × ι)) (causes : List Refusal) : List (Call ι ρ) :=
  (cs.zip causes).map fun c => ⟨c.1.2, .error c.2⟩

theorem recorded_run {i : ι} {s s' : σ} {outcome : Except Refusal ρ}
    (h : (attempt i).run s = (outcome, s')) (calls : List (Call ι ρ)) :
    (recorded attempt i).run (s, calls) = (outcome, s', calls ++ [⟨i, outcome⟩]) := by
  change (((attempt i).run s).1, ((attempt i).run s).2,
    calls ++ [⟨i, ((attempt i).run s).1⟩]) = _
  rw [h]

theorem Refused.recorded {cs : List (String × ι)} {s s' : σ} {causes : List Refusal}
    (h : Refused attempt cs s causes s') (calls : List (Call ι ρ)) :
    Refused (Fallback.recorded attempt) cs (s, calls) causes (s', calls ++ refusals cs causes) := by
  induction h generalizing calls with
  | nil s =>
    rw [refusals, List.zip_nil_left, List.map_nil, List.append_nil]
    exact .nil _
  | @cons key i cs s s' s'' cause causes head tail ih =>
    have htail := ih (calls ++ [⟨i, .error cause⟩])
    rw [List.append_assoc, List.singleton_append] at htail
    exact .cons (recorded_run head calls) htail

theorem Refused.made {cs : List (String × ι)} {s s' s'' : σ} {causes : List Refusal}
    {calls : List (Call ι ρ)} (h : Refused attempt cs s causes s')
    (hcalls : Made attempt calls s' s'') : Made attempt (refusals cs causes ++ calls) s s'' := by
  induction h with
  | nil s => exact hcalls
  | cons head tail ih => exact .cons head (ih hcalls)

section

variable {cs : List (String × ι)} {causes : List Refusal}

theorem length_refusals (h : causes.length = cs.length) :
    (refusals (ρ := ρ) cs causes).length = cs.length := by
  simp [refusals, h]

theorem candidates_refusals (h : causes.length = cs.length) :
    (refusals (ρ := ρ) cs causes).map Call.candidate = cs.map Prod.snd := by
  have hfst : (cs.zip causes).map Prod.fst = cs := List.map_fst_zip (Nat.le_of_eq h.symm)
  rw [refusals, List.map_map]
  calc (cs.zip causes).map (Call.candidate (ρ := ρ) ∘ fun c => ⟨c.1.2, .error c.2⟩)
      = ((cs.zip causes).map Prod.fst).map Prod.snd := by rw [List.map_map]; rfl
    _ = cs.map Prod.snd := by rw [hfst]

theorem refused_refusals : ∀ c ∈ refusals (ρ := ρ) cs causes, ∃ cause, c.outcome = .error cause := by
  intro c hc
  obtain ⟨d, -, rfl⟩ := List.mem_map.mp hc
  exact ⟨d.2, rfl⟩

theorem getElem?_refusals (h : causes.length = cs.length) {n : Nat} {key : String} {i : ι}
    (hn : cs[n]? = some (key, i)) :
    ∃ cause, (refusals (ρ := ρ) cs causes)[n]? = some ⟨i, .error cause⟩ ∧
      (attemptsFrom 0 cs causes)[n]? = some ⟨n, key, cause⟩ := by
  have hn' : n < causes.length := by
    rw [h]
    exact (List.getElem?_eq_some_iff.mp hn).1
  have hcause : causes[n]? = some causes[n] := List.getElem?_eq_getElem hn'
  have hzip : (cs.zip causes)[n]? = some ((key, i), causes[n]) :=
    List.getElem?_zip_eq_some.mpr ⟨hn, hcause⟩
  refine ⟨causes[n], ?_, ?_⟩
  · rw [refusals, List.getElem?_map, hzip, Option.map_some]
  · rw [getElem?_attemptsFrom 0 hn hcause, Nat.zero_add]

theorem candidates_refusals_append (h : causes.length = cs.length) (key : String) (i : ι)
    (back : List (String × ι)) (v : ρ) :
    (refusals cs causes ++ [(⟨i, .ok v⟩ : Call ι ρ)]).map Call.candidate =
      ((cs ++ (key, i) :: back).take (cs.length + 1)).map Prod.snd := by
  rw [List.take_length_add_append, List.take_succ_cons, List.take_zero, List.map_append,
    List.map_append, candidates_refusals h]
  rfl

end

/-- The calls that a run makes are of the candidates in their order, each in the state that the one
before it left, and putting them on record changes nothing. The run ends with the first call that
succeeds, and names the value, the position and the key of its candidate. If there is none every
candidate was called, and each has its refusal on the report as it was given. -/
theorem run_first_success (f : Fallback ι) (attempt : ι → StateM σ (Except Refusal ρ)) (s : σ) :
    let ended := (f.run (recorded attempt)).run (s, [])
    let calls := ended.2.2
    (f.run attempt).run s = (ended.1, ended.2.1) ∧
    Made attempt calls s ended.2.1 ∧
    calls.map Call.candidate = (f.candidates.take calls.length).map Prod.snd ∧
    match ended.1 with
    | .ok w => f.keys[w.index]? = some w.candidate ∧
        ∃ refused last, calls = refused ++ [⟨last, .ok w.value⟩] ∧ refused.length = w.index ∧
          ∀ c ∈ refused, ∃ cause, c.outcome = .error cause
    | .error e => e.executor = f.name ∧ calls.length = f.candidates.length ∧
        e.attempts.length = f.candidates.length ∧
        ∀ (n : Nat) (key : String) (i : ι), f.candidates[n]? = some (key, i) →
          ∃ cause, calls[n]? = some ⟨i, .error cause⟩ ∧ e.attempts[n]? = some ⟨n, key, cause⟩ := by
  intro ended calls
  rcases refused_or_success attempt f.candidates s with
    ⟨causes, s', hrefused⟩ | ⟨front, key, i, back, causes, s', v, s'', hcandidates, hfront, hi⟩
  · have hlength := hrefused.length_eq
    have hended : ended = (.error ⟨f.name, attemptsFrom 0 f.candidates causes⟩, s',
        refusals f.candidates causes) := run_of_refused (hrefused.recorded [])
    have hcalls : calls = refusals f.candidates causes := congrArg (·.2.2) hended
    have hcount : calls.length = f.candidates.length := by rw [hcalls, length_refusals hlength]
    have hmade := hrefused.made (.nil s')
    rw [List.append_nil, ← hcalls] at hmade
    rw [hended]
    refine ⟨run_of_refused hrefused, hmade, ?_, rfl, hcount, length_attemptsFrom 0 hlength, ?_⟩
    · rw [hcount, List.take_length, hcalls, candidates_refusals hlength]
    · intro n key i hn
      rw [hcalls]
      exact getElem?_refusals hlength hn
  · have hlength := hfront.length_eq
    have hended : ended = (.ok ⟨front.length, key, v⟩, s'',
        refusals front causes ++ [⟨i, .ok v⟩]) :=
      run_of_success hcandidates (hfront.recorded []) (recorded_run hi _)
    have hcalls : calls = refusals front causes ++ [⟨i, .ok v⟩] := congrArg (·.2.2) hended
    have hmade := hfront.made (.cons hi (.nil s''))
    rw [← hcalls] at hmade
    have hkey : f.keys[front.length]? = some key := by
      simp [keys, hcandidates]
    rw [hended]
    refine ⟨run_of_success hcandidates hfront hi, hmade, ?_, hkey, refusals front causes, i, hcalls,
      length_refusals hlength, refused_refusals⟩
    rw [hcalls, List.length_append, length_refusals hlength, List.length_singleton, hcandidates,
      candidates_refusals_append hlength]

end Postroom.Fallback
