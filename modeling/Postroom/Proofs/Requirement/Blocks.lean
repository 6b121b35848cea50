import Postroom.Proofs.Requirement.Meaning

namespace Postroom.Requirements

open Condition

variable {α : Type}

def declaring (rs : List Requirements) : List Requirements := rs.filter fun r => !r.isEmpty

/-- The condition of several conditions at once, of which a single one stays as it is. -/
def joined : List (Condition α) → Condition α
  | [] => always true
  | [c] => c
  | cs => all cs

theorem compileAll_eq (rs : List Requirements) :
    (compileAll rs : Except InvalidPattern (Condition α)) =
      ((declaring rs).mapM compile).map joined := by
  change ((declaring rs).mapM (compile (α := α)) >>= fun cs => _) = _
  generalize (declaring rs).mapM (compile (α := α)) = compiled
  rcases compiled with e | _ | ⟨c, _ | ⟨d, cs⟩⟩ <;> rfl

theorem eval_joined (w : Outside α) (cs : List (Condition α)) (s : Session α) :
    (joined cs).eval w s = evalTo w false cs s := by
  match cs with
  | [] => rfl
  | [c] =>
    rw [joined, evalTo, evalTo]
    rcases c.eval w s with ⟨_ | _, s'⟩ <;> rfl
  | c :: d :: cs => exact eval_all w s _

theorem evalTo_always (w : Outside α) (cs : List (Condition α)) (s : Session α) :
    evalTo w false (always true :: cs) s = evalTo w false cs s := by
  rw [evalTo, eval_always, if_neg (by simp)]

theorem mapM_declaring (rs : List Requirements) :
    match (rs.mapM compile : Except InvalidPattern (List (Condition α))) with
    | .error e => (declaring rs).mapM (compile (α := α)) = .error e
    | .ok cs => ∃ ds : List (Condition α), (declaring rs).mapM compile = .ok ds ∧
        ∀ w s, evalTo w false ds s = evalTo w false cs s := by
  induction rs with
  | nil => exact ⟨[], rfl, fun w s => rfl⟩
  | cons r rs ih =>
    cases hempty : r.isEmpty with
    | true =>
      have hr : (r.compile : Except InvalidPattern (Condition α)) = .ok (always true) := by
        rw [compile, if_pos hempty]
      have hrest : declaring (r :: rs) = declaring rs := List.filter_cons_of_neg (by simp [hempty])
      rw [mapM_cons_ok hr, hrest]
      cases hrs : (rs.mapM compile : Except InvalidPattern (List (Condition α))) with
      | error e =>
        rw [hrs] at ih
        exact ih
      | ok cs =>
        rw [hrs] at ih
        obtain ⟨ds, hds, heval⟩ := ih
        exact ⟨ds, hds, fun w s => (heval w s).trans (evalTo_always w cs s).symm⟩
    | false =>
      have hrest : declaring (r :: rs) = r :: declaring rs :=
        List.filter_cons_of_pos (by simp [hempty])
      rw [hrest]
      cases hr : (r.compile : Except InvalidPattern (Condition α)) with
      | error e => rw [mapM_cons_error hr, mapM_cons_error hr]
      | ok c =>
        rw [mapM_cons_ok hr, mapM_cons_ok hr]
        cases hrs : (rs.mapM compile : Except InvalidPattern (List (Condition α))) with
        | error e =>
          rw [hrs] at ih
          rw [ih]
          rfl
        | ok cs =>
          rw [hrs] at ih
          obtain ⟨ds, hds, heval⟩ := ih
          refine ⟨c :: ds, by rw [hds]; rfl, fun w s => ?_⟩
          rw [evalTo, evalTo, heval]

theorem evalTo_steady {a : Answers α} {cs : List (Condition α)} {s : Session α} :
    (evalTo (.steady a) false cs s).1 = true ↔ ∀ c ∈ cs, (c.eval (.steady a) s).1 = true := by
  have hanswer : ∀ c : Condition α, (c.eval (.steady a) s).1 = c.holds (s.valuation a) :=
    fun c => congrArg Prod.fst (eval_lazily c s rfl)
  rw [← eval_all, hanswer, holds, holdsAll_iff]
  simp only [hanswer]

/-- Compiling several blocks fails if compiling one of them does. Otherwise evaluating what it gives
is evaluating the blocks' conditions one after the other, up to the first that rejects, whatever the
outside answers; so it accepts if each of them does. Blocks that declare nothing may be put in and
left out anywhere, and by themselves they are the constant truth. -/
theorem compileAll_in_turn (rs : List Requirements) :
    ((∃ e, (compileAll rs : Except InvalidPattern (Condition α)) = .error e) ↔
      ∃ r ∈ rs, ∃ e, (r.compile : Except InvalidPattern (Condition α)) = .error e) ∧
    (∀ c : Condition α, compileAll rs = .ok c → ∃ cs, rs.mapM compile = .ok cs ∧
      (∀ w s, c.eval w s = evalTo w false cs s) ∧
      ∀ a s, (c.eval (.steady a) s).1 = true ↔ ∀ d ∈ cs, (d.eval (.steady a) s).1 = true) ∧
    (∀ rs', declaring rs' = declaring rs →
      (compileAll rs' : Except InvalidPattern (Condition α)) = compileAll rs) ∧
    (∀ front back r, rs = front ++ r :: back → r.isEmpty = true →
      (compileAll rs : Except InvalidPattern (Condition α)) = compileAll (front ++ back)) ∧
    ((∀ r ∈ rs, r.isEmpty = true) →
      (compileAll rs : Except InvalidPattern (Condition α)) = .ok (always true)) := by
  have hdeclaring := mapM_declaring (α := α) rs
  have hsame : ∀ rs', declaring rs' = declaring rs →
      (compileAll rs' : Except InvalidPattern (Condition α)) = compileAll rs := by
    intro rs' h
    rw [compileAll_eq, compileAll_eq, h]
  refine ⟨?_, ?_, hsame, ?_, ?_⟩
  · rw [← mapM_error_iff, compileAll_eq]
    cases hrs : (rs.mapM compile : Except InvalidPattern (List (Condition α))) with
    | error e =>
      rw [hrs] at hdeclaring
      simp [hdeclaring, Except.map]
    | ok cs =>
      rw [hrs] at hdeclaring
      obtain ⟨ds, hds, -⟩ := hdeclaring
      simp [hds, Except.map]
  · intro c hc
    rw [compileAll_eq] at hc
    obtain ⟨ds, hds, rfl⟩ := exists_of_map_ok hc
    cases hrs : (rs.mapM compile : Except InvalidPattern (List (Condition α))) with
    | error e =>
      rw [hrs] at hdeclaring
      cases hdeclaring.symm.trans hds
    | ok cs =>
      rw [hrs] at hdeclaring
      obtain ⟨ds', hds', hturn⟩ := hdeclaring
      cases hds'.symm.trans hds
      have heval : ∀ w s, (joined ds).eval w s = evalTo w false cs s :=
        fun w s => (eval_joined w ds s).trans (hturn w s)
      refine ⟨cs, rfl, heval, fun a s => ?_⟩
      rw [heval, evalTo_steady]
  · intro front back r hrs hr
    refine (hsame (front ++ back) ?_).symm
    simp [hrs, declaring, hr]
  · intro hempty
    have hnone : declaring rs = [] := List.filter_eq_nil_iff.mpr (by simpa using hempty)
    rw [compileAll_eq, hnone]
    rfl

theorem compileAll_in_turn_rejected :
    let smtp : Requirements := { components := ["smtp"] }
    let host : Requirements := { properties := ["host"] }
    let c : Condition Nat := all [all [component "smtp"], all [key "host"]]
    compileAll [smtp, {}, host] = .ok c ∧
      c.eval (.steady ⟨.bare, fun _ => false⟩) {} =
        (false, ⟨⟨[("smtp", false)], []⟩, [.component "smtp"]⟩) ∧
      (compileAll [smtp, {}, host] : Except InvalidPattern (Condition Nat)) =
        compileAll [{}, smtp, host, {}] ∧
      (compileAll [{}, {}] : Except InvalidPattern (Condition Nat)) = .ok (always true) := by
  intro smtp host c
  obtain ⟨-, hturn, hsame, -, -⟩ := compileAll_in_turn (α := Nat) [{}, smtp, host, {}]
  obtain ⟨-, -, -, -, hnone⟩ := compileAll_in_turn (α := Nat) [{}, {}]
  have hblocks : compileAll [{}, smtp, host, {}] = .ok c := rfl
  have hmoved := hsame [smtp, {}, host] rfl
  obtain ⟨cs, hcs, heval, -⟩ := hturn c hblocks
  cases hcs
  exact ⟨hmoved.trans hblocks, heval _ _, hmoved, hnone (by simp [isEmpty])⟩

end Postroom.Requirements
