import Postroom.Proofs.Condition.Running

namespace Postroom.Condition

variable {α : Type}

theorem evalTo_map_not (w : Outside α) (decisive : Bool) (cs : List (Condition α))
    (s : Session α) :
    evalTo w (!decisive) (cs.map not) s =
      (!(evalTo w decisive cs s).1, (evalTo w decisive cs s).2) := by
  induction cs generalizing s with
  | nil => rfl
  | cons c cs ih =>
    rw [List.map_cons, evalTo, evalTo, eval_not]
    by_cases hc : (eval w c s).1 = decisive
    · simp only [hc, if_true]
    · have hnot : ¬ (!(eval w c s).1) = !decisive := fun h => hc (Bool.not_inj h)
      simp only [hc, hnot, if_false]
      exact ih _

theorem eval_not_all (w : Outside α) (cs : List (Condition α)) (s : Session α) :
    eval w (not (all cs)) s = eval w (any (cs.map not)) s := by
  rw [eval_not, eval_all, eval_any]
  exact (evalTo_map_not w false cs s).symm

theorem eval_not_any (w : Outside α) (cs : List (Condition α)) (s : Session α) :
    eval w (not (any cs)) s = eval w (all (cs.map not)) s := by
  rw [eval_not, eval_any, eval_all]
  exact (evalTo_map_not w true cs s).symm

theorem eval_not_not (w : Outside α) (c : Condition α) (s : Session α) :
    eval w (not (not c)) s = eval w c s :=
  Prod.ext (Bool.not_not _) rfl

/-- For any number of members, none included, and members of any depth. -/
theorem negation_inwards (cs : List (Condition α)) (c : Condition α) :
    Interchangeable (not (all cs)) (any (cs.map not)) ∧
    Interchangeable (not (any cs)) (all (cs.map not)) ∧
    Interchangeable (not (not c)) c :=
  ⟨.of_eval fun w s => eval_not_all w cs s, .of_eval fun w s => eval_not_any w cs s,
    .of_eval fun w s => eval_not_not w c s⟩

end Postroom.Condition
