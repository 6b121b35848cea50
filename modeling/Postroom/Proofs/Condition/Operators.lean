import Postroom.Proofs.Condition.Running

namespace Postroom.Condition

variable {α : Type} (w : Outside α) (decisive : Bool)

theorem evalTo_append (cs ds : List (Condition α)) (s : Session α) :
    evalTo w decisive (cs ++ ds) s =
      if (evalTo w decisive cs s).1 = decisive then evalTo w decisive cs s
      else evalTo w decisive ds (evalTo w decisive cs s).2 := by
  induction cs generalizing s with
  | nil => rw [List.nil_append, evalTo, if_neg (Bool.not_eq_self decisive).mp]
  | cons c cs ih =>
    rw [List.cons_append, evalTo, evalTo]
    by_cases hc : (eval w c s).1 = decisive
    · rw [if_pos hc, if_pos hc, if_pos rfl]
    · rw [if_neg hc, if_neg hc]
      exact ih _

variable {w decisive}

theorem evalTo_flatten {c : Condition α} {cs : List (Condition α)}
    (hc : ∀ s, eval w c s = evalTo w decisive cs s) (before after : List (Condition α))
    (s : Session α) :
    evalTo w decisive (before ++ c :: after) s =
      evalTo w decisive (before ++ (cs ++ after)) s := by
  have hfirst : evalTo w decisive (c :: after) = evalTo w decisive (cs ++ after) := by
    funext t
    rw [evalTo, evalTo_append, hc]
    by_cases h : (evalTo w decisive cs t).1 = decisive
    · rw [if_pos h, if_pos h]
      exact Prod.ext h.symm rfl
    · rw [if_neg h, if_neg h]
  rw [evalTo_append, evalTo_append, hfirst]

theorem eval_appended {formula : List (Condition α) → Condition α}
    (hformula : ∀ cs s, eval w (formula cs) s = evalTo w decisive cs s) (cs : List (Condition α))
    (d : Condition α) (s : Session α) :
    eval w (formula (cs ++ [d])) s = evalTo w decisive [formula cs, d] s := by
  rw [hformula]
  exact (evalTo_flatten (hformula cs) [] [d] s).symm

variable (w)

theorem eval_and (c d : Condition α) (s : Session α) :
    eval w (c &&& d) s = evalTo w false [c, d] s := by
  cases c with
  | all cs => exact eval_appended (fun cs s => eval_all w s cs) cs d s
  | _ => exact eval_all w s _

theorem eval_or (c d : Condition α) (s : Session α) :
    eval w (c ||| d) s = evalTo w true [c, d] s := by
  cases c with
  | any cs => exact eval_appended (fun cs s => eval_any w s cs) cs d s
  | _ => exact eval_any w s _

section

variable {w} {op : Condition α → Condition α → Condition α}
  (hop : ∀ c d s, eval w (op c d) s = evalTo w decisive [c, d] s)

include hop

theorem eval_nestedLeft (a b c : Condition α) (s : Session α) :
    eval w (op (op a b) c) s = evalTo w decisive [a, b, c] s := by
  rw [hop]
  exact evalTo_flatten (hop a b) [] [c] s

theorem eval_nestedRight (a b c : Condition α) (s : Session α) :
    eval w (op a (op b c)) s = evalTo w decisive [a, b, c] s := by
  rw [hop]
  exact evalTo_flatten (hop b c) [a] [] s

end

/-- Conditions joined by one operator cannot be told apart from the formula that has them as its
members, in whatever order they were joined. They may be formulas of the same kind themselves, with
any members or none. -/
theorem operators_flatten (a b c : Condition α) :
    (Interchangeable (a &&& b) (all [a, b]) ∧
      Interchangeable ((a &&& b) &&& c) (all [a, b, c]) ∧
      Interchangeable (a &&& (b &&& c)) (all [a, b, c]) ∧
      Interchangeable ((a &&& b) &&& c) (a &&& (b &&& c))) ∧
    Interchangeable (a ||| b) (any [a, b]) ∧
      Interchangeable ((a ||| b) ||| c) (any [a, b, c]) ∧
      Interchangeable (a ||| (b ||| c)) (any [a, b, c]) ∧
      Interchangeable ((a ||| b) ||| c) (a ||| (b ||| c)) := by
  refine ⟨⟨.of_eval ?_, .of_eval ?_, .of_eval ?_, .of_eval ?_⟩,
    .of_eval ?_, .of_eval ?_, .of_eval ?_, .of_eval ?_⟩ <;> intro w s
  · rw [eval_and, eval_all]
  · rw [eval_nestedLeft (eval_and w), eval_all]
  · rw [eval_nestedRight (eval_and w), eval_all]
  · rw [eval_nestedLeft (eval_and w), eval_nestedRight (eval_and w)]
  · rw [eval_or, eval_any]
  · rw [eval_nestedLeft (eval_or w), eval_any]
  · rw [eval_nestedRight (eval_or w), eval_any]
  · rw [eval_nestedLeft (eval_or w), eval_nestedRight (eval_or w)]

end Postroom.Condition
