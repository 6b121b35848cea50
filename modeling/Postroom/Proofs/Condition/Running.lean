import Postroom.Condition.Evaluation

namespace Postroom

namespace Condition

variable {α : Type}

@[induction_eliminator]
theorem induct {motive : Condition α → Prop} (always : ∀ b, motive (always b))
    (all : ∀ cs, (∀ c ∈ cs, motive c) → motive (all cs))
    (any : ∀ cs, (∀ c ∈ cs, motive c) → motive (any cs))
    (not : ∀ c, motive c → motive (not c)) (component : ∀ n, motive (component n))
    (key : ∀ k, motive (key k)) (equals : ∀ k v, motive (equals k v))
    (matching : ∀ k p, motive (matching k p)) (test : ∀ p, motive (test p))
    (c : Condition α) : motive c := by
  apply Condition.rec (motive_1 := motive) (motive_2 := fun cs => ∀ c ∈ cs, motive c)
  case nil => exact fun c h => absurd h List.not_mem_nil
  case cons =>
    intro c cs hc hcs d hd
    obtain rfl | hd := List.mem_cons.mp hd
    · exact hc
    · exact hcs d hd
  all_goals assumption

variable (w : Outside α) (s : Session α)

theorem eval_always (b : Bool) : eval w (always b) s = (b, s) := rfl

theorem eval_not (c : Condition α) :
    eval w (not c) s = (!(eval w c s).1, (eval w c s).2) := rfl

theorem evalAll_cons (c : Condition α) (cs : List (Condition α)) :
    evalAll w (c :: cs) s =
      if (eval w c s).1 then evalAll w cs (eval w c s).2 else (false, (eval w c s).2) := by
  change (match eval w c s with
    | (b, s') => (if b then evalAll w cs else pure false) s') = _
  cases eval w c s with
  | mk b s' => cases b <;> rfl

theorem evalAny_cons (c : Condition α) (cs : List (Condition α)) :
    evalAny w (c :: cs) s =
      if (eval w c s).1 then (true, (eval w c s).2) else evalAny w cs (eval w c s).2 := by
  change (match eval w c s with
    | (b, s') => (if b then pure true else evalAny w cs) s') = _
  cases eval w c s with
  | mk b s' => cases b <;> rfl

def evalTo (w : Outside α) (decisive : Bool) : List (Condition α) → Eval α Bool
  | [], s => (!decisive, s)
  | c :: cs, s =>
    if (eval w c s).1 = decisive then (decisive, (eval w c s).2)
    else evalTo w decisive cs (eval w c s).2

theorem evalAll_eq_evalTo (cs : List (Condition α)) : evalAll w cs s = evalTo w false cs s := by
  induction cs generalizing s with
  | nil => rfl
  | cons c cs ih =>
    rw [evalAll_cons, evalTo, ih]
    cases (eval w c s).1 <;> rfl

theorem evalAny_eq_evalTo (cs : List (Condition α)) : evalAny w cs s = evalTo w true cs s := by
  induction cs generalizing s with
  | nil => rfl
  | cons c cs ih => rw [evalAny_cons, evalTo, ih]

theorem eval_all (cs : List (Condition α)) : eval w (all cs) s = evalTo w false cs s :=
  evalAll_eq_evalTo w s cs

theorem eval_any (cs : List (Condition α)) : eval w (any cs) s = evalTo w true cs s :=
  evalAny_eq_evalTo w s cs

/-- With every outside and in every session the conditions give the same answer, put the same
questions in the same order, and leave the same facts. -/
structure Interchangeable (c d : Condition α) : Prop where
  answer : ∀ w s, (eval w c s).1 = (eval w d s).1
  asked : ∀ w s, (eval w c s).2.asked = (eval w d s).2.asked
  facts : ∀ w s, (eval w c s).2.facts = (eval w d s).2.facts

theorem Interchangeable.of_eval {c d : Condition α} (h : ∀ w s, eval w c s = eval w d s) :
    Interchangeable c d where
  answer w s := by rw [h]
  asked w s := by rw [h]
  facts w s := by rw [h]

section

variable {w} {R : Session α → Session α → Prop} (hrefl : ∀ s, R s s)
  (htrans : ∀ {s t u}, R s t → R t u → R s u)

include hrefl htrans

theorem evalTo_keeps (decisive : Bool) (cs : List (Condition α))
    (ih : ∀ c ∈ cs, ∀ s, R s (eval w c s).2) (s : Session α) : R s (evalTo w decisive cs s).2 := by
  induction cs generalizing s with
  | nil => exact hrefl s
  | cons c cs ihs =>
    have hc := ih c List.mem_cons_self s
    rw [evalTo]
    split
    · exact hc
    · exact htrans hc (ihs (fun d hd => ih d (List.mem_cons_of_mem c hd)) _)

theorem eval_keeps (hcomponent : ∀ n s, R s (Session.component w n s).2)
    (hkey : ∀ k s, R s (Session.key w k s).2)
    (hother : ∀ q s, R s ⟨s.facts, s.asked ++ [q]⟩) (c : Condition α) (s : Session α) :
    R s (eval w c s).2 := by
  induction c generalizing s with
  | always b => exact hrefl s
  | all cs ih => exact eval_all w s cs ▸ evalTo_keeps hrefl htrans false cs ih s
  | any cs ih => exact eval_any w s cs ▸ evalTo_keeps hrefl htrans true cs ih s
  | not c ih => exact ih s
  | component n => exact hcomponent n s
  | key k => exact hkey k s
  | equals k v | matching k p => exact hother (.value k) s
  | test p => exact hother (.test p) s

end

end Condition

end Postroom
