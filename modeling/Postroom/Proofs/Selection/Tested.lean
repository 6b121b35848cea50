import Postroom.Proofs.Selection.Firsts
import Postroom.Proofs.Selection.Matches

namespace Postroom

variable {α β : Type} (key : β → String) (test : β → α)

def Candidate.tested (x : β) : Candidate α β :=
  { key := key x, implementation := x, guard := some (.test (test x)) }

theorem Candidate.holds_tested (v : Valuation α) (x : β) :
    (tested key test x).holds v .unconditional = v.test (test x) := by
  simp [tested, holds, Condition.holds]

namespace Registry

theorem foldl_tested (name : String) (xs : List β) :
    xs.foldl (fun (r : Registry α β) x => r.register (.tested key test x)) { name } =
      { name, candidates := (firsts key xs).map (.tested key test) } := by
  rw [← List.foldl_map, foldl_register, foldl_appendNew_nil, firsts_map]
  rfl

variable {key test} {r : Registry α β} {kept : List β}
  (h : r.candidates = kept.map (.tested key test)) (answer : α → Bool)

include h

theorem alone_find? : Session.alone (r.find? (.ofTests answer) .unconditional) =
    (kept.find? fun x => answer (test x)).map (.tested key test) := by
  have hfind := congrArg Prod.fst (find?_steady ⟨.bare, answer⟩ .unconditional {} r)
  refine hfind.trans ?_
  simp only [h, List.find?_map, Function.comp_def, Candidate.holds_tested]
  rfl

variable [Named α] (subject : String)

theorem noMatch_tested : r.noMatch subject =
    ⟨r.name, subject, kept.map fun x => (key x, "fn(" ++ Named.name (test x) ++ ")")⟩ := by
  simp only [noMatch, h, List.map_map, Function.comp_def]
  rfl

theorem alone_select : Session.alone (r.select (.ofTests answer) .unconditional subject) =
    match kept.find? fun x => answer (test x) with
    | some x => .ok (.tested key test x)
    | none => .error (r.noMatch subject) := by
  have hselect := congrArg Prod.fst (select_eq (.ofTests answer) .unconditional {} subject r)
  have hfind := alone_find? h answer
  refine hselect.trans ?_
  rw [Session.alone, StateT.run] at hfind
  rw [hfind]
  cases kept.find? fun x => answer (test x) <;> rfl

theorem alone_selectAll :
    Session.alone (r.selectAll (.ofTests answer) .unconditional subject .optional) =
      .ok ((kept.filter fun x => answer (test x)).map (.tested key test)) := by
  have hall := congrArg Prod.fst
    (selectAll_steady ⟨.bare, answer⟩ .unconditional subject .optional {} r)
  refine hall.trans ?_
  simp only [h, List.filter_map, Function.comp_def, Candidate.holds_tested, reduceCtorEq,
    false_and, if_false]
  rfl

end Registry

end Postroom
