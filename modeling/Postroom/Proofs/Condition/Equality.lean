import Mathlib.Data.List.Forall2
import Postroom.Proofs.Capability.Period

namespace Postroom

open Pattern

variable {α : Type}

namespace Condition

theorem shownList_congr [Named α] {cs ds : List (Condition α)}
    (h : List.Forall₂ (fun c d => shown c = shown d) cs ds) : shownList cs = shownList ds := by
  induction h with
  | nil => rfl
  | cons hcd _ ih => rw [shownList, shownList, hcd, ih]

variable [BEq α]

/-- The conditions are of one form, with equal parts. -/
inductive Corresponds : Condition α → Condition α → Prop
  | always (b : Bool) : Corresponds (always b) (always b)
  | all {cs ds : List (Condition α)} :
    List.Forall₂ (fun c d => (c == d) = true) cs ds → Corresponds (all cs) (all ds)
  | any {cs ds : List (Condition α)} :
    List.Forall₂ (fun c d => (c == d) = true) cs ds → Corresponds (any cs) (any ds)
  | not {c d : Condition α} : (c == d) = true → Corresponds (not c) (not d)
  | component (n : String) : Corresponds (component n) (component n)
  | key (k : String) : Corresponds (key k) (key k)
  | equals (k v : String) : Corresponds (equals k v) (equals k v)
  | matching (k : String) (p : ValuePattern) : Corresponds (matching k p) (matching k p)
  | test {p q : α} : (p == q) = true → Corresponds (test p) (test q)

theorem beqList_iff {cs ds : List (Condition α)} :
    beqList cs ds = true ↔ List.Forall₂ (fun c d => (c == d) = true) cs ds := by
  induction cs generalizing ds with
  | nil => cases ds <;> simp [beqList]
  | cons c cs ih =>
    cases ds with
    | nil => simp [beqList]
    | cons d ds =>
      rw [beqList, Bool.and_eq_true, List.forall₂_cons, ih]
      rfl

theorem beq_iff {c d : Condition α} : (c == d) = true ↔ c.Corresponds d := by
  change beq c d = true ↔ _
  constructor
  · intro h
    unfold beq at h
    split at h
    · obtain rfl := eq_of_beq h
      exact .always _
    · exact .all (beqList_iff.mp h)
    · exact .any (beqList_iff.mp h)
    · exact .not h
    · obtain rfl := eq_of_beq h
      exact .component _
    · obtain rfl := eq_of_beq h
      exact .key _
    · obtain ⟨hk, hv⟩ := Bool.and_eq_true_iff.mp h
      obtain rfl := eq_of_beq hk
      obtain rfl := eq_of_beq hv
      exact .equals _ _
    · obtain ⟨hk, hp⟩ := Bool.and_eq_true_iff.mp h
      obtain rfl := eq_of_beq hk
      obtain rfl := eq_of_beq hp
      exact .matching _ _
    · exact .test h
    · cases h
  · intro h
    cases h with
    | all h | any h => exact beqList_iff.mpr h
    | not h | test h => exact h
    | always b | component n | key k | equals k v | matching k p => simp [beq]

theorem beq_induct {motive : Condition α → Condition α → Prop}
    (always : ∀ b, motive (always b) (always b))
    (all : ∀ {cs ds}, List.Forall₂ motive cs ds → motive (all cs) (all ds))
    (any : ∀ {cs ds}, List.Forall₂ motive cs ds → motive (any cs) (any ds))
    (not : ∀ {c d}, motive c d → motive (not c) (not d))
    (component : ∀ n, motive (component n) (component n)) (key : ∀ k, motive (key k) (key k))
    (equals : ∀ k v, motive (equals k v) (equals k v))
    (matching : ∀ k p, motive (matching k p) (matching k p))
    (test : ∀ {p q}, (p == q) = true → motive (test p) (test q))
    {c d : Condition α} (h : (c == d) = true) : motive c d := by
  -- The hypotheses are about the members on the left, each with all that is equal to it.
  have members : ∀ {cs ds : List (Condition α)},
      (∀ c ∈ cs, ∀ {d}, (c == d) = true → motive c d) →
      List.Forall₂ (fun c d => (c == d) = true) cs ds → List.Forall₂ motive cs ds := by
    intro cs ds ih hcs
    have hboth := (List.forall₂_and_left cs ds).mpr ⟨ih, hcs⟩
    exact hboth.imp fun c d hcd => hcd.1 hcd.2
  induction c generalizing d with
  | always b =>
    cases beq_iff.mp h
    exact always b
  | all cs ih =>
    cases beq_iff.mp h with
    | all hcs => exact all (members ih hcs)
  | any cs ih =>
    cases beq_iff.mp h with
    | any hcs => exact any (members ih hcs)
  | not c ih =>
    cases beq_iff.mp h with
    | not hc => exact not (ih hc)
  | component n =>
    cases beq_iff.mp h
    exact component n
  | key k =>
    cases beq_iff.mp h
    exact key k
  | equals k v =>
    cases beq_iff.mp h
    exact equals k v
  | matching k p =>
    cases beq_iff.mp h
    exact matching k p
  | test p =>
    cases beq_iff.mp h with
    | test hp => exact test hp

theorem beq_refl [ReflBEq α] (c : Condition α) : (c == c) = true := by
  apply beq_iff.mpr
  induction c with
  | always b => exact .always b
  | all cs ih => exact .all (List.forall₂_same.mpr fun c hc => beq_iff.mpr (ih c hc))
  | any cs ih => exact .any (List.forall₂_same.mpr fun c hc => beq_iff.mpr (ih c hc))
  | not c ih => exact .not (beq_iff.mpr ih)
  | component n => exact .component n
  | key k => exact .key k
  | equals k v => exact .equals k v
  | matching k p => exact .matching k p
  | test p => exact .test BEq.rfl

theorem beq_symm [PartialEquivBEq α] {c d : Condition α} (h : (c == d) = true) :
    (d == c) = true := by
  apply beq_induct (motive := fun c d => (d == c) = true) (h := h)
  case all => exact fun hcs => beq_iff.mpr (.all hcs.flip)
  case any => exact fun hcs => beq_iff.mpr (.any hcs.flip)
  case not => exact fun hc => beq_iff.mpr (.not hc)
  case test => exact fun hp => beq_iff.mpr (.test (BEq.symm hp))
  all_goals
    intros
    exact beq_iff.mpr (by constructor)

theorem forall₂_beq_trans {cs ds es : List (Condition α)}
    (hcs : List.Forall₂ (fun c d => ∀ e, (d == e) = true → (c == e) = true) cs ds)
    (hds : List.Forall₂ (fun d e => (d == e) = true) ds es) :
    List.Forall₂ (fun c e => (c == e) = true) cs es := by
  induction hcs generalizing es with
  | nil => exact hds
  | cons hc _ ih =>
    cases hds with
    | cons hd hds => exact .cons (hc _ hd) (ih hds)

theorem beq_trans [PartialEquivBEq α] {c d e : Condition α} (hcd : (c == d) = true)
    (hde : (d == e) = true) : (c == e) = true := by
  suffices h : ∀ e, (d == e) = true → (c == e) = true from h e hde
  apply beq_induct (motive := fun c d => ∀ e, (d == e) = true → (c == e) = true) (h := hcd)
  case all =>
    intro cs ds hcs e hde
    cases beq_iff.mp hde with
    | all hds => exact beq_iff.mpr (.all (forall₂_beq_trans hcs hds))
  case any =>
    intro cs ds hcs e hde
    cases beq_iff.mp hde with
    | any hds => exact beq_iff.mpr (.any (forall₂_beq_trans hcs hds))
  case not =>
    intro c d hc e hde
    cases beq_iff.mp hde with
    | not hd => exact beq_iff.mpr (.not (hc _ hd))
  case test =>
    intro p q hp e hde
    cases beq_iff.mp hde with
    | test hq => exact beq_iff.mpr (.test (BEq.trans hp hq))
  all_goals
    intros
    assumption

instance [EquivBEq α] : EquivBEq (Condition α) where
  rfl := beq_refl _
  symm := beq_symm
  trans := beq_trans

theorem eq_of_beq_of_tests (htest : ∀ p q : α, (p == q) = true → p = q) {c d : Condition α}
    (h : (c == d) = true) : c = d := by
  apply beq_induct (motive := Eq) (h := h)
  case all => exact fun hcs => congrArg all (List.forall₂_eq_eq_eq ▸ hcs)
  case any => exact fun hcs => congrArg any (List.forall₂_eq_eq_eq ▸ hcs)
  case not => exact fun hc => congrArg not hc
  case test => exact fun hp => congrArg test (htest _ _ hp)
  all_goals
    intros
    rfl

theorem shown_eq_of_beq [Named α] (hname : ∀ p q : α, (p == q) = true → name p = name q)
    {c d : Condition α} (h : (c == d) = true) : shown c = shown d := by
  apply beq_induct (motive := fun c d => shown c = shown d) (h := h)
  case all =>
    intro cs ds hcs
    rw [shown, shown, shownList_congr hcs]
  case any =>
    intro cs ds hcs
    rw [shown, shown, shownList_congr hcs]
  case not =>
    intro c d hc
    rw [shown, shown, hc]
  case test =>
    intro p q hp
    rw [shown, shown, hname p q hp]
  all_goals
    intros
    rfl

end Condition

variable [BEq α]

inductive Query.Same : Query α → Query α → Prop
  | refl (q : Query α) : Same q q
  | test {p q : α} : (p == q) = true → Same (.test p) (.test q)

/-- Equal tests get the same answer, and it makes no difference which of them were asked before. -/
structure Outside.Impartial (w : Outside α) : Prop where
  source : ∀ {h k}, List.Forall₂ Query.Same h k → (w h).source = (w k).source
  test : ∀ {h k p q}, List.Forall₂ Query.Same h k → (p == q) = true →
    (w h).test p = (w k).test q

namespace Session

structure Same (s t : Session α) : Prop where
  facts : s.facts = t.facts
  asked : List.Forall₂ Query.Same s.asked t.asked

variable {s t : Session α}

theorem Same.refl (s : Session α) : s.Same s :=
  ⟨rfl, List.forall₂_same.mpr fun q _ => .refl q⟩

theorem Same.ask (h : s.Same t) {q r : Query α} (hq : q.Same r) :
    Session.Same ⟨s.facts, s.asked ++ [q]⟩ ⟨t.facts, t.asked ++ [r]⟩ :=
  ⟨h.facts, List.rel_append h.asked (.cons hq .nil)⟩

/-- From sessions that are the same, the evaluations give one answer and go on to sessions that are
the same. -/
def InStep {β : Type} (e f : Eval α β) : Prop :=
  ∀ s t : Session α, s.Same t → (e s).1 = (f t).1 ∧ (e s).2.Same (f t).2

variable {w : Outside α} (hw : w.Impartial)

include hw

theorem presence_inStep (x : FactKind × String) : InStep (presence w x) (presence w x) := by
  intro s t hst
  cases hs : s.facts.answer? x with
  | some b =>
    have ht : t.facts.answer? x = some b := hst.facts ▸ hs
    rw [presence_known w hs, presence_known w ht]
    exact ⟨rfl, hst⟩
  | none =>
    have ht : t.facts.answer? x = none := hst.facts ▸ hs
    rw [presence_unknown w hs, presence_unknown w ht, hw.source hst.asked, hst.facts]
    exact ⟨rfl, rfl, (hst.ask (.refl _)).asked⟩

theorem value_inStep (k : String) : InStep (value w k) (value w k) := by
  intro s t hst
  have hsource : (w s.asked).source = (w t.asked).source := hw.source hst.asked
  exact ⟨congrArg (Source.value · k) hsource, hst.ask (.refl _)⟩

theorem test_inStep {p q : α} (hpq : (p == q) = true) : InStep (test w p) (test w q) :=
  fun _ _ hst => ⟨hw.test hst.asked hpq, hst.ask (.test hpq)⟩

end Session

namespace Condition

open Session

variable {w : Outside α}

theorem evalTo_inStep (decisive : Bool) {cs ds : List (Condition α)}
    (h : List.Forall₂ (fun c d => InStep (eval w c) (eval w d)) cs ds) :
    InStep (evalTo w decisive cs) (evalTo w decisive ds) := by
  induction h with
  | nil => exact fun s t hst => ⟨rfl, hst⟩
  | @cons c d cs ds hcd _ ih =>
    intro s t hst
    obtain ⟨hanswer, hsame⟩ := hcd s t hst
    rw [evalTo, evalTo, hanswer]
    by_cases hd : (eval w d t).1 = decisive
    · rw [if_pos hd, if_pos hd]
      exact ⟨rfl, hsame⟩
    · rw [if_neg hd, if_neg hd]
      exact ih _ _ hsame

theorem eval_inStep (hw : w.Impartial) {c d : Condition α} (h : (c == d) = true) :
    InStep (eval w c) (eval w d) := by
  apply beq_induct (motive := fun c d => InStep (eval w c) (eval w d)) (h := h)
  case always => exact fun b s t hst => ⟨rfl, hst⟩
  case all =>
    intro cs ds hcs s t hst
    rw [eval_all, eval_all]
    exact evalTo_inStep false hcs s t hst
  case any =>
    intro cs ds hcs s t hst
    rw [eval_any, eval_any]
    exact evalTo_inStep true hcs s t hst
  case not =>
    intro c d hc s t hst
    obtain ⟨hanswer, hsame⟩ := hc s t hst
    exact ⟨congrArg Bool.not hanswer, hsame⟩
  case component => exact fun n => presence_inStep hw (.component, n)
  case key => exact fun k => presence_inStep hw (.key, k)
  case equals =>
    intro k v s t hst
    obtain ⟨hvalue, hsame⟩ := value_inStep hw k s t hst
    exact ⟨congrArg (· == some v) hvalue, hsame⟩
  case matching =>
    intro k p s t hst
    obtain ⟨hvalue, hsame⟩ := value_inStep hw k s t hst
    exact ⟨congrArg (Option.any p.accepts) hvalue, hsame⟩
  case test => exact fun hpq => test_inStep hw hpq

/-- Equality of conditions is an equivalence, as that of tests is. As far as equal tests go by one
name and are treated alike, equal conditions are shown as one text, and in every session they give
the same answer, put the same questions in the same order and leave the same facts. Where a test is
equal to itself alone, so is a condition. -/
theorem equal_indistinguishable [EquivBEq α] [Named α]
    (hname : ∀ p q : α, (p == q) = true → name p = name q) :
    (∀ c : Condition α, (c == c) = true) ∧
    (∀ c d : Condition α, (c == d) = true → (d == c) = true) ∧
    (∀ c d e : Condition α, (c == d) = true → (d == e) = true → (c == e) = true) ∧
    ∀ c d : Condition α, (c == d) = true →
      shown c = shown d ∧
      (∀ w : Outside α, w.Impartial → ∀ s,
        (eval w c s).1 = (eval w d s).1 ∧ (eval w c s).2.Same (eval w d s).2) ∧
      ((∀ p q : α, (p == q) = true → p = q) → c = d) := by
  refine ⟨fun c => BEq.rfl, fun c d => BEq.symm, fun c d e => BEq.trans, ?_⟩
  intro c d h
  have heval : ∀ w : Outside α, w.Impartial → ∀ s,
      (eval w c s).1 = (eval w d s).1 ∧ (eval w c s).2.Same (eval w d s).2 :=
    fun w hw s => eval_inStep hw h s s (.refl s)
  exact ⟨shown_eq_of_beq hname h, heval, fun htest => eq_of_beq_of_tests htest h⟩

end Condition

namespace Predicate

structure Clone where
  origin : Predicate
  place : Nat

instance : BEq Clone := ⟨fun p q => p.origin == q.origin⟩

instance : EquivBEq Clone where
  rfl := BEq.rfl (α := Predicate)
  symm := BEq.symm (α := Predicate)
  trans := BEq.trans (α := Predicate)

instance : Named Clone := ⟨fun p => p.origin.label⟩

end Predicate

namespace Condition

/-- Each condition holds a clone of its own, in two places, which answers differently the second
time. -/
theorem equal_indistinguishable_clones :
    let held : Nat → Predicate.Clone := fun place => ⟨⟨"local", 3⟩, place⟩
    let w : Outside Predicate.Clone := fun asked =>
      ⟨.ofTable ["smtp"] [("port", "25")], fun p => p.origin.id == asked.length⟩
    let c := all [component "smtp", not (test (held 0)), any [equals "port" "587", test (held 0)]]
    let d := all [component "smtp", not (test (held 1)), any [equals "port" "587", test (held 1)]]
    (∀ p q : Predicate.Clone, (p == q) = true → name p = name q) ∧ w.Impartial ∧
      (c == d) = true ∧ c ≠ d ∧ shown c = shown d ∧
      (eval w d {}).1 = true ∧
      (eval w d {}).2.asked =
        [.component "smtp", .test (held 1), .value "port", .test (held 1)] ∧
      (eval w c {}).2.Same (eval w d {}).2 := by
  intro held w c d
  have hname : ∀ p q : Predicate.Clone, (p == q) = true → name p = name q :=
    fun p q h => congrArg Predicate.label (eq_of_beq (α := Predicate) h)
  have hw : w.Impartial := by
    constructor
    · exact fun _ => rfl
    · intro h k p q hhk hpq
      have horigin : p.origin = q.origin := eq_of_beq hpq
      change (p.origin.id == h.length) = (q.origin.id == k.length)
      rw [horigin, hhk.length_eq]
  have hequal : (c == d) = true := by decide
  have hne : c ≠ d := by simp [c, d, held]
  obtain ⟨hshown, heval, -⟩ := (equal_indistinguishable hname).2.2.2 c d hequal
  obtain ⟨hanswer, hsame⟩ := heval w hw {}
  exact ⟨hname, hw, hequal, hne, hshown, hanswer ▸ rfl, rfl, hsame⟩

end Condition

end Postroom
