import Postroom.Proofs.Capability.Facts
import Postroom.Proofs.Condition.Running

namespace Postroom

variable {α : Type}

def Query.subject? : Query α → Option (FactKind × String)
  | component n => some (.component, n)
  | presence k => some (.key, k)
  | _ => none

def Query.ofSubject : FactKind × String → Query α
  | (.component, n) => .component n
  | (.key, k) => .presence k

def Source.has (src : Source) : FactKind × String → Bool
  | (.component, n) => src.loadable n
  | (.key, k) => src.hasValue k

namespace Session

def presence (w : Outside α) : FactKind × String → Eval α Bool
  | (.component, n) => component w n
  | (.key, k) => key w k

theorem presence_known (w : Outside α) {s : Session α} {x : FactKind × String} {b : Bool}
    (h : s.facts.answer? x = some b) : presence w x s = (b, s) := by
  obtain ⟨kind, name⟩ := x
  cases kind <;> simp only [Facts.answer?] at h <;> simp only [presence, component, key, h]

theorem presence_unknown (w : Outside α) {s : Session α} {x : FactKind × String}
    (h : s.facts.answer? x = none) :
    presence w x s = ((w s.asked).source.has x,
      ⟨s.facts.remember x ((w s.asked).source.has x), s.asked ++ [.ofSubject x]⟩) := by
  obtain ⟨kind, name⟩ := x
  cases kind <;> simp only [Facts.answer?] at h <;> simp only [presence, component, key, h] <;> rfl

end Session

namespace Condition

mutual

def given (w : Outside α) : Condition α → Session α → List Fact
  | all cs, s => givenAll w cs s
  | any cs, s => givenAny w cs s
  | not c, s => given w c s
  | component n, s => [⟨.component, n, (Session.component w n s).1⟩]
  | key k, s => [⟨.key, k, (Session.key w k s).1⟩]
  | _, _ => []

def givenAll (w : Outside α) : List (Condition α) → Session α → List Fact
  | [], _ => []
  | c :: cs, s =>
    given w c s ++ if (eval w c s).1 then givenAll w cs (eval w c s).2 else []

def givenAny (w : Outside α) : List (Condition α) → Session α → List Fact
  | [], _ => []
  | c :: cs, s =>
    given w c s ++ if (eval w c s).1 then [] else givenAny w cs (eval w c s).2

end

end Condition

inductive Call (α : Type)
  | component (name : String)
  | key (key : String)
  | value (key : String)
  | accept (c : Condition α)
  | reset

/-- A session, and what happened since its facts were last forgotten. -/
structure Period (α : Type) where
  session : Session α := {}
  start : Nat := 0
  given : List Fact := []

namespace Period

def asked (p : Period α) : List (Query α) := p.session.asked.drop p.start

def extend (p : Period α) (s : Session α) (answers : List Fact) : Period α :=
  { p with session := s, given := p.given ++ answers }

def step (p : Period α) (w : Outside α) : Call α → Period α
  | .component n =>
    let r := Session.component w n p.session
    p.extend r.2 [⟨.component, n, r.1⟩]
  | .key k =>
    let r := Session.key w k p.session
    p.extend r.2 [⟨.key, k, r.1⟩]
  | .value k => p.extend (Session.value w k p.session).2 []
  | .accept c => p.extend (c.eval w p.session).2 (c.given w p.session)
  | .reset =>
    let s := (Session.reset p.session).2
    { session := s, start := s.asked.length }

def run (calls : List (Outside α × Call α)) : Period α :=
  calls.foldl (fun p call => p.step call.1 call.2) {}

/-- The facts, the questions and the answers of a period fit together. -/
structure Faithful (p : Period α) : Prop where
  start_le : p.start ≤ p.session.asked.length
  distinct : p.session.facts.Distinct
  once : (p.asked.filterMap Query.subject?).Nodup
  asked_iff : ∀ x, x ∈ p.asked.filterMap Query.subject? ↔ ∃ f ∈ p.given, f.subject = x
  answer_of_given : ∀ f ∈ p.given, p.session.facts.answer? f.subject = some f.present
  given_of_answer : ∀ x b, p.session.facts.answer? x = some b → ⟨x.1, x.2, b⟩ ∈ p.given

theorem extend_self (p : Period α) : p.extend p.session [] = p := by
  simp [extend]

theorem extend_extend (p : Period α) (s t : Session α) (fs gs : List Fact) :
    (p.extend s fs).extend t gs = p.extend t (fs ++ gs) := by
  simp [extend]

theorem subject?_ofSubject (x : FactKind × String) :
    Query.subject? (Query.ofSubject x : Query α) = some x := by
  obtain ⟨kind, name⟩ := x
  cases kind <;> rfl

theorem asked_extend {p : Period α} (h : p.start ≤ p.session.asked.length) (f : Facts)
    (q : Query α) (answers : List Fact) :
    (p.extend ⟨f, p.session.asked ++ [q]⟩ answers).asked = p.asked ++ [q] :=
  List.drop_append_of_le_length h

theorem faithful_fresh (before : List (Query α)) :
    Faithful { session := ⟨{}, before⟩, start := before.length } where
  start_le := Nat.le_refl _
  distinct := ⟨List.nodup_nil, List.nodup_nil⟩
  once := by simp [asked]
  asked_iff := by simp [asked]
  answer_of_given := by simp
  given_of_answer := by
    rintro ⟨kind, name⟩ b h
    cases kind <;> simp [Facts.answer?] at h

namespace Faithful

variable {p : Period α}

theorem extend_known (h : p.Faithful) {x : FactKind × String} {b : Bool}
    (hx : p.session.facts.answer? x = some b) :
    (p.extend p.session [⟨x.1, x.2, b⟩]).Faithful where
  start_le := h.start_le
  distinct := h.distinct
  once := h.once
  asked_iff := by
    intro y
    refine (h.asked_iff y).trans ⟨?_, ?_⟩
    · rintro ⟨f, hf, rfl⟩
      exact ⟨f, List.mem_append_left _ hf, rfl⟩
    · rintro ⟨f, hf, rfl⟩
      obtain hf | hf := List.mem_append.mp hf
      · exact ⟨f, hf, rfl⟩
      · obtain rfl := List.mem_singleton.mp hf
        exact ⟨_, h.given_of_answer x b hx, rfl⟩
  answer_of_given := by
    intro f hf
    obtain hf | hf := List.mem_append.mp hf
    · exact h.answer_of_given f hf
    · obtain rfl := List.mem_singleton.mp hf
      exact hx
  given_of_answer := fun y c hy => List.mem_append_left _ (h.given_of_answer y c hy)

theorem not_asked (h : p.Faithful) {x : FactKind × String}
    (hx : p.session.facts.answer? x = none) : x ∉ p.asked.filterMap Query.subject? := by
  intro hm
  obtain ⟨f, hf, rfl⟩ := (h.asked_iff x).mp hm
  have hf' := h.answer_of_given f hf
  rw [hx] at hf'
  cases hf'

theorem extend_unknown (h : p.Faithful) {x : FactKind × String}
    (hx : p.session.facts.answer? x = none) (b : Bool) :
    (p.extend ⟨p.session.facts.remember x b, p.session.asked ++ [.ofSubject x]⟩
      [⟨x.1, x.2, b⟩]).Faithful where
  start_le := by
    have := h.start_le
    simp only [extend, List.length_append]
    omega
  distinct := h.distinct.remember hx b
  once := by
    rw [asked_extend h.start_le, List.filterMap_append]
    refine List.nodup_append.mpr ⟨h.once, by simp [subject?_ofSubject], ?_⟩
    intro y hy z hz he
    simp only [List.filterMap_cons, subject?_ofSubject, List.filterMap_nil,
      List.mem_singleton] at hz
    exact h.not_asked hx (hz ▸ he ▸ hy)
  asked_iff := by
    intro y
    have hnew : y ∈ [Query.ofSubject x].filterMap (Query.subject? (α := α)) ↔ y = x := by
      simp [subject?_ofSubject, eq_comm]
    rw [asked_extend h.start_le, List.filterMap_append, List.mem_append, h.asked_iff y, hnew]
    constructor
    · rintro (⟨f, hf, rfl⟩ | rfl)
      · exact ⟨f, List.mem_append_left _ hf, rfl⟩
      · exact ⟨_, List.mem_append_right _ List.mem_cons_self, rfl⟩
    · rintro ⟨f, hf, rfl⟩
      obtain hf | hf := List.mem_append.mp hf
      · exact .inl ⟨f, hf, rfl⟩
      · obtain rfl := List.mem_singleton.mp hf
        exact .inr rfl
  answer_of_given := by
    intro f hf
    change (p.session.facts.remember x b).answer? f.subject = some f.present
    rw [Facts.answer?_remember]
    obtain hf | hf := List.mem_append.mp hf
    · have hold := h.answer_of_given f hf
      have hne : f.subject ≠ x := fun he => by rw [he, hx] at hold; cases hold
      rw [if_neg hne, hold]
    · obtain rfl := List.mem_singleton.mp hf
      exact if_pos rfl
  given_of_answer := by
    intro y c hy
    change (p.session.facts.remember x b).answer? y = some c at hy
    rw [Facts.answer?_remember] at hy
    by_cases he : y = x
    · subst y
      rw [if_pos rfl] at hy
      cases hy
      exact List.mem_append_right _ List.mem_cons_self
    · rw [if_neg he] at hy
      exact List.mem_append_left _ (h.given_of_answer y c hy)

theorem presence (h : p.Faithful) (w : Outside α) (x : FactKind × String) :
    (p.extend (Session.presence w x p.session).2
      [⟨x.1, x.2, (Session.presence w x p.session).1⟩]).Faithful := by
  cases hx : p.session.facts.answer? x with
  | some b =>
    rw [Session.presence_known w hx]
    exact h.extend_known hx
  | none =>
    rw [Session.presence_unknown w hx]
    exact h.extend_unknown hx _

theorem other (h : p.Faithful) {q : Query α} (hq : q.subject? = none) :
    (p.extend ⟨p.session.facts, p.session.asked ++ [q]⟩ []).Faithful := by
  have hasked : (p.asked ++ [q]).filterMap Query.subject? = p.asked.filterMap Query.subject? := by
    simp [hq]
  refine ⟨?_, h.distinct, ?_, ?_, ?_, ?_⟩
  · have := h.start_le
    simp only [extend, List.length_append]
    omega
  · rw [asked_extend h.start_le, hasked]
    exact h.once
  · intro x
    rw [asked_extend h.start_le, hasked, h.asked_iff x]
    simp [extend]
  · simpa [extend] using h.answer_of_given
  · simpa [extend] using h.given_of_answer

theorem evalAll (w : Outside α) (cs : List (Condition α))
    (ih : ∀ c ∈ cs, ∀ {p : Period α}, p.Faithful →
      (p.extend (c.eval w p.session).2 (c.given w p.session)).Faithful)
    (h : p.Faithful) :
    (p.extend (Condition.evalAll w cs p.session).2
      (Condition.givenAll w cs p.session)).Faithful := by
  induction cs generalizing p with
  | nil => exact (extend_self p).symm ▸ h
  | cons c cs ihs =>
    have hc := ih c List.mem_cons_self h
    rw [Condition.evalAll_cons, Condition.givenAll]
    cases hb : (c.eval w p.session).1 with
    | true =>
      rw [if_pos rfl, if_pos rfl, ← extend_extend]
      exact ihs (fun d hd => ih d (List.mem_cons_of_mem c hd)) hc
    | false => simpa using hc

theorem evalAny (w : Outside α) (cs : List (Condition α))
    (ih : ∀ c ∈ cs, ∀ {p : Period α}, p.Faithful →
      (p.extend (c.eval w p.session).2 (c.given w p.session)).Faithful)
    (h : p.Faithful) :
    (p.extend (Condition.evalAny w cs p.session).2
      (Condition.givenAny w cs p.session)).Faithful := by
  induction cs generalizing p with
  | nil => exact (extend_self p).symm ▸ h
  | cons c cs ihs =>
    have hc := ih c List.mem_cons_self h
    rw [Condition.evalAny_cons, Condition.givenAny]
    cases hb : (c.eval w p.session).1 with
    | true => simpa using hc
    | false =>
      rw [if_neg Bool.false_ne_true, if_neg Bool.false_ne_true, ← extend_extend]
      exact ihs (fun d hd => ih d (List.mem_cons_of_mem c hd)) hc

theorem eval (w : Outside α) (c : Condition α) (h : p.Faithful) :
    (p.extend (c.eval w p.session).2 (c.given w p.session)).Faithful := by
  induction c generalizing p with
  | always b => exact (extend_self p).symm ▸ h
  | all cs ih => exact evalAll w cs (fun c hc => ih c hc) h
  | any cs ih => exact evalAny w cs (fun c hc => ih c hc) h
  | not c ih => exact ih h
  | component n => exact h.presence w (.component, n)
  | key k => exact h.presence w (.key, k)
  | equals k v | matching k p => exact h.other (q := .value k) rfl
  | test q => exact h.other (q := .test q) rfl

theorem step (h : p.Faithful) (w : Outside α) (call : Call α) : (p.step w call).Faithful := by
  cases call with
  | component n => exact h.presence w (.component, n)
  | key k => exact h.presence w (.key, k)
  | value k => exact h.other (q := .value k) rfl
  | accept c => exact h.eval w c
  | reset => exact faithful_fresh p.session.asked

end Faithful

theorem Faithful.find?_eq_some_iff {p : Period α} (h : p.Faithful) (f : Fact) :
    p.given.find? (·.subject = f.subject) = some f ↔ f ∈ p.given := by
  refine ⟨List.mem_of_find?_eq_some, ?_⟩
  intro hf
  cases hg : p.given.find? (·.subject = f.subject) with
  | none => simpa using List.find?_eq_none.mp hg f hf
  | some g =>
    have hgf : g.subject = f.subject := by simpa using List.find?_some hg
    have hpresent : some g.present = some f.present := by
      rw [← h.answer_of_given g (List.mem_of_find?_eq_some hg), hgf, h.answer_of_given f hf]
    obtain ⟨hkind, hname⟩ := Prod.mk.inj hgf
    cases g
    cases f
    cases hkind
    cases hname
    cases hpresent
    rfl

theorem Faithful.mem_toList_iff {p : Period α} (h : p.Faithful) (f : Fact) :
    f ∈ p.session.facts.toList ↔ f ∈ p.given := by
  rw [Facts.mem_toList h.distinct]
  exact ⟨h.given_of_answer f.subject f.present, h.answer_of_given f⟩

theorem faithful_run (calls : List (Outside α × Call α)) : (run calls).Faithful := by
  have h : ∀ p : Period α, p.Faithful →
      (calls.foldl (fun p call => p.step call.1 call.2) p).Faithful := by
    induction calls with
    | nil => exact fun p h => h
    | cons call calls ih => exact fun p h => ih _ (h.step call.1 call.2)
  exact h {} (faithful_fresh [])

/-- At every moment of every run: no subject was asked for twice in the period, the answers given
about it are all the first one, and the facts in their order are the first answers. What was not
consulted gets the answer of the moment, and so does every look at a value, which keeps no fact. -/
theorem facts_are_first_answers (calls : List (Outside α × Call α)) :
    let p := run calls
    (p.asked.filterMap Query.subject?).Nodup ∧
    (∀ x, x ∈ p.asked.filterMap Query.subject? ↔ ∃ f ∈ p.given, f.subject = x) ∧
    (∀ f ∈ p.given, p.given.find? (·.subject = f.subject) = some f) ∧
    p.session.facts.toList.Pairwise Fact.Before ∧
    (∀ f, f ∈ p.session.facts.toList ↔ p.given.find? (·.subject = f.subject) = some f) ∧
    (∀ (w : Outside α) x, (∀ f ∈ p.given, f.subject ≠ x) →
      (Session.presence w x p.session).1 = (w p.session.asked).source.has x) ∧
    ∀ (w : Outside α) k, Session.value w k p.session =
      ((w p.session.asked).source.value k,
        ⟨p.session.facts, p.session.asked ++ [.value k]⟩) := by
  intro p
  have h : p.Faithful := faithful_run calls
  refine ⟨h.once, h.asked_iff, fun f => (h.find?_eq_some_iff f).mpr,
    Facts.toList_pairwise h.distinct, ?_, ?_, fun w k => rfl⟩
  · intro f
    rw [h.mem_toList_iff, h.find?_eq_some_iff]
  · intro w x hx
    cases hb : p.session.facts.answer? x with
    | none => rw [Session.presence_unknown w hb]
    | some b => exact absurd rfl (hx _ (h.given_of_answer x b hb))

end Period

end Postroom
