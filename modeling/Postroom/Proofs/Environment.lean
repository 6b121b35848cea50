import Postroom.Environment
import Postroom.Proofs.Capability.Period
import Postroom.Proofs.Requirement.Meaning

namespace Postroom

variable {α : Type}

def Facts.TrueTo (f : Facts) (src : Source) : Prop := ∀ x b, f.answer? x = some b → src.has x = b

theorem Facts.trueTo_empty (src : Source) : ({} : Facts).TrueTo src := by
  rintro ⟨kind, name⟩ b h
  cases kind <;> simp [answer?] at h

theorem Facts.TrueTo.remember {f : Facts} {src : Source} (h : f.TrueTo src)
    (x : FactKind × String) : (f.remember x (src.has x)).TrueTo src := by
  intro y b hy
  rw [answer?_remember] at hy
  by_cases hyx : y = x
  · subst y
    simpa using hy
  · rw [if_neg hyx] at hy
    exact h y b hy

section

variable {src : Source} {w : Outside α} (hw : ∀ asked, (w asked).source = src)

include hw

theorem Session.presence_of_trueTo {s : Session α} (h : s.facts.TrueTo src)
    (x : FactKind × String) :
    (presence w x s).1 = src.has x ∧ (presence w x s).2.facts.TrueTo src := by
  cases hx : s.facts.answer? x with
  | some b =>
    rw [presence_known w hx]
    exact ⟨(h x b hx).symm, h⟩
  | none =>
    rw [presence_unknown w hx, hw]
    exact ⟨rfl, h.remember x⟩

theorem Condition.eval_trueTo (c : Condition α) {s : Session α} (h : s.facts.TrueTo src) :
    (eval w c s).2.facts.TrueTo src :=
  eval_keeps (R := fun s t => s.facts.TrueTo src → t.facts.TrueTo src) (fun _ h => h)
    (fun hst htu h => htu (hst h))
    (fun n _ h => (Session.presence_of_trueTo hw h (.component, n)).2)
    (fun k _ h => (Session.presence_of_trueTo hw h (.key, k)).2) (fun _ _ h => h) c s h

theorem Period.step_trueTo {p : Period α} (h : p.session.facts.TrueTo src) (call : Call α) :
    (p.step w call).session.facts.TrueTo src := by
  cases call with
  | component n => exact (Session.presence_of_trueTo hw h (.component, n)).2
  | key k => exact (Session.presence_of_trueTo hw h (.key, k)).2
  | value k => exact h
  | accept c => exact c.eval_trueTo hw h
  | reset => exact Facts.trueTo_empty src

theorem RequiredProperty.firstValue_eq (ks : List String) (s : Session α) :
    firstValue w ks s =
      (ks.findSome? fun k => (src.value k).map (k, ·),
        ⟨s.facts, s.asked ++ (through (fun k => (src.value k).isSome) ks).map .value⟩) := by
  induction ks generalizing s with
  | nil =>
    rw [through, List.map_nil, List.append_nil]
    rfl
  | cons k ks ih =>
    have hvalue : Session.value w k s = (src.value k, ⟨s.facts, s.asked ++ [.value k]⟩) := by
      rw [← hw s.asked]
      rfl
    simp only [firstValue, bind, StateT.bind, hvalue]
    cases hk : src.value k with
    | some v =>
      simp only [through, hk, Option.isSome_some, if_true, List.map_cons, List.map_nil]
      rw [List.findSome?_cons, hk]
      rfl
    | none => simp [ih, through, hk]

end

theorem Period.run_trueTo {src : Source} {calls : List (Outside α × Call α)}
    (h : ∀ call ∈ calls, ∀ asked, (call.1 asked).source = src) :
    (run calls).session.facts.TrueTo src := by
  have hrun : ∀ p : Period α, p.session.facts.TrueTo src →
      (calls.foldl (fun p call => p.step call.1 call.2) p).session.facts.TrueTo src := by
    induction calls with
    | nil => exact fun p hp => hp
    | cons call calls ih =>
      have hcall := h call List.mem_cons_self
      exact fun p hp => ih (fun d hd => h d (List.mem_cons_of_mem call hd)) _
        (step_trueTo hcall hp call.2)
  exact hrun {} (Facts.trueTo_empty src)

theorem Session.valuation_of_trueTo {a : Answers α} {s : Session α} (h : s.facts.TrueTo a.source) :
    s.valuation a = ⟨a.source.loadable, a.source.hasValue, a.source.value, a.test⟩ := by
  have hcomponent : ∀ n, (s.facts.components.lookup n).getD (a.source.loadable n) =
      a.source.loadable n := by
    intro n
    cases hn : s.facts.components.lookup n with
    | none => rfl
    | some b => exact (h (.component, n) b hn).symm
  have hkey : ∀ k, (s.facts.keys.lookup k).getD (a.source.hasValue k) = a.source.hasValue k := by
    intro k
    cases hk : s.facts.keys.lookup k with
    | none => rfl
    | some b => exact (h (.key, k) b hk).symm
  simp only [valuation, hcomponent, hkey]

namespace Environment

def outside (e : Environment) (ask : List (Query α) → α → Bool) : Outside α :=
  fun asked => ⟨e.source, ask asked⟩

/-- The key has a text that can be evaluated. -/
def Valued (e : Environment) (k : String) : Prop := ∃ v, e.properties.get k = .ok (some v)

variable {e : Environment} {k v : String}

theorem value?_eq_some_iff : e.value? k = some v ↔ e.properties.get k = .ok (some v) := by
  unfold value?
  cases e.properties.get k <;> simp

theorem isSome_value?_iff : (e.value? k).isSome = true ↔ e.Valued k := by
  rw [Option.isSome_iff_exists]
  exact exists_congr fun v => value?_eq_some_iff

theorem value?_eq_none_iff : e.value? k = none ↔ ¬e.Valued k := by
  rw [← isSome_value?_iff, Bool.not_eq_true, Option.isSome_eq_false_iff, Option.isNone_iff_eq_none]

variable {r : RequiredProperty} {w : Outside α} {s : Session α}
  (hw : ∀ asked, (w asked).source = e.source)

include hw

theorem resolve_eq_some_iff : (r.resolve w s).1 = some (k, v) ↔
    ∃ front back, r.keys = front ++ k :: back ∧ e.properties.get k = .ok (some v) ∧
      ∀ j ∈ front, ¬e.Valued j := by
  rw [RequiredProperty.resolve, RequiredProperty.firstValue_eq hw, List.findSome?_eq_some_iff]
  simp only [source, Option.map_eq_some_iff, Option.map_eq_none_iff, value?_eq_none_iff,
    value?_eq_some_iff, Prod.mk.injEq]
  constructor
  · rintro ⟨front, j, back, hkeys, ⟨u, hu, rfl, rfl⟩, hfront⟩
    exact ⟨front, back, hkeys, hu, hfront⟩
  · rintro ⟨front, back, hkeys, hv, hfront⟩
    exact ⟨front, k, back, hkeys, ⟨v, hv, rfl, rfl⟩, hfront⟩

theorem isSome_resolve_iff : (r.resolve w s).1.isSome = true ↔ ∃ k ∈ r.keys, e.Valued k := by
  rw [RequiredProperty.resolve, RequiredProperty.firstValue_eq hw]
  simp [source, isSome_value?_iff]

omit hw

theorem valued_of_allows {test : α → Bool} {c : Option ValueConstraint}
    (h : ValueConstraint.Allows ⟨e.source.loadable, e.source.hasValue, e.source.value, test⟩ c k) :
    e.Valued k := by
  match c with
  | none => exact isSome_value?_iff.mp h
  | some (.equals x) => exact ⟨x, value?_eq_some_iff.mp h⟩
  | some (.matching p) =>
    obtain ⟨x, pattern, hx, -, -⟩ := h
    exact ⟨x, value?_eq_some_iff.mp hx⟩

/-- At every moment of every run over an environment a key is present exactly if it has a value, and
exactly if its text can be evaluated. So a property without a constraint is accepted exactly if it
can be resolved and no excluded key has a value, and none that is accepted cannot be resolved. It is
resolved to the first of its keys that can be evaluated. -/
theorem presence_value_resolution_agree (e : Environment)
    (calls : List ((List (Query α) → α → Bool) × Call α)) (test : α → Bool) :
    let s := (Period.run (calls.map fun call => (e.outside call.1, call.2))).session
    let w := e.outside fun _ => test
    (∀ k, ((Session.key w k s).1 = true ↔ (Session.value w k s).1.isSome = true) ∧
      ((Session.value w k s).1.isSome = true ↔ e.Valued k) ∧
      ∀ v, (Session.value w k s).1 = some v ↔ e.properties.get k = .ok (some v)) ∧
    ∀ r : RequiredProperty,
      (r.constraint = none → ∃ c, r.compile = .ok c ∧
        ((c.eval w s).1 = true ↔
          (r.resolve w s).1.isSome = true ∧ ∀ k ∈ r.excludes, ¬e.Valued k)) ∧
      (∀ c, r.compile = .ok c → (c.eval w s).1 = true → (r.resolve w s).1.isSome = true) ∧
      (∀ k v, (r.resolve w s).1 = some (k, v) ↔
        ∃ front back, r.keys = front ++ k :: back ∧ e.properties.get k = .ok (some v) ∧
          ∀ j ∈ front, ¬e.Valued j) := by
  intro s w
  have hw : ∀ asked, (w asked).source = e.source := fun _ => rfl
  have htrue : s.facts.TrueTo e.source := by
    refine Period.run_trueTo fun call hcall => ?_
    obtain ⟨given, -, rfl⟩ := List.mem_map.mp hcall
    exact fun _ => rfl
  have hvaluation := Session.valuation_of_trueTo (a := ⟨e.source, test⟩) htrue
  have heval : ∀ c : Condition α, (c.eval w s).1 =
      c.holds ⟨e.source.loadable, e.source.hasValue, e.source.value, test⟩ := by
    intro c
    rw [← hvaluation]
    exact congrArg Prod.fst (Condition.eval_lazily c s rfl)
  refine ⟨fun k => ⟨?_, isSome_value?_iff, fun v => value?_eq_some_iff⟩, fun r => ⟨?_, ?_, ?_⟩⟩
  · have hpresence := (Session.presence_of_trueTo hw htrue (.key, k)).1
    exact Eq.congr_left hpresence
  · intro hnone
    obtain ⟨c, hc⟩ : ∃ c : Condition α, r.compile = .ok c := by
      apply exists_ok_of_not_error
      rw [RequiredProperty.compile_error_iff, hnone]
      rintro ⟨p, hp, -⟩
      cases hp
    refine ⟨c, hc, ?_⟩
    rw [heval, RequiredProperty.holds_compile hc, isSome_resolve_iff hw, RequiredProperty.MetBy,
      hnone]
    refine and_congr (exists_congr fun k => and_congr_right fun _ => isSome_value?_iff)
      (forall₂_congr fun k _ => ?_)
    rw [← isSome_value?_iff, Bool.not_eq_true]
    rfl
  · intro c hc haccepts
    rw [heval, RequiredProperty.holds_compile hc] at haccepts
    obtain ⟨⟨k, hk, hallows⟩, -⟩ := haccepts
    exact (isSome_resolve_iff hw).mpr ⟨k, hk, valued_of_allows hallows⟩
  · exact fun k v => resolve_eq_some_iff hw

/-- The primary key is held but refers to nothing, the first alternative refers to itself, and one
of them was asked for before. -/
theorem presence_value_resolution_agree_alternative :
    let e : Environment :=
      { properties := .ofList [.table "app" [("host", "$\x7bname\x7d"),
          ("relay", "$\x7brelay\x7d"), ("smtp", "mx"), ("off", "$\x7boff\x7d")]] }
    let r : RequiredProperty := ⟨"host", ["relay", "smtp"], ["off"], none⟩
    let calls : List ((List (Query Nat) → Nat → Bool) × Call Nat) :=
      [(fun asked n => n < asked.length, .accept (.any [.test 0, .key "host", .test 1])),
        (fun _ _ => false, .reset), (fun _ _ => true, .key "relay")]
    let s := (Period.run (calls.map fun call => (e.outside call.1, call.2))).session
    let w := e.outside fun _ _ => false
    r.constraint = none ∧ s.facts.toList = [⟨.key, "relay", false⟩] ∧
      (r.resolve w s).1 = some ("smtp", "mx") ∧
      ∃ c, r.compile = .ok c ∧ (c.eval w s).1 = true := by
  intro e r calls s w
  obtain ⟨-, hproperty⟩ := presence_value_resolution_agree e calls fun _ => false
  obtain ⟨haccepts, -, -⟩ := hproperty r
  obtain ⟨c, hc, hiff⟩ := haccepts rfl
  have hresolve : (r.resolve w s).1 = some ("smtp", "mx") := by decide +kernel
  have hoff : e.value? "off" = none := by decide +kernel
  refine ⟨rfl, by decide +kernel, hresolve, c, hc, hiff.mpr ⟨?_, ?_⟩⟩
  · rw [hresolve]
    rfl
  · intro k hk
    obtain rfl := List.mem_singleton.mp hk
    exact value?_eq_none_iff.mp hoff

end Environment

end Postroom
