import Postroom.Proofs.Requirement.Meaning

namespace Postroom

open Pattern

variable {α : Type}

inductive Query.ToSource : Query α → Prop
  | component (n : String) : ToSource (.component n)
  | presence (k : String) : ToSource (.presence k)
  | value (k : String) : ToSource (.value k)

def Session.AsksSource (s t : Session α) : Prop :=
  ∃ qs : List (Query α), t.asked = s.asked ++ qs ∧ ∀ q ∈ qs, q.ToSource

namespace Session.AsksSource

variable {s t u : Session α}

theorem refl (s : Session α) : s.AsksSource s :=
  ⟨[], (List.append_nil _).symm, fun _ hq => absurd hq List.not_mem_nil⟩

theorem trans (hst : s.AsksSource t) (htu : t.AsksSource u) : s.AsksSource u := by
  obtain ⟨qs, hqs, hsource⟩ := hst
  obtain ⟨rs, hrs, hsource'⟩ := htu
  refine ⟨qs ++ rs, by rw [hrs, hqs, List.append_assoc], fun q hq => ?_⟩
  exact (List.mem_append.mp hq).elim (hsource q) (hsource' q)

theorem single {q : Query α} (hq : q.ToSource) (h : t.asked = s.asked ++ [q]) : s.AsksSource t :=
  ⟨[q], h, fun _ hr => List.mem_singleton.mp hr ▸ hq⟩

theorem component (w : Outside α) (n : String) (s : Session α) :
    s.AsksSource (Session.component w n s).2 := by
  unfold Session.component
  cases s.facts.components.lookup n with
  | some b => exact refl s
  | none => exact single (.component n) rfl

theorem key (w : Outside α) (k : String) (s : Session α) :
    s.AsksSource (Session.key w k s).2 := by
  unfold Session.key
  cases s.facts.keys.lookup k with
  | some b => exact refl s
  | none => exact single (.presence k) rfl

end Session.AsksSource

namespace Condition

inductive Testless : Condition α → Prop
  | always (b : Bool) : Testless (.always b)
  | all {cs : List (Condition α)} : (∀ c ∈ cs, Testless c) → Testless (.all cs)
  | any {cs : List (Condition α)} : (∀ c ∈ cs, Testless c) → Testless (.any cs)
  | not {c : Condition α} : Testless c → Testless (.not c)
  | component (n : String) : Testless (.component n)
  | key (k : String) : Testless (.key k)
  | equals (k v : String) : Testless (.equals k v)
  | matching (k : String) (p : ValuePattern) : Testless (.matching k p)

theorem Testless.asksSource {c : Condition α} (h : c.Testless) (w : Outside α) (s : Session α) :
    s.AsksSource (c.eval w s).2 := by
  induction h generalizing s with
  | always b => exact .refl s
  | all _ ih => exact eval_all w s _ ▸ evalTo_keeps .refl .trans false _ ih s
  | any _ ih => exact eval_any w s _ ▸ evalTo_keeps .refl .trans true _ ih s
  | not _ ih => exact ih s
  | component n => exact .component w n s
  | key k => exact .key w k s
  | equals k v | matching k p => exact .single (.value k) rfl

theorem Testless.oneWithout {accepted excluded : List (Condition α)}
    (haccepted : ∀ c ∈ accepted, c.Testless) (hexcluded : ∀ c ∈ excluded, c.Testless) :
    (oneWithout accepted excluded).Testless := by
  refine .all fun c hc => ?_
  obtain rfl | hc := List.mem_cons.mp hc
  · exact .any haccepted
  · obtain rfl := List.mem_singleton.mp hc
    exact .not (.any hexcluded)

theorem Testless.of_map {leaf : String → Condition α} (hleaf : ∀ n, (leaf n).Testless)
    (names : List String) : ∀ c ∈ names.map leaf, c.Testless :=
  List.forall_mem_map.mpr fun n _ => hleaf n

end Condition

namespace ValueConstraint

variable {c : Option ValueConstraint} {k : String}

theorem testless_leaf {d : Condition α} (h : leaf? c k = .ok d) : d.Testless := by
  match c with
  | none =>
    cases h
    exact .key k
  | some (.equals x) =>
    cases h
    exact .equals k x
  | some (.matching p) =>
    unfold leaf? at h
    cases hp : ValuePattern.ofText? p with
    | none => simp [hp] at h
    | some pattern =>
      simp only [hp] at h
      cases h
      exact .matching k pattern

theorem leaf_eq_error_iff {e : InvalidPattern} :
    (leaf? c k : Except InvalidPattern (Condition α)) = .error e ↔
      c = some (.matching e.pattern) ∧ ValuePattern.ofText? e.pattern = none := by
  obtain ⟨pattern⟩ := e
  match c with
  | none => simp [leaf?]
  | some (.equals x) => simp [leaf?]
  | some (.matching p) => cases hp : ValuePattern.ofText? p <;> simp [leaf?, hp] <;> grind

end ValueConstraint

theorem RequiredProperty.compile_eq_error_iff {r : RequiredProperty} {e : InvalidPattern} :
    (r.compile : Except InvalidPattern (Condition α)) = .error e ↔
      r.constraint = some (.matching e.pattern) ∧ ValuePattern.ofText? e.pattern = none := by
  -- all keys have the same constraint, so the first key fails if any does
  have hkeys : r.keys.mapM (ValueConstraint.leaf? (α := α) r.constraint) = .error e ↔
      (ValueConstraint.leaf? r.constraint r.key : Except InvalidPattern (Condition α)) =
        .error e := by
    cases hkey : (ValueConstraint.leaf? r.constraint r.key :
        Except InvalidPattern (Condition α)) with
    | error e' => simp [keys, mapM_cons_error hkey]
    | ok d =>
      refine iff_of_false (fun h => ?_) nofun
      obtain ⟨k, -, hk⟩ := mapM_error_iff.mp ⟨e, h⟩
      have hmalformed := ValueConstraint.leaf_error_iff.mp hk
      obtain ⟨e', he'⟩ := (ValueConstraint.leaf_error_iff (α := α) (k := r.key)).mpr hmalformed
      rw [hkey] at he'
      cases he'
  rw [← ValueConstraint.leaf_eq_error_iff (α := α) (k := r.key), ← hkeys, compile_eq]
  cases r.keys.mapM (ValueConstraint.leaf? (α := α) r.constraint) <;> simp [Except.map]

theorem RequiredProperty.testless_compile {r : RequiredProperty} {c : Condition α}
    (h : r.compile = .ok c) : c.Testless := by
  rw [compile_eq] at h
  obtain ⟨leaves, hleaves, rfl⟩ := exists_of_map_ok h
  refine .oneWithout (fun d hd => ?_) (.of_map .key _)
  obtain ⟨k, -, hk⟩ := exists_of_mem_mapM_ok hleaves d hd
  exact ValueConstraint.testless_leaf hk

namespace Requirements

variable {r : Requirements}

def Malformed (r : Requirements) : Prop :=
  ∃ p ∈ r.propertySpecs, ValueConstraint.Malformed p.constraint

/-- This is the first of the declared patterns that cannot be read. -/
def MalformedAt (r : Requirements) (pattern : String) : Prop :=
  ∃ front p back, r.propertySpecs = front ++ p :: back ∧
    (∀ q ∈ front, ¬ValueConstraint.Malformed q.constraint) ∧
    p.constraint = some (.matching pattern) ∧ ValuePattern.ofText? pattern = none

theorem compile_eq_error_iff {e : InvalidPattern} :
    (r.compile : Except InvalidPattern (Condition α)) = .error e ↔ r.MalformedAt e.pattern := by
  cases hempty : r.isEmpty with
  | true =>
    rw [eq_empty_of_isEmpty hempty]
    simp [compile, isEmpty, MalformedAt]
  | false =>
    have hspecs : (r.compile : Except InvalidPattern (Condition α)) = .error e ↔
        r.propertySpecs.mapM (RequiredProperty.compile (α := α)) = .error e := by
      rw [compile_eq hempty]
      cases r.propertySpecs.mapM (RequiredProperty.compile (α := α)) <;> simp [Except.map]
    rw [hspecs, mapM_eq_error_iff, MalformedAt]
    simp only [RequiredProperty.compile_error_iff]
    simp only [RequiredProperty.compile_eq_error_iff]

theorem Malformed.exists_malformedAt (h : r.Malformed) : ∃ pattern, r.MalformedAt pattern := by
  obtain ⟨front, p, back, hsplit, hfront, pattern, hp, hpattern⟩ := exists_first h
  exact ⟨pattern, front, p, back, hsplit, hfront, hp, hpattern⟩

theorem testless_compile {c : Condition α} (h : r.compile = .ok c) : c.Testless := by
  cases hempty : r.isEmpty with
  | true =>
    rw [eq_empty_of_isEmpty hempty] at h
    cases h
    exact .always true
  | false =>
    rw [compile_eq hempty] at h
    obtain ⟨specs, hspecs, rfl⟩ := exists_of_map_ok h
    refine .all ?_
    simp only [terms, List.forall_mem_append]
    refine ⟨⟨⟨.of_map .component _, ?_⟩, .of_map .key _⟩, fun c hc => ?_⟩
    · exact List.forall_mem_map.mpr fun spec _ =>
        .oneWithout (.of_map .component _) (.of_map .component _)
    · obtain ⟨spec, -, hspec⟩ := exists_of_mem_mapM_ok hspecs c hc
      exact spec.testless_compile hspec

end Requirements

end Postroom
