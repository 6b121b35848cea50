import Mathlib.Logic.Basic
import Postroom.Proofs.Condition.Truth
import Postroom.Proofs.Sequence
import Postroom.Requirement.Basic

namespace Postroom

open Pattern

variable {α : Type}

def ValueConstraint.Allows (v : Valuation α) : Option ValueConstraint → String → Prop
  | none, k => v.key k = true
  | some (.equals x), k => v.value k = some x
  | some (.matching p), k => ∃ x pattern, v.value k = some x ∧
      ValuePattern.ofText? p = some pattern ∧ pattern.accepts x = true

def ValueConstraint.Malformed (c : Option ValueConstraint) : Prop :=
  ∃ p, c = some (.matching p) ∧ ValuePattern.ofText? p = none

def RequiredComponent.MetBy (v : Valuation α) (r : RequiredComponent) : Prop :=
  (∃ n ∈ r.names, v.component n = true) ∧ ∀ n ∈ r.excludes, v.component n = false

def RequiredProperty.MetBy (v : Valuation α) (r : RequiredProperty) : Prop :=
  (∃ k ∈ r.keys, ValueConstraint.Allows v r.constraint k) ∧ ∀ k ∈ r.excludes, v.key k = false

structure Requirements.MetBy (v : Valuation α) (r : Requirements) : Prop where
  components : ∀ n ∈ r.components, v.component n = true
  componentSpecs : ∀ c ∈ r.componentSpecs, c.MetBy v
  properties : ∀ k ∈ r.properties, v.key k = true
  propertySpecs : ∀ p ∈ r.propertySpecs, p.MetBy v

section

variable (v : Valuation α)

instance (c : Option ValueConstraint) (k : String) : Decidable (ValueConstraint.Allows v c k) :=
  match c with
  | none => inferInstanceAs (Decidable (v.key k = true))
  | some (.equals x) => inferInstanceAs (Decidable (v.value k = some x))
  | some (.matching p) =>
    decidable_of_iff
      ((v.value k).any (fun x => (ValuePattern.ofText? p).any (·.accepts x)) = true)
      (by simp [ValueConstraint.Allows, Option.any_eq_true])

instance (r : RequiredComponent) : Decidable (r.MetBy v) :=
  inferInstanceAs (Decidable (_ ∧ _))

instance (r : RequiredProperty) : Decidable (r.MetBy v) :=
  inferInstanceAs (Decidable (_ ∧ _))

instance (r : Requirements) : Decidable (r.MetBy v) :=
  decidable_of_iff
    (((∀ n ∈ r.components, v.component n = true) ∧ ∀ c ∈ r.componentSpecs, c.MetBy v) ∧
      (∀ k ∈ r.properties, v.key k = true) ∧ ∀ p ∈ r.propertySpecs, p.MetBy v)
    ⟨fun ⟨⟨hc, hcs⟩, hp, hps⟩ => ⟨hc, hcs, hp, hps⟩,
      fun h => ⟨⟨h.components, h.componentSpecs⟩, h.properties, h.propertySpecs⟩⟩

end

theorem holds_oneWithout {v : Valuation α} {accepted excluded : List (Condition α)} :
    (oneWithout accepted excluded).holds v = true ↔
      (∃ c ∈ accepted, c.holds v = true) ∧ ∀ c ∈ excluded, c.holds v = false := by
  have hexcluded : Condition.holdsAny v excluded = false ↔ ∀ c ∈ excluded, c.holds v = false := by
    simp [← Bool.not_eq_true, Condition.holdsAny_iff]
  simp [oneWithout, Condition.holds, Condition.holdsAll, Condition.holdsAny_iff, hexcluded]

theorem RequiredComponent.holds_compile {v : Valuation α} (r : RequiredComponent) :
    r.compile.holds v = true ↔ r.MetBy v := by
  simp [compile, holds_oneWithout, MetBy, Condition.holds]

namespace ValueConstraint

theorem holds_leaf {v : Valuation α} {c : Option ValueConstraint} {k : String} {d : Condition α}
    (h : leaf? c k = .ok d) : d.holds v = true ↔ Allows v c k := by
  match c with
  | none =>
    cases h
    rfl
  | some (.equals x) =>
    cases h
    simp [Condition.holds, Allows]
  | some (.matching p) =>
    unfold leaf? at h
    cases hp : ValuePattern.ofText? p with
    | none => simp [hp] at h
    | some pattern =>
      simp only [hp] at h
      cases h
      simp [Condition.holds, Allows, hp, Option.any_eq_true]

theorem leaf_error_iff {c : Option ValueConstraint} {k : String} :
    (∃ e, (leaf? c k : Except InvalidPattern (Condition α)) = .error e) ↔ Malformed c := by
  match c with
  | none => simp [leaf?, Malformed]
  | some (.equals x) => simp [leaf?, Malformed]
  | some (.matching p) => cases hp : ValuePattern.ofText? p <;> simp [leaf?, Malformed, hp]

end ValueConstraint

namespace RequiredProperty

variable {r : RequiredProperty}

theorem compile_eq (r : RequiredProperty) :
    (r.compile : Except InvalidPattern (Condition α)) =
      (r.keys.mapM (ValueConstraint.leaf? r.constraint)).map
        (oneWithout · (r.excludes.map Condition.key)) := by
  unfold compile
  cases r.keys.mapM (ValueConstraint.leaf? (α := α) r.constraint) <;> rfl

theorem compile_error_iff :
    (∃ e, (r.compile : Except InvalidPattern (Condition α)) = .error e) ↔
      ValueConstraint.Malformed r.constraint := by
  have hkeys : (∃ e, r.keys.mapM (ValueConstraint.leaf? (α := α) r.constraint) = .error e) ↔
      ValueConstraint.Malformed r.constraint := by
    simp only [mapM_error_iff, ValueConstraint.leaf_error_iff]
    exact ⟨fun ⟨_, _, h⟩ => h, fun h => ⟨r.key, List.mem_cons_self, h⟩⟩
  rw [← hkeys, compile_eq]
  cases r.keys.mapM (ValueConstraint.leaf? (α := α) r.constraint) <;> simp [Except.map]

theorem holds_compile {v : Valuation α} {c : Condition α} (h : r.compile = .ok c) :
    c.holds v = true ↔ r.MetBy v := by
  rw [compile_eq] at h
  obtain ⟨leaves, hleaves, rfl⟩ := exists_of_map_ok h
  have haccepted : (∃ d ∈ leaves, d.holds v = true) ↔
      ∃ k ∈ r.keys, ValueConstraint.Allows v r.constraint k :=
    exists_iff_of_mapM_ok hleaves fun k _ d hd => ValueConstraint.holds_leaf hd
  simp [holds_oneWithout, haccepted, MetBy, Condition.holds]

end RequiredProperty

namespace Requirements

variable {r : Requirements}

theorem eq_empty_of_isEmpty (h : r.isEmpty = true) : r = {} := by
  obtain ⟨components, componentSpecs, properties, propertySpecs⟩ := r
  simp_all [isEmpty]

theorem metBy_empty (v : Valuation α) : ({} : Requirements).MetBy v :=
  ⟨by simp, by simp, by simp, by simp⟩

/-- The members of the compiled conjunction: plain names before specifications. -/
def terms (r : Requirements) (specs : List (Condition α)) : List (Condition α) :=
  r.components.map .component ++ r.componentSpecs.map RequiredComponent.compile ++
    r.properties.map .key ++ specs

theorem compile_eq (h : r.isEmpty = false) :
    (r.compile : Except InvalidPattern (Condition α)) =
      (r.propertySpecs.mapM RequiredProperty.compile).map fun specs => .all (r.terms specs) := by
  unfold compile
  rw [h]
  cases r.propertySpecs.mapM (RequiredProperty.compile (α := α)) <;> rfl

theorem holds_terms {v : Valuation α} {specs : List (Condition α)}
    (h : r.propertySpecs.mapM RequiredProperty.compile = .ok specs) :
    (Condition.all (r.terms specs)).holds v = true ↔ r.MetBy v := by
  have hspecs : (∀ c ∈ specs, c.holds v = true) ↔ ∀ p ∈ r.propertySpecs, p.MetBy v :=
    forall_iff_of_mapM_ok h fun p _ c hc => RequiredProperty.holds_compile hc
  rw [Condition.holds, Condition.holdsAll_iff]
  simp only [terms, List.forall_mem_append, List.forall_mem_map, hspecs, Condition.holds,
    RequiredComponent.holds_compile]
  exact ⟨fun ⟨⟨⟨hc, hcs⟩, hp⟩, hps⟩ => ⟨hc, hcs, hp, hps⟩, fun h =>
    ⟨⟨⟨h.components, h.componentSpecs⟩, h.properties⟩, h.propertySpecs⟩⟩

theorem compile_error_iff :
    (∃ e, (r.compile : Except InvalidPattern (Condition α)) = .error e) ↔
      ∃ p ∈ r.propertySpecs, ValueConstraint.Malformed p.constraint := by
  cases hempty : r.isEmpty with
  | true =>
    rw [eq_empty_of_isEmpty hempty]
    simp [compile, isEmpty]
  | false =>
    simp only [← RequiredProperty.compile_error_iff (α := α), ← mapM_error_iff, compile_eq hempty]
    cases r.propertySpecs.mapM (RequiredProperty.compile (α := α)) <;> simp [Except.map]

theorem holds_compile {v : Valuation α} {c : Condition α} (h : r.compile = .ok c) :
    c.holds v = true ↔ r.MetBy v := by
  cases hempty : r.isEmpty with
  | true =>
    rw [eq_empty_of_isEmpty hempty] at h ⊢
    cases h
    exact ⟨fun _ => metBy_empty v, fun _ => rfl⟩
  | false =>
    rw [compile_eq hempty] at h
    obtain ⟨specs, hspecs, rfl⟩ := exists_of_map_ok h
    exact holds_terms hspecs

/-- Requirements compile unless a pattern cannot be read, and then the condition accepts in a
session exactly if they are met by its facts and the answers of the source. Nothing declared is the
constant truth. -/
theorem compile_accepts_iff_met (r : Requirements) :
    ((∃ e, (r.compile : Except InvalidPattern (Condition α)) = .error e) ↔
      ∃ p ∈ r.propertySpecs, ValueConstraint.Malformed p.constraint) ∧
    (∀ c : Condition α, r.compile = .ok c → ∀ (a : Answers α) (s : Session α),
      (c.eval (.steady a) s).1 = true ↔ r.MetBy (s.valuation a)) ∧
    (({} : Requirements).compile : Except InvalidPattern (Condition α)) = .ok (.always true) := by
  refine ⟨compile_error_iff, ?_, rfl⟩
  intro c hc a s
  rw [Condition.eval_lazily c s rfl]
  exact holds_compile hc

theorem compile_accepts_iff_met_stale :
    let r : Requirements := ⟨["smtp"], [⟨"mailer", ["mailer-lite"], ["mailer-old"]⟩], ["host"],
      [⟨"port", ["smtp.port"], ["offline"], some (.matching "[0-9]+")⟩]⟩
    let a : Answers Nat :=
      ⟨.ofTable ["mailer-lite"] [("host", "relay"), ("port", "none"), ("smtp.port", "25")],
        fun _ => false⟩
    let s : Session Nat := ⟨⟨[("smtp", true)], [("offline", false)]⟩, []⟩
    ∃ c : Condition Nat, r.compile = .ok c ∧ (c.eval (.steady a) s).1 = true ∧
      r.MetBy (s.valuation a) := by
  intro r a s
  have hrun : (match (r.compile : Except InvalidPattern (Condition Nat)) with
      | .ok c => (c.eval (.steady a) s).1
      | .error _ => false) = true := by decide +kernel
  cases hc : (r.compile : Except InvalidPattern (Condition Nat)) with
  | error e =>
    rw [hc] at hrun
    cases hrun
  | ok c =>
    rw [hc] at hrun
    exact ⟨c, rfl, hrun, ((compile_accepts_iff_met r).2.1 c hc a s).mp hrun⟩

end Requirements

end Postroom
