import Postroom.Proofs.Selection.Detection
import Postroom.Proofs.Selection.Firsts

namespace Postroom

inductive Operation (β γ : Type)
  | register (x : β)
  | select (request : γ)

namespace Operation

variable {β γ : Type}

def registered : List (Operation β γ) → List β
  | [] => []
  | register x :: ops => x :: registered ops
  | select _ :: ops => registered ops

/-- The operations without the registrations of keys that are known or were registered before. -/
def withoutRepeated (key : β → String) : List String → List (Operation β γ) → List (Operation β γ)
  | _, [] => []
  | known, register x :: ops =>
    if key x ∈ known then withoutRepeated key known ops
    else register x :: withoutRepeated key (known ++ [key x]) ops
  | known, select request :: ops => select request :: withoutRepeated key known ops

theorem registered_append (ops more : List (Operation β γ)) :
    registered (ops ++ more) = registered ops ++ registered more := by
  induction ops with
  | nil => rfl
  | cons op ops ih => cases op <;> simp [registered, ih]

theorem append_registered_withoutRepeated (key : β → String) (kept : List β)
    (ops : List (Operation β γ)) :
    kept ++ registered (withoutRepeated key (kept.map key) ops) =
      (registered ops).foldl (appendNew key) kept := by
  induction ops generalizing kept with
  | nil => exact List.append_nil kept
  | cons op ops ih =>
    cases op with
    | select request => exact ih kept
    | register x =>
      rw [registered, List.foldl_cons, ← ih, withoutRepeated, appendNew]
      by_cases hx : key x ∈ kept.map key
      · rw [if_pos hx, if_pos (List.contains_iff_mem.mpr hx)]
      · rw [if_neg hx, if_neg (mt List.contains_iff_mem.mp hx), registered, List.map_append,
          List.append_assoc]
        rfl

end Operation

/-- Containers `σ` in which a key keeps its entry. A selection is made in a session `τ`, and changes
nothing in the container. -/
structure Container (σ τ β γ ρ : Type) where
  key : β → String
  entries : σ → List β
  register : σ → β → σ
  select : σ → γ → StateM τ ρ
  entries_register : ∀ d x, entries (register d x) = appendNew key (entries d) x
  register_known : ∀ d x, key x ∈ (entries d).map key → register d x = d

structure Outcome (σ τ ρ : Type) where
  answers : List ρ
  container : σ
  session : τ

namespace Container

open Operation

variable {σ τ β γ ρ : Type}

def run (c : Container σ τ β γ ρ) (d : σ) (t : τ) : List (Operation β γ) → Outcome σ τ ρ
  | [] => ⟨[], d, t⟩
  | .register x :: ops => c.run (c.register d x) t ops
  | .select request :: ops =>
    let selected := c.select d request t
    let later := c.run d selected.2 ops
    { later with answers := selected.1 :: later.answers }

variable (c : Container σ τ β γ ρ)

/-- The first registrations are kept, at every moment all that is there stays in its place, and the
other registrations change nothing. -/
structure KeepsRegistrations (d : σ) (t : τ) (ops : List (Operation β γ)) : Prop where
  firsts : KeepsFirsts c.key (registered ops) (c.entries (c.run d t ops).container)
  lasting : ∀ n, c.entries (c.run d t (ops.take n)).container <+:
    c.entries (c.run d t ops).container
  made : registered (withoutRepeated c.key [] ops) = c.entries (c.run d t ops).container
  unrepeated : c.run d t (withoutRepeated c.key [] ops) = c.run d t ops

variable (d : σ) (t : τ) (ops more : List (Operation β γ))

theorem entries_run : c.entries (c.run d t ops).container =
    (registered ops).foldl (appendNew c.key) (c.entries d) := by
  induction ops generalizing d t with
  | nil => rfl
  | cons op ops ih =>
    cases op with
    | register x => rw [run, ih, c.entries_register, registered, List.foldl_cons]
    | select request => exact ih d (c.select d request t).2

theorem entries_run_prefix :
    c.entries (c.run d t ops).container <+: c.entries (c.run d t (ops ++ more)).container := by
  rw [entries_run, entries_run, registered_append, List.foldl_append]
  rw [foldl_appendNew c.key _ (registered more)]
  exact List.prefix_append _ _

theorem run_withoutRepeated :
    c.run d t (withoutRepeated c.key ((c.entries d).map c.key) ops) = c.run d t ops := by
  -- at every moment the known keys are those of the entries, so what is left out has no effect
  induction ops generalizing d t with
  | nil => rfl
  | cons op ops ih =>
    cases op with
    | register x =>
      by_cases hx : c.key x ∈ (c.entries d).map c.key
      · rw [withoutRepeated, if_pos hx, run, c.register_known d x hx]
        exact ih d t
      · have hkeys : (c.entries (c.register d x)).map c.key =
            (c.entries d).map c.key ++ [c.key x] := by
          rw [c.entries_register, appendNew, if_neg (mt List.contains_iff_mem.mp hx),
            List.map_append]
          rfl
        rw [withoutRepeated, if_neg hx, run, run, ← hkeys]
        exact ih (c.register d x) t
    | select request =>
      rw [withoutRepeated, run, run, ih]

theorem keepsRegistrations (hd : c.entries d = []) : c.KeepsRegistrations d t ops where
  firsts := by
    rw [entries_run, hd, foldl_appendNew_nil]
    exact keepsFirsts_firsts c.key (registered ops)
  lasting n := by
    have h := c.entries_run_prefix d t (ops.take n) (ops.drop n)
    rwa [List.take_append_drop] at h
  made := by
    rw [entries_run, hd]
    exact append_registered_withoutRepeated c.key [] ops
  unrepeated := by
    have h := c.run_withoutRepeated d t ops
    rwa [hd] at h

end Container

variable {α ι : Type}

namespace Registry

inductive Request (α ι : Type)
  | find (w : Outside α) (now : Enabling α ι)
  | select (w : Outside α) (now : Enabling α ι) (subject : String)
  | all (w : Outside α) (now : Enabling α ι) (subject : String) (demand : Demand)

inductive Answer (α ι : Type)
  | found (c : Option (Candidate α ι))
  | selected (r : Except NoMatch (Candidate α ι))
  | matching (r : Except NoMatch (List (Candidate α ι)))

def answer [Named α] (r : Registry α ι) : Request α ι → Eval α (Answer α ι)
  | .find w now => return .found (← r.find? w now)
  | .select w now subject => return .selected (← r.select w now subject)
  | .all w now subject demand => return .matching (← r.selectAll w now subject demand)

theorem register_known {r : Registry α ι} {c : Candidate α ι} (h : c.key ∈ r.keys) :
    r.register c = r := by
  rw [register, if_pos (List.contains_iff_mem.mpr h)]

def container [Named α] :
    Container (Registry α ι) (Session α) (Candidate α ι) (Request α ι) (Answer α ι) where
  key := Candidate.key
  entries := candidates
  register r c := (r.enter c).2
  select := answer
  entries_register r c := congrArg candidates (register_eq r c)
  register_known _ _ h := register_known h

theorem some_fst_enter (r : Registry α ι) (c : Candidate α ι) :
    some (r.enter c).1 = (r.get? c.key).or ([c].find? (·.key == c.key)) := by
  rw [List.find?_singleton, BEq.rfl, if_pos rfl]
  exact Option.or_some.symm

theorem get?_enter (r : Registry α ι) (c : Candidate α ι) :
    (r.enter c).2.get? c.key = some (r.enter c).1 := by
  have hfound : (r.register c).get? c.key =
      (appendNew Candidate.key r.candidates c).find? (·.key == c.key) := by rw [register_eq, get?]
  rw [some_fst_enter, enter, hfound, find?_appendNew, List.find?_append]
  rfl

end Registry

namespace Dispatcher

inductive Request (α : Type)
  | dispatch (guards detectors : Outside α) (subject : String)
  | eligible (w : Outside α)

inductive Answer (α ι : Type)
  | dispatched (r : Except NoMatch (Detected α ι))
  | eligible (keys : List String)

def answer [Named α] (d : Dispatcher α ι) : Request α → Eval α (Answer α ι)
  | .dispatch guards detectors subject =>
    return .dispatched (← d.dispatch guards detectors subject)
  | .eligible w => return .eligible (← d.eligibleKeys w)

theorem register_known {d : Dispatcher α ι} {c : Detectable α ι} (h : c.key ∈ d.keys) :
    d.register c = d := by
  rw [register, if_pos (List.contains_iff_mem.mpr h)]

def container [Named α] :
    Container (Dispatcher α ι) (Session α) (Detectable α ι) (Request α) (Answer α ι) where
  key := Detectable.key
  entries := candidates
  register := register
  select := answer
  entries_register d c := congrArg candidates (register_eq d c)
  register_known _ _ h := register_known h

end Dispatcher

/-- In a registry and in a dispatcher the first registration of every key is kept where it is, and
all others have no effect: whatever is selected in between, and however the outside changes, the
answers are those of the history without them. A registration of a candidate gives back the one that
is kept under its key. -/
theorem first_registrations_kept [Named α] (name : String) (s : Session α) :
    (∀ ops : List (Operation (Candidate α ι) (Registry.Request α ι)),
      let r := (Registry.container.run { name } s ops).container
      Registry.container.KeepsRegistrations { name } s ops ∧
      (∀ k, r.get? k = (Operation.registered ops).find? (·.key == k)) ∧
      ∀ c, (r.enter c).2.get? c.key = some (r.enter c).1 ∧
        (Operation.registered ops ++ [c]).find? (·.key == c.key) = some (r.enter c).1) ∧
    ∀ ops : List (Operation (Detectable α ι) (Dispatcher.Request α)),
      let d := (Dispatcher.container.run { name } s ops).container
      Dispatcher.container.KeepsRegistrations { name } s ops ∧
      ∀ k, d.get? k =
        ((Operation.registered ops).find? (·.key == k)).map Detectable.implementation := by
  refine ⟨fun ops => ?_, fun ops => ?_⟩
  · intro r
    have hkept := Registry.container.keepsRegistrations { name } s ops rfl
    have hget : ∀ k, r.get? k = (Operation.registered ops).find? (·.key == k) := hkept.firsts.first
    refine ⟨hkept, hget, fun c => ⟨r.get?_enter c, ?_⟩⟩
    rw [List.find?_append, ← hget, r.some_fst_enter]
  · intro d
    have hkept := Dispatcher.container.keepsRegistrations { name } s ops rfl
    exact ⟨hkept, fun k => congrArg (Option.map Detectable.implementation) (hkept.firsts.first k)⟩

end Postroom
