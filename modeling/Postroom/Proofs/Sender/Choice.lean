import Postroom.Proofs.Selection.FirstMatch
import Postroom.Proofs.Selection.Firsts
import Postroom.Proofs.Sequence

namespace Postroom

variable {σ : Type}

/-- The requirements are met, and so is the condition under which the sender is enabled. -/
def Sender.accepts (v : Valuation Check) (x : Sender σ) : Bool :=
  (match x.requirements.compile with
    | .ok met => met.holds v
    | .error _ => false) && x.enabled.all (·.holds v)

theorem Condition.holds_of_isTrue {α : Type} {c : Condition α} (h : c.isTrue = true)
    (v : Valuation α) : c.holds v = true := by
  cases c with
  | always b => exact h
  | _ => cases h

namespace DeskPlan

variable {kind : MessageKind} {x : Sender σ} {c : Candidate Check (Sender σ)}

theorem name_of_candidate (h : candidate kind x = .ok c) :
    c.key = x.name ∧ c.implementation = x := by
  unfold candidate at h
  split at h
  · cases h
  · cases h
    exact ⟨rfl, rfl⟩

theorem holds_of_candidate (h : candidate kind x = .ok c) {v : Valuation Check}
    (hkind : v.test (.ofKind kind) = true) : c.holds v Desk.enabling = x.accepts v := by
  unfold candidate at h
  split at h
  · cases h
  · rename_i met hmet
    cases h
    have henabled : (Desk.enabling x).holds v = x.enabled.all (·.holds v) := by
      unfold Desk.enabling
      cases x.enabled <;> rfl
    have hguard : (if met.isTrue then Condition.test (.ofKind kind)
        else .all [.test (.ofKind kind), met]).holds v = met.holds v := by
      split
      · rename_i htrue
        rw [Condition.holds_of_isTrue htrue]
        exact hkind
      · simp only [Condition.holds, Condition.holdsAll, hkind, Bool.true_and, Bool.and_true]
    simp only [Candidate.holds, Sender.accepts, Option.all_some, hguard, henabled, hmet,
      Bool.not_true, Bool.false_or]

variable {xs : List (Sender σ)} {cs : List (Candidate Check (Sender σ))}

theorem keys_of_candidates (h : xs.mapM (candidate kind) = .ok cs) :
    cs.map Candidate.key = xs.map Sender.name :=
  map_of_mapM_ok h fun _ _ _ hc => (name_of_candidate hc).1

theorem find?_of_candidates (h : xs.mapM (candidate kind) = .ok cs) {v : Valuation Check}
    (hkind : v.test (.ofKind kind) = true) :
    (cs.find? (·.holds v Desk.enabling)).map Candidate.implementation =
      xs.find? (·.accepts v) := by
  induction xs generalizing cs with
  | nil =>
    cases h
    rfl
  | cons x xs ih =>
    obtain ⟨c, cs, hc, hcs, rfl⟩ := eq_cons_of_mapM_ok h
    rw [List.find?_cons, List.find?_cons, holds_of_candidate hc hkind]
    cases x.accepts v with
    | true => exact congrArg some (name_of_candidate hc).2
    | false => exact ih hcs

theorem build_eq (kind : MessageKind) (xs : List (Sender σ)) :
    (ofList kind xs).build =
      ((firsts Sender.name xs).mapM (candidate kind)).map fun cs =>
        ⟨kind, .ofList (kind.name ++ "-senders") cs⟩ := by
  rw [ofList_eq, build]
  cases (firsts Sender.name xs).mapM (candidate kind) <;> rfl

theorem candidates_of_build {d : Desk σ} (h : (ofList kind xs).build = .ok d) :
    d.kind = kind ∧ (firsts Sender.name xs).mapM (candidate kind) = .ok d.registry.candidates := by
  rw [build_eq] at h
  obtain ⟨cs, hcs, rfl⟩ := exists_of_map_ok h
  refine ⟨rfl, hcs.trans (congrArg Except.ok ?_)⟩
  have hnodup : (cs.map Candidate.key).Nodup := by
    rw [keys_of_candidates hcs]
    exact firsts_nodup Sender.name xs
  rw [Registry.ofList_eq, firsts_of_nodup Candidate.key hnodup]

end DeskPlan

namespace Desk

variable (sur : Surroundings) (d : Desk σ) (m : Message) (world : σ) (s : Session Check)

def valuation : Valuation Check :=
  s.valuation ⟨sur.source, Check.holds sur.ask (.message m)⟩

theorem send_eq :
    (d.send sur m world).run s =
      (match (d.select sur m s).1 with
        | .ok x => (x.send m).run world
        | .error cause => (.error (.noSender cause), world), (d.select sur m s).2) := by
  change (match d.select sur m s with
    | (r, s') => ((match r with
      | .ok x => Work.ofAction (x.send m)
      | .error cause => return .error (.noSender cause) : Work σ (Except SendError Unit))
        world).run s') = _
  cases d.select sur m s with
  | mk r s' => cases r <;> rfl

theorem select_eq :
    d.select sur m s =
      ((d.registry.select (sur.about (.message m)) enabling m.shown s).1.map
        Candidate.implementation,
      (d.registry.select (sur.about (.message m)) enabling m.shown s).2) := rfl

variable {d} {xs : List (Sender σ)}

theorem select_of_build (h : (DeskPlan.ofList m.kind xs).build = .ok d) :
    (d.select sur m s).1 =
      match (firsts Sender.name xs).find? (·.accepts (valuation sur m s)) with
      | some x => .ok x
      | none => .error (d.registry.noMatch m.shown) := by
  have hcs := (DeskPlan.candidates_of_build h).2
  have hkind : (valuation sur m s).test (.ofKind m.kind) = true := beq_self_eq_true m.kind
  have hselect := (Registry.select_steady ⟨sur.source, Check.holds sur.ask (.message m)⟩
    enabling s d.registry m.shown).1
  rw [select_eq, ← DeskPlan.find?_of_candidates hcs hkind]
  unfold Surroundings.about
  rw [hselect]
  unfold valuation
  cases d.registry.candidates.find? _ <;> rfl

theorem send_of_build (h : (DeskPlan.ofList m.kind xs).build = .ok d) :
    ((d.send sur m world).run s).1 =
      match (firsts Sender.name xs).find? (·.accepts (valuation sur m s)) with
      | some x => (x.send m).run world
      | none => (.error (.noSender (d.registry.noMatch m.shown)), world) := by
  rw [send_eq, select_of_build sur m s h]
  cases (firsts Sender.name xs).find? _ <;> rfl

end Desk

end Postroom
