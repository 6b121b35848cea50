import Postroom.Proofs.Requirement.Meaning
import Postroom.Proofs.Sender.Choice

namespace Postroom

variable {σ : Type}

/-- The sender can be selected for a message, as far as a session goes. -/
structure Sender.Qualifies (kind : MessageKind) (sur : Surroundings) (m : Message)
    (s : Session Check) (x : Sender σ) : Prop where
  ofKind : m.kind = kind
  met : x.requirements.MetBy (Desk.valuation sur m s)
  enabled : ∀ c, x.enabled = some c → (c.eval (sur.about (.message m)) s).1 = true

theorem Requirements.exists_compile {r : Requirements}
    (h : ∀ p ∈ r.propertySpecs, ¬ValueConstraint.Malformed p.constraint) :
    ∃ met : Condition Check, r.compile = .ok met := by
  apply exists_ok_of_not_error
  rw [compile_error_iff]
  rintro ⟨p, hp, hmalformed⟩
  exact h p hp hmalformed

theorem Sender.accepts_iff {x : Sender σ} {met : Condition Check}
    (hmet : x.requirements.compile = .ok met) (sur : Surroundings) (m : Message)
    (s : Session Check) :
    x.accepts (Desk.valuation sur m s) = true ↔
      x.requirements.MetBy (Desk.valuation sur m s) ∧
        ∀ c, x.enabled = some c → (c.eval (sur.about (.message m)) s).1 = true := by
  have heval : ∀ c : Condition Check,
      (c.eval (sur.about (.message m)) s).1 = c.holds (Desk.valuation sur m s) :=
    fun c => congrArg Prod.fst (Condition.eval_lazily c s rfl)
  rw [accepts, hmet, Bool.and_eq_true, Requirements.holds_compile hmet]
  simp only [heval, Option.all_eq_true]

namespace DeskPlan

variable {kind : MessageKind} {xs : List (Sender σ)}

theorem candidate_error_iff (kind : MessageKind) {x : Sender σ} :
    (∃ e, candidate kind x = .error e) ↔
      ∃ p ∈ x.requirements.propertySpecs, ValueConstraint.Malformed p.constraint := by
  rw [← Requirements.compile_error_iff (α := Check), candidate]
  cases x.requirements.compile (α := Check) <;> simp

theorem build_error_iff :
    (∃ e, (ofList kind xs).build = .error e) ↔
      ∃ x ∈ firsts Sender.name xs, ∃ p ∈ x.requirements.propertySpecs,
        ValueConstraint.Malformed p.constraint := by
  simp only [← candidate_error_iff kind, ← mapM_error_iff, build_eq]
  cases (firsts Sender.name xs).mapM (candidate kind) <;> simp [Except.map]

theorem exists_build (kind : MessageKind)
    (h : ∀ x ∈ firsts Sender.name xs, ∀ p ∈ x.requirements.propertySpecs,
      ¬ValueConstraint.Malformed p.constraint) : ∃ d, (ofList kind xs).build = .ok d := by
  apply exists_ok_of_not_error
  rw [build_error_iff]
  rintro ⟨x, hx, p, hp, hmalformed⟩
  exact h x hx p hp hmalformed

theorem accepts_of_other_kind {x : Sender σ} {c : Candidate Check (Sender σ)}
    (h : candidate kind x = .ok c) {w : Outside Check}
    (hkind : ∀ asked, (w asked).test (.ofKind kind) = false) (s : Session Check) :
    c.accepts w Desk.enabling s = (false, ⟨s.facts, s.asked ++ [.test (.ofKind kind)]⟩) := by
  have htest : (Condition.test (.ofKind kind)).eval w s =
      (false, ⟨s.facts, s.asked ++ [.test (.ofKind kind)]⟩) :=
    Prod.ext (hkind s.asked) rfl
  have hguarded : c.guarded w s = (false, ⟨s.facts, s.asked ++ [.test (.ofKind kind)]⟩) := by
    unfold candidate at h
    split at h
    · cases h
    · rename_i met hmet
      cases h
      unfold Candidate.guarded
      dsimp only
      split
      · exact htest
      · change Condition.evalAll w [.test (.ofKind kind), met] s = _
        rw [Condition.evalAll_cons, htest]
        rfl
  rw [Candidate.accepts_eq, hguarded]
  rfl

theorem firstOf_of_other_kind {cs : List (Candidate Check (Sender σ))}
    (h : xs.mapM (candidate kind) = .ok cs) {w : Outside Check}
    (hkind : ∀ asked, (w asked).test (.ofKind kind) = false) (s : Session Check) :
    Registry.firstOf w Desk.enabling cs s =
      (none, ⟨s.facts, s.asked ++ xs.map fun _ => .test (.ofKind kind)⟩) := by
  induction xs generalizing cs s with
  | nil =>
    cases h
    rw [List.map_nil, List.append_nil]
    rfl
  | cons x xs ih =>
    obtain ⟨c, cs, hc, hcs, rfl⟩ := eq_cons_of_mapM_ok h
    rw [Registry.firstOf_cons, accepts_of_other_kind hc hkind s, if_neg Bool.false_ne_true, ih hcs]
    simp

end DeskPlan

namespace Desk

variable {kind : MessageKind} {xs : List (Sender σ)} {d : Desk σ}

theorem select_of_other_kind (h : (DeskPlan.ofList kind xs).build = .ok d) (sur : Surroundings)
    {m : Message} (hkind : m.kind ≠ kind) (s : Session Check) :
    d.select sur m s =
      (.error (d.registry.noMatch m.shown),
        ⟨s.facts, s.asked ++ (firsts Sender.name xs).map fun _ => .test (.ofKind kind)⟩) := by
  have htest : ∀ asked, (sur.about (.message m) asked).test (.ofKind kind) = false :=
    fun _ => beq_false_of_ne hkind
  have hfirst := DeskPlan.firstOf_of_other_kind (DeskPlan.candidates_of_build h).2 htest s
  rw [select_eq, Registry.select_eq, Registry.find?, hfirst]
  rfl

theorem select_answer (h : (DeskPlan.ofList kind xs).build = .ok d) (sur : Surroundings)
    (m : Message) (s : Session Check) :
    (d.select sur m s).1 =
      match (firsts Sender.name xs).find? fun x =>
        decide (m.kind = kind) && x.accepts (valuation sur m s) with
      | some x => .ok x
      | none => .error (d.registry.noMatch m.shown) := by
  by_cases hkind : m.kind = kind
  · subst hkind
    have hfind : (firsts Sender.name xs).find? (·.accepts (valuation sur m s)) =
        (firsts Sender.name xs).find? fun x =>
          decide (m.kind = m.kind) && x.accepts (valuation sur m s) := by
      simp only [decide_true, Bool.true_and]
    have hselect := select_of_build sur m s h
    rw [hfind] at hselect
    exact hselect.trans (by cases (firsts Sender.name xs).find? _ <;> rfl)
  · have hnone : ((firsts Sender.name xs).find? fun x =>
        decide (m.kind = kind) && x.accepts (valuation sur m s)) = none := by
      simp [hkind]
    rw [select_of_other_kind h sur hkind s, hnone]

/-- A desk is built if every pattern can be read. It selects the first sender that qualifies, of
those that are the first of their name, and fails if none does. For a message of another kind it
asks for the kind only: no capability is looked up and no sender is asked whether it is enabled. -/
theorem select_first_qualifying (kind : MessageKind) (xs : List (Sender σ))
    (hvalid : ∀ x ∈ xs, ∀ p ∈ x.requirements.propertySpecs,
      ¬ValueConstraint.Malformed p.constraint) :
    ∃ d, (DeskPlan.ofList kind xs).build = .ok d ∧
      ∀ (sur : Surroundings) (m : Message) (s : Session Check),
        let registered := firsts Sender.name xs
        let qualifies := Sender.Qualifies (σ := σ) kind sur m s
        (∀ x, (d.select sur m s).1 = .ok x ↔
          ∃ front back, registered = front ++ x :: back ∧ qualifies x ∧
            ∀ y ∈ front, ¬qualifies y) ∧
        (∀ e, (d.select sur m s).1 = .error e ↔
          e = d.registry.noMatch m.shown ∧ ∀ x ∈ registered, ¬qualifies x) ∧
        (m.kind ≠ kind → d.select sur m s =
          (.error (d.registry.noMatch m.shown),
            ⟨s.facts, s.asked ++ registered.map fun _ => .test (.ofKind kind)⟩)) := by
  have hregistered : ∀ x ∈ firsts Sender.name xs, ∀ p ∈ x.requirements.propertySpecs,
      ¬ValueConstraint.Malformed p.constraint := fun x hx => hvalid x (firsts_subset _ _ hx)
  obtain ⟨d, hd⟩ := DeskPlan.exists_build kind hregistered
  refine ⟨d, hd, fun sur m s => ?_⟩
  intro registered qualifies
  have hqualifies : ∀ x ∈ registered,
      (decide (m.kind = kind) && x.accepts (valuation sur m s)) = true ↔ qualifies x := by
    intro x hx
    obtain ⟨met, hmet⟩ := Requirements.exists_compile (hregistered x hx)
    rw [Bool.and_eq_true, decide_eq_true_eq, Sender.accepts_iff hmet]
    exact ⟨fun ⟨hkind, hmet, henabled⟩ => ⟨hkind, hmet, henabled⟩,
      fun h => ⟨h.ofKind, h.met, h.enabled⟩⟩
  have hselect := select_answer hd sur m s
  refine ⟨fun x => ?_, fun e => ?_, fun hkind => select_of_other_kind hd sur hkind s⟩
  · rw [← find?_eq_some_iff_first hqualifies, hselect]
    cases registered.find? _ <;> simp
  · have hnone : registered.find? (fun x =>
        decide (m.kind = kind) && x.accepts (valuation sur m s)) = none ↔
        ∀ x ∈ registered, ¬qualifies x := by
      rw [List.find?_eq_none]
      exact forall₂_congr fun x hx => not_congr (hqualifies x hx)
    rw [← hnone, hselect]
    cases registered.find? _ <;> simp [eq_comm]

theorem select_first_qualifying_named :
    let send : Message → StateM Unit (Except SendError Unit) := fun _ => pure (.ok ())
    let relay : Sender Unit := ⟨"relay", send, { components := ["mta"] }, none⟩
    let smtp : Sender Unit :=
      ⟨"smtp", send, { propertySpecs := [⟨"port", [], [], some (.matching "[0-9]+")⟩] },
        some (.not (.component "mta"))⟩
    let xs := [relay, smtp, ⟨"smtp", send, {}, none⟩]
    let sur : Surroundings := ⟨.ofTable [] [("port", "25")], fun _ _ => true⟩
    (∀ x ∈ xs, ∀ p ∈ x.requirements.propertySpecs, ¬ValueConstraint.Malformed p.constraint) ∧
      ∃ d, (DeskPlan.ofList .email xs).build = .ok d ∧
        (d.select sur (.email ⟨"s", none, [], .text "hi"⟩) {}).1 = .ok smtp ∧
        (d.select sur (.sms ⟨none, [], .text "hi"⟩) {}).2 =
          ⟨{}, [.test (.ofKind .email), .test (.ofKind .email)]⟩ := by
  intro send relay smtp xs sur
  obtain ⟨pattern, hread, haccepts⟩ :
      ∃ pattern, Pattern.ValuePattern.ofText? "[0-9]+" = some pattern ∧
        pattern.accepts "25" = true := by
    have hany : (Pattern.ValuePattern.ofText? "[0-9]+").any (·.accepts "25") = true := by
      decide +kernel
    simpa [Option.any_eq_true] using hany
  have hvalid : ∀ x ∈ xs, ∀ p ∈ x.requirements.propertySpecs,
      ¬ValueConstraint.Malformed p.constraint := by
    simp [xs, relay, smtp, ValueConstraint.Malformed, hread]
  have hmet : smtp.requirements.MetBy (valuation sur (.email ⟨"s", none, [], .text "hi"⟩) {}) := by
    refine ⟨by simp [smtp], by simp [smtp], by simp [smtp], fun p hp => ?_⟩
    obtain rfl := List.mem_singleton.mp hp
    exact ⟨⟨"port", List.mem_cons_self, "25", pattern, rfl, hread, haccepts⟩, by simp⟩
  obtain ⟨d, hd, hselect⟩ := select_first_qualifying .email xs hvalid
  have hregistered : firsts Sender.name xs = [relay, smtp] := rfl
  refine ⟨hvalid, d, hd, ((hselect sur _ {}).1 smtp).mpr
    ⟨[relay], [], hregistered, ⟨rfl, hmet, ?_⟩, ?_⟩, ?_⟩
  · rintro c ⟨⟩
    decide
  · intro y hy hrelay
    obtain rfl := List.mem_singleton.mp hy
    exact absurd (hrelay.met.components "mta" (by simp [relay])) (by decide)
  · rw [(hselect sur _ {}).2.2 (by decide), hregistered]
    rfl

end Desk

end Postroom
