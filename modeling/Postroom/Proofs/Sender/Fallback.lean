import Mathlib.Data.List.Forall2
import Mathlib.Data.List.Nodup
import Postroom.Journal
import Postroom.Proofs.Selection.Fallback
import Postroom.Proofs.Sequence

namespace Postroom

inductive SimpleSender
  | delivering (number : Nat) (name : String) (requirements : Requirements)
    (enabled : Option (Condition Check))
  | failing (number : Nat) (name reason : String)
  | declining (number : Nat) (name reason : String)

namespace SimpleSender

def sender : SimpleSender → Sender Journal
  | delivering n name requirements enabled => .delivering n name requirements enabled
  | failing n name reason => .failing n name reason
  | declining n name reason => .declining n name reason

def number : SimpleSender → Nat
  | delivering n .. | failing n .. | declining n .. => n

def delivers : SimpleSender → Bool
  | delivering .. => true
  | _ => false

def declines : SimpleSender → Bool
  | declining .. => true
  | _ => false

def entry (m : Message) : SimpleSender → Entry
  | delivering n .. => .delivered n m
  | failing n .. => .failed n
  | declining n .. => .declined n

def Attempted (m : Message) (j j' : Journal) : SimpleSender → Prop
  | delivering n .. => j'.deliveries n = j.deliveries n ++ [m]
  | failing n .. => j'.failures n = j.failures n + 1
  | declining n .. => j'.refusals n = j.refusals n + 1

def Untouched (j j' : Journal) (x : SimpleSender) : Prop :=
  j'.deliveries x.number = j.deliveries x.number ∧
    j'.failures x.number = j.failures x.number ∧ j'.refusals x.number = j.refusals x.number

section

variable {m : Message} {x y : SimpleSender} {xs : List SimpleSender} {j j₁ j₂ j₃ : Journal}

theorem Untouched.trans (h : x.Untouched j j₁) (h' : x.Untouched j₁ j₂) : x.Untouched j j₂ :=
  ⟨h'.1.trans h.1, h'.2.1.trans h.2.1, h'.2.2.trans h.2.2⟩

theorem untouched_entry (h : y.number ≠ x.number) (j : Journal) :
    x.Untouched j (j ++ [y.entry m]) := by
  cases y <;> simp_all [Untouched, Journal.deliveries, Journal.failures, Journal.refusals, entry,
    number]

theorem untouched_append (h : ∀ y ∈ xs, y.number ≠ x.number) (j : Journal) :
    x.Untouched j (j ++ xs.map (entry m)) := by
  induction xs generalizing j with
  | nil =>
    rw [List.map_nil, List.append_nil]
    exact ⟨rfl, rfl, rfl⟩
  | cons y ys ih =>
    have hhead : x.Untouched j (j ++ [y.entry m]) := untouched_entry (h y List.mem_cons_self) j
    have htail := ih (fun z hz => h z (List.mem_cons_of_mem y hz)) (j ++ [y.entry m])
    rw [List.append_assoc, List.singleton_append] at htail
    exact hhead.trans htail

theorem attempted_entry (x : SimpleSender) (j : Journal) : x.Attempted m j (j ++ [x.entry m]) := by
  cases x <;> simp [Attempted, Journal.deliveries, Journal.failures, Journal.refusals, entry]

theorem Attempted.between (h : x.Attempted m j₁ j₂) (hbefore : x.Untouched j j₁)
    (hafter : x.Untouched j₂ j₃) : x.Attempted m j j₃ := by
  obtain ⟨hd, hf, hr⟩ := hbefore
  obtain ⟨hd', hf', hr'⟩ := hafter
  cases x with
  | delivering n name requirements enabled => exact hd'.trans (h.trans (congrArg (· ++ [m]) hd))
  | failing n name reason => exact hf'.trans (h.trans (congrArg (· + 1) hf))
  | declining n name reason => exact hr'.trans (h.trans (congrArg (· + 1) hr))

theorem attempted_append (hx : x ∈ xs) (h : (xs.map number).Nodup) (j : Journal) :
    x.Attempted m j (j ++ xs.map (entry m)) := by
  -- The sender's own entry stands between entries of other numbers, which its views do not see.
  obtain ⟨front, back, rfl⟩ := List.append_of_mem hx
  have hne : ∀ y ∈ front ++ back, y.number ≠ x.number := by
    intro y hy he
    rw [List.map_append, List.map_cons, List.nodup_middle, List.nodup_cons, ← List.map_append] at h
    exact h.1 (he ▸ List.mem_map_of_mem hy)
  have hfront := untouched_append (m := m) (fun y hy => hne y (List.mem_append_left _ hy)) j
  have hback := untouched_append (m := m) (fun y hy => hne y (List.mem_append_right _ hy))
    (j ++ front.map (entry m) ++ [x.entry m])
  have hself := (attempted_entry (m := m) x (j ++ front.map (entry m))).between hfront hback
  simpa using hself

end

end SimpleSender

/-- A sender that is made of simple ones by fallbacks. -/
inductive SenderTree
  | simple (x : SimpleSender)
  | fallback (name : String) (ts : List SenderTree)

namespace SenderTree

@[induction_eliminator]
theorem induct {motive : SenderTree → Prop} (simple : ∀ x, motive (simple x))
    (fallback : ∀ name ts, (∀ t ∈ ts, motive t) → motive (fallback name ts)) (t : SenderTree) :
    motive t := by
  apply SenderTree.rec (motive_1 := motive) (motive_2 := fun ts => ∀ t ∈ ts, motive t)
  case nil => exact fun t h => absurd h List.not_mem_nil
  case cons =>
    intro t ts ht hts u hu
    obtain rfl | hu := List.mem_cons.mp hu
    · exact ht
    · exact hts u hu
  all_goals assumption

mutual

def sender : SenderTree → Sender Journal
  | simple x => x.sender
  | fallback name ts => .fallback name (senders ts)

def senders : List SenderTree → List (Sender Journal)
  | [] => []
  | t :: ts => sender t :: senders ts

end

mutual

def leaves : SenderTree → List SimpleSender
  | simple x => [x]
  | fallback _ ts => leavesOf ts

def leavesOf : List SenderTree → List SimpleSender
  | [] => []
  | t :: ts => leaves t ++ leavesOf ts

end

def declines : SenderTree → Bool
  | simple x => x.declines
  | fallback .. => false

def delivers (t : SenderTree) : Bool := t.leaves.any SimpleSender.delivers

def attempted (t : SenderTree) : List SimpleSender := through SimpleSender.delivers t.leaves

def entries (m : Message) (t : SenderTree) : List Entry := t.attempted.map (·.entry m)

theorem senders_eq (ts : List SenderTree) : senders ts = ts.map sender := by
  induction ts with
  | nil => rfl
  | cons t ts ih => rw [senders, ih, List.map_cons]

theorem leavesOf_eq (ts : List SenderTree) : leavesOf ts = ts.flatMap leaves := by
  induction ts with
  | nil => rfl
  | cons t ts ih => rw [leavesOf, ih, List.flatMap_cons]

theorem leaves_fallback (name : String) (ts : List SenderTree) :
    (fallback name ts).leaves = ts.flatMap leaves := leavesOf_eq ts

theorem delivers_eq_false_iff {t : SenderTree} :
    t.delivers = false ↔ ∀ x ∈ t.leaves, x.delivers = false := by
  simp [delivers]

theorem delivers_fallback (name : String) (ts : List SenderTree) :
    (fallback name ts).delivers = ts.any delivers := by
  rw [delivers, leaves_fallback, List.any_flatMap]
  rfl

theorem attempted_of_not_delivers {t : SenderTree} (h : t.delivers = false) :
    t.attempted = t.leaves :=
  through_of_none (delivers_eq_false_iff.mp h)

theorem flatMap_attempted {ts : List SenderTree} (h : ∀ t ∈ ts, t.delivers = false) :
    ts.flatMap attempted = ts.flatMap leaves :=
  List.flatMap_congr fun t ht => attempted_of_not_delivers (h t ht)

theorem attempted_fallback_delivered (name : String) {front back : List SenderTree} {t : SenderTree}
    (hfront : ∀ u ∈ front, u.delivers = false) (ht : t.delivers = true) :
    (fallback name (front ++ t :: back)).attempted = front.flatMap attempted ++ t.attempted := by
  have hnone : ∀ x ∈ front.flatMap leaves, x.delivers = false := by
    intro x hx
    obtain ⟨u, hu, hxu⟩ := List.mem_flatMap.mp hx
    exact delivers_eq_false_iff.mp (hfront u hu) x hxu
  have hany : (front.flatMap leaves).any SimpleSender.delivers = false :=
    List.any_eq_false.mpr fun x hx => by simp [hnone x hx]
  have hleaves : t.leaves.any SimpleSender.delivers = true := ht
  rw [flatMap_attempted hfront, attempted, attempted, leaves_fallback, List.flatMap_append,
    List.flatMap_cons, through_append, through_append, through_of_none hnone, hany, hleaves]
  simp

theorem attempted_fallback_refused (name : String) {ts : List SenderTree}
    (h : ∀ t ∈ ts, t.delivers = false) :
    (fallback name ts).attempted = ts.flatMap attempted := by
  have hnone : (fallback name ts).delivers = false := by simpa [delivers_fallback] using h
  rw [attempted_of_not_delivers hnone, leaves_fallback, flatMap_attempted h]

end SenderTree

namespace Sender

variable {σ : Type}

theorem attempt_run (m : Message) (x : Sender σ) (world : σ) :
    (attempt m x).run world =
      match (x.send m).run world with
      | (.ok _, world') => (.ok (), world')
      | (.error e, world') => (.error e.refusal, world') := by
  simp only [attempt, StateT.run_bind]
  rcases (x.send m).run world with ⟨_ | _, world'⟩ <;> rfl

theorem fallback_run (name : String) (xs : List (Sender σ)) (m : Message) (world : σ) :
    ((fallback name xs).send m).run world =
      match ((executor name xs).run (attempt m)).run world with
      | (.ok _, world') => (.ok (), world')
      | (.error e, world') => (.error (.allFailed e), world') := by
  simp only [fallback, StateT.run_bind]
  rcases ((executor name xs).run (attempt m)).run world with ⟨_ | _, world'⟩ <;> rfl

end Sender

namespace SenderTree

variable {m : Message}

/-- Sending ends in this error, and it is a refusal only by a sender that declines itself. -/
structure Refuses (m : Message) (t : SenderTree) (e : SendError) : Prop where
  run : ∀ j : Journal, (t.sender.send m).run j = (.error e, j ++ t.entries m)
  isDeclined : e.refusal.isDeclined = t.declines

/-- Whether a tree delivers depends on its leaves, and the journal has what was attempted. -/
structure Sends (m : Message) (t : SenderTree) : Prop where
  delivered : t.delivers = true →
    ∀ j : Journal, (t.sender.send m).run j = (.ok (), j ++ t.entries m)
  refused : t.delivers = false → ∃ e, t.Refuses m e

theorem sends_simple (x : SimpleSender) : (simple x).Sends m := by
  cases x with
  | delivering n name requirements enabled => exact ⟨fun _ j => rfl, fun h => by cases h⟩
  | failing n name reason => exact ⟨fun h => (by cases h), fun _ => ⟨_, fun j => rfl, rfl⟩⟩
  | declining n name reason => exact ⟨fun h => (by cases h), fun _ => ⟨_, fun j => rfl, rfl⟩⟩

theorem flatMap_entries (ts : List SenderTree) :
    ts.flatMap (entries m) = (ts.flatMap attempted).map (·.entry m) := by
  rw [List.map_flatMap]
  rfl

theorem entries_fallback_delivered (name : String) {front back : List SenderTree} {t : SenderTree}
    (hfront : ∀ u ∈ front, u.delivers = false) (ht : t.delivers = true) :
    (fallback name (front ++ t :: back)).entries m =
      front.flatMap (entries m) ++ t.entries m := by
  rw [entries, attempted_fallback_delivered name hfront ht, List.map_append, flatMap_entries]
  rfl

theorem entries_fallback_refused (name : String) {ts : List SenderTree}
    (h : ∀ t ∈ ts, t.delivers = false) :
    (fallback name ts).entries m = ts.flatMap (entries m) := by
  rw [entries, attempted_fallback_refused name h, flatMap_entries]

def candidates (ts : List SenderTree) : List (String × Sender Journal) :=
  ts.map fun t => (t.sender.name, t.sender)

theorem fallback_run (name : String) (ts : List SenderTree) (j : Journal) :
    ((fallback name ts).sender.send m).run j =
      match ((⟨name, candidates ts⟩ : Fallback (Sender Journal)).run (Sender.attempt m)).run j with
      | (.ok _, j') => (.ok (), j')
      | (.error e, j') => (.error (.allFailed e), j') := by
  have hexecutor : Sender.executor name (senders ts) = ⟨name, candidates ts⟩ := by
    rw [Sender.executor, senders_eq, List.map_map]
    rfl
  rw [sender, Sender.fallback_run, hexecutor]
  rcases (Fallback.run ⟨name, candidates ts⟩ (Sender.attempt m)).run j with ⟨_ | _, j'⟩ <;> rfl

theorem refused_of_refuses {ts : List SenderTree} {errors : List SendError}
    (h : List.Forall₂ (Refuses m) ts errors) (j : Journal) :
    Fallback.Refused (Sender.attempt m) (candidates ts) j (errors.map SendError.refusal)
      (j ++ ts.flatMap (entries m)) := by
  induction h generalizing j with
  | nil => simpa [candidates] using Fallback.Refused.nil j
  | @cons t e ts errors ht hts ih =>
    have hhead : (Sender.attempt m t.sender).run j = (.error e.refusal, j ++ t.entries m) := by
      rw [Sender.attempt_run, ht.run]
    have htail := ih (j ++ t.entries m)
    rw [List.append_assoc] at htail
    exact .cons hhead htail

theorem exists_errors {ts : List SenderTree} (hsends : ∀ t ∈ ts, t.Sends m)
    (h : ∀ t ∈ ts, t.delivers = false) : ∃ errors, List.Forall₂ (Refuses m) ts errors := by
  induction ts with
  | nil => exact ⟨[], .nil⟩
  | cons t ts ih =>
    obtain ⟨e, he⟩ := (hsends t List.mem_cons_self).refused (h t List.mem_cons_self)
    obtain ⟨errors, herrors⟩ := ih (fun u hu => hsends u (List.mem_cons_of_mem t hu))
      fun u hu => h u (List.mem_cons_of_mem t hu)
    exact ⟨e :: errors, .cons he herrors⟩

theorem refuses_fallback (name : String) {ts : List SenderTree} {errors : List SendError}
    (h : List.Forall₂ (Refuses m) ts errors) (hnone : ∀ t ∈ ts, t.delivers = false) :
    (fallback name ts).Refuses m (.allFailed ⟨name,
      Fallback.attemptsFrom 0 (candidates ts) (errors.map SendError.refusal)⟩) := by
  refine ⟨fun j => ?_, rfl⟩
  have hrun := Fallback.run_of_refused (f := ⟨name, candidates ts⟩) (refused_of_refuses h j)
  rw [fallback_run, hrun, entries_fallback_refused name hnone]

theorem sends_fallback (name : String) (ts : List SenderTree) (ih : ∀ t ∈ ts, t.Sends m) :
    (fallback name ts).Sends m where
  delivered h j := by
    -- The first child that delivers is where the run ends: those in front of it are refused.
    have hsome : (ts.find? delivers).isSome := by rwa [List.isSome_find?, ← delivers_fallback name]
    obtain ⟨t, ht⟩ := Option.isSome_iff_exists.mp hsome
    obtain ⟨htdelivers, front, back, rfl, hfront⟩ := List.find?_eq_some_iff_append.mp ht
    have hnone : ∀ u ∈ front, u.delivers = false := by simpa using hfront
    obtain ⟨errors, herrors⟩ :=
      exists_errors (fun u hu => ih u (List.mem_append_left _ hu)) hnone
    have hsent := (ih t (by simp)).delivered htdelivers (j ++ front.flatMap (entries m))
    have hsuccess : (Sender.attempt m t.sender).run (j ++ front.flatMap (entries m)) =
        (.ok (), j ++ front.flatMap (entries m) ++ t.entries m) := by
      rw [Sender.attempt_run, hsent]
    have hcandidates : candidates (front ++ t :: back) =
        candidates front ++ (t.sender.name, t.sender) :: candidates back := by
      simp [candidates]
    have hrun := Fallback.run_of_success (f := ⟨name, candidates (front ++ t :: back)⟩) hcandidates
      (refused_of_refuses herrors j) hsuccess
    rw [fallback_run, hrun, entries_fallback_delivered name hnone htdelivers, List.append_assoc]
  refused h := by
    have hnone : ∀ t ∈ ts, t.delivers = false := by simpa [delivers_fallback] using h
    obtain ⟨errors, herrors⟩ := exists_errors ih hnone
    exact ⟨_, refuses_fallback name herrors hnone⟩

theorem sends (t : SenderTree) : t.Sends m := by
  induction t with
  | simple x => exact sends_simple x
  | fallback name ts ih => exact sends_fallback name ts ih

theorem ok_iff_delivers (t : SenderTree) (m : Message) (j : Journal) :
    ((t.sender.send m).run j).1 = .ok () ↔ t.delivers = true := by
  have h := sends (m := m) t
  cases ht : t.delivers with
  | true => simp [h.delivered ht j]
  | false =>
    obtain ⟨e, he⟩ := h.refused ht
    simp [he.run j]

theorem run_journal (t : SenderTree) (m : Message) (j : Journal) :
    ((t.sender.send m).run j).2 = j ++ t.entries m := by
  have h := sends (m := m) t
  cases ht : t.delivers with
  | true => rw [h.delivered ht j]
  | false =>
    obtain ⟨e, he⟩ := h.refused ht
    rw [he.run j]

theorem getElem?_attemptsFrom {ts : List SenderTree} {errors : List SendError}
    (h : List.Forall₂ (Refuses m) ts errors) {i : Nat} {t : SenderTree} (ht : ts[i]? = some t) :
    ∃ e, t.Refuses m e ∧
      (Fallback.attemptsFrom 0 (candidates ts) (errors.map SendError.refusal))[i]? =
        some ⟨i, t.sender.name, e.refusal⟩ := by
  obtain ⟨hi, rfl⟩ := List.getElem?_eq_some_iff.mp ht
  have hi' : i < errors.length := h.length_eq ▸ hi
  have hcandidate : (candidates ts)[i]? = some (ts[i].sender.name, ts[i].sender) := by
    simp [candidates, hi]
  have hrefusal : (errors.map SendError.refusal)[i]? = some errors[i].refusal := by simp [hi']
  refine ⟨errors[i], h.get hi hi', ?_⟩
  rw [Fallback.getElem?_attemptsFrom 0 hcandidate hrefusal, Nat.zero_add]

theorem length_attemptsFrom {ts : List SenderTree} {errors : List SendError}
    (h : List.Forall₂ (Refuses m) ts errors) :
    (Fallback.attemptsFrom 0 (candidates ts) (errors.map SendError.refusal)).length = ts.length := by
  have hlength : (errors.map SendError.refusal).length = (candidates ts).length := by
    simp [candidates, h.length_eq]
  rw [Fallback.length_attemptsFrom 0 hlength, candidates, List.length_map]

theorem declines_iff {t : SenderTree} :
    t.declines = true ↔ ∃ n name reason, t = simple (.declining n name reason) := by
  constructor
  · intro h
    match t with
    | simple (.declining n name reason) => exact ⟨n, name, reason, rfl⟩
  · rintro ⟨n, name, reason, rfl⟩
    rfl

/-- A fallback delivers exactly if a leaf does. The leaves up to the first that delivers are
attempted in their order, each once, and no other one. If none delivers all are attempted, and the
report has one attempt for each direct child, with the child's error; only a child that is itself
declining is reported to have declined. -/
theorem send_fallback_once (name : String) (ts : List SenderTree) (m : Message) (j : Journal) :
    let t := fallback name ts
    let answer := ((t.sender.send m).run j).1
    let j' := ((t.sender.send m).run j).2
    let attempted := through SimpleSender.delivers t.leaves
    (answer = .ok () ↔ ∃ x ∈ t.leaves, x.delivers = true) ∧
    j' = j ++ attempted.map (·.entry m) ∧
    ((t.leaves.map SimpleSender.number).Nodup →
      (∀ x ∈ attempted, x.Attempted m j j') ∧
      ∀ x ∈ t.leaves, x ∉ attempted → x.Untouched j j') ∧
    ((∀ x ∈ t.leaves, x.delivers = false) →
      attempted = t.leaves ∧
      ∃ attempts, answer = .error (.allFailed ⟨name, attempts⟩) ∧ attempts.length = ts.length ∧
        ∀ (i : Nat) (u : SenderTree), ts[i]? = some u →
          ∃ e, (∀ j, ((u.sender.send m).run j).1 = .error e) ∧
            attempts[i]? = some ⟨i, u.sender.name, e.refusal⟩ ∧
            (e.refusal.isDeclined = true ↔
              ∃ n name reason, u = simple (.declining n name reason))) := by
  intro t answer j' attempted
  have hjournal : j' = j ++ attempted.map (·.entry m) := run_journal t m j
  refine ⟨?_, hjournal, ?_, ?_⟩
  · exact (ok_iff_delivers t m j).trans List.any_eq_true
  · intro hdistinct
    have hsub : attempted.Sublist t.leaves := through_sublist t.leaves
    have hattempted : (attempted.map SimpleSender.number).Nodup :=
      (hsub.map SimpleSender.number).nodup hdistinct
    rw [hjournal]
    refine ⟨fun x hx => SimpleSender.attempted_append hx hattempted j, fun x hx hnot => ?_⟩
    refine SimpleSender.untouched_append (fun y hy he => hnot ?_) j
    exact List.inj_on_of_nodup_map hdistinct (hsub.subset hy) hx he ▸ hy
  · intro hnone
    have hdelivers : t.delivers = false := delivers_eq_false_iff.mpr hnone
    have hts : ∀ u ∈ ts, u.delivers = false := by
      simpa [t, delivers_fallback] using hdelivers
    obtain ⟨errors, herrors⟩ := exists_errors (fun u _ => sends (m := m) u) hts
    refine ⟨attempted_of_not_delivers hdelivers, _,
      congrArg Prod.fst ((refuses_fallback name herrors hts).run j), length_attemptsFrom herrors,
      fun i u hu => ?_⟩
    obtain ⟨e, he, hreported⟩ := getElem?_attemptsFrom herrors hu
    exact ⟨e, fun j => congrArg Prod.fst (he.run j), hreported, by rw [he.isDeclined, declines_iff]⟩

theorem send_fallback_once_exhausted :
    let m : Message := .sms ⟨none, ["+33"], .text "hi"⟩
    let inner := fallback "inner" [simple (.declining 0 "quota" "reached"),
      simple (.declining 1 "closed" "night")]
    let ts := [inner, simple (.declining 2 "last" "no")]
    let t := fallback "outer" ts
    let j' := ((t.sender.send m).run []).2
    (t.leaves.map SimpleSender.number).Nodup ∧ (∀ x ∈ t.leaves, x.delivers = false) ∧
      j' = [.declined 0, .declined 1, .declined 2] ∧
      (∀ x ∈ t.leaves, x.Attempted m [] j') ∧
      ∃ attempts, ((t.sender.send m).run []).1 = .error (.allFailed ⟨"outer", attempts⟩) ∧
        attempts.length = 2 ∧
        (∃ e : SendError, attempts[0]? = some ⟨0, "inner", e.refusal⟩ ∧ e.refusal.isDeclined = false) ∧
        ∃ e : SendError, attempts[1]? = some ⟨1, "last", e.refusal⟩ ∧ e.refusal.isDeclined = true := by
  intro m inner ts t j'
  have hdistinct : (t.leaves.map SimpleSender.number).Nodup := by decide
  have hnone : ∀ x ∈ t.leaves, x.delivers = false := by decide
  obtain ⟨-, hjournal, hcounted, hreport⟩ := send_fallback_once "outer" ts m []
  obtain ⟨hall, attempts, hanswer, hlength, hattempts⟩ := hreport hnone
  obtain ⟨e, -, hinner, hfailed⟩ := hattempts 0 inner rfl
  obtain ⟨e', -, hlast, hdeclined⟩ := hattempts 1 (simple (.declining 2 "last" "no")) rfl
  have hattempted := (hcounted hdistinct).1
  rw [hall] at hattempted
  refine ⟨hdistinct, hnone, rfl, hattempted, attempts, hanswer, hlength, ⟨e, hinner, ?_⟩, e', hlast,
    hdeclined.mpr ⟨2, "last", "no", rfl⟩⟩
  rw [← Bool.not_eq_true, hfailed]
  simp [inner]

end SenderTree

end Postroom
