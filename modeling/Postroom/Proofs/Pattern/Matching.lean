import Mathlib.Logic.Basic
import Postroom.Pattern.Matching

namespace Postroom.Pattern

inductive Turns (R : Nat → Nat → Prop) : Nat → Nat → Nat → Prop
  | none (i : Nat) : Turns R 0 i i
  | more {n i j k : Nat} : R i j → Turns R n j k → Turns R (n + 1) i k

section

variable {R : Nat → Nat → Prop}

theorem turns_zero_iff {i j : Nat} : Turns R 0 i j ↔ i = j := by
  constructor
  · rintro ⟨⟩
    rfl
  · rintro rfl
    exact .none i

theorem turns_succ_iff {n i k : Nat} : Turns R (n + 1) i k ↔ ∃ j, R i j ∧ Turns R n j k := by
  constructor
  · rintro (_ | ⟨hij, hjk⟩)
    exact ⟨_, hij, hjk⟩
  · rintro ⟨j, hij, hjk⟩
    exact .more hij hjk

theorem Turns.append {m n i j k : Nat} (hij : Turns R m i j) (hjk : Turns R n j k) :
    Turns R (m + n) i k := by
  induction hij with
  | none i => rwa [Nat.zero_add]
  | more h _ ih =>
    rw [Nat.add_right_comm]
    exact .more h (ih hjk)

theorem Turns.split {m n i k : Nat} (h : Turns R (m + n) i k) :
    ∃ j, Turns R m i j ∧ Turns R n j k := by
  induction m generalizing i with
  | zero => exact ⟨i, .none i, by rwa [Nat.zero_add] at h⟩
  | succ m ih =>
    rw [Nat.add_right_comm, turns_succ_iff] at h
    obtain ⟨j, hij, hjk⟩ := h
    obtain ⟨l, hjl, hlk⟩ := ih hjk
    exact ⟨l, .more hij hjl, hlk⟩

/-- Turns that stay where they are can be left out, so no more are needed than places are passed. -/
theorem Turns.shorten (hle : ∀ i j, R i j → i ≤ j) {n i j : Nat} (h : Turns R n i j) :
    i ≤ j ∧ ∃ m ≤ j - i, Turns R m i j := by
  induction h with
  | none i => exact ⟨Nat.le_refl i, 0, Nat.zero_le _, .none i⟩
  | @more n i j k hij _ ih =>
    obtain ⟨hjk, m, hm, hturns⟩ := ih
    have hle' := hle i j hij
    obtain rfl | hlt := Nat.eq_or_lt_of_le hle'
    · exact ⟨hjk, m, hm, hturns⟩
    · exact ⟨Nat.le_trans hle' hjk, m + 1, by omega, .more hij hturns⟩

theorem Turns.stay {seen : List Nat} (hclosed : ∀ i ∈ seen, ∀ k, R i k → k ∈ seen) {n i j : Nat}
    (h : Turns R n i j) (hi : i ∈ seen) : j ∈ seen := by
  induction h with
  | none i => exact hi
  | more hij _ ih => exact ih (hclosed _ hi _ hij)

theorem mem_fresh_iff {seen more : List Nat} {j : Nat} :
    j ∈ fresh seen more ↔ j ∈ more ∧ j ∉ seen := by
  have h : ∀ acc : List Nat,
      (j ∈ more.foldl
          (fun acc i => if seen.contains i || acc.contains i then acc else i :: acc) acc ↔
        j ∈ acc ∨ j ∈ more ∧ j ∉ seen) := by
    induction more with
    | nil => simp
    | cons i more ih =>
      intro acc
      rw [List.foldl_cons, ih]
      by_cases hi : i ∈ seen ∨ i ∈ acc
      · grind
      · grind
  rw [fresh, h]
  simp

theorem mem_joinPlaces_iff {a b : List Nat} {j : Nat} :
    j ∈ joinPlaces a b ↔ j ∈ a ∨ j ∈ b := by
  rw [joinPlaces, List.mem_append, mem_fresh_iff]
  grind

variable {step : List Nat → List Nat} (hstep : ∀ is j, j ∈ step is ↔ ∃ i ∈ is, R i j)

include hstep

theorem mem_times_iff {n j : Nat} {is : List Nat} :
    j ∈ times step n is ↔ ∃ i ∈ is, Turns R n i j := by
  induction n generalizing is with
  | zero => simp [times, turns_zero_iff]
  | succ n ih =>
    rw [times]
    cases is with
    | nil => simp
    | cons i is =>
      rw [List.isEmpty_cons, if_neg Bool.false_ne_true, ih]
      simp only [hstep, turns_succ_iff]
      grind

theorem mem_reach_iff {n j : Nat} {seen edge : List Nat} (hedge : ∀ i ∈ edge, i ∈ seen)
    (hclosed : ∀ i ∈ seen, i ∉ edge → ∀ k, R i k → k ∈ seen) :
    j ∈ reach step n seen edge ↔ ∃ m ≤ n, ∃ i ∈ seen, Turns R m i j := by
  induction n generalizing seen edge with
  | zero => simp [reach, turns_zero_iff]
  | succ n ih =>
    have hnew : ∀ i ∈ seen, ∀ k, R i k → k ∈ seen ∨ k ∈ fresh seen (step edge) := by
      intro i hi k hik
      by_cases hk : k ∈ seen
      · exact .inl hk
      · have hie : i ∈ edge := Decidable.byContradiction fun hie => hk (hclosed i hi hie k hik)
        exact .inr (mem_fresh_iff.mpr ⟨(hstep edge k).mpr ⟨i, hie, hik⟩, hk⟩)
    rw [reach]
    split
    · rename_i hfresh
      have hstay : ∀ i ∈ seen, ∀ k, R i k → k ∈ seen := fun i hi k hik =>
        (hnew i hi k hik).resolve_right (by simp [hfresh])
      constructor
      · exact fun hj => ⟨0, Nat.zero_le _, j, hj, .none j⟩
      · rintro ⟨m, -, i, hi, h⟩
        exact h.stay hstay hi
    · rename_i new hfresh
      have hnext : ∀ i ∈ seen ++ fresh seen (step edge), i ∉ fresh seen (step edge) →
          ∀ k, R i k → k ∈ seen ++ fresh seen (step edge) := by
        intro i hi hie k hik
        exact List.mem_append.mpr (hnew i ((List.mem_append.mp hi).resolve_right hie) k hik)
      rw [ih (fun i hi => List.mem_append_right seen hi) hnext]
      constructor
      · rintro ⟨m, hm, i, hi, h⟩
        obtain hi | hi := List.mem_append.mp hi
        · exact ⟨m, Nat.le_succ_of_le hm, i, hi, h⟩
        · obtain ⟨l, hl, hli⟩ := (hstep edge i).mp (mem_fresh_iff.mp hi).1
          exact ⟨m + 1, Nat.succ_le_succ hm, l, hedge l hl, .more hli h⟩
      · rintro ⟨m, hm, i, hi, h⟩
        cases h with
        | none i => exact ⟨0, Nat.zero_le n, j, List.mem_append_left _ hi, .none j⟩
        | more hik h =>
          exact ⟨_, Nat.le_of_succ_le_succ hm, _, List.mem_append.mpr (hnew i hi _ hik), h⟩

end

namespace Regex

/-- The bounds of every repetition are in order. -/
def Ordered : Regex → Prop
  | .empty | .one _ | .edge _ => True
  | .seq a b | .alt a b => a.Ordered ∧ b.Ordered
  | .rep r min max => r.Ordered ∧ ∀ m ∈ max, min ≤ m

variable {t : Array Char}

theorem spans_empty_iff {i j : Nat} : Regex.empty.Spans t i j ↔ i = j := by
  constructor
  · rintro ⟨⟩
    rfl
  · rintro rfl
    exact .empty i

theorem spans_one_iff {s : CharSet} {i j : Nat} :
    (Regex.one s).Spans t i j ↔ (t[i]?.any s.has = true ∧ i + 1 = j) := by
  rw [Option.any_eq_true]
  constructor
  · rintro (_ | ⟨hc, hs⟩)
    exact ⟨⟨_, hc, hs⟩, rfl⟩
  · rintro ⟨⟨c, hc, hs⟩, rfl⟩
    exact .one hc hs

theorem spans_edge_iff {e : Edge} {i j : Nat} :
    (Regex.edge e).Spans t i j ↔ e.holdsAt t i = true ∧ i = j := by
  constructor
  · rintro (_ | _ | h)
    exact ⟨h, rfl⟩
  · rintro ⟨h, rfl⟩
    exact .edge h

theorem spans_seq_iff {a b : Regex} {i k : Nat} :
    (Regex.seq a b).Spans t i k ↔ ∃ j, a.Spans t i j ∧ b.Spans t j k := by
  constructor
  · rintro (_ | _ | _ | ⟨ha, hb⟩)
    exact ⟨_, ha, hb⟩
  · rintro ⟨j, ha, hb⟩
    exact .seq ha hb

theorem spans_alt_iff {a b : Regex} {i j : Nat} :
    (Regex.alt a b).Spans t i j ↔ a.Spans t i j ∨ b.Spans t i j := by
  constructor
  · rintro (_ | _ | _ | _ | h | h)
    · exact .inl h
    · exact .inr h
  · rintro (h | h)
    · exact .altLeft h
    · exact .altRight h

theorem spans_rep_iff {r : Regex} {min : Nat} {max : Option Nat} {i j : Nat} :
    (Regex.rep r min max).Spans t i j ↔
      ∃ n, min ≤ n ∧ (∀ m ∈ max, n ≤ m) ∧ Turns (r.Spans t) n i j := by
  constructor
  · intro h
    generalize hs : Regex.rep r min max = s at h
    induction h generalizing min max with
    | stop =>
      cases hs
      exact ⟨0, Nat.le_refl 0, fun _ _ => Nat.zero_le _, .none _⟩
    | turn hmax hij _ _ ih =>
      cases hs
      obtain ⟨n, hmin, hn, hturns⟩ := ih rfl
      refine ⟨n + 1, by omega, ?_, .more hij hturns⟩
      obtain ⟨rfl, -⟩ | ⟨m, rfl, rfl⟩ := hmax
      · simp
      · simpa using hn
    | _ => cases hs
  · rintro ⟨n, hmin, hn, hturns⟩
    induction hturns generalizing min max with
    | none i =>
      obtain rfl := Nat.le_zero.mp hmin
      exact .stop
    | @more n i j k hij _ ih =>
      cases max with
      | none => exact .turn (.inl ⟨rfl, rfl⟩) hij (ih (by omega) (by simp))
      | some m =>
        have hm : n + 1 ≤ m := hn m rfl
        obtain ⟨m, rfl⟩ : ∃ l, m = l + 1 := ⟨m - 1, by omega⟩
        exact .turn (.inr ⟨m, rfl, rfl⟩) hij (ih (by omega) (by simpa using hm))

theorem Spans.le {r : Regex} {i j : Nat} (h : r.Spans t i j) : i ≤ j ∧ (i < j → j ≤ t.size) := by
  induction h with
  | one hc _ =>
    have := (Array.getElem?_eq_some_iff.mp hc).1
    omega
  | empty | edge | stop => omega
  | seq _ _ ha hb | turn _ _ _ ha hb => omega
  | altLeft _ h | altRight _ h => exact h

theorem mem_ends_iff {r : Regex} (hr : r.Ordered) {is : List Nat} {j : Nat} :
    j ∈ r.ends t is ↔ ∃ i ∈ is, r.Spans t i j := by
  induction r generalizing is j with
  | empty => simp [ends, spans_empty_iff]
  | one s => 
    simp only [ends, List.mem_filterMap, spans_one_iff]
    grind
  | edge e =>
    simp only [ends, List.mem_filter, spans_edge_iff]
    grind
  | seq a b iha ihb =>
    simp only [ends, ihb hr.2, iha hr.1, spans_seq_iff]
    grind
  | alt a b iha ihb =>
    simp only [ends, mem_joinPlaces_iff, ihb hr.2, iha hr.1, spans_alt_iff]
    grind
  | rep r min max ih =>
    have hstep : ∀ is j, j ∈ r.ends t is ↔ ∃ i ∈ is, r.Spans t i j := fun is j => ih hr.1
    simp only [ends, mem_reach_iff hstep (fun i hi => hi) (fun i hi hie => absurd hi hie),
      mem_times_iff hstep, spans_rep_iff]
    constructor
    · rintro ⟨m, hm, k, ⟨i, hi, hik⟩, hkj⟩
      refine ⟨i, hi, min + m, Nat.le_add_right min m, ?_, hik.append hkj⟩
      rintro l rfl
      have hmin : min ≤ l := hr.2 l rfl
      simp only at hm
      omega
    · rintro ⟨i, hi, n, hmin, hmax, h⟩
      obtain ⟨m, rfl⟩ := Nat.exists_eq_add_of_le hmin
      obtain ⟨k, hik, hkj⟩ := h.split
      cases max with
      | none =>
        obtain ⟨-, l, hl, hshort⟩ := hkj.shorten fun i j h => h.le.1
        have hturns : (rep r 0 none).Spans t k j :=
          spans_rep_iff.mpr ⟨m, Nat.zero_le m, by simp, hkj⟩
        have hsize := hturns.le.2
        exact ⟨l, by simp only; omega, k, ⟨i, hi, hik⟩, hshort⟩
      | some l =>
        have hl : min + m ≤ l := hmax l rfl
        exact ⟨m, by simp only; omega, k, ⟨i, hi, hik⟩, hkj⟩

theorem isMatch_iff_finds {r : Regex} (hr : r.Ordered) {text : String} :
    r.isMatch text = true ↔ r.Finds text := by
  have hempty : r.isMatch text = true ↔
      ∃ j, j ∈ r.ends text.toList.toArray (List.range (text.toList.toArray.size + 1)) := by
    rw [isMatch]
    simp only [Bool.not_eq_true', List.isEmpty_eq_false_iff_exists_mem]
  simp only [hempty, mem_ends_iff hr, List.mem_range, Finds, List.size_toArray]
  constructor
  · rintro ⟨j, i, hi, h⟩
    have hj := h.le
    rw [List.size_toArray] at hj
    exact ⟨i, j, hj.1, by omega, h⟩
  · rintro ⟨i, j, hij, hj, h⟩
    exact ⟨j, i, by omega, h⟩

end Regex

end Postroom.Pattern
