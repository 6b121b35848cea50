import Postroom.Proofs.Sequence
import Postroom.Selection.Adapter

namespace Postroom

variable {κ β : Type}

section

variable [DecidableEq κ]

theorem lookup_cons_ite (k j : κ) (b : β) (es : List (κ × β)) :
    ((j, b) :: es).lookup k = if k = j then some b else es.lookup k := by
  rw [List.lookup_cons]
  by_cases h : k = j
  · rw [h, BEq.rfl, if_pos rfl]
  · rw [beq_false_of_ne h, if_neg h]

theorem lookup_eq_find? (l : List (κ × β)) (k : κ) :
    l.lookup k = (l.find? fun e => e.1 = k).map Prod.snd := by
  induction l with
  | nil => rfl
  | cons e l ih =>
    obtain ⟨j, c⟩ := e
    rw [lookup_cons_ite, List.find?_cons]
    by_cases h : k = j
    · simp [h]
    · simp [h, Ne.symm h, ih]

theorem lookup_eq_some_iff_mem {l : List (κ × β)} (h : (l.map Prod.fst).Nodup) (k : κ) (b : β) :
    l.lookup k = some b ↔ (k, b) ∈ l := by
  induction l with
  | nil => simp
  | cons e l ih =>
    obtain ⟨j, c⟩ := e
    obtain ⟨hj, hl⟩ := List.nodup_cons.mp h
    rw [lookup_cons_ite, List.mem_cons, Prod.mk.injEq]
    by_cases hk : k = j
    · subst hk
      have hb : (k, b) ∉ l := fun hb => hj (List.mem_map.mpr ⟨_, hb, rfl⟩)
      simp [hb, eq_comm]
    · simp [ih hl, hk]

theorem lookup_of_put {key : κ} {b : β} (put : List (κ × β) → List (κ × β))
    (hnil : put [] = [(key, b)])
    (hcons : ∀ j c es, put ((j, c) :: es) = if j = key then (key, b) :: es else (j, c) :: put es)
    (k : κ) (es : List (κ × β)) :
    (put es).lookup k = if k = key then some b else es.lookup k := by
  induction es with
  | nil => rw [hnil, lookup_cons_ite]
  | cons e es ih =>
    obtain ⟨j, c⟩ := e
    rw [hcons]
    by_cases hj : j = key
    · subst hj
      rw [if_pos rfl, lookup_cons_ite, lookup_cons_ite]
      by_cases h : k = j <;> simp [h]
    · rw [if_neg hj, lookup_cons_ite, lookup_cons_ite, ih]
      by_cases h : k = j
      · subst h
        simp [hj]
      · simp [h]

end

theorem putKey_cons (key : String) (b : β) (j : String) (c : β) (es : List (String × β)) :
    putKey key b ((j, c) :: es) =
      if j = key then (key, b) :: es else (j, c) :: putKey key b es := by
  simp [putKey]

theorem lookup_putKey (key k : String) (b : β) (es : List (String × β)) :
    (putKey key b es).lookup k = if k = key then some b else es.lookup k :=
  lookup_of_put (putKey key b) rfl (putKey_cons key b) k es

theorem mem_keys_putKey {key k : String} {b : β} {es : List (String × β)} :
    k ∈ (putKey key b es).map Prod.fst ↔ k = key ∨ k ∈ es.map Prod.fst := by
  induction es with
  | nil => simp [putKey]
  | cons e es ih =>
    obtain ⟨j, c⟩ := e
    rw [putKey_cons]
    split
    · rename_i hj
      simp [hj]
    · rw [List.map_cons, List.mem_cons, ih, List.map_cons, List.mem_cons]
      exact or_left_comm

theorem nodup_keys_putKey {es : List (String × β)} (h : (es.map Prod.fst).Nodup) (key : String)
    (b : β) : ((putKey key b es).map Prod.fst).Nodup := by
  induction es with
  | nil => simp [putKey]
  | cons e es ih =>
    obtain ⟨j, c⟩ := e
    obtain ⟨hj, hes⟩ := List.nodup_cons.mp h
    rw [putKey_cons]
    split
    · rename_i heq
      exact List.nodup_cons.mpr ⟨heq ▸ hj, hes⟩
    · rename_i hne
      refine List.nodup_cons.mpr ⟨fun hmem => ?_, ih hes⟩
      exact (mem_keys_putKey.mp hmem).elim hne hj

def putEach (puts : List (String × β)) (es : List (String × β)) : List (String × β) :=
  puts.foldl (fun es p => putKey p.1 p.2 es) es

theorem nodup_keys_putEach (puts : List (String × β)) {es : List (String × β)}
    (h : (es.map Prod.fst).Nodup) : ((putEach puts es).map Prod.fst).Nodup := by
  induction puts generalizing es with
  | nil => exact h
  | cons p puts ih => exact ih (nodup_keys_putKey h p.1 p.2)

theorem mem_keys_putEach {puts es : List (String × β)} {k : String} :
    k ∈ (putEach puts es).map Prod.fst ↔ k ∈ puts.map Prod.fst ∨ k ∈ es.map Prod.fst := by
  induction puts generalizing es with
  | nil => simp [putEach]
  | cons p puts ih =>
    rw [putEach, List.foldl_cons, ← putEach, ih, mem_keys_putKey, List.map_cons, List.mem_cons,
      or_assoc, or_left_comm]

theorem lookup_putEach (puts es : List (String × β)) (k : String) :
    (putEach puts es).lookup k =
      ((puts.reverse.find? fun p => p.1 = k).map Prod.snd).or (es.lookup k) := by
  -- what is there at first counts only where nothing is put
  induction puts generalizing es with
  | nil => rfl
  | cons p puts ih =>
    rw [putEach, List.foldl_cons, ← putEach, ih, lookup_putKey, List.reverse_cons,
      List.find?_append, List.find?_singleton]
    cases puts.reverse.find? fun p => p.1 = k with
    | some q => rfl
    | none =>
      by_cases h : p.1 = k
      · simp [h]
      · simp [h, Ne.symm h]

theorem lookup_putEach_eq_some_iff {puts : List (String × β)} {k : String} {b : β} :
    (putEach puts []).lookup k = some b ↔
      ∃ front back, puts = front ++ (k, b) :: back ∧ ∀ p ∈ back, p.1 ≠ k := by
  rw [lookup_putEach, List.lookup_nil, Option.or_none, Option.map_eq_some_iff]
  simp only [find?_reverse_eq_some_iff, decide_eq_true_eq, decide_eq_false_iff_not]
  constructor
  · rintro ⟨p, ⟨rfl, front, back, rfl, hback⟩, rfl⟩
    exact ⟨front, back, rfl, hback⟩
  · rintro ⟨front, back, rfl, hback⟩
    exact ⟨(k, b), ⟨rfl, front, back, rfl, hback⟩, rfl⟩

theorem pairwise_mergeSort_keys {l : List (String × β)} (h : (l.map Prod.fst).Nodup) :
    (l.mergeSort fun a b => a.1 ≤ b.1).Pairwise fun a b => a.1 < b.1 := by
  have hle : (l.mergeSort fun a b => a.1 ≤ b.1).Pairwise fun a b => decide (a.1 ≤ b.1) = true := by
    apply List.pairwise_mergeSort
    · intro a b c hab hbc
      simp only [decide_eq_true_eq] at *
      exact String.le_trans hab hbc
    · intro a b
      simpa using String.le_total a.1 b.1
  have hne : (l.mergeSort fun a b => a.1 ≤ b.1).Pairwise fun a b => a.1 ≠ b.1 := by
    have hp : ((l.mergeSort fun a b => a.1 ≤ b.1).map Prod.fst).Nodup :=
      ((List.mergeSort_perm l _).map Prod.fst).nodup_iff.mpr h
    exact List.pairwise_map.mp hp
  refine (hle.and hne).imp ?_
  intro a b hab
  rw [← String.not_le]
  intro hba
  exact hab.2 (String.le_antisymm (of_decide_eq_true hab.1) hba)

end Postroom
