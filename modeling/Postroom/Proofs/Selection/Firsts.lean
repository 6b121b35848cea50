import Mathlib.Data.List.Basic
import Postroom.Selection.Registry
import Postroom.Sender.Desk

namespace Postroom

variable {β : Type} (key : β → String)

/-- The members that are the first of their key. -/
def firsts : List β → List β
  | [] => []
  | x :: xs => x :: (firsts xs).filter fun y => key y != key x

def appendNew (xs : List β) (x : β) : List β :=
  if (xs.map key).contains (key x) then xs else xs ++ [x]

theorem foldl_appendNew (acc xs : List β) :
    xs.foldl (appendNew key) acc =
      acc ++ (firsts key xs).filter fun y => !(acc.map key).contains (key y) := by
  induction xs generalizing acc with
  | nil => simp [firsts]
  | cons x xs ih =>
    rw [List.foldl_cons, ih]
    unfold appendNew
    cases h : (acc.map key).contains (key x) with
    | true =>
      -- the key is known already, so the members of that key are dropped anyway
      have hdropped : ∀ y, key y = key x → (!(acc.map key).contains (key y)) = false := by
        intro y hy
        rw [hy, h]
        rfl
      simp only [if_true, firsts, List.filter_cons, hdropped x rfl, List.filter_filter]
      congr 1
      refine List.filter_congr fun y _ => ?_
      by_cases hy : key y = key x
      · rw [hdropped y hy, Bool.false_and]
      · simp [hy]
    | false =>
      simp only [Bool.false_eq_true, if_false, firsts, List.filter_cons, h, Bool.not_false,
        if_true, List.append_assoc, List.singleton_append, List.filter_filter, List.map_append,
        List.map_cons, List.map_nil]
      congr 2
      refine List.filter_congr fun y _ => ?_
      by_cases hy : key y = key x <;> simp [List.contains_eq_mem, hy]

theorem foldl_appendNew_nil (xs : List β) : xs.foldl (appendNew key) [] = firsts key xs := by
  simp [foldl_appendNew]

theorem firsts_subset (xs : List β) : firsts key xs ⊆ xs := by
  induction xs with
  | nil => exact List.Subset.refl []
  | cons x xs ih =>
    rw [firsts]
    exact List.cons_subset_cons x (List.Subset.trans List.filter_sublist.subset ih)

theorem firsts_nodup (xs : List β) : ((firsts key xs).map key).Nodup := by
  induction xs with
  | nil => exact List.nodup_nil
  | cons x xs ih =>
    rw [firsts, List.map_cons, List.nodup_cons]
    constructor
    · intro hmem
      obtain ⟨y, hy, hkey⟩ := List.mem_map.mp hmem
      have hne := (List.mem_filter.mp hy).2
      simp [hkey] at hne
    · exact (List.filter_sublist.map key).nodup ih

theorem firsts_of_nodup {xs : List β} (h : (xs.map key).Nodup) : firsts key xs = xs := by
  induction xs with
  | nil => rfl
  | cons x xs ih =>
    rw [List.map_cons, List.nodup_cons] at h
    rw [firsts, ih h.2]
    congr 1
    refine List.filter_eq_self.mpr fun y hy => ?_
    have hne : key y ≠ key x := fun hyx => h.1 (hyx ▸ List.mem_map_of_mem hy)
    simpa using hne

theorem firsts_map {γ : Type} (f : γ → β) (xs : List γ) :
    firsts key (xs.map f) = (firsts (fun x => key (f x)) xs).map f := by
  induction xs with
  | nil => rfl
  | cons x xs ih =>
    rw [List.map_cons, firsts, firsts, List.map_cons, ih, List.filter_map]
    rfl

theorem find?_firsts (xs : List β) (k : String) :
    ((firsts key xs).find? fun y => key y == k) = xs.find? fun y => key y == k := by
  induction xs with
  | nil => rfl
  | cons x xs ih =>
    rw [firsts, List.find?_cons, List.find?_cons]
    cases hx : key x == k with
    | true => rfl
    | false =>
      -- what is dropped has the key of `x`, which is not looked for
      have hkept : ∀ y, (key y != key x) = true ∧ (key y == k) = true ↔ (key y == k) = true := by
        intro y
        refine and_iff_right_of_imp fun hy => ?_
        rw [← eq_of_beq hy, Bool.eq_false_iff, ne_eq, beq_iff_eq] at hx
        exact bne_iff_ne.mpr (Ne.symm hx)
      simp only [List.find?_filter, hkept, Bool.decide_eq_true]
      exact ih

theorem pairwise_idxOf_firsts (xs : List β) : ((firsts key xs).map key).Pairwise
    fun j k => (xs.map key).idxOf j < (xs.map key).idxOf k := by
  induction xs with
  | nil => exact .nil
  | cons x xs ih =>
    have hne : ∀ k ∈ ((firsts key xs).filter fun y => key y != key x).map key, key x ≠ k := by
      intro k hk
      obtain ⟨y, hy, rfl⟩ := List.mem_map.mp hk
      exact (bne_iff_ne.mp (List.mem_filter.mp hy).2).symm
    rw [firsts, List.map_cons, List.map_cons, List.pairwise_cons]
    constructor
    · intro k hk
      rw [List.idxOf_cons_self, List.idxOf_cons_ne _ (hne k hk)]
      exact Nat.succ_pos _
    · refine (ih.sublist (List.filter_sublist.map key)).imp_of_mem fun {j k} hj hk hjk => ?_
      rw [List.idxOf_cons_ne _ (hne j hj), List.idxOf_cons_ne _ (hne k hk)]
      exact Nat.succ_lt_succ hjk

/-- What is kept of given entries are the first entries of the keys, in the order in which the keys
come up. -/
structure KeepsFirsts (given kept : List β) : Prop where
  distinct : (kept.map key).Nodup
  ordered : (kept.map key).Pairwise fun j k => (given.map key).idxOf j < (given.map key).idxOf k
  first : ∀ k, (kept.find? fun x => key x == k) = given.find? fun x => key x == k

theorem keepsFirsts_firsts (given : List β) : KeepsFirsts key given (firsts key given) where
  distinct := firsts_nodup key given
  ordered := pairwise_idxOf_firsts key given
  first := find?_firsts key given

theorem KeepsFirsts.mem_keys_iff {key : β → String} {given kept : List β}
    (h : KeepsFirsts key given kept) {k : String} : k ∈ kept.map key ↔ k ∈ given.map key := by
  have hfound : ∀ xs : List β, k ∈ xs.map key ↔ (xs.find? fun x => key x == k).isSome = true := by
    intro xs
    rw [List.find?_isSome, List.mem_map]
    simp only [beq_iff_eq]
  rw [hfound, hfound, h.first]

theorem foldl_appendNew_of_known {acc xs : List β} (h : ∀ x ∈ xs, key x ∈ acc.map key) :
    xs.foldl (appendNew key) acc = acc := by
  rw [foldl_appendNew]
  have hnone : ((firsts key xs).filter fun y => !(acc.map key).contains (key y)) = [] := by
    rw [List.filter_eq_nil_iff]
    intro y hy
    simpa using h y (firsts_subset key xs hy)
  rw [hnone, List.append_nil]

theorem find?_appendNew (xs : List β) (x : β) (k : String) :
    ((appendNew key xs x).find? fun y => key y == k) = (xs ++ [x]).find? fun y => key y == k := by
  unfold appendNew
  split
  · rename_i hx
    rw [List.find?_append, List.find?_singleton]
    split
    · rename_i hk
      -- the key of `x` is there, so what is found under it stands before `x`
      obtain ⟨y, hy, hxy⟩ := List.mem_map.mp (List.contains_iff_mem.mp hx)
      have hfound : (xs.find? fun y => key y == k).isSome = true :=
        List.find?_isSome.mpr ⟨y, hy, by rw [hxy]; exact hk⟩
      exact (Option.or_of_isSome hfound).symm
    · rw [Option.or_none]
  · rfl

theorem appendNew_map {γ : Type} (f : γ → β) (xs : List γ) (x : γ) :
    appendNew key (xs.map f) (f x) = (appendNew (fun y => key (f y)) xs x).map f := by
  unfold appendNew
  rw [List.map_map, apply_ite (List.map f), List.map_append]
  rfl

theorem Registry.register_eq {α ι : Type} (r : Registry α ι) (c : Candidate α ι) :
    r.register c = { r with candidates := appendNew Candidate.key r.candidates c } := by
  unfold register appendNew keys
  split <;> rfl

theorem Registry.foldl_register {α ι : Type} (r : Registry α ι) (cs : List (Candidate α ι)) :
    cs.foldl register r = { r with candidates := cs.foldl (appendNew Candidate.key) r.candidates } :=
  List.foldl_hom (fun l => { r with candidates := l }) fun l c =>
    register_eq { r with candidates := l } c

theorem Registry.ofList_eq {α ι : Type} (name : String) (cs : List (Candidate α ι)) :
    ofList name cs = { name, candidates := firsts Candidate.key cs } := by
  rw [ofList, foldl_register, foldl_appendNew_nil]

theorem DeskPlan.foldl_add {σ : Type} (p : DeskPlan σ) (ss : List (Sender σ)) :
    ss.foldl add p = { p with senders := ss.foldl (appendNew Sender.name) p.senders } := by
  refine List.foldl_hom (fun l => { p with senders := l }) fun l x => ?_
  unfold add appendNew
  split <;> rfl

theorem DeskPlan.ofList_eq {σ : Type} (kind : MessageKind) (ss : List (Sender σ)) :
    ofList kind ss = { kind, senders := firsts Sender.name ss } := by
  rw [ofList, foldl_add, foldl_appendNew_nil]

end Postroom
