import Postroom.Capability.Facts
import Postroom.Proofs.Keyed

namespace Postroom

def Fact.subject (f : Fact) : FactKind × String := (f.kind, f.name)

/-- Components stand before keys, and each kind in the order of names. -/
def Fact.Before (f g : Fact) : Prop :=
  f.kind = .component ∧ g.kind = .key ∨ f.kind = g.kind ∧ f.name < g.name

namespace Facts

def answer? (f : Facts) : FactKind × String → Option Bool
  | (.component, n) => f.components.lookup n
  | (.key, k) => f.keys.lookup k

def remember (f : Facts) : FactKind × String → Bool → Facts
  | (.component, n), b => { f with components := (n, b) :: f.components }
  | (.key, k), b => { f with keys := (k, b) :: f.keys }

/-- Every name is kept once among the components and once among the keys. -/
structure Distinct (f : Facts) : Prop where
  components : (f.components.map Prod.fst).Nodup
  keys : (f.keys.map Prod.fst).Nodup

theorem answer?_remember (f : Facts) (x y : FactKind × String) (b : Bool) :
    (f.remember x b).answer? y = if y = x then some b else f.answer? y := by
  obtain ⟨kx, nx⟩ := x
  obtain ⟨ky, ny⟩ := y
  by_cases hn : ny = nx
  · subst nx
    cases kx <;> cases ky <;> simp [answer?, remember]
  · cases kx <;> cases ky <;> simp [answer?, remember, List.lookup_cons, hn, beq_false_of_ne hn]

/-- Every fact of `f` is kept in `g`. -/
def Extends (g f : Facts) : Prop := ∀ x b, f.answer? x = some b → g.answer? x = some b

theorem Extends.refl (f : Facts) : f.Extends f := fun _ _ h => h

theorem Extends.trans {f g h : Facts} (hgh : h.Extends g) (hfg : g.Extends f) : h.Extends f :=
  fun x b hx => hgh x b (hfg x b hx)

theorem extends_remember {f : Facts} {x : FactKind × String} (hx : f.answer? x = none) (b : Bool) :
    (f.remember x b).Extends f := by
  intro y c hy
  have hne : y ≠ x := by
    rintro rfl
    rw [hx] at hy
    cases hy
  rw [answer?_remember, if_neg hne, hy]

theorem not_mem_of_lookup_none {l : List (String × Bool)} {name : String}
    (h : l.lookup name = none) : name ∉ l.map Prod.fst := by
  intro hm
  obtain ⟨e, he, rfl⟩ := List.mem_map.mp hm
  simpa using List.lookup_eq_none_iff.mp h e he

variable {f : Facts}

theorem Distinct.remember (h : f.Distinct) {x : FactKind × String} (hx : f.answer? x = none)
    (b : Bool) : (f.remember x b).Distinct := by
  obtain ⟨kind, name⟩ := x
  cases kind with
  | component => exact ⟨List.nodup_cons.mpr ⟨not_mem_of_lookup_none hx, h.components⟩, h.keys⟩
  | key => exact ⟨h.components, List.nodup_cons.mpr ⟨not_mem_of_lookup_none hx, h.keys⟩⟩

theorem mem_byName {l : List (String × Bool)} {e : String × Bool} : e ∈ byName l ↔ e ∈ l :=
  List.mem_mergeSort

theorem byName_pairwise {l : List (String × Bool)} (h : (l.map Prod.fst).Nodup) :
    (byName l).Pairwise fun a b => a.1 < b.1 :=
  pairwise_mergeSort_keys h

theorem mem_toList (h : f.Distinct) (g : Fact) :
    g ∈ f.toList ↔ f.answer? g.subject = some g.present := by
  obtain ⟨kind, name, present⟩ := g
  cases kind with
  | component =>
    simp [toList, mem_byName, Fact.subject, answer?, lookup_eq_some_iff_mem h.components]
  | key => simp [toList, mem_byName, Fact.subject, answer?, lookup_eq_some_iff_mem h.keys]

theorem toList_pairwise (h : f.Distinct) : f.toList.Pairwise Fact.Before := by
  refine List.pairwise_append.mpr ⟨?_, ?_, ?_⟩
  · exact List.pairwise_map.mpr ((byName_pairwise h.components).imp fun hab => .inr ⟨rfl, hab⟩)
  · exact List.pairwise_map.mpr ((byName_pairwise h.keys).imp fun hab => .inr ⟨rfl, hab⟩)
  · intro a ha b hb
    obtain ⟨e, -, rfl⟩ := List.mem_map.mp ha
    obtain ⟨d, -, rfl⟩ := List.mem_map.mp hb
    exact .inl ⟨rfl, rfl⟩

end Facts

end Postroom
