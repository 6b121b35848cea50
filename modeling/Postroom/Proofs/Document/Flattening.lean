import Mathlib.Data.List.Basic
import Postroom.Proofs.Document.Path
import Postroom.Proofs.Keyed

namespace Postroom.Document

@[induction_eliminator]
theorem Tree.induct {motive : Tree → Prop} (null : motive .null) (bool : ∀ b, motive (.bool b))
    (int : ∀ n, motive (.int n)) (real : ∀ x, motive (.real x)) (text : ∀ s, motive (.text s))
    (list : ∀ ts, (∀ t ∈ ts, motive t) → motive (.list ts))
    (table : ∀ fs, (∀ f ∈ fs, motive f.2) → motive (.table fs)) (t : Tree) : motive t := by
  apply Tree.rec (motive_1 := motive) (motive_2 := fun ts => ∀ t ∈ ts, motive t)
    (motive_3 := fun fs => ∀ f ∈ fs, motive f.2) (motive_4 := fun f => motive f.2)
  case nil => exact fun t h => absurd h List.not_mem_nil
  case cons =>
    intro t ts ht hts u hu
    obtain rfl | hu := List.mem_cons.mp hu
    · exact ht
    · exact hts u hu
  case nil => exact fun f h => absurd h List.not_mem_nil
  case cons =>
    intro f fs hf hfs g hg
    obtain rfl | hg := List.mem_cons.mp hg
    · exact hf
    · exact hfs g hg
  case mk => exact fun name t ht => ht
  all_goals assumption

/-- The steps lead to a scalar that is not null and has this text. -/
inductive Leaf : Tree → List Step → String → Prop
  | scalar {t : Tree} {s : String} (h : scalarText? t = some s) : Leaf t [] s
  | field {fs : List (String × Tree)} {name : String} {t : Tree} {steps : List Step} {s : String}
    (hmem : (name, t) ∈ fs) (h : Leaf t steps s) : Leaf (.table fs) (.field name :: steps) s
  | item {ts : List Tree} {index : Nat} {t : Tree} {steps : List Step} {s : String}
    (hget : ts[index]? = some t) (h : Leaf t steps s) : Leaf (.list ts) (.item index :: steps) s

theorem leaf_table_iff {fs : List (String × Tree)} {steps : List Step} {s : String} :
    Leaf (.table fs) steps s ↔
      ∃ f ∈ fs, ∃ inner, Leaf f.2 inner s ∧ steps = .field f.1 :: inner := by
  constructor
  · rintro (h | ⟨hmem, h⟩)
    · cases h
    · exact ⟨_, hmem, _, h, rfl⟩
  · rintro ⟨f, hf, inner, h, rfl⟩
    exact .field hf h

theorem leaf_list_iff {ts : List Tree} {steps : List Step} {s : String} :
    Leaf (.list ts) steps s ↔
      ∃ index t, ts[index]? = some t ∧ ∃ inner, Leaf t inner s ∧ steps = .item index :: inner := by
  constructor
  · rintro (h | _ | ⟨hget, h⟩)
    · cases h
    · exact ⟨_, _, hget, _, h, rfl⟩
  · rintro ⟨index, t, hget, inner, h, rfl⟩
    exact .item hget h

/-- Fields come in the order of their names and items in the order of their places. -/
inductive Step.Before : Step → Step → Prop
  | field {name name' : String} (h : name < name') : Before (.field name) (.field name')
  | item {index index' : Nat} (h : index < index') : Before (.item index) (.item index')

abbrev Precedes : List Step → List Step → Prop := List.Lex Step.Before

theorem Step.Before.asymm {step step' : Step} (h : step.Before step') : ¬ step'.Before step := by
  intro h'
  cases h with
  | field h =>
    cases h' with
    | field h' => exact String.lt_asymm h h'
  | item h =>
    cases h' with
    | item h' => omega

theorem Precedes.asymm {steps steps' : List Step} (h : Precedes steps steps') :
    ¬ Precedes steps' steps := by
  induction h with
  | nil => exact fun h' => by cases h'
  | rel h =>
    intro h'
    cases h' with
    | rel h' => exact h.asymm h'
    | cons h' => exact h.asymm h
  | cons h ih =>
    intro h'
    cases h' with
    | rel h' => exact h'.asymm h'
    | cons h' => exact ih h'

mutual

def leaves : Tree → List (List Step × String)
  | .list ts => leavesOfItems 0 ts
  | .table fs => leavesOfFields fs
  | t => ((scalarText? t).map fun s => ([], s)).toList

def leavesOfItems : Nat → List Tree → List (List Step × String)
  | _, [] => []
  | i, t :: ts => (leaves t).map (fun l => (.item i :: l.1, l.2)) ++ leavesOfItems (i + 1) ts

def leavesOfFields : List (String × Tree) → List (List Step × String)
  | [] => []
  | (name, t) :: fs => (leaves t).map (fun l => (.field name :: l.1, l.2)) ++ leavesOfFields fs

end

def below (step : Step) (ls : List (List Step × String)) : List (List Step × String) :=
  ls.map fun l => (step :: l.1, l.2)

theorem leavesOfItems_eq (i : Nat) (ts : List Tree) :
    leavesOfItems i ts = (ts.zipIdx i).flatMap fun u => below (.item u.2) (leaves u.1) := by
  induction ts generalizing i with
  | nil => rfl
  | cons t ts ih => rw [leavesOfItems, ih, List.zipIdx_cons, List.flatMap_cons, below]

theorem leavesOfFields_eq (fs : List (String × Tree)) :
    leavesOfFields fs = fs.flatMap fun f => below (.field f.1) (leaves f.2) := by
  induction fs with
  | nil => rfl
  | cons f fs ih => rw [leavesOfFields, ih, List.flatMap_cons, below]

theorem itemLeaves_eq (path : String) (i : Nat) (ts : List Tree) :
    itemLeaves path i ts =
      (ts.zipIdx i).flatMap fun u => leavesFrom (Step.extend path (.item u.2)) u.1 := by
  induction ts generalizing i with
  | nil => rfl
  | cons t ts ih => rw [itemLeaves, ih, List.zipIdx_cons, List.flatMap_cons]

theorem fieldLeaves_eq (path : String) (fs : List (String × Tree)) :
    fieldLeaves path fs = fs.flatMap fun f => leavesFrom (Step.extend path (.field f.1)) f.2 := by
  induction fs with
  | nil => rfl
  | cons f fs ih => rw [fieldLeaves, ih, List.flatMap_cons]

theorem map_below (path : String) (step : Step) (ls : List (List Step × String)) :
    ((below step ls).map fun l => (l.1.foldl Step.extend path, l.2)) =
      ls.map fun l => (l.1.foldl Step.extend (step.extend path), l.2) := by
  rw [below, List.map_map]
  rfl

theorem leavesFrom_eq (t : Tree) (path : String) :
    leavesFrom path t = (leaves t).map fun l => (l.1.foldl Step.extend path, l.2) := by
  induction t generalizing path with
  | list ts ih =>
    rw [leavesFrom, itemLeaves_eq, leaves, leavesOfItems_eq, List.map_flatMap]
    refine List.flatMap_congr fun u hu => ?_
    rw [ih u.1 (List.fst_mem_of_mem_zipIdx hu), map_below]
  | table fs ih =>
    rw [leavesFrom, fieldLeaves_eq, leaves, leavesOfFields_eq, List.map_flatMap]
    refine List.flatMap_congr fun f hf => ?_
    rw [ih f hf, map_below]
  | real x => simp only [leavesFrom, leaves, scalarText?]; cases x.document? <;> rfl
  | _ => rfl

theorem mem_below {step : Step} {ls : List (List Step × String)} {steps : List Step} {s : String} :
    (steps, s) ∈ below step ls ↔ ∃ inner, (inner, s) ∈ ls ∧ steps = step :: inner := by
  rw [below, List.mem_map]
  constructor
  · rintro ⟨l, hl, heq⟩
    cases heq
    exact ⟨l.1, hl, rfl⟩
  · rintro ⟨inner, hinner, rfl⟩
    exact ⟨(inner, s), hinner, rfl⟩

theorem leaf_scalar_iff {t : Tree} (hlist : ∀ ts, t ≠ .list ts) (htable : ∀ fs, t ≠ .table fs)
    {steps : List Step} {s : String} :
    Leaf t steps s ↔ (steps, s) ∈ ((scalarText? t).map fun s => (([] : List Step), s)).toList := by
  rw [Option.mem_toList, Option.map_eq_some_iff]
  constructor
  · rintro (h | _ | _)
    · exact ⟨s, h, rfl⟩
    · exact absurd rfl (htable _)
    · exact absurd rfl (hlist _)
  · rintro ⟨s', h, heq⟩
    cases heq
    exact .scalar h

theorem mem_leaves_iff {t : Tree} {steps : List Step} {s : String} :
    (steps, s) ∈ leaves t ↔ Leaf t steps s := by
  induction t generalizing steps s with
  | list ts ih =>
    rw [leaves, leavesOfItems_eq, List.mem_flatMap, leaf_list_iff]
    constructor
    · rintro ⟨u, hu, hmem⟩
      obtain ⟨inner, hinner, rfl⟩ := mem_below.mp hmem
      exact ⟨u.2, u.1, List.mem_zipIdx_iff_getElem?.mp hu, inner,
        (ih u.1 (List.fst_mem_of_mem_zipIdx hu)).mp hinner, rfl⟩
    · rintro ⟨index, t, hget, inner, h, rfl⟩
      have hu : (t, index) ∈ ts.zipIdx := List.mem_zipIdx_iff_getElem?.mpr hget
      exact ⟨(t, index), hu, mem_below.mpr ⟨inner, (ih t (List.mem_of_getElem? hget)).mpr h, rfl⟩⟩
  | table fs ih =>
    rw [leaves, leavesOfFields_eq, List.mem_flatMap, leaf_table_iff]
    refine exists_congr fun f => and_congr_right fun hf => ?_
    rw [mem_below]
    exact exists_congr fun inner => and_congr_left fun _ => ih f hf
  | _ => exact Iff.symm (leaf_scalar_iff (fun _ => Tree.noConfusion) fun _ => Tree.noConfusion)

theorem sortedItems_eq (ts : List Tree) : sortedItems ts = ts.map Tree.sorted := by
  induction ts with
  | nil => rfl
  | cons t ts ih => rw [sortedItems, ih, List.map_cons]

theorem sortedFields_eq (fs : List (String × Tree)) :
    sortedFields fs = fs.map fun f => (f.1, f.2.sorted) := by
  induction fs with
  | nil => rfl
  | cons f fs ih => rw [sortedFields, ih, List.map_cons]

theorem sorted_list (ts : List Tree) : (Tree.list ts).sorted = .list (ts.map Tree.sorted) := by
  rw [Tree.sorted, sortedItems_eq]

theorem sorted_table (fs : List (String × Tree)) :
    (Tree.table fs).sorted = .table (Fields.sorted (fs.map fun f => (f.1, f.2.sorted))) := by
  rw [Tree.sorted, sortedFields_eq]

theorem leaf_sorted_iff {t : Tree} {steps : List Step} {s : String} :
    Leaf t.sorted steps s ↔ Leaf t steps s := by
  induction t generalizing steps with
  | list ts ih =>
    rw [sorted_list, leaf_list_iff, leaf_list_iff]
    refine exists_congr fun index => ?_
    simp only [List.getElem?_map, Option.map_eq_some_iff]
    constructor
    · rintro ⟨_, ⟨t, hget, rfl⟩, inner, h, rfl⟩
      exact ⟨t, hget, inner, (ih t (List.mem_of_getElem? hget)).mp h, rfl⟩
    · rintro ⟨t, hget, inner, h, rfl⟩
      exact ⟨t.sorted, ⟨t, hget, rfl⟩, inner, (ih t (List.mem_of_getElem? hget)).mpr h, rfl⟩
  | table fs ih =>
    rw [sorted_table, leaf_table_iff, leaf_table_iff]
    simp only [Fields.sorted, List.mem_mergeSort, List.mem_map]
    constructor
    · rintro ⟨_, ⟨f, hf, rfl⟩, inner, h, rfl⟩
      exact ⟨f, hf, inner, (ih f hf).mp h, rfl⟩
    · rintro ⟨f, hf, inner, h, rfl⟩
      exact ⟨_, ⟨f, hf, rfl⟩, inner, (ih f hf).mpr h, rfl⟩
  | _ => rfl

mutual

def Tree.tables : Tree → List Fields
  | .list ts => tablesOfItems ts
  | .table fs => fs :: tablesOfFields fs
  | _ => []

def tablesOfItems : List Tree → List Fields
  | [] => []
  | t :: ts => t.tables ++ tablesOfItems ts

def tablesOfFields : List (String × Tree) → List Fields
  | [] => []
  | (_, t) :: fs => t.tables ++ tablesOfFields fs

end

theorem mem_tables_list {ts : List Tree} {gs : Fields} :
    gs ∈ (Tree.list ts).tables ↔ ∃ t ∈ ts, gs ∈ t.tables := by
  have heq : tablesOfItems ts = ts.flatMap Tree.tables := by
    induction ts with
    | nil => rfl
    | cons t ts ih => rw [tablesOfItems, ih, List.flatMap_cons]
  rw [Tree.tables, heq, List.mem_flatMap]

theorem mem_tables_table {fs gs : Fields} :
    gs ∈ (Tree.table fs).tables ↔ gs = fs ∨ ∃ f ∈ fs, gs ∈ f.2.tables := by
  have heq : tablesOfFields fs = fs.flatMap fun f => f.2.tables := by
    induction fs with
    | nil => rfl
    | cons f fs ih => rw [tablesOfFields, ih, List.flatMap_cons]
  rw [Tree.tables, List.mem_cons, heq, List.mem_flatMap]

def Tree.Distinct (t : Tree) : Prop := ∀ fs ∈ t.tables, (fs.map Prod.fst).Nodup

/-- Every name can be read back from the text of a path. -/
def Tree.Plain (t : Tree) : Prop := ∀ fs ∈ t.tables, ∀ f ∈ fs, PlainName f.1

instance : DecidablePred Tree.Distinct := fun t =>
  inferInstanceAs (Decidable (∀ fs ∈ t.tables, (fs.map Prod.fst).Nodup))

instance : DecidablePred Tree.Plain := fun t =>
  inferInstanceAs (Decidable (∀ fs ∈ t.tables, ∀ f ∈ fs, PlainName f.1))

theorem Leaf.plain {t : Tree} {steps : List Step} {s : String} (h : Leaf t steps s)
    (ht : t.Plain) : ∀ step ∈ steps, step.Plain := by
  induction h with
  | scalar => exact fun step hstep => absurd hstep List.not_mem_nil
  | @field fs name u steps s hmem h ih =>
    have hu : u.Plain := fun gs hgs => ht gs (mem_tables_table.mpr (.inr ⟨_, hmem, hgs⟩))
    have hname : PlainName name := ht fs (mem_tables_table.mpr (.inl rfl)) _ hmem
    exact List.forall_mem_cons.mpr ⟨hname, ih hu⟩
  | @item ts index u steps s hget h ih =>
    have hu : u.Plain := fun gs hgs =>
      ht gs (mem_tables_list.mpr ⟨u, List.mem_of_getElem? hget, hgs⟩)
    exact List.forall_mem_cons.mpr ⟨trivial, ih hu⟩

theorem pairwise_below {step : Step} {ls : List (List Step × String)}
    (h : ls.Pairwise fun a b => Precedes a.1 b.1) :
    (below step ls).Pairwise fun a b => Precedes a.1 b.1 :=
  List.pairwise_map.mpr (h.imp fun hab => .cons hab)

theorem precedes_below {step step' : Step} (h : step.Before step')
    {ls ls' : List (List Step × String)} :
    ∀ a ∈ below step ls, ∀ b ∈ below step' ls', Precedes a.1 b.1 := by
  intro a ha b hb
  obtain ⟨l, -, rfl⟩ := List.mem_map.mp ha
  obtain ⟨l', -, rfl⟩ := List.mem_map.mp hb
  exact .rel h

theorem pairwise_zipIdx {α : Type} (xs : List α) (i : Nat) :
    (xs.zipIdx i).Pairwise fun a b => a.2 < b.2 := by
  rw [List.pairwise_iff_getElem]
  intro m n hm hn hmn
  simpa using hmn

theorem leaves_pairwise {t : Tree} (h : t.Distinct) :
    (leaves t.sorted).Pairwise fun a b => Precedes a.1 b.1 := by
  induction t with
  | list ts ih =>
    rw [sorted_list, leaves, leavesOfItems_eq, List.pairwise_flatMap]
    refine ⟨fun u hu => pairwise_below ?_, (pairwise_zipIdx _ 0).imp fun hab =>
      precedes_below (.item hab)⟩
    obtain ⟨t, ht, heq⟩ := List.mem_map.mp (List.fst_mem_of_mem_zipIdx hu)
    rw [← heq]
    exact ih t ht fun gs hgs => h gs (mem_tables_list.mpr ⟨t, ht, hgs⟩)
  | table fs ih =>
    have hnames : ((fs.map fun f => (f.1, f.2.sorted)).map Prod.fst).Nodup := by
      rw [List.map_map]
      exact h fs (mem_tables_table.mpr (.inl rfl))
    rw [sorted_table, leaves, leavesOfFields_eq, List.pairwise_flatMap]
    refine ⟨fun g hg => pairwise_below ?_, (pairwise_mergeSort_keys hnames).imp fun hab =>
      precedes_below (.field hab)⟩
    obtain ⟨f, hf, rfl⟩ := List.mem_map.mp (List.mem_mergeSort.mp hg)
    exact ih f hf fun gs hgs => h gs (mem_tables_table.mpr (.inr ⟨f, hf, hgs⟩))
  | real x =>
    simp only [Tree.sorted, leaves]
    cases scalarText? (.real x) <;> simp
  | _ => simp [Tree.sorted, leaves, scalarText?]

theorem flatten_eq (t : Tree) :
    flatten t = putEach ((leaves t.sorted).map fun l => (pathText l.1, l.2)) [] := by
  have hvisit : leavesFrom "" t.sorted = (leaves t.sorted).map fun l => (pathText l.1, l.2) := by
    rw [leavesFrom_eq]
    exact List.map_congr_left fun l _ => by rw [foldl_extend]
  rw [flatten, hvisit, putEach]

theorem nodup_keys_flatten (t : Tree) : ((flatten t).map Prod.fst).Nodup := by
  rw [flatten_eq]
  exact nodup_keys_putEach _ List.nodup_nil

theorem mem_leaves_sorted_iff {t : Tree} {steps : List Step} {s : String} :
    (steps, s) ∈ leaves t.sorted ↔ Leaf t steps s :=
  mem_leaves_iff.trans leaf_sorted_iff

theorem mem_keys_flatten_iff {t : Tree} {key : String} :
    key ∈ (flatten t).map Prod.fst ↔ ∃ steps s, Leaf t steps s ∧ pathText steps = key := by
  rw [flatten_eq, mem_keys_putEach, List.map_map, List.mem_map]
  constructor
  · rintro (⟨l, hl, rfl⟩ | hnil)
    · exact ⟨l.1, l.2, mem_leaves_sorted_iff.mp hl, rfl⟩
    · exact absurd hnil List.not_mem_nil
  · rintro ⟨steps, s, h, rfl⟩
    exact .inl ⟨(steps, s), mem_leaves_sorted_iff.mpr h, rfl⟩

theorem mem_flatten_iff {t : Tree} (h : t.Distinct) {key s : String} :
    (key, s) ∈ flatten t ↔
      ∃ steps, Leaf t steps s ∧ pathText steps = key ∧ ∀ steps' s', Leaf t steps' s' →
        pathText steps' = key → steps' = steps ∨ Precedes steps' steps := by
  have hleaf : ∀ {steps s}, (steps, s) ∈ leaves t.sorted ↔ Leaf t steps s := mem_leaves_sorted_iff
  have horder := leaves_pairwise h
  rw [← lookup_eq_some_iff_mem (nodup_keys_flatten t), flatten_eq, lookup_putEach_eq_some_iff]
  constructor
  · rintro ⟨front, back, hsplit, hback⟩
    obtain ⟨front', rest, hleaves, rfl, hrest⟩ := List.map_eq_append_iff.mp hsplit
    obtain ⟨⟨steps, u⟩, back', rfl, heq, rfl⟩ := List.map_eq_cons_iff.mp hrest
    cases heq
    rw [hleaves] at hleaf horder
    refine ⟨steps, hleaf.mp (by simp), rfl, fun steps' s' h' hkey => ?_⟩
    -- a leaf behind the last one would have another path
    rcases List.mem_append.mp (hleaf.mpr h') with hmem | hmem
    · exact .inr ((List.pairwise_append.mp horder).2.2 _ hmem _ List.mem_cons_self)
    · rcases List.mem_cons.mp hmem with heq | hmem
      · exact .inl (congrArg Prod.fst heq)
      · exact absurd hkey (hback _ (List.mem_map_of_mem hmem))
  · rintro ⟨steps, hsteps, rfl, hlast⟩
    obtain ⟨front, back, hsplit⟩ := List.append_of_mem (hleaf.mpr hsteps)
    rw [hsplit] at horder hleaf
    refine ⟨_, _, by rw [hsplit, List.map_append, List.map_cons], fun p hp hkey => ?_⟩
    obtain ⟨l, hl, rfl⟩ := List.mem_map.mp hp
    have hlater : Precedes steps l.1 :=
      (List.pairwise_cons.mp (List.pairwise_append.mp horder).2.1).1 l hl
    rcases hlast l.1 l.2 (hleaf.mp (by simp [hl])) hkey with heq | hearlier
    · rw [heq] at hlater
      exact hlater.asymm hlater
    · exact hlater.asymm hearlier

theorem Leaf.steps_eq {t : Tree} (ht : t.Plain) {steps steps' : List Step} {s s' : String}
    (h : Leaf t steps s) (h' : Leaf t steps' s') (heq : pathText steps = pathText steps') :
    steps = steps' :=
  pathText_injective (h.plain ht) (h'.plain ht) heq

end Postroom.Document
