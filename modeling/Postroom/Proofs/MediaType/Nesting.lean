import Postroom.Proofs.MediaType.Asking

namespace Postroom

def MediaTypeProvider.Plain {σ : Type} (p : MediaTypeProvider σ) : Prop :=
  ∀ i s e s', (p.detect i).run s = (.error e, s') → ∃ provider input, e = .undetected provider input

namespace MediaTypeProvider

theorem error_of_answer {σ : Type} {name : String} {i : MediaInput} {m : Option MediaType}
    {e : MediaTypeError} {s s' : σ} (h : (answer name i m).run s = (.error e, s')) :
    e = .undetected name i.text := by
  cases m with
  | some m => cases h
  | none =>
    cases h
    rfl

theorem plain_magic {σ : Type} (files : Files) : (magic files : MediaTypeProvider σ).Plain := by
  intro i s e s' h
  cases i with
  | bytes content => exact ⟨_, _, error_of_answer h⟩
  | fileName f =>
    simp only [magic] at h
    split at h <;> exact ⟨_, _, error_of_answer h⟩

theorem plain_ofExtensions {σ : Type} (t : ExtensionTable) :
    (ofExtensions t : MediaTypeProvider σ).Plain := by
  intro i s e s' h
  simp only [ofExtensions] at h
  cases i <;> exact ⟨_, _, error_of_answer h⟩

end MediaTypeProvider

theorem MediaTypeError.isDeclined_refusal {e : MediaTypeError} :
    e.refusal.isDeclined = true ↔ ∃ provider input, e = .undetected provider input := by
  cases e <;> simp [refusal, Refusal.isDeclined]

/-- A provider that is made of others by fallbacks. -/
inductive ProviderTree (σ : Type)
  | leaf (p : MediaTypeProvider σ)
  | fallback (ts : List (ProviderTree σ))

namespace ProviderTree

open MediaTypeProvider

variable {σ τ : Type} {i : MediaInput}

@[induction_eliminator]
theorem induct {motive : ProviderTree σ → Prop} (leaf : ∀ p, motive (leaf p))
    (fallback : ∀ ts, (∀ t ∈ ts, motive t) → motive (fallback ts)) (t : ProviderTree σ) :
    motive t := by
  apply ProviderTree.rec (motive_1 := motive) (motive_2 := fun ts => ∀ t ∈ ts, motive t)
  case nil => exact fun t h => absurd h List.not_mem_nil
  case cons =>
    intro t ts ht hts u hu
    obtain rfl | hu := List.mem_cons.mp hu
    · exact ht
    · exact hts u hu
  all_goals assumption

mutual

def provider : ProviderTree σ → MediaTypeProvider σ
  | leaf p => p
  | fallback ts => .fallback (providers ts)

def providers : List (ProviderTree σ) → List (MediaTypeProvider σ)
  | [] => []
  | t :: ts => provider t :: providers ts

end

mutual

def leaves : ProviderTree σ → List (MediaTypeProvider σ)
  | leaf p => [p]
  | fallback ts => leavesOf ts

def leavesOf : List (ProviderTree σ) → List (MediaTypeProvider σ)
  | [] => []
  | t :: ts => leaves t ++ leavesOf ts

end

mutual

def mapLeaves (f : MediaTypeProvider σ → MediaTypeProvider τ) : ProviderTree σ → ProviderTree τ
  | leaf p => leaf (f p)
  | fallback ts => fallback (mapLeavesOf f ts)

def mapLeavesOf (f : MediaTypeProvider σ → MediaTypeProvider τ) :
    List (ProviderTree σ) → List (ProviderTree τ)
  | [] => []
  | t :: ts => mapLeaves f t :: mapLeavesOf f ts

end

theorem providers_eq (ts : List (ProviderTree σ)) : providers ts = ts.map provider := by
  induction ts with
  | nil => rfl
  | cons t ts ih => rw [providers, ih, List.map_cons]

theorem leavesOf_eq (ts : List (ProviderTree σ)) : leavesOf ts = ts.flatMap leaves := by
  induction ts with
  | nil => rfl
  | cons t ts ih => rw [leavesOf, ih, List.flatMap_cons]

theorem mapLeavesOf_eq (f : MediaTypeProvider σ → MediaTypeProvider τ)
    (ts : List (ProviderTree σ)) : mapLeavesOf f ts = ts.map (mapLeaves f) := by
  induction ts with
  | nil => rfl
  | cons t ts ih => rw [mapLeavesOf, ih, List.map_cons]

theorem provider_fallback (ts : List (ProviderTree σ)) :
    (fallback ts).provider = .fallback (ts.map provider) := by
  rw [provider, providers_eq]

theorem leaves_fallback (ts : List (ProviderTree σ)) :
    (fallback ts).leaves = ts.flatMap leaves := leavesOf_eq ts

theorem provider_mapLeaves_fallback (f : MediaTypeProvider σ → MediaTypeProvider τ)
    (ts : List (ProviderTree σ)) : ((fallback ts).mapLeaves f).provider =
      .fallback (ts.map fun t => (t.mapLeaves f).provider) := by
  rw [mapLeaves, mapLeavesOf_eq, provider_fallback, List.map_map]
  rfl

theorem leaves_mapLeaves (f : MediaTypeProvider σ → MediaTypeProvider τ) (t : ProviderTree σ) :
    (t.mapLeaves f).leaves = t.leaves.map f := by
  induction t with
  | leaf p => rfl
  | fallback ts ih =>
    rw [mapLeaves, mapLeavesOf_eq, leaves_fallback, leaves_fallback, List.map_flatMap,
      List.flatMap_map]
    exact List.flatMap_congr ih

/-- A tree does what its leaves do one after the other. -/
structure AsksLeaves (t : ProviderTree σ) : Prop where
  failing : ∀ {i errors s s'}, Failing i t.leaves s errors s' →
    ∃ e, (t.provider.detect i).run s = (.error e, s')
  tells : ∀ {i m s s'}, Tells i t.leaves s m s' → (t.provider.detect i).run s = (.ok m, s')

theorem asksLeaves_leaf (p : MediaTypeProvider σ) : (leaf p).AsksLeaves where
  failing h := by
    cases h with
    | cons head tail =>
      cases tail
      exact ⟨_, head⟩
  tells h := by
    cases h with
    | head _ told => exact told
    | tail _ rest => cases rest

theorem failing_children {ts : List (ProviderTree σ)} (ih : ∀ t ∈ ts, t.AsksLeaves)
    {errors : List MediaTypeError} {s s' : σ} (h : Failing i (ts.flatMap leaves) s errors s') :
    ∃ errors', Failing i (ts.map provider) s errors' s' := by
  induction ts generalizing s errors with
  | nil =>
    cases h
    exact ⟨[], .nil _⟩
  | cons t ts ihts =>
    obtain ⟨errors₁, errors₂, s₁, -, ht, hts⟩ := h.split
    obtain ⟨e, he⟩ := (ih t List.mem_cons_self).failing ht
    obtain ⟨errors', herrors'⟩ := ihts (fun u hu => ih u (List.mem_cons_of_mem t hu)) hts
    exact ⟨e :: errors', .cons he herrors'⟩

theorem tells_children {ts : List (ProviderTree σ)} (ih : ∀ t ∈ ts, t.AsksLeaves) {m : MediaType}
    {s s' : σ} (h : Tells i (ts.flatMap leaves) s m s') : Tells i (ts.map provider) s m s' := by
  induction ts generalizing s with
  | nil => cases h
  | cons t ts ihts =>
    -- the leaf that tells is one of the first child, or all of those failed before it
    obtain ht | ⟨errors, s₁, ht, hts⟩ := h.split
    · exact .head _ ((ih t List.mem_cons_self).tells ht)
    · obtain ⟨e, he⟩ := (ih t List.mem_cons_self).failing ht
      exact .tail he (ihts (fun u hu => ih u (List.mem_cons_of_mem t hu)) hts)

theorem asksLeaves (t : ProviderTree σ) : t.AsksLeaves := by
  induction t with
  | leaf p => exact asksLeaves_leaf p
  | fallback ts ih =>
    refine ⟨fun h => ?_, fun h => ?_⟩
    · rw [leaves_fallback] at h
      obtain ⟨errors', herrors'⟩ := failing_children ih h
      rw [provider_fallback]
      exact ⟨_, fallback_of_failing herrors'⟩
    · rw [leaves_fallback] at h
      rw [provider_fallback]
      exact fallback_of_tells (tells_children ih h)

theorem reflects_mapLeaves {view : τ → σ} {f : MediaTypeProvider σ → MediaTypeProvider τ}
    (h : ∀ p, Reflects view p (f p)) (t : ProviderTree σ) :
    Reflects view t.provider (t.mapLeaves f).provider := by
  induction t with
  | leaf p => exact h p
  | fallback ts ih =>
    rw [provider_fallback, provider_mapLeaves_fallback]
    refine reflects_fallback ?_
    rw [List.forall₂_map_left_iff, List.forall₂_map_right_iff, List.forall₂_same]
    exact ih

theorem refusal_of_error {t : ProviderTree σ} (h : ∀ p ∈ t.leaves, p.Plain) {e : MediaTypeError}
    {s s' : σ} (he : (t.provider.detect i).run s = (.error e, s')) :
    (e.refusal.isDeclined = false ↔
      ∃ us attempts, t = fallback us ∧ e = .noProvider ⟨fallbackName, attempts⟩) := by
  cases t with
  | leaf p =>
    have hdeclined : e.refusal.isDeclined = true :=
      MediaTypeError.isDeclined_refusal.mpr (h p (List.mem_singleton.mpr rfl) i s e s' he)
    simp [hdeclined]
  | fallback us =>
    rw [provider_fallback] at he
    obtain ⟨attempts, rfl⟩ := error_of_fallback he
    exact iff_of_true rfl ⟨us, attempts, rfl, rfl⟩

/-- One attempt for each direct child, with the error of the child: it declined if it could not
tell, and it failed if it is a fallback whose own providers are exhausted. -/
structure ReportsChildren (ts : List (ProviderTree σ)) (errors : List MediaTypeError)
    (attempts : List Attempt) : Prop where
  length : attempts.length = ts.length
  child : ∀ (n : Nat) (u : ProviderTree σ), ts[n]? = some u →
    ∃ e, errors[n]? = some e ∧ attempts[n]? = some ⟨n, u.provider.name, e.refusal⟩ ∧
      (e.refusal.isDeclined = true ↔ ∃ provider input, e = .undetected provider input) ∧
      (e.refusal.isDeclined = false ↔
        ∃ us attempts, u = fallback us ∧ e = .noProvider ⟨fallbackName, attempts⟩)

theorem reportsChildren {ts : List (ProviderTree σ)} (h : ∀ p ∈ (fallback ts).leaves, p.Plain)
    {errors : List MediaTypeError} {s s' : σ}
    (hchildren : Failing i (ts.map provider) s errors s') :
    ReportsChildren ts errors (report (ts.map provider) errors) where
  length := by rw [hchildren.length_report, List.length_map]
  child n u hu := by
    have hprovider : (ts.map provider)[n]? = some u.provider := by simp [hu]
    obtain ⟨e, s₁, s₂, he, -, hrun⟩ := hchildren.getElem? hprovider
    have hleaves : ∀ p ∈ u.leaves, p.Plain := by
      intro p hp
      rw [leaves_fallback] at h
      exact h p (List.mem_flatMap.mpr ⟨u, List.mem_of_getElem? hu, hp⟩)
    exact ⟨e, he, getElem?_report hprovider he, MediaTypeError.isDeclined_refusal,
      refusal_of_error hleaves hrun⟩

theorem failing_recorded {t : ProviderTree σ} {errors : List MediaTypeError} {s s' : σ}
    (h : Failing i t.leaves s errors s') :
    Failing i (t.mapLeaves recorded).leaves (s, []) errors (s', t.leaves) := by
  rw [leaves_mapLeaves]
  exact h.recorded []

theorem tells_recorded {t : ProviderTree σ} {front back : List (MediaTypeProvider σ)}
    {p : MediaTypeProvider σ} {errors : List MediaTypeError} {m : MediaType} {s s' s'' : σ}
    (hleaves : t.leaves = front ++ p :: back) (hfront : Failing i front s errors s')
    (hp : (p.detect i).run s' = (.ok m, s'')) :
    Tells i (t.mapLeaves recorded).leaves (s, []) m (s'', front ++ [p]) := by
  rw [leaves_mapLeaves, hleaves]
  exact hfront.recorded_tells hp back

/-- A tree tells the type that the first of its leaves tells, asked one after the other from left to
right, as the single fallback of all leaves does; neither asks a leaf behind it. If no leaf can
tell, all are asked, and the report is about the direct children. -/
theorem detect_nested (ts : List (ProviderTree σ)) (h : ∀ p ∈ (fallback ts).leaves, p.Plain)
    (i : MediaInput) (s : σ) :
    let t := fallback ts
    let ended := ((t.mapLeaves recorded).provider.detect i).run (s, [])
    let single := ((MediaTypeProvider.fallback (t.leaves.map recorded)).detect i).run (s, [])
    (t.provider.detect i).run s = (ended.1, ended.2.1) ∧
    (∀ m, ended.1 = .ok m ↔ ∃ front p back errors s', t.leaves = front ++ p :: back ∧
      Failing i front s errors s' ∧ (p.detect i).run s' = (.ok m, ended.2.1) ∧
      ended.2.2 = front ++ [p]) ∧
    (single.2 = ended.2 ∧ ∀ m, single.1 = .ok m ↔ ended.1 = .ok m) ∧
    ((∀ m, ended.1 ≠ .ok m) → ended.2.2 = t.leaves ∧
      ∃ errors attempts, ended.1 = .error (.noProvider ⟨fallbackName, attempts⟩) ∧
        Failing i (ts.map provider) s errors ended.2.1 ∧ ReportsChildren ts errors attempts) := by
  intro t ended single
  have hplain : (t.provider.detect i).run s = (ended.1, ended.2.1) :=
    (reflects_mapLeaves reflects_recorded t).run (i := i) (s := (s, [])) rfl
  have hsingle_leaves : single = ((MediaTypeProvider.fallback (t.mapLeaves recorded).leaves).detect
      i).run (s, []) := by
    rw [leaves_mapLeaves]
  have hfirst : ∀ m, (∃ front p back errors s', t.leaves = front ++ p :: back ∧
      Failing i front s errors s' ∧ (p.detect i).run s' = (.ok m, ended.2.1) ∧
      ended.2.2 = front ++ [p]) → ended.1 = .ok m := by
    rintro m ⟨front, p, back, errors, s', hleaves, hfront, hp, -⟩
    have hrecorded := tells_recorded hleaves hfront hp
    exact congrArg Prod.fst ((t.mapLeaves recorded).asksLeaves.tells hrecorded)
  refine ⟨hplain, ?_⟩
  obtain ⟨errors, s', hleaves⟩ | ⟨m, s', hleaves⟩ := failing_or_tells i t.leaves s
  · have hrecorded := failing_recorded hleaves
    obtain ⟨e, hended⟩ : ∃ e, ended = (.error e, s', t.leaves) :=
      (t.mapLeaves recorded).asksLeaves.failing hrecorded
    rw [fallback_of_failing hrecorded] at hsingle_leaves
    obtain ⟨errors', hchildren⟩ :=
      failing_children (fun u _ => u.asksLeaves) (leaves_fallback ts ▸ hleaves)
    have hrun := fallback_of_failing hchildren
    rw [← provider_fallback, hplain] at hrun
    rw [hended] at hfirst hrun ⊢
    cases hrun
    rw [hsingle_leaves]
    exact ⟨fun m => ⟨nofun, hfirst m⟩, ⟨rfl, fun m => iff_of_false nofun nofun⟩,
      fun _ => ⟨rfl, errors', _, rfl, hchildren, reportsChildren h hchildren⟩⟩
  · obtain ⟨front, p, back, errors, s₁, hsplit, hfront, hp⟩ := tells_iff.mp hleaves
    have hrecorded := tells_recorded hsplit hfront hp
    have hended : ended = (.ok m, s', front ++ [p]) :=
      (t.mapLeaves recorded).asksLeaves.tells hrecorded
    rw [fallback_of_tells hrecorded] at hsingle_leaves
    rw [hended] at hfirst ⊢
    rw [hsingle_leaves]
    refine ⟨fun m' => ⟨?_, hfirst m'⟩, ⟨rfl, fun m' => Iff.rfl⟩, fun hnone => absurd rfl (hnone m)⟩
    rintro ⟨⟩
    exact ⟨front, p, back, errors, s₁, hsplit, hfront, hp, rfl⟩

/-- A fallback that holds another one without providers, in front of two more leaves: about bytes
none can tell, and about a file the second leaf can. -/
theorem detect_nested_twice :
    let magic : MediaTypeProvider Unit := .magic {}
    let extension : MediaTypeProvider Unit := .ofExtensions {}
    let ts := [fallback [leaf magic, fallback []], leaf extension, leaf magic]
    let t := (fallback ts).mapLeaves recorded
    let ended (i : MediaInput) := (t.provider.detect i).run ((), [])
    (∀ p ∈ (fallback ts).leaves, p.Plain) ∧
      ((∀ m, (ended (.bytes ⟨#[63]⟩)).1 ≠ .ok m) ∧
        (ended (.bytes ⟨#[63]⟩)).2.2 = [magic, extension, magic] ∧
        ∃ errors attempts, ReportsChildren ts errors attempts ∧
          attempts.map (fun a => (a.candidate, a.cause.isDeclined)) =
            [("mime-type-providers", false), ("extension", true), ("magic-bytes", true)]) ∧
      (ended (.fileName "a.png")).1 = .ok ⟨"image/png"⟩ ∧
      ∃ front p back, (fallback ts).leaves = front ++ p :: back ∧
        (ended (.fileName "a.png")).2.2 = front ++ [p] := by
  intro magic extension ts t ended
  have hplain : ∀ p ∈ (fallback ts).leaves, p.Plain := by
    change ∀ p ∈ [magic, extension, magic], p.Plain
    simp only [List.forall_mem_cons]
    exact ⟨plain_magic {}, plain_ofExtensions {}, plain_magic {}, fun p hp => by cases hp⟩
  obtain ⟨-, -, -, hexhausted⟩ := detect_nested ts hplain (.bytes ⟨#[63]⟩) ()
  obtain ⟨-, hfirst, -, -⟩ := detect_nested ts hplain (.fileName "a.png") ()
  have hnone : ∀ m, (ended (.bytes ⟨#[63]⟩)).1 ≠ .ok m := fun m => nofun
  obtain ⟨hasked, errors, attempts, hanswer, -, hreport⟩ := hexhausted hnone
  obtain ⟨front, p, back, -, -, hsplit, -, -, hfront⟩ := (hfirst ⟨"image/png"⟩).mp rfl
  refine ⟨hplain, ⟨hnone, hasked, errors, attempts, hreport, ?_⟩, rfl, front, p, back, hsplit,
    hfront⟩
  cases hanswer
  rfl

end ProviderTree

end Postroom
