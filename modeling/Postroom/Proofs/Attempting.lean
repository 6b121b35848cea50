import Postroom.Translator

namespace Postroom

namespace Attempting

variable {σ β γ : Type}

theorem bind_eq (x : Attempting σ β) (f : β → Attempting σ γ) (world : σ) (s : Session Check) :
    (x >>= f) world s =
      match x world s with
      | ((.ok b, world'), s') => f b world' s'
      | ((.error e, world'), s') => ((.error e, world'), s') := by
  have h : (x >>= f) world s =
      ExceptT.bindCont f (x world s).1.1 (x world s).1.2 (x world s).2 := rfl
  rw [h]
  obtain ⟨⟨r, world'⟩, s'⟩ := x world s
  cases r <;> rfl

/-- Where the first computation fails, the second fails in the same way; otherwise both end in the
same state, and their results go together. -/
def Follows {δ : Type} (together : β → δ → Prop) (x : Attempting σ β) (y : Attempting σ δ) : Prop :=
  ∀ world s,
    match x world s with
    | ((.ok b, world'), s') => ∃ d, together b d ∧ y world s = ((.ok d, world'), s')
    | ((.error e, world'), s') => y world s = ((.error e, world'), s')

theorem Follows.pure {δ : Type} {together : β → δ → Prop} {b : β} {d : δ} (h : together b d) :
    Follows together (pure b : Attempting σ β) (pure d) :=
  fun _ _ => ⟨d, h, rfl⟩

theorem Follows.bind {β' γ' : Type} {first : β → β' → Prop} {together : γ → γ' → Prop}
    {x : Attempting σ β} {x' : Attempting σ β'} {f : β → Attempting σ γ} {f' : β' → Attempting σ γ'}
    (hx : Follows first x x') (hf : ∀ b b', first b b' → Follows together (f b) (f' b')) :
    Follows together (x >>= f) (x' >>= f') := by
  intro world s
  have hxs := hx world s
  rw [bind_eq, bind_eq]
  rcases hres : x world s with ⟨⟨e | b, world'⟩, s'⟩
  · rw [hres] at hxs
    rw [hxs]
  · rw [hres] at hxs
    obtain ⟨b', hb, hx'⟩ := hxs
    rw [hx']
    exact hf b b' hb world' s'

def Keeps (view : σ → γ) (x : Attempting σ β) : Prop :=
  ∀ world s, view (x world s).1.2 = view world

theorem Keeps.pure {view : σ → γ} (b : β) : Keeps view (pure b : Attempting σ β) :=
  fun _ _ => rfl

theorem Keeps.bind {δ : Type} {view : σ → γ} {x : Attempting σ β} {f : β → Attempting σ δ}
    (hx : Keeps view x) (hf : ∀ b, Keeps view (f b)) : Keeps view (x >>= f) := by
  intro world s
  have hxs := hx world s
  rw [bind_eq]
  rcases hres : x world s with ⟨⟨e | b, world'⟩, s'⟩
  · rw [hres] at hxs
    exact hxs
  · rw [hres] at hxs
    exact (hf b world' s').trans hxs

theorem Keeps.mapM {δ : Type} {view : σ → γ} {f : β → Attempting σ δ} (hf : ∀ b, Keeps view (f b))
    (xs : List β) : Keeps view (xs.mapM f) := by
  induction xs with
  | nil => exact .pure []
  | cons x xs ih =>
    rw [List.mapM_cons]
    exact (hf x).bind fun y => ih.bind fun ys => .pure (y :: ys)

theorem split_of_mapM_error {f : β → Attempting σ γ} {xs : List β} {e : MessagingError}
    {world world' : σ} {s s' : Session Check}
    (h : xs.mapM f world s = ((.error e, world'), s')) :
    ∃ front x back ys world₁ s₁, xs = front ++ x :: back ∧
      front.mapM f world s = ((.ok ys, world₁), s₁) ∧
      f x world₁ s₁ = ((.error e, world'), s') := by
  induction xs generalizing world s with
  | nil => cases h
  | cons x xs ih =>
    rw [List.mapM_cons, bind_eq] at h
    rcases hx : f x world s with ⟨⟨e₁ | y, world₁⟩, s₁⟩
    · rw [hx] at h
      cases h
      exact ⟨[], x, xs, [], world, s, rfl, rfl, hx⟩
    · rw [hx] at h
      simp only [bind_eq] at h
      rcases hxs : xs.mapM f world₁ s₁ with ⟨⟨e₂ | ys, world₂⟩, s₂⟩
      · rw [hxs] at h
        cases h
        obtain ⟨front, z, back, ys, world₃, s₃, rfl, hfront, hz⟩ := ih hxs
        refine ⟨x :: front, z, back, y :: ys, world₃, s₃, rfl, ?_, hz⟩
        simp only [List.mapM_cons, bind_eq, hx, hfront]
        rfl
      · rw [hxs] at h
        cases h

theorem mapM_of_split {f : β → Attempting σ γ} {front : List β} {x : β} {ys : List γ}
    {e : MessagingError} {world world₁ world' : σ} {s s₁ s' : Session Check}
    (hfront : front.mapM f world s = ((.ok ys, world₁), s₁))
    (hx : f x world₁ s₁ = ((.error e, world'), s')) (back : List β) :
    (front ++ x :: back).mapM f world s = ((.error e, world'), s') := by
  rw [List.mapM_append, bind_eq, hfront]
  dsimp only
  rw [List.mapM_cons, bind_eq, bind_eq, hx]

theorem mapM_eq_pure {f : β → Attempting σ β} {xs : List β} (h : ∀ x ∈ xs, f x = Pure.pure x) :
    xs.mapM f = Pure.pure xs := by
  induction xs with
  | nil => rfl
  | cons x xs ih =>
    rw [List.mapM_cons, h x List.mem_cons_self, ih fun y hy => h y (List.mem_cons_of_mem x hy)]
    rfl

inductive InTurn (f : β → Attempting σ γ) :
    List β → σ → Session Check → List γ → σ → Session Check → Prop
  | nil (world : σ) (s : Session Check) : InTurn f [] world s [] world s
  | cons {x : β} {xs : List β} {y : γ} {ys : List γ} {world world₁ world' : σ}
    {s s₁ s' : Session Check} (head : f x world s = ((.ok y, world₁), s₁))
    (tail : InTurn f xs world₁ s₁ ys world' s') : InTurn f (x :: xs) world s (y :: ys) world' s'

section

variable {f : β → Attempting σ γ} {xs : List β} {world world' : σ} {s s' : Session Check}

theorem mapM_ok_iff {ys : List γ} :
    xs.mapM f world s = ((.ok ys, world'), s') ↔ InTurn f xs world s ys world' s' := by
  induction xs generalizing world s ys with
  | nil =>
    constructor
    · intro h
      cases h
      exact .nil _ _
    · intro h
      cases h
      rfl
  | cons x xs ih =>
    rw [List.mapM_cons, bind_eq]
    constructor
    · intro h
      rcases hx : f x world s with ⟨⟨e | y, world₁⟩, s₁⟩
      · rw [hx] at h
        cases h
      · rw [hx] at h
        simp only [bind_eq] at h
        rcases hxs : xs.mapM f world₁ s₁ with ⟨⟨e | zs, world₂⟩, s₂⟩
        · rw [hxs] at h
          cases h
        · rw [hxs] at h
          cases h
          exact .cons hx (ih.mp hxs)
    · intro h
      cases h with
      | cons head tail =>
        rw [head]
        simp only [bind_eq, ih.mpr tail]
        rfl

theorem mapM_error_iff {e : MessagingError} :
    xs.mapM f world s = ((.error e, world'), s') ↔
      ∃ front x back ys world₁ s₁, xs = front ++ x :: back ∧
        InTurn f front world s ys world₁ s₁ ∧ f x world₁ s₁ = ((.error e, world'), s') := by
  constructor
  · intro h
    obtain ⟨front, x, back, ys, world₁, s₁, hsplit, hfront, hx⟩ := split_of_mapM_error h
    exact ⟨front, x, back, ys, world₁, s₁, hsplit, mapM_ok_iff.mp hfront, hx⟩
  · rintro ⟨front, x, back, ys, world₁, s₁, rfl, hfront, hx⟩
    exact mapM_of_split (mapM_ok_iff.mpr hfront) hx back

end

theorem foldlM_error_iff {f : γ → β → Attempting σ γ} {xs : List β} {c : γ} {e : MessagingError}
    {world world' : σ} {s s' : Session Check} :
    xs.foldlM f c world s = ((.error e, world'), s') ↔
      ∃ front x back d world₁ s₁, xs = front ++ x :: back ∧
        front.foldlM f c world s = ((.ok d, world₁), s₁) ∧
        f d x world₁ s₁ = ((.error e, world'), s') := by
  constructor
  · induction xs generalizing c world s with
    | nil =>
      intro h
      cases h
    | cons x xs ih =>
      intro h
      rw [List.foldlM_cons, bind_eq] at h
      rcases hx : f c x world s with ⟨⟨e₁ | d, world₁⟩, s₁⟩
      · rw [hx] at h
        cases h
        exact ⟨[], x, xs, c, world, s, rfl, rfl, hx⟩
      · rw [hx] at h
        obtain ⟨front, z, back, d', world₂, s₂, rfl, hfront, hz⟩ := ih h
        refine ⟨x :: front, z, back, d', world₂, s₂, rfl, ?_, hz⟩
        rw [List.foldlM_cons, bind_eq, hx]
        exact hfront
  · rintro ⟨front, x, back, d, world₁, s₁, rfl, hfront, hx⟩
    rw [List.foldlM_append, bind_eq, hfront]
    dsimp only
    rw [List.foldlM_cons, bind_eq, hx]

end Attempting

end Postroom
