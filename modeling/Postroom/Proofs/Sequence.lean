namespace Postroom

variable {β γ ε : Type} {f : β → Except ε γ}

theorem exists_ok_of_not_error {r : Except ε γ} (h : ¬∃ e, r = .error e) : ∃ y, r = .ok y := by
  cases r with
  | ok y => exact ⟨y, rfl⟩
  | error e => exact absurd ⟨e, rfl⟩ h

theorem exists_of_map_ok {δ : Type} {r : Except ε γ} {k : γ → δ} {z : δ} (h : r.map k = .ok z) :
    ∃ y, r = .ok y ∧ k y = z := by
  cases r with
  | ok y => exact ⟨y, rfl, Except.ok.inj h⟩
  | error e => cases h

theorem mapM_cons_ok {x : β} {xs : List β} {y : γ} (h : f x = .ok y) :
    (x :: xs).mapM f = (xs.mapM f).map (y :: ·) := by
  rw [List.mapM_cons, h]
  cases xs.mapM f <;> simp [bind, Except.bind, pure, Except.pure, Except.map]

theorem mapM_cons_error {x : β} {xs : List β} {e : ε} (h : f x = .error e) :
    (x :: xs).mapM f = .error e := by
  rw [List.mapM_cons, h]
  rfl

theorem eq_cons_of_mapM_ok {x : β} {xs : List β} {ys : List γ} (h : (x :: xs).mapM f = .ok ys) :
    ∃ y zs, f x = .ok y ∧ xs.mapM f = .ok zs ∧ ys = y :: zs := by
  cases hx : f x with
  | error e =>
    rw [mapM_cons_error hx] at h
    cases h
  | ok y =>
    rw [mapM_cons_ok hx] at h
    obtain ⟨zs, hzs, hys⟩ := exists_of_map_ok h
    exact ⟨y, zs, rfl, hzs, hys.symm⟩

theorem mem_ok_of_mapM_ok {xs : List β} {ys : List γ} (h : xs.mapM f = .ok ys) :
    ∀ x ∈ xs, ∃ y, f x = .ok y := by
  induction xs generalizing ys with
  | nil => exact fun x hx => absurd hx List.not_mem_nil
  | cons x xs ih =>
    obtain ⟨y, zs, hx, hxs, rfl⟩ := eq_cons_of_mapM_ok h
    intro z hz
    obtain rfl | hz := List.mem_cons.mp hz
    · exact ⟨y, hx⟩
    · exact ih hxs z hz

theorem exists_of_mem_mapM_ok {xs : List β} {ys : List γ} (h : xs.mapM f = .ok ys) :
    ∀ y ∈ ys, ∃ x ∈ xs, f x = .ok y := by
  induction xs generalizing ys with
  | nil =>
    cases h
    exact fun y hy => absurd hy List.not_mem_nil
  | cons x xs ih =>
    obtain ⟨y, zs, hx, hxs, rfl⟩ := eq_cons_of_mapM_ok h
    intro z hz
    obtain rfl | hz := List.mem_cons.mp hz
    · exact ⟨x, List.mem_cons_self, hx⟩
    · obtain ⟨x', hx', hz'⟩ := ih hxs z hz
      exact ⟨x', List.mem_cons_of_mem x hx', hz'⟩

theorem map_of_mapM_ok {δ : Type} {k : γ → δ} {g : β → δ} {xs : List β} {ys : List γ}
    (h : xs.mapM f = .ok ys) (hkg : ∀ x ∈ xs, ∀ y, f x = .ok y → k y = g x) :
    ys.map k = xs.map g := by
  induction xs generalizing ys with
  | nil =>
    cases h
    rfl
  | cons x xs ih =>
    obtain ⟨y, zs, hx, hxs, rfl⟩ := eq_cons_of_mapM_ok h
    rw [List.map_cons, List.map_cons, hkg x List.mem_cons_self y hx,
      ih hxs fun z hz => hkg z (List.mem_cons_of_mem x hz)]

theorem exists_iff_of_mapM_ok {P : γ → Prop} {Q : β → Prop} {xs : List β} {ys : List γ}
    (h : xs.mapM f = .ok ys) (hPQ : ∀ x ∈ xs, ∀ y, f x = .ok y → (P y ↔ Q x)) :
    (∃ y ∈ ys, P y) ↔ ∃ x ∈ xs, Q x := by
  induction xs generalizing ys with
  | nil =>
    cases h
    simp
  | cons x xs ih =>
    obtain ⟨y, zs, hx, hxs, rfl⟩ := eq_cons_of_mapM_ok h
    have hhead := hPQ x List.mem_cons_self y hx
    have htail := ih hxs fun z hz => hPQ z (List.mem_cons_of_mem x hz)
    simp only [List.mem_cons, exists_eq_or_imp, hhead, htail]

theorem forall_iff_of_mapM_ok {P : γ → Prop} {Q : β → Prop} {xs : List β} {ys : List γ}
    (h : xs.mapM f = .ok ys) (hPQ : ∀ x ∈ xs, ∀ y, f x = .ok y → (P y ↔ Q x)) :
    (∀ y ∈ ys, P y) ↔ ∀ x ∈ xs, Q x := by
  induction xs generalizing ys with
  | nil =>
    cases h
    simp
  | cons x xs ih =>
    obtain ⟨y, zs, hx, hxs, rfl⟩ := eq_cons_of_mapM_ok h
    have hhead := hPQ x List.mem_cons_self y hx
    have htail := ih hxs fun z hz => hPQ z (List.mem_cons_of_mem x hz)
    simp only [List.mem_cons, forall_eq_or_imp, hhead, htail]

theorem split_of_mapM_error {xs : List β} {e : ε} (h : xs.mapM f = .error e) :
    ∃ front x back, xs = front ++ x :: back ∧ (∃ ys, front.mapM f = .ok ys) ∧ f x = .error e := by
  induction xs with
  | nil => cases h
  | cons x xs ih =>
    cases hx : f x with
    | error e' =>
      rw [mapM_cons_error hx] at h
      cases h
      exact ⟨[], x, xs, rfl, ⟨[], rfl⟩, hx⟩
    | ok y =>
      rw [mapM_cons_ok hx] at h
      cases hxs : xs.mapM f with
      | ok zs =>
        rw [hxs] at h
        cases h
      | error e' =>
        rw [hxs] at h
        cases h
        obtain ⟨front, z, back, rfl, ⟨ys, hys⟩, hz⟩ := ih hxs
        exact ⟨x :: front, z, back, rfl, ⟨y :: ys, by rw [mapM_cons_ok hx, hys]; rfl⟩, hz⟩

theorem mapM_eq_error_iff {xs : List β} {e : ε} :
    xs.mapM f = .error e ↔ ∃ front x back, xs = front ++ x :: back ∧
      (∀ y ∈ front, ¬∃ e', f y = .error e') ∧ f x = .error e := by
  constructor
  · intro h
    obtain ⟨front, x, back, hsplit, ⟨ys, hys⟩, hx⟩ := split_of_mapM_error h
    refine ⟨front, x, back, hsplit, ?_, hx⟩
    rintro y hy ⟨e', he'⟩
    obtain ⟨z, hz⟩ := mem_ok_of_mapM_ok hys y hy
    rw [he'] at hz
    cases hz
  · rintro ⟨front, x, back, rfl, hfront, hx⟩
    induction front with
    | nil => exact mapM_cons_error hx
    | cons y front ih =>
      obtain ⟨z, hz⟩ := exists_ok_of_not_error (hfront y List.mem_cons_self)
      rw [List.cons_append, mapM_cons_ok hz, ih fun y' hy' => hfront y' (List.mem_cons_of_mem y hy')]
      rfl

theorem mapM_error_iff {xs : List β} :
    (∃ e, xs.mapM f = .error e) ↔ ∃ x ∈ xs, ∃ e, f x = .error e := by
  constructor
  · rintro ⟨e, h⟩
    obtain ⟨front, x, back, rfl, -, hx⟩ := split_of_mapM_error h
    exact ⟨x, by simp, e, hx⟩
  · rintro ⟨x, hx, e, he⟩
    cases h : xs.mapM f with
    | error e' => exact ⟨e', rfl⟩
    | ok ys =>
      obtain ⟨y, hy⟩ := mem_ok_of_mapM_ok h x hx
      rw [he] at hy
      cases hy

section

variable {p : β → Bool}

/-- The members up to the first that is as wanted, with it. -/
def through (p : β → Bool) : List β → List β
  | [] => []
  | x :: xs => x :: if p x then [] else through p xs

theorem through_sublist (xs : List β) : (through p xs).Sublist xs := by
  induction xs with
  | nil => exact .slnil
  | cons x xs ih =>
    rw [through]
    split
    · exact (List.nil_sublist xs).cons_cons x
    · exact ih.cons_cons x

theorem through_append (xs ys : List β) :
    through p (xs ++ ys) = through p xs ++ if xs.any p then [] else through p ys := by
  induction xs with
  | nil => rfl
  | cons x xs ih => cases h : p x <;> simp [through, h, ih]

theorem through_of_none {xs : List β} (h : ∀ x ∈ xs, p x = false) : through p xs = xs := by
  induction xs with
  | nil => rfl
  | cons x xs ih =>
    have hx := h x List.mem_cons_self
    have hxs := ih fun y hy => h y (List.mem_cons_of_mem x hy)
    simp [through, hx, hxs]

theorem exists_first {Q : β → Prop} {xs : List β} (h : ∃ x ∈ xs, Q x) :
    ∃ front x back, xs = front ++ x :: back ∧ (∀ y ∈ front, ¬Q y) ∧ Q x := by
  induction xs with
  | nil => simp at h
  | cons x xs ih =>
    by_cases hx : Q x
    · exact ⟨[], x, xs, rfl, by simp, hx⟩
    · obtain ⟨front, y, back, rfl, hfront, hy⟩ := ih (by simpa [hx] using h)
      exact ⟨x :: front, y, back, rfl, List.forall_mem_cons.mpr ⟨hx, hfront⟩, hy⟩

theorem find?_eq_some_iff_first {Q : β → Prop} {xs : List β} (h : ∀ x ∈ xs, p x = true ↔ Q x)
    {x : β} :
    xs.find? p = some x ↔ ∃ front back, xs = front ++ x :: back ∧ Q x ∧ ∀ y ∈ front, ¬Q y := by
  rw [List.find?_eq_some_iff_append]
  constructor
  · rintro ⟨hx, front, back, rfl, hfront⟩
    refine ⟨front, back, rfl, (h x (by simp)).mp hx, fun y hy hq => ?_⟩
    have hy' := (h y (List.mem_append_left _ hy)).mpr hq
    simpa [hy'] using hfront y hy
  · rintro ⟨front, back, rfl, hx, hfront⟩
    refine ⟨(h x (by simp)).mpr hx, front, back, rfl, fun y hy => ?_⟩
    have hy' := mt (h y (List.mem_append_left _ hy)).mp (hfront y hy)
    simpa using hy'

theorem find?_reverse_eq_some_iff {xs : List β} {x : β} :
    xs.reverse.find? p = some x ↔
      p x = true ∧ ∃ front back, xs = front ++ x :: back ∧ ∀ y ∈ back, p y = false := by
  rw [List.find?_eq_some_iff_append]
  refine and_congr_right fun _ => ⟨?_, ?_⟩
  · rintro ⟨back, front, hsplit, hback⟩
    refine ⟨front.reverse, back.reverse, ?_, fun y hy => ?_⟩
    · rw [← List.reverse_reverse xs, hsplit]
      simp
    · simpa using hback y (List.mem_reverse.mp hy)
  · rintro ⟨front, back, rfl, hback⟩
    refine ⟨back.reverse, front.reverse, by simp, fun y hy => ?_⟩
    simpa using hback y (List.mem_reverse.mp hy)

end

section

variable {p : β → Bool} {xs ys : List β}

theorem takeWhile_append_stop (hxs : ∀ x ∈ xs, p x = true) (hys : ys.head?.any p = false) :
    (xs ++ ys).takeWhile p = xs := by
  rw [List.takeWhile_append_of_pos hxs]
  cases ys <;> simp_all

theorem dropWhile_append_stop (hxs : ∀ x ∈ xs, p x = true) (hys : ys.head?.any p = false) :
    (xs ++ ys).dropWhile p = ys := by
  rw [List.dropWhile_append_of_pos hxs]
  cases ys <;> simp_all

theorem length_dropWhile_le (xs : List β) : (xs.dropWhile p).length ≤ xs.length :=
  (List.dropWhile_suffix p).length_le

end

/-- A reading that goes on with a shorter list after every step gives the same for all bounds that
are not below the length. -/
theorem read_eq_of_length_le {read : Nat → List β → γ} (hnil : ∀ m n, read m [] = read n [])
    (hcons : ∀ x xs, ∃ (rest : List β) (step : γ → γ), rest.length ≤ xs.length ∧
      ∀ n, read (n + 1) (x :: xs) = step (read n rest)) {m n : Nat} {xs : List β}
    (hm : xs.length ≤ m) (hn : xs.length ≤ n) : read m xs = read n xs := by
  induction m generalizing n xs with
  | zero =>
    obtain rfl := List.length_eq_zero_iff.mp (Nat.le_zero.mp hm)
    exact hnil 0 n
  | succ m ih =>
    cases xs with
    | nil => exact hnil (m + 1) n
    | cons x xs =>
      cases n with
      | zero => exact absurd hn (Nat.not_succ_le_zero xs.length)
      | succ n =>
        obtain ⟨rest, step, hrest, hstep⟩ := hcons x xs
        have hread : read m rest = read n rest :=
          ih (Nat.le_trans hrest (Nat.le_of_succ_le_succ hm))
            (Nat.le_trans hrest (Nat.le_of_succ_le_succ hn))
        rw [hstep, hstep, hread]

section

variable {f : β → Except ε String}

theorem join_mapM_append (xs ys : List β) :
    ((xs ++ ys).mapM f).map String.join = ((xs.mapM f).map String.join).bind fun s =>
      ((ys.mapM f).map String.join).map (s ++ ·) := by
  rw [List.mapM_append]
  cases xs.mapM f with
  | error e => rfl
  | ok ss =>
    cases ys.mapM f with
    | error e => rfl
    | ok ts => exact congrArg Except.ok String.join_append

theorem join_mapM_cons (x : β) (xs : List β) :
    ((x :: xs).mapM f).map String.join = (f x).bind fun s =>
      ((xs.mapM f).map String.join).map (s ++ ·) := by
  rw [List.mapM_cons]
  cases f x with
  | error e => rfl
  | ok s =>
    cases xs.mapM f with
    | error e => rfl
    | ok ts => exact congrArg Except.ok String.join_cons

theorem join_mapM_flatMap {α : Type} {parts : α → List β} {v : α → Except ε String} {xs : List α}
    (h : ∀ x ∈ xs, ((parts x).mapM f).map String.join = v x) :
    ((xs.flatMap parts).mapM f).map String.join = (xs.mapM v).map String.join := by
  induction xs with
  | nil => rfl
  | cons x xs ih =>
    rw [List.flatMap_cons, join_mapM_append, join_mapM_cons, h x List.mem_cons_self,
      ih fun y hy => h y (List.mem_cons_of_mem x hy)]

end

end Postroom
