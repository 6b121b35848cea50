import Postroom.Proofs.Pattern.Scanning

namespace Postroom.Pattern

open Text

theorem steady_member? (f : Flags) : Steady (member? f) := by
  have hchar : Steady fun cs => cs.head?.map fun c => (Primitive.char c, cs.tail) :=
    .cons rfl fun c => .done (Primitive.char c)
  refine (Steady.after (w := ['\\']) (by decide) (steady_escape? f) hchar).congr fun cs => ?_
  rw [member?.eq_def]
  split
  · rfl
  · rename_i c cs hcs
    rw [after?_eq_none fun rest h => hcs (List.cons.inj h).1]
    rfl
  · rfl

theorem not_mem_of_namedClass? {name : List Char} {s : CharSet}
    (h : namedClass? (.ofList name) = some s) : ')' ∉ name := by
  intro hmem
  have hname : ')' ∈ (String.ofList name).toList := by simpa using hmem
  generalize String.ofList name = n at h hname
  revert hname
  unfold namedClass? at h
  split at h <;> first | decide | cases h

theorem exact_namedClassBody? : Exact namedClassBody? where
  suffix := by
    intro cs r hr
    obtain ⟨q, hq, hr⟩ := Option.bind_eq_some_iff.mp hr
    obtain ⟨rest, hrest, hr⟩ := Option.bind_eq_some_iff.mp hr
    obtain ⟨s, -, rfl⟩ := Option.map_eq_some_iff.mp hr
    have hsuffix := until?_suffix ':' cs q hq
    rw [eq_append_of_after? hrest] at hsuffix
    exact (List.suffix_append [']'] rest).trans hsuffix
  append := by
    intro cs back
    have hclose := (exact_after? (w := [']']) (by decide)).append
    rw [namedClassBody?, namedClassBody?, until?_append (by decide)]
    cases until? ':' cs with
    | some r =>
      have h := congrArg (Option.map Prod.snd) (hclose r.2 back)
      simp only [Option.map_map, Function.comp_def, Option.map_id'] at h
      rw [Option.bind_some, Option.bind_some, h]
      cases after? [']'] r.2 with
      | none => rfl
      | some rest => simp [Function.comp_def]
    | none =>
      -- a name that ends behind the parenthesis holds it
      refine Option.eq_none_iff_forall_ne_some.mpr fun r hr => ?_
      obtain ⟨q, hq, hr⟩ := Option.bind_eq_some_iff.mp hr
      obtain ⟨p, -, rfl⟩ := Option.map_eq_some_iff.mp hq
      obtain ⟨rest, -, hr⟩ := Option.bind_eq_some_iff.mp hr
      obtain ⟨s, hs, -⟩ := Option.map_eq_some_iff.mp hr
      exact not_mem_of_namedClass? hs (by simp)

theorem exact_namedClassItem? : Exact namedClassItem? where
  suffix := by
    intro cs r hr
    rw [namedClassItem?.eq_def] at hr
    split at hr
    · rename_i cs
      obtain ⟨q, hq, rfl⟩ := Option.map_eq_some_iff.mp hr
      exact (exact_namedClassBody?.suffix cs q hq).trans (List.suffix_append [':', '^'] cs)
    · rename_i cs _
      exact (exact_namedClassBody?.suffix cs r hr).trans (List.suffix_cons ':' cs)
    · cases hr
  append := by
    intro cs back
    have happend := exact_namedClassBody?.append
    rcases cs with _ | ⟨c, cs⟩
    · rfl
    · by_cases hc : c = ':'
      · subst hc
        rcases cs with _ | ⟨d, cs⟩
        · exact happend [] back
        · by_cases hd : d = '^'
          · subst hd
            simp only [List.cons_append, namedClassItem?, happend, Option.map_map,
              Function.comp_def]
          · have hother : ∀ more,
                namedClassItem? (':' :: d :: more) = namedClassBody? (d :: more) :=
              fun more => namedClassItem?.eq_2 _ fun _ h => hd (List.cons.inj h).1
            rw [List.cons_append, List.cons_append, hother, hother]
            exact happend (d :: cs) back
      · have hother : ∀ more, namedClassItem? (c :: more) = none := fun more =>
          namedClassItem?.eq_3 _ (fun _ h => hc (List.cons.inj h).1)
            fun _ h => hc (List.cons.inj h).1
        rw [List.cons_append, hother, hother]
        rfl

def dashOrClosing (cs : List Char) : Bool := cs.head?.any fun c => c == ']' || c == '-'

theorem dashOrClosing_append (cs back : List Char) :
    dashOrClosing (cs ++ ')' :: back) = dashOrClosing cs := by
  cases cs <;> rfl

theorem rangeRest?_dash (f : Flags) (first : Primitive) (more : List Char) :
    rangeRest? f first ('-' :: more) =
      if dashOrClosing (skipSpace f more) then first.alone?.map fun s => (s, '-' :: more)
      else (member? f (skipSpace f more)).bind fun r => (first.to? r.1).map fun s => (s, r.2) := by
  simp only [rangeRest?]
  split
  · simp_all [dashOrClosing]
  · simp_all [dashOrClosing]
  · rename_i hclosing hdash
    rw [if_neg]
    rw [dashOrClosing]
    cases h : skipSpace f more with
    | nil => simp
    | cons c rest =>
      have h1 : c ≠ ']' := fun hc => hclosing rest (by rw [h, hc])
      have h2 : c ≠ '-' := fun hc => hdash rest (by rw [h, hc])
      simp [h1, h2]

theorem rangeRest?_other (f : Flags) (first : Primitive) {c : Char} (hc : c ≠ '-')
    (cs : List Char) :
    rangeRest? f first (c :: cs) = first.alone?.map fun s => (s, c :: cs) :=
  rangeRest?.eq_2 f first (c :: cs) fun _ h => hc (List.cons.inj h).1

theorem steady_rangeRest? (f : Flags) (first : Primitive) : Steady (rangeRest? f first) := by
  have halone := Steady.option first.alone? (id : CharSet → CharSet)
  have hend : Steady fun cs => (member? f cs).bind fun r => (first.to? r.1).map fun s => (s, r.2) :=
    (steady_member? f).bind fun second => .option (first.to? second) id
  constructor
  · intro cs r hr
    rcases cs with _ | ⟨c, more⟩
    · exact halone.suffix [] r hr
    · by_cases hc : c = '-'
      · subst hc
        rw [rangeRest?_dash] at hr
        split at hr
        · exact halone.suffix _ r hr
        · exact ((hend.suffix _ r hr).trans (skipSpace_suffix f more).1).trans
            (List.suffix_cons '-' more)
      · rw [rangeRest?_other f first hc] at hr
        exact halone.suffix _ r hr
  · intro cs
    rcases cs with _ | ⟨c, more⟩
    · exact (halone.before []).congr (by simp [rangeRest?]) fun back => by simp [rangeRest?]
    · by_cases hc : c = '-'
      · subst hc
        cases (before_skipSpace f more).1 with
        | kept _ rest alone behind =>
          simp only [Option.some.injEq, Prod.mk.injEq, true_and] at alone behind
          by_cases hrest : dashOrClosing rest = true
          · exact (halone.before ('-' :: more)).congr
              (by simp [rangeRest?_dash, alone, hrest])
              fun back => by simp [rangeRest?_dash, behind, dashOrClosing_append, hrest]
          · exact (hend.before rest).congr
              (by simp [rangeRest?_dash, alone, hrest])
              fun back => by simp [rangeRest?_dash, behind, dashOrClosing_append, hrest]
        | swallowed _ alone behind =>
          -- a comment takes all that could be the other end of the range
          simp only [Option.some.injEq, Prod.mk.injEq, true_and] at alone behind
          refine .cut (by rw [rangeRest?_dash, alone]; rfl) fun back hback r hr => ?_
          rw [List.cons_append, rangeRest?_dash, behind back hback] at hr
          cases hr
        | cut alone _ => cases alone
      · have hother := rangeRest?_other f first hc
        exact (halone.before (c :: more)).congr (by simp [hother]) fun back => by simp [hother]

theorem steady_rangeItem? (f : Flags) : Steady (rangeItem? f) :=
  (steady_member? f).bind fun first =>
    (steady_skipSpace f).bind fun _ => steady_rangeRest? f first

theorem steady_negation (f : Flags) : Steady fun cs => some (negation f cs) := by
  refine ((steady_skipSpace f).bind fun _ => Steady.after (w := ['^']) (by decide)
    ((steady_skipSpace f).map fun _ => true) (.done false)).congr fun cs => ?_
  rw [Option.bind_some, negation]
  split
  · rename_i rest hrest
    rw [hrest]
    rfl
  · rename_i hrest
    rw [after?_eq_none fun rest h => hrest rest h]

theorem steady_firstMembers : Steady fun cs => some (firstMembers cs) := by
  refine (Steady.after (w := [']']) (by decide) (.done (CharSet.single ']'))
    ((steady_run (p := (· == '-')) (by decide)).map CharSet.ofChars)).congr fun cs => ?_
  rw [firstMembers.eq_def]
  split
  · rfl
  · rename_i hcs
    rw [after?_eq_none fun rest h => hcs rest h]
    rfl

/-- One turn of reading the members of a class, which go on with `more` and may be classes read by
`inner`. -/
def classTurn (f : Flags) (inner : List Char → Option (CharSet × List Char))
    (more : Option (CharSet × SetOp) → CharSet → List Char → Option (CharSet × List Char))
    (pending : Option (CharSet × SetOp)) (s : CharSet) (cs : List Char) :
    Option (CharSet × List Char) :=
  match after? [']'] cs with
  | some rest => some (joined f pending s, rest)
  | none => match after? ['&', '&'] cs with
    | some rest => more (some (joined f pending s, .inter)) .nothing rest
    | none => match after? ['-', '-'] cs with
      | some rest => more (some (joined f pending s, .minus)) .nothing rest
      | none => match after? ['~', '~'] cs with
        | some rest => more (some (joined f pending s, .exclusive)) .nothing rest
        | none => match after? ['['] cs with
          | some rest => match namedClassItem? rest with
            | some r => more pending (s.union r.1) r.2
            | none => (inner rest).bind fun r => more pending (s.union r.1) r.2
          | none => (rangeItem? f cs).bind fun r => more pending (s.union r.1) r.2

theorem items_succ (f : Flags) (n : Nat) (pending : Option (CharSet × SetOp)) (s : CharSet)
    (cs : List Char) :
    bracket?.items f (n + 1) pending s cs =
      classTurn f (bracket? f n) (bracket?.items f n) pending s (skipSpace f cs) := by
  rw [bracket?.items, classTurn]
  generalize skipSpace f cs = cs
  split
  · rfl
  · rfl
  · rfl
  · rfl
  · rfl
  · rename_i rest
    cases hrest : namedClassItem? rest <;> simp [after?, hrest]
  · rename_i hclose hand hdash htilde hopen
    rw [after?_eq_none hclose, after?_eq_none hand, after?_eq_none hdash, after?_eq_none htilde,
      after?_eq_none hopen]

theorem steady_classTurn (f : Flags) {inner : List Char → Option (CharSet × List Char)}
    {more : Option (CharSet × SetOp) → CharSet → List Char → Option (CharSet × List Char)}
    (hinner : Steady inner) (hmore : ∀ pending s, Steady (more pending s))
    (pending : Option (CharSet × SetOp)) (s : CharSet) :
    Steady (classTurn f inner more pending s) := by
  have hjoin := fun op => hmore (some (joined f pending s, op)) .nothing
  have hunion := fun s' => hmore pending (s.union s')
  have hopen : Steady fun cs => match namedClassItem? cs with
      | some r => more pending (s.union r.1) r.2
      | none => (inner cs).bind fun r => more pending (s.union r.1) r.2 :=
    (Steady.orElse exact_namedClassItem? hunion (hinner.bind hunion)).congr fun cs => by
      cases namedClassItem? cs <;> rfl
  exact Steady.after (w := [']']) (by decide) (.done (joined f pending s)) <|
    .after (w := ['&', '&']) (by decide) (hjoin .inter) <|
    .after (w := ['-', '-']) (by decide) (hjoin .minus) <|
    .after (w := ['~', '~']) (by decide) (hjoin .exclusive) <|
    .after (w := ['[']) (by decide) hopen ((steady_rangeItem? f).bind hunion)

theorem bracket?_succ (f : Flags) (n : Nat) (cs : List Char) :
    bracket? f (n + 1) cs =
      (bracket?.items f n none (firstMembers (negation f cs).2).1
          (firstMembers (negation f cs).2).2).bind
        fun r => (closed? f (negation f cs).1 r.1).map fun s => (s, r.2) :=
  rfl

theorem steady_bracket_items (f : Flags) (n : Nat) :
    Steady (bracket? f n) ∧ ∀ pending s, Steady (bracket?.items f n pending s) := by
  induction n with
  | zero => exact ⟨.fail, fun _ _ => .fail⟩
  | succ n ih =>
    obtain ⟨hbracket, hitems⟩ := ih
    constructor
    · have hclosed : ∀ negated s, Steady fun cs => (closed? f negated s).map fun s => (s, cs) :=
        fun negated s => .option (closed? f negated s) id
      exact (steady_negation f).bind fun negated => steady_firstMembers.bind fun first =>
        (hitems none first).bind (hclosed negated)
    · intro pending s
      exact ((steady_skipSpace f).bind fun _ => steady_classTurn f hbracket hitems pending s).congr
        (items_succ f n pending s)

theorem length_of_member? {f : Flags} {cs : List Char} {r : Primitive × List Char}
    (h : member? f cs = some r) : r.2.length < cs.length := by
  rw [member?.eq_def] at h
  split at h
  · rename_i cs
    exact Nat.lt_succ_of_le ((steady_escape? f).suffix cs r h).length_le
  · cases h
    exact Nat.lt_succ_self _
  · cases h

theorem length_of_rangeItem? {f : Flags} {cs : List Char} {r : CharSet × List Char}
    (h : rangeItem? f cs = some r) : r.2.length < cs.length := by
  obtain ⟨q, hq, hr⟩ := Option.bind_eq_some_iff.mp h
  have hrest := ((steady_rangeRest? f q.1).suffix _ r hr).trans (skipSpace_suffix f q.2).1
  exact Nat.lt_of_le_of_lt hrest.length_le (length_of_member? hq)

/-- What is read with a bound is read with every bound that covers what is taken. -/
def Covered {X : Type} (g : Nat → List Char → Option (X × List Char)) (spare n : Nat) : Prop :=
  ∀ cs r, g n cs = some r → r.2.length < cs.length ∧
    ∀ m, cs.length + spare ≤ m + r.2.length → g m cs = some r

section

variable {f : Flags} {n : Nat} {pending : Option (CharSet × SetOp)} {s : CharSet} {cs : List Char}

theorem covered_bracket (hitems : ∀ pending s, Covered (bracket?.items f · pending s) 0 n) :
    Covered (bracket? f) 1 (n + 1) := by
  intro cs r h
  rw [bracket?_succ] at h
  obtain ⟨q, hq, hr⟩ := Option.bind_eq_some_iff.mp h
  have hclosed := hr
  obtain ⟨s, -, rfl⟩ := Option.map_eq_some_iff.mp hr
  obtain ⟨hlt, hcovered⟩ := hitems _ _ _ _ hq
  have hle := ((steady_firstMembers.suffix _ _ rfl).trans
    ((steady_negation f).suffix cs _ rfl)).length_le
  refine ⟨Nat.lt_of_lt_of_le hlt hle, fun m hm => ?_⟩
  simp only at hm hle
  obtain ⟨m, rfl⟩ : ∃ l, m = l + 1 := ⟨m - 1, by omega⟩
  have hread : bracket?.items f m none _ _ = some q := hcovered m (by omega)
  rw [bracket?_succ, hread]
  exact hclosed

theorem covered_classTurn (hbracket : Covered (bracket? f) 1 n)
    (hitems : ∀ pending s, Covered (bracket?.items f · pending s) 0 n) {r : CharSet × List Char}
    (h : classTurn f (bracket? f n) (bracket?.items f n) pending s cs = some r) :
    r.2.length < cs.length ∧ ∀ m, cs.length ≤ m + 1 + r.2.length →
      classTurn f (bracket? f m) (bracket?.items f m) pending s cs = some r := by
  -- an operator and the members behind it
  have hjoin : ∀ {w rest pending s}, 0 < w.length → after? w cs = some rest →
      bracket?.items f n pending s rest = some r → r.2.length < cs.length ∧
        ∀ m, cs.length ≤ m + 1 + r.2.length → bracket?.items f m pending s rest = some r := by
    intro w rest pending s hw hrest hread
    obtain ⟨hlt, hcovered⟩ := hitems _ _ _ _ hread
    have hlength := congrArg List.length (eq_append_of_after? hrest)
    rw [List.length_append] at hlength
    exact ⟨by omega, fun m hm => hcovered m (by omega)⟩
  rw [classTurn] at h
  simp only [classTurn]
  cases hclose : after? [']'] cs with
  | some rest =>
    simp only [hclose] at h ⊢
    cases h
    exact ⟨by simp [eq_append_of_after? hclose], fun _ _ => rfl⟩
  | none =>
  cases hand : after? ['&', '&'] cs with
  | some rest =>
    simp only [hclose, hand] at h ⊢
    exact hjoin (by decide) hand h
  | none =>
  cases hdash : after? ['-', '-'] cs with
  | some rest =>
    simp only [hclose, hand, hdash] at h ⊢
    exact hjoin (by decide) hdash h
  | none =>
  cases htilde : after? ['~', '~'] cs with
  | some rest =>
    simp only [hclose, hand, hdash, htilde] at h ⊢
    exact hjoin (by decide) htilde h
  | none =>
  cases hopen : after? ['['] cs with
  | some rest =>
    simp only [hclose, hand, hdash, htilde, hopen] at h ⊢
    have hlength := congrArg List.length (eq_append_of_after? hopen)
    simp only [List.cons_append, List.nil_append, List.length_cons] at hlength
    cases hnamed : namedClassItem? rest with
    | some q =>
      simp only [hnamed] at h ⊢
      obtain ⟨hlt, hcovered⟩ := hitems _ _ _ _ h
      have hle := (exact_namedClassItem?.suffix rest q hnamed).length_le
      exact ⟨by omega, fun m hm => hcovered m (by omega)⟩
    | none =>
      simp only [hnamed] at h ⊢
      obtain ⟨q, hq, h⟩ := Option.bind_eq_some_iff.mp h
      obtain ⟨hlt, hcovered⟩ := hitems _ _ _ _ h
      obtain ⟨hinner, hinnerCovered⟩ := hbracket _ _ hq
      refine ⟨by omega, fun m hm => ?_⟩
      rw [hinnerCovered m (by omega)]
      exact hcovered m (by omega)
  | none =>
    simp only [hclose, hand, hdash, htilde, hopen] at h ⊢
    obtain ⟨q, hq, h⟩ := Option.bind_eq_some_iff.mp h
    obtain ⟨hlt, hcovered⟩ := hitems _ _ _ _ h
    have hitem := length_of_rangeItem? hq
    refine ⟨by omega, fun m hm => ?_⟩
    rw [hq]
    exact hcovered m (by omega)

theorem covered_items (hbracket : Covered (bracket? f) 1 n)
    (hitems : ∀ pending s, Covered (bracket?.items f · pending s) 0 n) :
    Covered (bracket?.items f · pending s) 0 (n + 1) := by
  intro cs r h
  simp only [items_succ] at h
  have hle := (skipSpace_suffix f cs).1.length_le
  obtain ⟨hlt, hturn⟩ := covered_classTurn hbracket hitems h
  refine ⟨Nat.lt_of_lt_of_le hlt hle, fun m hm => ?_⟩
  obtain ⟨m, rfl⟩ : ∃ l, m = l + 1 := ⟨m - 1, by omega⟩
  simp only [items_succ]
  exact hturn m (by omega)

theorem covered (f : Flags) (n : Nat) :
    Covered (bracket? f) 1 n ∧ ∀ pending s, Covered (bracket?.items f · pending s) 0 n := by
  induction n with
  | zero =>
    constructor
    · rintro cs r ⟨⟩
    · rintro pending s cs r ⟨⟩
  | succ n ih =>
    exact ⟨covered_bracket ih.2, fun _ _ => covered_items ih.1 ih.2⟩

end

theorem steady_class (f : Flags) : Steady fun cs => bracket? f (cs.length + 1) cs :=
  .of_fuel (fun n => (steady_bracket_items f n).1) fun n m cs r h hm =>
    ((covered f n).1 cs r h).2 m (by omega)

end Postroom.Pattern
