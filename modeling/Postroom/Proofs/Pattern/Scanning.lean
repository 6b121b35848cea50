import Mathlib.Data.List.Infix
import Postroom.Pattern.Token

namespace Postroom.Pattern

open Number Text

section

variable {X Y : Type}

/-- What a reading of a text has to do with the reading of the text before a parenthesis. -/
inductive Before (g : List Char → Option (X × List Char)) (cs : List Char) : Prop
  /-- The same is read, and the parenthesis is left. -/
  | kept (x : X) (rest : List Char) (alone : g cs = some (x, rest))
      (behind : ∀ back, g (cs ++ ')' :: back) = some (x, rest ++ ')' :: back))
  /-- The same is read, and a comment takes the parenthesis with all that stands in its line. -/
  | swallowed (x : X) (alone : g cs = some (x, []))
      (behind : ∀ back, '\n' ∉ back → g (cs ++ ')' :: back) = some (x, []))
  /-- The text ends too early, and what can be read with more behind it takes the parenthesis. -/
  | cut (alone : g cs = none)
      (behind : ∀ back, '\n' ∉ back → ∀ r ∈ g (cs ++ ')' :: back), r.2 <:+ back)

/-- A reading that leaves an end of its text, and that only the end of the text or a comment can
make read a parenthesis behind it. -/
structure Steady (g : List Char → Option (X × List Char)) : Prop where
  suffix : ∀ cs, ∀ r ∈ g cs, r.2 <:+ cs
  before : ∀ cs, Before g cs

/-- A reading that does the same before a parenthesis as at the end of the text. -/
structure Exact (g : List Char → Option (X × List Char)) : Prop where
  suffix : ∀ cs, ∀ r ∈ g cs, r.2 <:+ cs
  append : ∀ cs back, g (cs ++ ')' :: back) = (g cs).map fun r => (r.1, r.2 ++ ')' :: back)

theorem Before.map {g : List Char → Option (X × List Char)}
    {g' : List Char → Option (Y × List Char)} {cs cs' : List Char} (h : Before g cs) (F : X → Y)
    (halone : g' cs' = (g cs).map fun r => (F r.1, r.2))
    (hbehind : ∀ back,
      g' (cs' ++ ')' :: back) = (g (cs ++ ')' :: back)).map fun r => (F r.1, r.2)) :
    Before g' cs' := by
  cases h with
  | kept x rest alone behind =>
    exact .kept (F x) rest (by rw [halone, alone]; rfl) fun back => by rw [hbehind, behind]; rfl
  | swallowed x alone behind =>
    exact .swallowed (F x) (by rw [halone, alone]; rfl) fun back hback => by
      rw [hbehind, behind back hback]
      rfl
  | cut alone behind =>
    refine .cut (by rw [halone, alone]; rfl) fun back hback r hr => ?_
    rw [hbehind] at hr
    obtain ⟨q, hq, rfl⟩ := Option.map_eq_some_iff.mp hr
    exact behind back hback q hq

theorem Before.congr {g g' : List Char → Option (X × List Char)} {cs cs' : List Char}
    (h : Before g cs) (halone : g' cs' = g cs)
    (hbehind : ∀ back, g' (cs' ++ ')' :: back) = g (cs ++ ')' :: back)) : Before g' cs' :=
  h.map id (by simp [halone]) fun back => by simp [hbehind]

theorem Exact.steady {g : List Char → Option (X × List Char)} (hg : Exact g) : Steady g where
  suffix := hg.suffix
  before cs := by
    cases hcs : g cs with
    | none => exact .cut hcs fun back _ r hr => by simp [hg.append, hcs] at hr
    | some r => exact .kept r.1 r.2 hcs fun back => by rw [hg.append, hcs]; rfl

namespace Steady

variable {g h : List Char → Option (X × List Char)} {k : X → List Char → Option (Y × List Char)}

theorem done (x : X) : Steady fun cs => some (x, cs) where
  suffix := by
    rintro cs r ⟨⟩
    exact List.suffix_rfl
  before cs := .kept x cs rfl fun _ => rfl

theorem fail : Steady fun _ => (none : Option (X × List Char)) where
  suffix := by simp
  before _ := .cut rfl (by simp)

theorem bind (hg : Steady g) (hk : ∀ x, Steady (k x)) :
    Steady fun cs => (g cs).bind fun r => k r.1 r.2 where
  suffix := by
    intro cs r hr
    obtain ⟨q, hq, hr⟩ := Option.bind_eq_some_iff.mp hr
    exact ((hk q.1).suffix q.2 r hr).trans (hg.suffix cs q hq)
  before cs := by
    cases hg.before cs with
    | cut alone behind =>
      refine .cut (by rw [alone]; rfl) fun back hback r hr => ?_
      obtain ⟨q, hq, hr⟩ := Option.bind_eq_some_iff.mp hr
      exact ((hk q.1).suffix q.2 r hr).trans (behind back hback q hq)
    | kept x rest alone behind =>
      have hbind : ∀ o, (some (x, o)).bind (fun r => k r.1 r.2) = k x o := fun _ => rfl
      cases (hk x).before rest with
      | kept y rest' alone' behind' =>
        exact .kept y rest' (by rw [alone, hbind, alone']) fun back => by
          rw [behind, hbind, behind']
      | swallowed y alone' behind' =>
        exact .swallowed y (by rw [alone, hbind, alone']) fun back hback => by
          rw [behind, hbind, behind' back hback]
      | cut alone' behind' =>
        refine .cut (by rw [alone, hbind, alone']) fun back hback r hr => ?_
        rw [behind, hbind] at hr
        exact behind' back hback r hr
    | swallowed x alone behind =>
      -- nothing is left for what follows, with the parenthesis as without it
      have hbind : (some (x, [])).bind (fun r => k r.1 r.2) = k x [] := rfl
      cases hx : k x [] with
      | none =>
        refine .cut (by rw [alone, hbind, hx]) fun back hback r hr => ?_
        rw [behind back hback, hbind, hx] at hr
        cases hr
      | some r =>
        obtain ⟨y, rest⟩ := r
        obtain rfl := List.suffix_nil.mp ((hk x).suffix [] _ hx)
        exact .swallowed y (by rw [alone, hbind, hx]) fun back hback => by
          rw [behind back hback, hbind, hx]

theorem map (hg : Steady g) (F : X → Y) : Steady fun cs => (g cs).map fun r => (F r.1, r.2) := by
  simpa only [Option.map_eq_bind, Function.comp_def] using hg.bind fun x => done (F x)

theorem option (o : Option X) (F : X → Y) : Steady fun cs => o.map fun x => (F x, cs) := by
  cases o with
  | none => exact fail
  | some x => exact done (F x)

theorem congr (hh : Steady h) (heq : ∀ cs, g cs = h cs) : Steady g :=
  (funext heq : g = h) ▸ hh

theorem cons (hnil : g [] = none) (hcons : ∀ c, Steady fun cs => g (c :: cs)) : Steady g where
  suffix := by
    rintro (_ | ⟨c, cs⟩) r hr
    · simp [hnil] at hr
    · exact ((hcons c).suffix cs r hr).trans (List.suffix_cons c cs)
  before := by
    rintro (_ | ⟨c, cs⟩)
    · exact .cut hnil fun back _ r hr => (hcons ')').suffix back r hr
    · exact ((hcons c).before cs).congr rfl fun _ => rfl

theorem orElse {e : List Char → Option (X × List Char)} {h : List Char → Option (Y × List Char)}
    (he : Exact e) (hk : ∀ x, Steady (k x)) (hh : Steady h) :
    Steady fun cs => match e cs with
      | some r => k r.1 r.2
      | none => h cs where
  suffix := by
    intro cs r hr
    split at hr
    · rename_i q hq
      exact ((hk q.1).suffix q.2 r hr).trans (he.suffix cs q hq)
    · exact hh.suffix cs r hr
  before cs := by
    cases hcs : e cs with
    | none => exact (hh.before cs).congr (by simp [hcs]) fun back => by simp [he.append, hcs]
    | some q =>
      exact ((hk q.1).before q.2).congr (by simp [hcs]) fun back => by simp [he.append, hcs]

theorem of_fuel {g : Nat → List Char → Option (X × List Char)} (hg : ∀ n, Steady (g n))
    (hfuel : ∀ n m cs r, g n cs = some r → cs.length < m → g m cs = some r) :
    Steady fun cs => g (cs.length + 1) cs where
  suffix cs := (hg (cs.length + 1)).suffix cs
  before cs := by
    cases (hg (cs.length + 1)).before cs with
    | kept x rest alone behind =>
      exact .kept x rest alone fun back => hfuel _ _ _ _ (behind back) (Nat.lt_succ_self _)
    | swallowed x alone behind =>
      exact .swallowed x alone fun back hback =>
        hfuel _ _ _ _ (behind back hback) (Nat.lt_succ_self _)
    | cut alone behind =>
      refine .cut alone fun back hback => ?_
      -- the bound for the longer text is another one, but reads the shorter text no further
      have hlength : cs.length < (cs ++ ')' :: back).length + 1 := by
        rw [List.length_append]
        omega
      have hnone : ∀ r, g ((cs ++ ')' :: back).length + 1) cs ≠ some r := fun r hr =>
        Option.some_ne_none r ((hfuel _ _ _ _ hr (Nat.lt_succ_self _)).symm.trans alone)
      cases (hg ((cs ++ ')' :: back).length + 1)).before cs with
      | kept x rest alone' _ => exact absurd alone' (hnone _)
      | swallowed x alone' _ => exact absurd alone' (hnone _)
      | cut _ behind' => exact behind' back hback

end Steady

end

section

variable {X : Type}

theorem exact_after? {w : List Char} (hw : ')' ∉ w) :
    Exact fun cs => (after? w cs).map fun rest => ((), rest) where
  suffix := by
    intro cs r hr
    obtain ⟨rest, hrest, rfl⟩ := Option.map_eq_some_iff.mp hr
    rw [eq_append_of_after? hrest]
    exact List.suffix_append w rest
  append := by
    intro cs back
    induction w generalizing cs with
    | nil => rfl
    | cons d w ih =>
      rw [List.mem_cons, not_or] at hw
      cases cs with
      | nil => simp [after?, Ne.symm hw.1]
      | cons c cs =>
        rw [List.cons_append, after?, after?]
        split
        · exact ih hw.2 cs
        · rfl

theorem Steady.after {p h : List Char → Option (X × List Char)} {w : List Char} (hw : ')' ∉ w)
    (hp : Steady p) (hh : Steady h) :
    Steady fun cs => match after? w cs with
      | some rest => p rest
      | none => h cs :=
  (Steady.orElse (k := fun _ => p) (exact_after? hw) (fun _ => hp) hh).congr fun cs => by
    cases after? w cs <;> rfl

theorem after?_eq_none {p cs : List Char} (h : ∀ rest, cs ≠ p ++ rest) : after? p cs = none :=
  Option.eq_none_iff_forall_ne_some.mpr fun rest hrest => h rest (eq_append_of_after? hrest)

theorem steady_run {p : Char → Bool} (hp : p ')' = false) :
    Steady fun cs => some (cs.takeWhile p, cs.dropWhile p) := by
  refine Exact.steady ⟨?_, fun cs back => ?_⟩
  · rintro cs r ⟨⟩
    exact List.dropWhile_suffix p
  · induction cs with
    | nil => simp [hp]
    | cons c cs ih =>
      simp only [List.cons_append, List.takeWhile_cons, List.dropWhile_cons]
      split
      · simp_all
      · rfl

theorem until?_cons (d c : Char) (cs : List Char) :
    until? d (c :: cs) =
      if c = d then some ([], cs) else (until? d cs).map fun r => (c :: r.1, r.2) := by
  by_cases hc : c = d
  · simp [until?, hc]
  · simp only [until?, List.dropWhile_cons, List.takeWhile_cons, bne_iff_ne, ne_eq, hc,
      not_false_eq_true, if_true, if_false]
    split <;> rfl

theorem until?_suffix (d : Char) (cs : List Char) : ∀ r ∈ until? d cs, r.2 <:+ cs := by
  induction cs with
  | nil => simp [until?]
  | cons c cs ih =>
    rw [until?_cons]
    split
    · rintro r ⟨⟩
      exact List.suffix_cons c cs
    · intro r hr
      obtain ⟨q, hq, rfl⟩ := Option.map_eq_some_iff.mp hr
      exact (ih q hq).trans (List.suffix_cons c cs)

theorem until?_append {d : Char} (hd : d ≠ ')') (cs back : List Char) :
    until? d (cs ++ ')' :: back) =
      match until? d cs with
      | some r => some (r.1, r.2 ++ ')' :: back)
      | none => (until? d back).map fun r => (cs ++ ')' :: r.1, r.2) := by
  induction cs with
  | nil =>
    rw [List.nil_append, until?_cons, if_neg hd.symm]
    rfl
  | cons c cs ih =>
    rw [List.cons_append, until?_cons, until?_cons]
    split
    · rfl
    · rw [ih]
      cases until? d cs with
      | some r => rfl
      | none => simp [Function.comp_def]

theorem steady_until? {d : Char} (hd : d ≠ ')') : Steady (until? d) where
  suffix := until?_suffix d
  before cs := by
    cases hcs : until? d cs with
    | some r => exact .kept r.1 r.2 hcs fun back => by rw [until?_append hd, hcs]
    | none =>
      refine .cut hcs fun back _ r hr => ?_
      rw [until?_append hd, hcs] at hr
      obtain ⟨q, hq, rfl⟩ := Option.map_eq_some_iff.mp hr
      exact until?_suffix d back q hq

theorem steady_exactly? (n : Nat) : Steady (exactly? n) where
  suffix := by
    intro cs r hr
    rw [exactly?] at hr
    split at hr
    · cases hr
    · cases hr
      exact List.drop_suffix n cs
  before cs := by
    by_cases hshort : cs.length < n
    · -- what is missing is taken from behind, and the parenthesis first
      refine .cut (if_pos hshort) fun back _ r hr => ?_
      rw [exactly?] at hr
      split at hr
      · cases hr
      · cases hr
        obtain ⟨m, hm⟩ : ∃ m, n - cs.length = m + 1 := ⟨n - cs.length - 1, by omega⟩
        rw [List.drop_append, List.drop_eq_nil_of_le (by omega), hm]
        exact List.drop_suffix m back
    · refine .kept _ _ (if_neg hshort) fun back => ?_
      have hlength : ¬ (cs ++ ')' :: back).length < n := by
        rw [List.length_append]
        omega
      rw [exactly?, if_neg hlength, List.take_append_of_le_length (by omega),
        List.drop_append_of_le_length (by omega)]

end

theorem skipComment_of_not_mem (f : Flags) {cs : List Char} (h : '\n' ∉ cs) :
    skipSpace.skipComment f cs = [] := by
  induction cs with
  | nil => rfl
  | cons c cs ih =>
    rw [List.mem_cons, not_or] at h
    rw [skipSpace.skipComment.eq_def]
    split <;> simp_all

theorem skipSpace_suffix (f : Flags) (cs : List Char) :
    skipSpace f cs <:+ cs ∧ skipSpace.skipComment f cs <:+ cs := by
  induction cs with
  | nil => exact ⟨List.suffix_rfl, List.suffix_rfl⟩
  | cons c cs ih =>
    have hspace := ih.1.trans (List.suffix_cons c cs)
    have hcomment := ih.2.trans (List.suffix_cons c cs)
    constructor
    · rw [skipSpace]
      split
      · split
        · exact hspace
        · split
          · exact hcomment
          · exact List.suffix_rfl
      · exact List.suffix_rfl
    · rw [skipSpace.skipComment.eq_def]
      split <;> simp_all

theorem skipSpace_paren (f : Flags) (back : List Char) :
    skipSpace f (')' :: back) = ')' :: back := by
  rw [skipSpace]
  split <;> rfl

theorem before_skipSpace (f : Flags) (cs : List Char) :
    Before (fun cs => some ((), skipSpace f cs)) cs ∧
      Before (fun cs => some ((), skipSpace.skipComment f cs)) cs := by
  induction cs with
  | nil =>
    constructor
    · exact .kept () [] rfl fun back => by rw [List.nil_append, skipSpace_paren]
    · refine .swallowed () rfl fun back hback => ?_
      rw [List.nil_append, skipComment_of_not_mem f (by simp [hback])]
  | cons c cs ih =>
    constructor
    · by_cases hspaced : f.spaced = true
      · by_cases hblank : isBlank c = true
        · have heq : ∀ more, skipSpace f (c :: more) = skipSpace f more := fun more => by
            rw [skipSpace, if_pos hspaced, if_pos hblank]
          exact ih.1.congr (by simp [heq]) fun back => by simp [heq]
        · by_cases hhash : (c == '#') = true
          · have heq : ∀ more, skipSpace f (c :: more) = skipSpace.skipComment f more :=
              fun more => by rw [skipSpace, if_pos hspaced, if_neg hblank, if_pos hhash]
            exact ih.2.congr (by simp [heq]) fun back => by simp [heq]
          · have heq : ∀ more, skipSpace f (c :: more) = c :: more := fun more => by
              rw [skipSpace, if_pos hspaced, if_neg hblank, if_neg hhash]
            exact .kept () (c :: cs) (by rw [heq]) fun back => by rw [List.cons_append, heq]
      · have heq : ∀ more, skipSpace f (c :: more) = c :: more := fun more => by
          rw [skipSpace, if_neg hspaced]
        exact .kept () (c :: cs) (by rw [heq]) fun back => by rw [List.cons_append, heq]
    · by_cases hc : c = '\n'
      · subst hc
        exact ih.1.congr rfl fun _ => rfl
      · exact ih.2.congr (by simp [skipSpace.skipComment.eq_3 f c _ hc])
          fun back => by simp [skipSpace.skipComment.eq_3 f c _ hc]

theorem steady_skipSpace (f : Flags) : Steady fun cs => some ((), skipSpace f cs) where
  suffix := by
    rintro cs r ⟨⟩
    exact (skipSpace_suffix f cs).1
  before cs := (before_skipSpace f cs).1

theorem steady_hexEscape? (width : Nat) : Steady (hexEscape? width) := by
  have hhex : ∀ digits, Steady fun cs => (hexChar? digits).map fun c => (c, cs) :=
    fun digits => .option (hexChar? digits) id
  refine (Steady.after (w := ['\x7b']) (by decide)
    ((steady_until? (d := '\x7d') (by decide)).bind hhex)
    ((steady_exactly? width).bind hhex)).congr fun cs => ?_
  rw [hexEscape?.eq_def]
  split
  · rfl
  · rename_i hcs
    rw [after?_eq_none fun rest h => hcs rest h]

theorem steady_propertyClass? : Steady propertyClass? := by
  have hletter : Steady fun cs => cs.head?.bind fun c =>
      (propertyOf? [c]).map fun p => (CharSet.property p, cs.tail) :=
    .cons rfl fun c => .option (propertyOf? [c]) CharSet.property
  have hname : ∀ name, Steady fun cs => (namedProperty? name).map fun s => (s, cs) :=
    fun name => .option (namedProperty? name) id
  refine (Steady.after (w := ['\x7b']) (by decide)
    ((steady_until? (d := '\x7d') (by decide)).bind hname) hletter).congr fun cs => ?_
  rw [propertyClass?.eq_def]
  split
  · rfl
  · rename_i c cs hcs
    rw [after?_eq_none fun rest h => hcs (List.cons.inj h).1]
    rfl
  · rfl

theorem exact_namedEdge? : Exact namedEdge? where
  suffix := by
    intro cs r hr
    have hafter : ∀ (p : String) rest, after? p.toList cs = some rest → rest <:+ cs :=
      fun p rest h => ⟨p.toList, (eq_append_of_after? h).symm⟩
    rw [namedEdge?] at hr
    split at hr <;> cases hr <;> exact hafter _ _ ‹_›
  append := by
    intro cs back
    have hafter : ∀ p : String, ')' ∉ p.toList →
        after? p.toList (cs ++ ')' :: back) = (after? p.toList cs).map (· ++ ')' :: back) := by
      intro p hp
      have h := congrArg (Option.map Prod.snd) ((exact_after? hp).append cs back)
      simpa [Option.map_map, Function.comp_def] using h
    simp only [namedEdge?]
    rw [hafter _ (by decide), hafter _ (by decide), hafter _ (by decide), hafter _ (by decide)]
    cases after? "\x7bstart\x7d".toList cs <;> cases after? "\x7bend\x7d".toList cs <;>
      cases after? "\x7bstart-half\x7d".toList cs <;>
        cases after? "\x7bend-half\x7d".toList cs <;> rfl

theorem escape?_eq (f : Flags) {c : Char} (hc : c ∉ ['p', 'P', 'x', 'u', 'U', 'b'])
    (cs : List Char) : escape? f (c :: cs) = (escape? f [c]).map fun r => (r.1, cs) := by
  simp only [escape?]
  split <;> simp_all [Function.comp_def]

theorem steady_escape? (f : Flags) : Steady (escape? f) := by
  refine .cons rfl fun c => ?_
  by_cases hc : c ∈ ['p', 'P', 'x', 'u', 'U', 'b']
  · simp only [List.mem_cons, List.not_mem_nil, or_false] at hc
    obtain rfl | rfl | rfl | rfl | rfl | rfl := hc
    · exact steady_propertyClass?.map Primitive.set
    · exact steady_propertyClass?.map fun s => Primitive.set s.compl
    · exact (steady_hexEscape? 2).map Primitive.char
    · exact (steady_hexEscape? 4).map Primitive.char
    · exact (steady_hexEscape? 8).map Primitive.char
    · refine (Steady.orElse exact_namedEdge? (fun e => .done (Primitive.edge e))
        (.done (Primitive.edge (.wordEdge (!f.unicode))))).congr fun cs => ?_
      simp only [escape?]
      cases namedEdge? cs <;> rfl
  · exact (Steady.option (escape? f [c]) Prod.fst).congr (escape?_eq f hc)

end Postroom.Pattern
