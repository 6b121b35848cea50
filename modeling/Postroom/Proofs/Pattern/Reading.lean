import Postroom.Pattern.Parser
import Postroom.Proofs.Pattern.Pieces

namespace Postroom.Pattern

def Element.Ordered : Element → Prop
  | .pattern r => r.Ordered
  | .mark => True

structure Frame.Ordered (f : Frame) : Prop where
  earlier : ∀ r ∈ f.earlier, r.Ordered
  branch : ∀ e ∈ f.branch, e.Ordered

theorem Regex.ofList_ordered {rs : List Regex} (h : ∀ r ∈ rs, r.Ordered) : (ofList rs).Ordered := by
  fun_induction ofList rs with
  | case1 => trivial
  | case2 r => exact h r List.mem_cons_self
  | case3 r rs _ ih =>
    exact ⟨h r List.mem_cons_self, ih fun q hq => h q (List.mem_cons_of_mem r hq)⟩

namespace Reader

structure Ordered (s : Reader) : Prop extends s.toFrame.Ordered where
  outer : ∀ f ∈ s.outer, f.Ordered

theorem start_ordered : start.Ordered where
  earlier := nofun
  branch := nofun
  outer := nofun

theorem Ordered.result {s : Reader} (h : s.Ordered) : s.result.Ordered := by
  have hbranch : ∀ r ∈ s.branch.reverse.filterMap fun
      | .pattern r => some r
      | .mark => none, r.Ordered := by
    intro r hr
    obtain ⟨e, he, her⟩ := List.mem_filterMap.mp hr
    have hordered := h.branch e (List.mem_reverse.mp he)
    cases e with
    | pattern q =>
      cases her
      exact hordered
    | mark => cases her
  rw [Reader.result]
  split
  · exact Regex.ofList_ordered hbranch
  · rename_i r hr
    exact ⟨h.earlier r hr, Regex.ofList_ordered hbranch⟩

theorem Ordered.push {s s' : Reader} {t : Token} (h : s.Ordered) (ht : t.Ordered)
    (hpush : s.push t = some s') : s'.Ordered := by
  cases t with
  | piece r =>
    cases hpush
    exact ⟨⟨h.earlier, List.forall_mem_cons.mpr ⟨ht, h.branch⟩⟩, h.outer⟩
  | flags f =>
    cases hpush
    exact ⟨⟨h.earlier, List.forall_mem_cons.mpr ⟨trivial, h.branch⟩⟩, h.outer⟩
  | bar =>
    cases hpush
    refine ⟨⟨?_, nofun⟩, h.outer⟩
    rintro r ⟨⟩
    exact h.result
  | quantifier min max =>
    rw [Reader.push] at hpush
    split at hpush
    · rename_i r rest hbranch
      cases hpush
      have hrest := h.branch
      rw [hbranch, List.forall_mem_cons] at hrest
      exact ⟨⟨h.earlier, List.forall_mem_cons.mpr ⟨⟨hrest.1, ht⟩, hrest.2⟩⟩, h.outer⟩
    · cases hpush
  | opening f name =>
    rw [Reader.push] at hpush
    split at hpush
    · cases hpush
    · cases hpush
      exact ⟨⟨nofun, nofun⟩, List.forall_mem_cons.mpr ⟨h.toOrdered, h.outer⟩⟩
  | closing =>
    rw [Reader.push] at hpush
    split at hpush
    · cases hpush
    · rename_i frame outer houter
      cases hpush
      have hframes := h.outer
      rw [houter, List.forall_mem_cons] at hframes
      exact ⟨⟨hframes.1.earlier, List.forall_mem_cons.mpr ⟨h.result, hframes.1.branch⟩⟩,
        hframes.2⟩

variable {s : Reader} {cs : List Char}

def read (s : Reader) (cs : List Char) : Option Reader := s.run (cs.length + 1) cs

def Step (s : Reader) (cs : List Char) (s' : Reader) (rest : List Char) : Prop :=
  ∃ c more t, skipSpace s.flags cs = c :: more ∧
    Token.next? s.flags c more = some (t, rest) ∧ s.push t = some s'

theorem length_of_next? {f : Flags} {c : Char} {more : List Char} {r : Token × List Char}
    (hskip : skipSpace f cs = c :: more) (h : Token.next? f c more = some r) :
    r.2.length < cs.length := by
  have hle := (skipSpace_suffix f cs).1.length_le
  have hrest := ((steady_next? f c).suffix more r h).length_le
  rw [hskip, List.length_cons] at hle
  omega

theorem Step.length_lt {s' : Reader} {rest : List Char} (h : s.Step cs s' rest) :
    rest.length < cs.length := by
  obtain ⟨c, more, t, hskip, hnext, -⟩ := h
  exact length_of_next? hskip hnext

theorem run_eq_of_length_lt {m n : Nat} (hm : cs.length < m) (hn : cs.length < n) :
    s.run m cs = s.run n cs := by
  induction m generalizing n s cs with
  | zero => exact absurd hm (Nat.not_lt_zero _)
  | succ m ih =>
    obtain ⟨n, rfl⟩ : ∃ k, n = k + 1 := ⟨n - 1, by omega⟩
    rw [run, run]
    split
    · rfl
    · rename_i c more hskip
      cases hnext : Token.next? s.flags c more with
      | none => rfl
      | some r =>
        cases hpush : s.push r.1 with
        | none => simp only [hpush]
        | some s' =>
          have hlt := length_of_next? hskip hnext
          simp only [hpush]
          exact ih (by omega) (by omega)

theorem read_end (h : skipSpace s.flags cs = []) : s.read cs = some s := by
  rw [read, run, h]

theorem read_piece {c : Char} {more : List Char} (h : skipSpace s.flags cs = c :: more) :
    s.read cs = (Token.next? s.flags c more).bind fun r =>
      (s.push r.1).bind fun s' => s'.read r.2 := by
  rw [read, run, h]
  simp only
  cases hnext : Token.next? s.flags c more with
  | none => rfl
  | some r =>
    cases hpush : s.push r.1 with
    | none => simp only [hpush, Option.bind_some, Option.bind_none]
    | some s' =>
      simp only [hpush, Option.bind_some]
      exact run_eq_of_length_lt (length_of_next? h hnext) (Nat.lt_succ_self _)

theorem read_skipSpace (s : Reader) {cs' : List Char}
    (h : skipSpace s.flags cs = skipSpace s.flags cs') : s.read cs = s.read cs' := by
  cases hskip : skipSpace s.flags cs with
  | nil => rw [read_end hskip, read_end (h ▸ hskip)]
  | cons c more => rw [read_piece hskip, read_piece (h ▸ hskip)]

theorem Step.read_eq {s' : Reader} {rest : List Char} (h : s.Step cs s' rest) :
    s.read cs = s'.read rest := by
  obtain ⟨c, more, t, hskip, hnext, hpush⟩ := h
  rw [read_piece hskip, hnext, Option.bind_some, hpush, Option.bind_some]

theorem read_induction {P : Reader → List Char → Prop}
    (hstep : ∀ {s cs s' rest}, Step s cs s' rest → P s cs → P s' rest) {e : Reader}
    (hread : s.read cs = some e) (h : P s cs) : ∃ rest, P e rest := by
  -- on the length of the text, which every piece makes shorter
  induction hn : cs.length using Nat.strongRecOn generalizing s cs with
  | _ n ih =>
    subst hn
    cases hskip : skipSpace s.flags cs with
    | nil =>
      rw [read_end hskip] at hread
      cases hread
      exact ⟨cs, h⟩
    | cons c more =>
      rw [read_piece hskip] at hread
      obtain ⟨r, hnext, hread⟩ := Option.bind_eq_some_iff.mp hread
      obtain ⟨s', hpush, hread⟩ := Option.bind_eq_some_iff.mp hread
      have hpiece : s.Step cs s' r.2 := ⟨c, more, r.1, hskip, hnext, hpush⟩
      exact ih _ hpiece.length_lt hread (hstep hpiece h) rfl

theorem Ordered.step {s' : Reader} {rest : List Char} (h : s.Step cs s' rest) (hs : s.Ordered) :
    s'.Ordered := by
  obtain ⟨c, more, t, -, hnext, hpush⟩ := h
  obtain ⟨-, ht⟩ | ⟨-, ht⟩ := next?_ordered hnext
  · cases ht
    exact hs.push (t := .closing) trivial hpush
  · exact hs.push ht hpush

theorem Ordered.read {e : Reader} (hs : s.Ordered) (hread : s.read cs = some e) : e.Ordered := by
  obtain ⟨-, h⟩ := read_induction (P := fun s _ => s.Ordered) Ordered.step hread hs
  exact h

def within (s : Reader) (around : List Frame) : Reader := { s with outer := s.outer ++ around }

@[simp] theorem within_flags (s : Reader) (around : List Frame) :
    (s.within around).flags = s.flags := rfl

theorem push_within {t : Token} (around : List Frame) (h : t = .closing → s.outer ≠ []) :
    (s.within around).push t = (s.push t).map fun s' => s'.within around := by
  cases t with
  | piece r => rfl
  | flags f => rfl
  | bar => rfl
  | quantifier min max =>
    obtain ⟨⟨flags, earlier, branch⟩, names, outer⟩ := s
    rcases branch with _ | ⟨_ | _, branch⟩ <;> rfl
  | opening f name =>
    by_cases hname : name.any s.names.contains = true
    · simp [push, within, hname]
    · simp [push, within, hname]
  | closing =>
    obtain ⟨frame, names, outer⟩ := s
    cases outer with
    | nil => exact absurd rfl (h rfl)
    | cons _ _ => rfl

theorem outer_ne_nil_of_push {s' : Reader} {t : Token} (ht : t ≠ .closing)
    (hpush : s.push t = some s') (h : s.outer ≠ []) : s'.outer ≠ [] := by
  cases t with
  | piece r => cases hpush; exact h
  | flags f => cases hpush; exact h
  | bar => cases hpush; exact h
  | quantifier min max =>
    rw [push] at hpush
    split at hpush <;> cases hpush
    exact h
  | opening f name =>
    rw [push] at hpush
    split at hpush <;> cases hpush
    exact List.cons_ne_nil _ _
  | closing => exact absurd rfl ht

theorem outer_ne_nil_of_step {s' : Reader} {rest : List Char} (h : s.Step cs s' rest)
    (hs : s.outer ≠ [] ∧ ')' ∉ cs) : s'.outer ≠ [] ∧ ')' ∉ rest := by
  obtain ⟨c, more, t, hskip, hnext, hpush⟩ := h
  have hsuffix := (skipSpace_suffix s.flags cs).1
  rw [hskip] at hsuffix
  have hc : c ≠ ')' := fun hc => hs.2 (hsuffix.subset (hc ▸ List.mem_cons_self))
  have ht := (next?_ordered hnext).resolve_left fun hclosing => hc hclosing.1
  have hrest := ((steady_next? s.flags c).suffix more _ hnext).trans
    ((List.suffix_cons c more).trans hsuffix)
  exact ⟨outer_ne_nil_of_push ht.1 hpush hs.1, fun hmem => hs.2 (hrest.subset hmem)⟩

theorem outer_ne_nil_of_read {e : Reader} (hcs : ')' ∉ cs) (hread : s.read cs = some e)
    (h : s.outer ≠ []) : e.outer ≠ [] := by
  obtain ⟨-, houter, -⟩ := read_induction (P := fun s cs => s.outer ≠ [] ∧ ')' ∉ cs)
    outer_ne_nil_of_step hread ⟨h, hcs⟩
  exact houter

/-- Reading comes to a parenthesis that closes no group of the text. -/
inductive Strays : Reader → List Char → Prop
  | here {s : Reader} {cs more : List Char} : skipSpace s.flags cs = ')' :: more → s.outer = [] →
      Strays s cs
  | later {s s' : Reader} {cs rest : List Char} : s.Step cs s' rest → Strays s' rest → Strays s cs

theorem Strays.read_eq_none (h : s.Strays cs) : s.read cs = none := by
  induction h with
  | here hskip houter =>
    rw [read_piece hskip]
    simp [Token.next?, push, houter]
  | later hstep _ ih => rw [hstep.read_eq, ih]

/-- What becomes of a text before a parenthesis, inside of groups that are open around it. -/
inductive Ending (s : Reader) (cs : List Char) : Prop
  /-- The text is read, and then the parenthesis. -/
  | kept (e : Reader) (alone : s.read cs = some e)
      (behind : ∀ around back, '\n' ∉ back →
        (s.within around).read (cs ++ ')' :: back) = (e.within around).read (')' :: back))
  /-- The text is read, and a comment at its end takes the parenthesis. -/
  | swallowed (e : Reader) (alone : s.read cs = some e)
      (behind : ∀ around back, '\n' ∉ back →
        (s.within around).read (cs ++ ')' :: back) = some (e.within around))
  /-- The text cannot be read, and what can be read with more behind it leaves a group open. -/
  | cut (alone : s.read cs = none)
      (behind : ∀ around back, around ≠ [] → '\n' ∉ back → ')' ∉ back →
        ∀ e ∈ (s.within around).read (cs ++ ')' :: back), e.outer ≠ [])

theorem Ending.of_step {s' : Reader} {rest : List Char} (h : s'.Ending rest)
    (halone : s.read cs = s'.read rest)
    (hbehind : ∀ around back,
      (s.within around).read (cs ++ ')' :: back) = (s'.within around).read (rest ++ ')' :: back)) :
    s.Ending cs := by
  cases h with
  | kept e alone behind =>
    exact .kept e (halone.trans alone) fun around back hback =>
      (hbehind around back).trans (behind around back hback)
  | swallowed e alone behind =>
    exact .swallowed e (halone.trans alone) fun around back hback =>
      (hbehind around back).trans (behind around back hback)
  | cut alone behind =>
    exact .cut (halone.trans alone) fun around back h1 h2 h3 e he =>
      behind around back h1 h2 h3 e (hbehind around back ▸ he)

theorem ending_of_next? {c : Char} {more : List Char} (h : ¬s.Strays cs)
    (hskip : skipSpace s.flags cs = c :: more)
    (hbehind : ∀ back, skipSpace s.flags (cs ++ ')' :: back) = c :: (more ++ ')' :: back))
    (hstep : ∀ s' rest, s.Step cs s' rest → s'.Ending rest) : s.Ending cs := by
  have halone := read_piece hskip
  have hread : ∀ around back, (s.within around).read (cs ++ ')' :: back) =
      (Token.next? s.flags c (more ++ ')' :: back)).bind fun r =>
        ((s.within around).push r.1).bind fun s' => s'.read r.2 :=
    fun around back => read_piece (hbehind back)
  have hpush : ∀ {r} around, Token.next? s.flags c more = some r →
      (s.within around).push r.1 = (s.push r.1).map fun s' => s'.within around := by
    intro r around hnext
    refine push_within around fun ht houter => ?_
    obtain ⟨rfl, -⟩ | ⟨hne, -⟩ := next?_ordered hnext
    · exact h (.here hskip houter)
    · exact hne ht
  cases (steady_next? s.flags c).before more with
  | kept t rest alone behind =>
    cases hs' : s.push t with
    | none =>
      refine .cut (by rw [halone, alone, Option.bind_some, hs']; rfl) ?_
      intro around back _ _ _ e he
      simp [hread, behind, hpush around alone, hs'] at he
    | some s' =>
      have hpiece : s.Step cs s' rest := ⟨c, more, t, hskip, alone, hs'⟩
      refine (hstep s' rest hpiece).of_step hpiece.read_eq fun around back => ?_
      simp [hread, behind, hpush around alone, hs']
  | swallowed t alone behind =>
    cases hs' : s.push t with
    | none =>
      refine .cut (by rw [halone, alone, Option.bind_some, hs']; rfl) ?_
      intro around back _ hback _ e he
      simp [hread, behind back hback, hpush around alone, hs'] at he
    | some s' =>
      have hend : ∀ s : Reader, s.read [] = some s := fun s => read_end rfl
      refine .swallowed s' (by rw [halone, alone, Option.bind_some, hs']; rfl) ?_
      intro around back hback
      simp [hread, behind back hback, hpush around alone, hs', hend]
  | cut alone behind =>
    refine .cut (by rw [halone, alone]; rfl) ?_
    intro around back haround hback hparen e he
    rw [hread] at he
    obtain ⟨r, hnext, he⟩ := Option.bind_eq_some_iff.mp he
    obtain ⟨s', hs', he⟩ := Option.bind_eq_some_iff.mp he
    have hrest := behind back hback r hnext
    -- a closing parenthesis is a piece by itself, so what is read here opens groups or keeps them
    obtain ⟨rfl, -⟩ | ⟨hne, -⟩ := next?_ordered hnext
    · cases alone
    · refine outer_ne_nil_of_read (fun hmem => hparen (hrest.subset hmem)) he ?_
      exact outer_ne_nil_of_push hne hs' (by simp [within, haround])

theorem ending (h : ¬s.Strays cs) : s.Ending cs := by
  induction hn : cs.length using Nat.strongRecOn generalizing s cs with
  | _ n ih =>
    subst hn
    cases (before_skipSpace s.flags cs).1 with
    | cut alone _ => cases alone
    | swallowed _ alone behind =>
      simp only [Option.some.injEq, Prod.mk.injEq, true_and] at alone behind
      exact .swallowed s (read_end alone) fun around back hback => read_end (behind back hback)
    | kept _ left alone behind =>
      simp only [Option.some.injEq, Prod.mk.injEq, true_and] at alone behind
      cases left with
      | nil =>
        refine .kept s (read_end alone) fun around back _ => read_skipSpace _ ?_
        rw [within_flags, behind, skipSpace_paren]
        rfl
      | cons c more =>
        refine ending_of_next? h alone behind fun s' rest hstep => ?_
        exact ih _ hstep.length_lt (fun hstrays => h (.later hstep hstrays)) rfl

end Reader

end Postroom.Pattern
