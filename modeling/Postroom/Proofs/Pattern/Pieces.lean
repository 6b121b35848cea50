import Postroom.Proofs.Pattern.Classes
import Postroom.Proofs.Pattern.Matching

namespace Postroom.Pattern

open Number Text

theorem steady_dropLazy : Steady fun cs => some ((), dropLazy cs) := by
  refine (Steady.after (w := ['?']) (by decide) (.done ()) (.done ())).congr fun cs => ?_
  rw [dropLazy.eq_def]
  split
  · rfl
  · rename_i hcs
    rw [after?_eq_none fun rest h => hcs rest h]

theorem steady_decimal? : Steady decimal? := by
  have hblank := steady_run (p := isBlank) (by decide)
  have hdigits := steady_run (p := Char.isDigit) (by decide)
  refine (hblank.bind fun _ => hdigits.bind fun digits => hblank.bind fun _ =>
    .option (if digits.isEmpty || 4294967295 < decimalValue digits then none
      else some (decimalValue digits)) id).congr fun cs => ?_
  simp only [decimal?, Option.bind_some]
  split <;> simp_all

theorem steady_quantifier (f : Flags) (t : Token) :
    Steady fun cs => some (t, dropLazy (skipSpace f cs)) :=
  (steady_skipSpace f).bind fun _ => steady_dropLazy.map fun _ => t

theorem steady_counted? (f : Flags) : Steady (counted? f) := by
  have hbounds : ∀ min max, Steady fun cs =>
      if min ≤ max then some (Token.quantifier min (some max), dropLazy (skipSpace f cs))
      else none := by
    intro min max
    split
    · exact steady_quantifier f _
    · exact .fail
  refine ((steady_skipSpace f).bind fun _ => steady_decimal?.bind fun min =>
    .after (w := ['\x7d']) (by decide) (steady_quantifier f (.quantifier min (some min))) <|
    .after (w := [',']) (by decide)
      ((steady_skipSpace f).bind fun _ =>
        .after (w := ['\x7d']) (by decide) (steady_quantifier f (.quantifier min none)) <|
        steady_decimal?.bind fun max => .after (w := ['\x7d']) (by decide) (hbounds min max) .fail)
      .fail).congr fun cs => ?_
  rw [counted?, Option.bind_some]
  cases decimal? (skipSpace f cs) with
  | none => rfl
  | some r =>
    obtain ⟨min, rest⟩ := r
    simp only [Option.bind_eq_bind, Option.bind_some]
    split
    · rfl
    · rename_i rest
      have hnone : after? ['\x7d'] (',' :: rest) = none := rfl
      have hsome : after? [','] (',' :: rest) = some rest := rfl
      rw [hnone, hsome]
      simp only
      generalize skipSpace f rest = rest
      split
      · rfl
      · rename_i hclose
        rw [after?_eq_none hclose]
        cases decimal? rest with
        | none => rfl
        | some r =>
          obtain ⟨max, rest⟩ := r
          simp only [Option.bind_some]
          split
          · rename_i hmax
            cases hmax
            rfl
          · rename_i hmax
            rw [after?_eq_none fun more hmore => hmax max more (by rw [hmore]; rfl)]
    · rename_i hclose hcomma
      rw [after?_eq_none hclose, after?_eq_none hcomma]

theorem steady_groupName? : Steady groupName? := by
  refine ((steady_until? (d := '>') (by decide)).bind fun name =>
    Steady.option (if isGroupName name then some (String.ofList name) else none) id).congr
      fun cs => ?_
  refine Option.bind_congr fun r _ => ?_
  split <;> rfl

theorem steady_flagLetters? (f : Flags) (seen : List Char) (on : Bool) :
    Steady fun cs => (flagLetters? f seen on cs).map fun r => ((r.1, r.2.1, r.2.2.1), r.2.2.2) := by
  constructor
  · intro cs
    induction cs generalizing f seen on with
    | nil => simp [flagLetters?]
    | cons c cs ih =>
      have hle := List.suffix_cons c cs
      rw [flagLetters?]
      split
      · split
        · simp
        · rintro r ⟨⟩
          exact hle
      · split
        · simp
        · split
          · exact fun r hr => (ih f _ _ r hr).trans hle
          · split
            · exact fun r hr => (ih _ _ _ r hr).trans hle
            · simp
  · intro cs
    induction cs generalizing f seen on with
    | nil =>
      refine .cut rfl fun back _ r hr => ?_
      by_cases hlast : (seen.head? == some '-') = true
      · simp [flagLetters?, hlast] at hr
      · simp only [List.nil_append, flagLetters?, hlast] at hr
        cases hr
        exact List.suffix_rfl
    | cons c cs ih =>
      have hfail : (∀ more, flagLetters? f seen on (c :: more) = none) → Before
          (fun cs => (flagLetters? f seen on cs).map fun r => ((r.1, r.2.1, r.2.2.1), r.2.2.2))
          (c :: cs) := fun h =>
        .cut (by simp [h]) fun back _ r hr => by simp [h] at hr
      by_cases hstop : (c == ':' || c == ')') = true
      · by_cases hlast : (seen.head? == some '-') = true
        · exact hfail fun more => by rw [flagLetters?, if_pos hstop, if_pos hlast]
        · have heq : ∀ more, flagLetters? f seen on (c :: more) = some (f, seen, c, more) :=
            fun more => by rw [flagLetters?, if_pos hstop, if_neg hlast]
          exact .kept (f, seen, c) cs (by rw [heq]; rfl)
            fun back => by rw [List.cons_append, heq]; rfl
      · by_cases hseen : seen.contains c = true
        · exact hfail fun more => by rw [flagLetters?, if_neg hstop, if_pos hseen]
        · by_cases hminus : (c == '-') = true
          · have heq : ∀ more, flagLetters? f seen on (c :: more) =
                flagLetters? f ('-' :: seen) false more :=
              fun more => by rw [flagLetters?, if_neg hstop, if_neg hseen, if_pos hminus]
            exact (ih f ('-' :: seen) false).congr (by simp [heq]) fun back => by simp [heq]
          · cases hput : f.put? c on with
            | none =>
              exact hfail fun more => by
                rw [flagLetters?, if_neg hstop, if_neg hseen, if_neg hminus, hput]
            | some g =>
              have heq : ∀ more, flagLetters? f seen on (c :: more) =
                  flagLetters? g (c :: seen) on more :=
                fun more => by rw [flagLetters?, if_neg hstop, if_neg hseen, if_neg hminus, hput]
              exact (ih g (c :: seen) on).congr (by simp [heq]) fun back => by simp [heq]

def flagsToken? : Flags × List Char × Char → Option Token
  | (g, seen, ')') => if seen.isEmpty then none else some (.flags g)
  | (g, _, _) => some (.opening g none)

theorem steady_group? (f : Flags) : Steady (group? f) := by
  have hname := steady_groupName?.map fun name => Token.opening f (some name)
  have hflags : Steady fun cs => ((flagLetters? f [] true cs).map fun r =>
      ((r.1, r.2.1, r.2.2.1), r.2.2.2)).bind fun r => (flagsToken? r.1).map fun t => (t, r.2) :=
    (steady_flagLetters? f [] true).bind fun x => .option (flagsToken? x) id
  refine ((steady_skipSpace f).bind fun _ =>
    .after (w := ['?', 'P', '<']) (by decide) hname <|
    .after (w := ['?', '<']) (by decide) hname <|
    .after (w := ['?']) (by decide) hflags <|
    .done (Token.opening f none)).congr fun cs => ?_
  rw [group?, Option.bind_some]
  generalize skipSpace f cs = cs
  split
  · rfl
  · rfl
  · rename_i rest hP hangle
    have hmark : after? ['?'] ('?' :: rest) = some rest := rfl
    rw [after?_eq_none fun more h => hP more (List.cons.inj h).2,
      after?_eq_none fun more h => hangle more (List.cons.inj h).2, hmark]
    simp only
    cases flagLetters? f [] true rest with
    | none => rfl
    | some r =>
      obtain ⟨g, seen, c, rest⟩ := r
      by_cases hc : c = ')'
      · subst hc
        simp only [Option.map_some, Option.bind_some, flagsToken?]
        split <;> rfl
      · simp [flagsToken?]
  · rename_i hP hangle hmark
    rw [after?_eq_none hP, after?_eq_none hangle, after?_eq_none hmark]

theorem steady_next? (f : Flags) (c : Char) : Steady (Token.next? f c) := by
  by_cases hc : c ∈ ['(', ')', '|', '[', '?', '*', '+', '\x7b', '.', '^', '$', '\\']
  · simp only [List.mem_cons, List.not_mem_nil, or_false] at hc
    obtain rfl | rfl | rfl | rfl | rfl | rfl | rfl | rfl | rfl | rfl | rfl | rfl := hc
    · exact steady_group? f
    · exact .done Token.closing
    · exact .done Token.bar
    · exact (steady_class f).map fun s => Token.piece (.one s)
    · exact steady_dropLazy.map fun _ => Token.quantifier 0 (some 1)
    · exact steady_dropLazy.map fun _ => Token.quantifier 0 none
    · exact steady_dropLazy.map fun _ => Token.quantifier 1 none
    · exact steady_counted? f
    · exact .option (dot? f) Token.piece
    · exact .done (Token.piece _)
    · exact .done (Token.piece _)
    · exact (steady_escape? f).map fun p => Token.piece (p.regex f)
  · refine (Steady.done (Token.piece (literal f c))).congr fun cs => ?_
    simp only [Token.next?]
    split <;> simp_all

/-- A piece by itself is in order, and so are the bounds of a quantifier. -/
def Token.Ordered : Token → Prop
  | .piece r => r.Ordered
  | .quantifier min max => ∀ m ∈ max, min ≤ m
  | _ => True

theorem counted?_ordered {f : Flags} {cs : List Char} {r : Token × List Char}
    (h : counted? f cs = some r) : r.1 ≠ .closing ∧ r.1.Ordered := by
  obtain ⟨⟨min, rest⟩, -, h⟩ := Option.bind_eq_some_iff.mp h
  simp only at h
  split at h
  · cases h
    exact ⟨nofun, by simp [Token.Ordered]⟩
  · split at h
    · cases h
      exact ⟨nofun, by simp [Token.Ordered]⟩
    · obtain ⟨⟨max, rest⟩, -, h⟩ := Option.bind_eq_some_iff.mp h
      split at h
      · split at h
        · rename_i hmax hle
          cases hmax
          cases h
          exact ⟨nofun, by simpa [Token.Ordered] using hle⟩
        · cases h
      · cases h
  · cases h

theorem group?_ordered {f : Flags} {cs : List Char} {r : Token × List Char}
    (h : group? f cs = some r) : r.1 ≠ .closing ∧ r.1.Ordered := by
  rw [group?] at h
  split at h
  · obtain ⟨q, -, rfl⟩ := Option.map_eq_some_iff.mp h
    exact ⟨nofun, trivial⟩
  · obtain ⟨q, -, rfl⟩ := Option.map_eq_some_iff.mp h
    exact ⟨nofun, trivial⟩
  · split at h
    · split at h
      · cases h
      · cases h
        exact ⟨nofun, trivial⟩
    · cases h
      exact ⟨nofun, trivial⟩
    · cases h
  · cases h
    exact ⟨nofun, trivial⟩

theorem dot?_ordered {f : Flags} {r : Regex} (h : dot? f = some r) : r.Ordered := by
  rw [dot?] at h
  split at h
  · cases h
  · split at h
    · cases h
      trivial
    · split at h
      · cases h
        trivial
      · cases h
        trivial

theorem next?_ordered {f : Flags} {c : Char} {cs : List Char} {r : Token × List Char}
    (h : Token.next? f c cs = some r) :
    c = ')' ∧ r = (.closing, cs) ∨ r.1 ≠ .closing ∧ r.1.Ordered := by
  rw [Token.next?.eq_def] at h
  split at h
  · exact .inr (group?_ordered h)
  · cases h
    exact .inl ⟨rfl, rfl⟩
  · cases h
    exact .inr ⟨nofun, trivial⟩
  · obtain ⟨q, -, rfl⟩ := Option.map_eq_some_iff.mp h
    exact .inr ⟨nofun, trivial⟩
  · cases h
    exact .inr ⟨nofun, by simp [Token.Ordered]⟩
  · cases h
    exact .inr ⟨nofun, by simp [Token.Ordered]⟩
  · cases h
    exact .inr ⟨nofun, by simp [Token.Ordered]⟩
  · exact .inr (counted?_ordered h)
  · obtain ⟨q, hq, rfl⟩ := Option.map_eq_some_iff.mp h
    exact .inr ⟨nofun, dot?_ordered hq⟩
  · cases h
    exact .inr ⟨nofun, trivial⟩
  · cases h
    exact .inr ⟨nofun, trivial⟩
  · obtain ⟨⟨p, rest⟩, -, rfl⟩ := Option.map_eq_some_iff.mp h
    refine .inr ⟨nofun, ?_⟩
    cases p <;> trivial
  · cases h
    exact .inr ⟨nofun, trivial⟩

end Postroom.Pattern
