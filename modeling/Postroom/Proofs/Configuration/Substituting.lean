import Mathlib.Data.List.Infix
import Postroom.Proofs.Configuration.Scanning

namespace Postroom.Configuration

open Text

section

variable (vars : List (String × String))

/-- A value in which nothing is replaced, whatever follows it. -/
def settled : List Char → Bool
  | [] => true
  | c :: cs =>
    (c != '$' || cs != [] && (VariableForm.bare.reference? cs).all fun found =>
      found.2 != [] && (vars.lookup (.ofList found.1)).isNone) && settled cs

def inserted? : List Char → Option (List Char)
  | '$' :: cs => (VariableForm.braced.reference? cs).bind fun found =>
      (vars.lookup (.ofList found.1)).map String.toList
  | _ => none

/-- The characters that would go on with a dollar sign at the start of a text, or with the name
behind it, and the text that stands there. -/
def seam? : List Char → Option ((Char → Bool) × List Char)
  | '$' :: cs =>
    match name? cs with
    | some (_, rest) => some (isWordChar, rest)
    | none => some (isNameStart, cs)
  | _ => none

/-- No value put for a braced reference of a text is read again or goes on with what is around. -/
structure Apart (cs : List Char) : Prop where
  settled : ∀ ds, ds <:+ cs → ∀ v ∈ inserted? vars ds, settled vars v = true
  seams : ∀ ds, ds <:+ cs → ∀ seam ∈ seam? ds, ∀ v ∈ inserted? vars seam.2,
    v.head?.any (!seam.1 ·) = true

instance (cs : List Char) : Decidable (Apart vars cs) :=
  decidable_of_iff
    ((∀ ds ∈ cs.tails, ∀ v ∈ inserted? vars ds, Configuration.settled vars v = true) ∧
      ∀ ds ∈ cs.tails, ∀ seam ∈ seam? ds, ∀ v ∈ inserted? vars seam.2,
        v.head?.any (!seam.1 ·) = true)
    (by
      simp only [List.mem_tails]
      exact ⟨fun h => ⟨h.1, h.2⟩, fun h => ⟨h.settled, h.seams⟩⟩)

variable {vars}

theorem Apart.of_suffix {cs ds : List Char} (h : Apart vars cs) (hds : ds <:+ cs) :
    Apart vars ds :=
  ⟨fun es hes => h.settled es (hes.trans hds), fun es hes => h.seams es (hes.trans hds)⟩

theorem bare_reference?_append {v : List Char} (hne : v ≠ [])
    (hends : ∀ name, VariableForm.bare.reference? v ≠ some (name, [])) (rest : List Char) :
    VariableForm.bare.reference? (v ++ rest) =
      (VariableForm.bare.reference? v).map fun found => (found.1, found.2 ++ rest) := by
  refine bare_reference?_of_name? (g := (· ++ rest)) ?_ ?_
  · intro hnone
    rw [name?_eq_none_iff] at hnone ⊢
    rw [List.head?_append_of_ne_nil _ hne]
    exact hnone
  · intro name left hname
    obtain ⟨hn, hleft, rfl⟩ := name?_eq_some_iff.mp hname
    have hleftne : left ≠ [] := by
      rintro rfl
      exact hends name (bare_reference?_eq_some_iff.mpr ⟨hn, rfl, rfl⟩)
    have hhead : (left ++ rest).head? = left.head? := List.head?_append_of_ne_nil _ hleftne
    refine ⟨name?_eq_some_iff.mpr ⟨hn, hhead ▸ hleft, List.append_assoc ..⟩, ?_⟩
    rw [hhead]

theorem rewrite_settled {v : List Char} (h : settled vars v = true) (rest : List Char) :
    (VariableForm.bare.finder vars).rewrite (v ++ rest) =
      v ++ (VariableForm.bare.finder vars).rewrite rest := by
  induction v with
  | nil => rfl
  | cons c v ih =>
    simp only [settled, Bool.and_eq_true, Bool.or_eq_true, bne_iff_ne, Option.all_eq_true,
      Option.isNone_iff_eq_none] at h
    obtain ⟨hc, hv⟩ := h
    rw [List.cons_append]
    by_cases hdollar : c = '$'
    · subst hdollar
      obtain ⟨hne, hunset⟩ := hc.resolve_left fun hne => hne rfl
      have hread := bare_reference?_append hne
        (fun name hname => (hunset _ hname).1 rfl) rest
      cases hfound : VariableForm.bare.reference? v with
      | none =>
        rw [hfound] at hread
        rw [VariableForm.rewrite_no_reference vars hread, ih hv, List.cons_append]
      | some found =>
        -- the variable is not set: its name is copied, with or without the reference
        obtain ⟨hname, -, hcut⟩ := bare_reference?_eq_some_iff.mp hfound
        have hvalue : VariableForm.bare.value vars found.1 = '$' :: found.1 := by
          simp [VariableForm.value, (hunset _ hfound).2, VariableForm.written]
        have hcopied := (VariableForm.bare.finder vars).rewrite_append hname.dollar_not_mem
          (found.2 ++ rest)
        rw [hfound] at hread
        rw [VariableForm.rewrite_reference vars hread, hvalue, List.cons_append, ← hcopied,
          ← List.append_assoc, ← hcut, ih hv, List.cons_append]
    · rw [Finder.rewrite_cons _ hdollar, ih hv, List.cons_append]

theorem rewrite_value {name : List Char} (hname : IsName name)
    (h : ∀ v, vars.lookup (.ofList name) = some v → settled vars v.toList = true)
    (rest : List Char) :
    (VariableForm.bare.finder vars).rewrite (VariableForm.braced.value vars name ++ rest) =
      VariableForm.braced.value vars name ++ (VariableForm.bare.finder vars).rewrite rest := by
  cases hset : vars.lookup (.ofList name) with
  | some v =>
    simp only [VariableForm.value, hset]
    exact rewrite_settled (h v hset) rest
  | none =>
    have hbrace : '$' ∉ '\x7b' :: (name ++ ['\x7d']) := by
      simp [hname.dollar_not_mem]
    have hmissed :
        VariableForm.bare.reference? ('\x7b' :: (name ++ ['\x7d']) ++ rest) = none := rfl
    simp only [VariableForm.value, hset]
    calc (VariableForm.bare.finder vars).rewrite
          ('$' :: ('\x7b' :: (name ++ ['\x7d']) ++ rest))
        = '$' :: (VariableForm.bare.finder vars).rewrite ('\x7b' :: (name ++ ['\x7d']) ++ rest) :=
          VariableForm.rewrite_no_reference vars hmissed
      _ = '$' :: ('\x7b' :: (name ++ ['\x7d']) ++ (VariableForm.bare.finder vars).rewrite rest) := by
          rw [Finder.rewrite_append _ hbrace]

theorem any_head?_rewrite_braced {p : Char → Bool} (hp : p '$' = false) {cs : List Char}
    (h : ∀ v ∈ inserted? vars cs, v.head?.any (!p ·) = true) :
    ((VariableForm.braced.finder vars).rewrite cs).head?.any p = cs.head?.any p := by
  cases cs with
  | nil => rfl
  | cons c cs =>
    by_cases hc : c = '$'
    · subst hc
      cases hfound : VariableForm.braced.reference? cs with
      | none =>
        rw [VariableForm.rewrite_no_reference vars hfound]
        rfl
      | some found =>
        rw [VariableForm.rewrite_reference vars hfound]
        cases hset : vars.lookup (.ofList found.1) with
        | none => simp [VariableForm.value, hset, VariableForm.written]
        | some v =>
          have hv := h v.toList (by simp [inserted?, hfound, hset])
          cases hchars : v.toList with
          | nil => simp [hchars] at hv
          | cons d ds =>
            have hd : p d = false := by simpa [hchars] using hv
            simp [VariableForm.value, hset, hchars, hd, hp]
    · rw [Finder.rewrite_cons _ hc]
      rfl

theorem bare_reference?_rewrite_braced {cs : List Char} (h : Apart vars ('$' :: cs)) :
    VariableForm.bare.reference? ((VariableForm.braced.finder vars).rewrite cs) =
      (VariableForm.bare.reference? cs).map fun found =>
        (found.1, (VariableForm.braced.finder vars).rewrite found.2) := by
  have hseam := h.seams _ List.suffix_rfl
  refine bare_reference?_of_name? ?_ ?_
  · intro hnone
    have hhead := any_head?_rewrite_braced (p := isNameStart) rfl
      (hseam (isNameStart, cs) (by simp [seam?, hnone]))
    rw [name?_eq_none_iff, hhead, ← name?_eq_none_iff]
    exact hnone
  · intro name rest hname
    have hput : ∀ v ∈ inserted? vars rest, v.head?.any (!isWordChar ·) = true :=
      hseam (isWordChar, rest) (by simp [seam?, hname])
    have hput' : ∀ v ∈ inserted? vars rest, v.head?.any (!isNameChar ·) = true := by
      intro v hv
      obtain ⟨c, hc, hnot⟩ := (Option.any_eq_true _ _).mp (hput v hv)
      have hchar : isNameChar c = false := isNameChar_eq_false (Bool.not_eq_true' _ ▸ hnot)
      exact (Option.any_eq_true _ _).mpr ⟨c, hc, by rw [hchar, Bool.not_false]⟩
    have hword := any_head?_rewrite_braced (p := isWordChar) rfl hput
    have hchar := any_head?_rewrite_braced (p := isNameChar) rfl hput'
    obtain ⟨hn, hrest, rfl⟩ := name?_eq_some_iff.mp hname
    rw [Finder.rewrite_append _ hn.dollar_not_mem]
    exact ⟨name?_eq_some_iff.mpr ⟨hn, hchar.trans hrest, rfl⟩, hword⟩

/-- One pass after the other is the replacement at once, by induction on what the replacement at
once has yet to read. -/
theorem rewrite_rewrite {cs : List Char} (h : Apart vars cs) :
    (VariableForm.bare.finder vars).rewrite ((VariableForm.braced.finder vars).rewrite cs) =
      (eitherForm vars).rewrite cs := by
  induction cs using (eitherForm vars).induction with
  | nil => rfl
  | other c cs hc ih =>
    simp only [Finder.rewrite_cons _ hc, ih (h.of_suffix (List.suffix_cons c cs))]
  | found cs new rest hfind ih =>
    have hrest : rest <:+ '$' :: cs := ((eitherForm vars).suffix hfind).trans (List.suffix_cons _ cs)
    rw [Finder.rewrite_found _ hfind, ← ih (h.of_suffix hrest)]
    obtain hbraced | ⟨hbraced, hbare⟩ := Option.or_eq_some_iff.mp hfind
    · -- a braced reference: the second pass copies what the first has put for it
      obtain ⟨⟨name, rest⟩, hread, heq⟩ := Option.map_eq_some_iff.mp hbraced
      cases heq
      have hname := (braced_reference?_eq_some_iff.mp hread).1
      have hsettled : ∀ v, vars.lookup (.ofList name) = some v → settled vars v.toList = true :=
        fun v hv => h.settled _ List.suffix_rfl v.toList (by simp [inserted?, hread, hv])
      rw [VariableForm.rewrite_reference vars hread, rewrite_value hname hsettled]
    · -- a bare reference: the second pass still finds it in what the first has left
      obtain ⟨⟨name, rest⟩, hread, heq⟩ := Option.map_eq_some_iff.mp hbare
      cases heq
      have hkept := bare_reference?_rewrite_braced h
      rw [hread] at hkept
      rw [VariableForm.rewrite_no_reference vars (Option.map_eq_none_iff.mp hbraced),
        VariableForm.rewrite_reference vars hkept]
  | missed cs hfind ih =>
    rw [Finder.rewrite_missed _ hfind]
    obtain ⟨hbraced, hbare⟩ := Option.or_eq_none_iff.mp hfind
    have hkept := bare_reference?_rewrite_braced h
    rw [Option.map_eq_none_iff.mp hbare] at hkept
    rw [VariableForm.rewrite_no_reference vars (Option.map_eq_none_iff.mp hbraced),
      VariableForm.rewrite_no_reference vars hkept, ih (h.of_suffix (List.suffix_cons _ cs))]

end

/-- Where the values put for braced references stay apart, substitution replaces each reference of
the text once and reads no value again. -/
theorem substitute_eq_once {vars : List (String × String)} {text : String}
    (h : Apart vars text.toList) : substitute vars text = once vars text := by
  rw [substitute, once, pass_eq_rewrite, pass_eq_rewrite, rewrite_rewrite h]

/-- A value behind a name, a price behind a dollar sign, a reference to nothing, and values that look
like references. -/
theorem substitute_eq_once_address :
    let vars := [("USER", "$x"), ("KEY", ":a$9$b."), ("NEXT", "$\x7bKEY\x7d"), ("PRICE", "5$ ")]
    let text := "$USER$\x7bKEY\x7d@$\x7bHOST\x7d$NEXT-$$\x7bPRICE\x7dé$USERé"
    Apart vars text.toList ∧ substitute vars text = once vars text ∧
      once vars text = "$x:a$9$b.@$\x7bHOST\x7d$\x7bKEY\x7d-$5$ é$USERé" := by
  intro vars text
  have hapart : Apart vars text.toList := by decide +kernel
  exact ⟨hapart, substitute_eq_once hapart, by decide +kernel⟩

/-- A value beside a name goes on with it, and a value put for a braced reference is read again. -/
theorem substitute_ne_once :
    (substitute [("A", "1"), ("B", "C")] "$A$\x7bB\x7d" = "$AC" ∧
      once [("A", "1"), ("B", "C")] "$A$\x7bB\x7d" = "1C") ∧
    substitute [("A", "1"), ("P", "$A")] "$\x7bP\x7d" = "1" ∧
      once [("A", "1"), ("P", "$A")] "$\x7bP\x7d" = "$A" := by
  decide +kernel

end Postroom.Configuration
