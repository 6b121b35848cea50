import Postroom.Configuration.Substitution
import Postroom.Proofs.Sequence

namespace Postroom.Configuration

open Text

/-- What is looked for behind a dollar sign: the text put for the sign and for what was found, and
the text left behind it. -/
structure Finder where
  find : List Char → Option (List Char × List Char)
  suffix : ∀ {cs new rest}, find cs = some (new, rest) → rest <:+ cs

namespace Finder

def rewriteFrom (f : Finder) : Nat → List Char → List Char
  | 0, cs => cs
  | _ + 1, [] => []
  | n + 1, c :: cs =>
    match if c = '$' then f.find cs else none with
    | some (new, rest) => new ++ f.rewriteFrom n rest
    | none => c :: f.rewriteFrom n cs

def rewrite (f : Finder) (cs : List Char) : List Char := f.rewriteFrom cs.length cs

def orElse (f g : Finder) : Finder where
  find cs := (f.find cs).or (g.find cs)
  suffix h := by
    obtain h | ⟨-, h⟩ := Option.or_eq_some_iff.mp h
    · exact f.suffix h
    · exact g.suffix h

variable (f : Finder)

theorem rewriteFrom_eq {m n : Nat} {cs : List Char} (hm : cs.length ≤ m) (hn : cs.length ≤ n) :
    f.rewriteFrom m cs = f.rewriteFrom n cs := by
  refine read_eq_of_length_le (fun m n => by cases m <;> cases n <;> rfl) (fun c cs => ?_) hm hn
  cases h : if c = '$' then f.find cs else none with
  | none => exact ⟨cs, (c :: ·), Nat.le_refl _, fun n => by rw [rewriteFrom, h]⟩
  | some hit =>
    have hrest : hit.2.length ≤ cs.length := by
      split at h
      · exact (f.suffix h).length_le
      · cases h
    exact ⟨hit.2, (hit.1 ++ ·), hrest, fun n => by rw [rewriteFrom, h]⟩

theorem rewrite_cons {c : Char} (hc : c ≠ '$') (cs : List Char) :
    f.rewrite (c :: cs) = c :: f.rewrite cs := by
  simp [rewrite, rewriteFrom, hc]

theorem rewrite_found {cs new rest : List Char} (h : f.find cs = some (new, rest)) :
    f.rewrite ('$' :: cs) = new ++ f.rewrite rest := by
  have hrest := f.rewriteFrom_eq (f.suffix h).length_le (Nat.le_refl _)
  simp [rewrite, rewriteFrom, h, hrest]

theorem rewrite_missed {cs : List Char} (h : f.find cs = none) :
    f.rewrite ('$' :: cs) = '$' :: f.rewrite cs := by
  simp [rewrite, rewriteFrom, h]

theorem rewrite_append {as : List Char} (has : '$' ∉ as) (cs : List Char) :
    f.rewrite (as ++ cs) = as ++ f.rewrite cs := by
  induction as with
  | nil => rfl
  | cons a as ih =>
    obtain ⟨ha, has⟩ : '$' ≠ a ∧ '$' ∉ as := by simpa using has
    rw [List.cons_append, f.rewrite_cons ha.symm, ih has, List.cons_append]

theorem induction {motive : List Char → Prop} (nil : motive [])
    (other : ∀ c cs, c ≠ '$' → motive cs → motive (c :: cs))
    (found : ∀ cs new rest, f.find cs = some (new, rest) → motive rest → motive ('$' :: cs))
    (missed : ∀ cs, f.find cs = none → motive cs → motive ('$' :: cs)) (cs : List Char) :
    motive cs := by
  induction hlen : cs.length using Nat.strongRecOn generalizing cs with
  | ind n ih =>
    subst hlen
    cases cs with
    | nil => exact nil
    | cons c cs =>
      have hcs : motive cs := ih cs.length (by simp) cs rfl
      by_cases hc : c = '$'
      · subst hc
        cases hfind : f.find cs with
        | none => exact missed cs hfind hcs
        | some hit =>
          have hrest := (f.suffix hfind).length_le
          exact found cs hit.1 hit.2 hfind (ih hit.2.length (by simp; omega) hit.2 rfl)
      · exact other c cs hc hcs

end Finder

def IsName (name : List Char) : Prop :=
  name.head?.any isNameStart = true ∧ ∀ c ∈ name, isNameChar c = true

theorem isNameChar_of_isNameStart {c : Char} (h : isNameStart c = true) : isNameChar c = true := by
  simp only [isNameStart, isNameChar, Char.isAlphanum, Bool.or_eq_true] at h ⊢
  exact h.imp_left .inl

theorem isWordChar_of_isNameChar {c : Char} (h : isNameChar c = true) : isWordChar c = true := by
  obtain ⟨ranges, hranges⟩ : ∃ ranges, wordChars =
      (0x30, 0x39) :: (0x41, 0x5a) :: (0x5f, 0x5f) :: (0x61, 0x7a) :: ranges := ⟨_, rfl⟩
  obtain h | rfl : c.isAlphanum = true ∨ c = '_' := by simpa [isNameChar] using h
  · have hcode : (65 ≤ c.toNat ∧ c.toNat ≤ 90 ∨ 97 ≤ c.toNat ∧ c.toNat ≤ 122) ∨
        48 ≤ c.toNat ∧ c.toNat ≤ 57 := by
      delta Char.isAlphanum Char.isAlpha Char.isUpper Char.isLower Char.isDigit at h
      simpa [UInt32.le_iff_toNat_le] using h
    simp only [isWordChar, hranges, Ranges.has, Bool.if_false_left, Bool.or_eq_true,
      Bool.and_eq_true, decide_eq_true_eq, Bool.not_eq_true', decide_eq_false_iff_not]
    omega
  · rfl

theorem isNameChar_eq_false {c : Char} (h : isWordChar c = false) : isNameChar c = false :=
  Bool.eq_false_iff.mpr fun hc => Bool.eq_false_iff.mp h (isWordChar_of_isNameChar hc)

theorem IsName.dollar_not_mem {name : List Char} (h : IsName name) : '$' ∉ name := fun hmem =>
  absurd (h.2 _ hmem) (by decide)

theorem name?_eq_some_iff {cs name rest : List Char} :
    name? cs = some (name, rest) ↔
      IsName name ∧ rest.head?.any isNameChar = false ∧ cs = name ++ rest := by
  constructor
  · intro h
    unfold name? at h
    split at h
    · rename_i hstart
      cases h
      refine ⟨⟨?_, ?_⟩, ?_, List.takeWhile_append_dropWhile.symm⟩
      · cases cs with
        | nil => simp at hstart
        | cons c cs =>
          simp only [List.head?_cons, Option.any_some] at hstart
          simpa [List.takeWhile_cons, isNameChar_of_isNameStart hstart] using hstart
      · exact List.all_eq_true.mp List.all_takeWhile
      · have hrest := List.head?_dropWhile_not isNameChar cs
        cases hd : (cs.dropWhile isNameChar).head? with
        | none => rfl
        | some c => simpa [hd] using hrest
    · cases h
  · rintro ⟨⟨hstart, hname⟩, hrest, rfl⟩
    have hstart' : (name ++ rest).head?.any isNameStart = true := by
      cases name with
      | nil => simp at hstart
      | cons c name => exact hstart
    rw [name?, if_pos hstart', takeWhile_append_stop hname hrest,
      dropWhile_append_stop hname hrest]

theorem name?_eq_none_iff {cs : List Char} :
    name? cs = none ↔ cs.head?.any isNameStart = false := by
  simp [name?]

theorem braced_reference?_eq_some_iff {cs name rest : List Char} :
    VariableForm.braced.reference? cs = some (name, rest) ↔
      IsName name ∧ cs = '\x7b' :: (name ++ '\x7d' :: rest) := by
  constructor
  · intro h
    unfold VariableForm.reference? at h
    split at h
    · rename_i ds hform
      split at h
      · rename_i hread
        cases h
        obtain ⟨hname, -, rfl⟩ := name?_eq_some_iff.mp hread
        exact ⟨hname, rfl⟩
      · cases h
    · cases h
    · rename_i hform
      cases hform
  · rintro ⟨hname, rfl⟩
    have hread : name? (name ++ '\x7d' :: rest) = some (name, '\x7d' :: rest) :=
      name?_eq_some_iff.mpr ⟨hname, rfl, rfl⟩
    simp [VariableForm.reference?, hread]

theorem bare_reference?_eq_some_iff {cs name rest : List Char} :
    VariableForm.bare.reference? cs = some (name, rest) ↔
      IsName name ∧ rest.head?.any isWordChar = false ∧ cs = name ++ rest := by
  constructor
  · intro h
    simp only [VariableForm.reference?] at h
    split at h
    · rename_i hread
      split at h
      · cases h
      · rename_i hword
        cases h
        obtain ⟨hname, -, rfl⟩ := name?_eq_some_iff.mp hread
        exact ⟨hname, Bool.eq_false_iff.mpr hword, rfl⟩
    · cases h
  · rintro ⟨hname, hword, rfl⟩
    have hrest : rest.head?.any isNameChar = false := by
      cases rest with
      | nil => rfl
      | cons c rest => exact isNameChar_eq_false hword
    have hread : name? (name ++ rest) = some (name, rest) :=
      name?_eq_some_iff.mpr ⟨hname, hrest, rfl⟩
    simp [VariableForm.reference?, hread, hword]

theorem bare_reference?_of_name? {g : List Char → List Char} {cs : List Char}
    (hnone : name? cs = none → name? (g cs) = none)
    (hsome : ∀ name rest, name? cs = some (name, rest) → name? (g cs) = some (name, g rest) ∧
      (g rest).head?.any isWordChar = rest.head?.any isWordChar) :
    VariableForm.bare.reference? (g cs) =
      (VariableForm.bare.reference? cs).map fun found => (found.1, g found.2) := by
  cases hname : name? cs with
  | none => simp [VariableForm.reference?, hname, hnone hname]
  | some found =>
    obtain ⟨hg, hword⟩ := hsome found.1 found.2 hname
    simp only [VariableForm.reference?, hname, hg, hword]
    split <;> rfl

section

variable (vars : List (String × String))

def VariableForm.value (form : VariableForm) (name : List Char) : List Char :=
  match vars.lookup (.ofList name) with
  | some v => v.toList
  | none => form.written name

theorem VariableForm.suffix_of_reference? {form : VariableForm} {cs name rest : List Char}
    (h : form.reference? cs = some (name, rest)) : rest <:+ cs := by
  cases form with
  | braced =>
    obtain ⟨-, rfl⟩ := braced_reference?_eq_some_iff.mp h
    exact ⟨'\x7b' :: (name ++ ['\x7d']), by simp⟩
  | bare =>
    obtain ⟨-, -, rfl⟩ := bare_reference?_eq_some_iff.mp h
    exact List.suffix_append name rest

def VariableForm.finder (form : VariableForm) : Finder where
  find cs := (form.reference? cs).map fun found => (form.value vars found.1, found.2)
  suffix h := by
    obtain ⟨found, hfound, heq⟩ := Option.map_eq_some_iff.mp h
    cases heq
    exact form.suffix_of_reference? hfound

theorem VariableForm.rewrite_reference {form : VariableForm} {cs name rest : List Char}
    (h : form.reference? cs = some (name, rest)) :
    (form.finder vars).rewrite ('$' :: cs) =
      form.value vars name ++ (form.finder vars).rewrite rest :=
  Finder.rewrite_found _ (by simp [finder, h])

theorem VariableForm.rewrite_no_reference {form : VariableForm} {cs : List Char}
    (h : form.reference? cs = none) :
    (form.finder vars).rewrite ('$' :: cs) = '$' :: (form.finder vars).rewrite cs :=
  Finder.rewrite_missed _ (by simp [finder, h])

theorem pass_eq_rewrite (form : VariableForm) (cs : List Char) :
    pass form vars cs = (form.finder vars).rewrite cs := by
  have hfuel : ∀ n cs, substituteForm form vars n cs = (form.finder vars).rewriteFrom n cs := by
    intro n
    induction n with
    | zero => intro cs; rfl
    | succ n ih =>
      intro cs
      cases cs with
      | nil => rfl
      | cons c cs =>
        simp only [substituteForm, Finder.rewriteFrom, VariableForm.finder, ih, beq_iff_eq]
        by_cases hc : c = '$'
        · simp only [hc, if_true]
          cases form.reference? cs <;> rfl
        · simp only [hc, if_false]
  exact hfuel cs.length cs

def eitherForm : Finder := (VariableForm.braced.finder vars).orElse (VariableForm.bare.finder vars)

/-- The text with each of its references replaced once, as they stand from left to right. -/
def once (text : String) : String := .ofList ((eitherForm vars).rewrite text.toList)

end

end Postroom.Configuration
