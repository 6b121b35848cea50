import Mathlib.Logic.Basic
import Postroom.Proofs.Sequence
import Postroom.Property.Reference

namespace Postroom.Property

open Text

theorem length_of_reference? {cs rest : List Char} {piece : Piece}
    (h : reference? cs = some (piece, rest)) : rest.length < cs.length := by
  have hkey := length_dropWhile_le (p := fun c => c != '\x7d' && c != ':') cs
  unfold reference? at h
  simp only at h
  split at h
  · cases h
  · split at h
    · rename_i hdrop
      cases h
      rw [hdrop, List.length_cons] at hkey
      omega
    · rename_i more hdrop
      have hdefault := length_dropWhile_le (p := (· != '\x7d')) more
      rw [hdrop, List.length_cons] at hkey
      split at h
      · rename_i hmore
        cases h
        rw [hmore, List.length_cons] at hdefault
        omega
      · cases h
    · cases h

def Unopened (cs : List Char) : Prop := ∀ ds, cs = '$' :: '\x7b' :: ds → reference? ds = none

theorem opened_or_unopened (cs : List Char) :
    (∃ ds piece rest, cs = '$' :: '\x7b' :: ds ∧ reference? ds = some (piece, rest)) ∨
      Unopened cs := by
  by_cases h : Unopened cs
  · exact .inr h
  · simp only [Unopened, not_forall] at h
    obtain ⟨ds, hds, hr⟩ := h
    obtain ⟨⟨piece, rest⟩, hr⟩ := Option.ne_none_iff_exists'.mp hr
    exact .inl ⟨ds, piece, rest, hds, hr⟩

theorem piecesFrom_opened (n : Nat) {cs rest : List Char} {piece : Piece}
    (h : reference? cs = some (piece, rest)) :
    piecesFrom (n + 1) ('$' :: '\x7b' :: cs) = piece :: piecesFrom n rest := by
  simp [piecesFrom, h]

theorem piecesFrom_unopened (n : Nat) {c : Char} {cs : List Char} (h : Unopened (c :: cs)) :
    piecesFrom (n + 1) (c :: cs) = .literal c :: piecesFrom n cs := by
  rw [piecesFrom.eq_def]
  split
  · rename_i heq
    cases heq
  · rename_i heq
    cases heq
  · rename_i ds hn heq
    obtain ⟨rfl, rfl⟩ := List.cons.inj heq
    cases hn
    simp [h ds rfl]
  · rename_i hn heq
    cases heq
    cases hn
    rfl

theorem piecesFrom_eq {m n : Nat} {cs : List Char} (hm : cs.length ≤ m) (hn : cs.length ≤ n) :
    piecesFrom m cs = piecesFrom n cs := by
  refine read_eq_of_length_le (fun m n => by cases m <;> cases n <;> rfl) (fun c cs => ?_) hm hn
  obtain ⟨ds, piece, rest, hcs, hr⟩ | hcs := opened_or_unopened (c :: cs)
  · cases hcs
    have hrest := length_of_reference? hr
    exact ⟨rest, (piece :: ·), Nat.le_succ_of_le (Nat.le_of_lt hrest), fun n =>
      piecesFrom_opened n hr⟩
  · exact ⟨cs, (.literal c :: ·), Nat.le_refl _, fun n => piecesFrom_unopened n hcs⟩

def scan (cs : List Char) : List Piece := piecesFrom cs.length cs

theorem pieces_eq_scan (text : String) : pieces text = scan text.toList := by
  rw [pieces, scan, String.length_toList]

theorem scan_opened {cs rest : List Char} {piece : Piece}
    (h : reference? cs = some (piece, rest)) :
    scan ('$' :: '\x7b' :: cs) = piece :: scan rest := by
  have hrest := length_of_reference? h
  rw [scan, List.length_cons, piecesFrom_opened _ h, scan]
  rw [piecesFrom_eq (n := rest.length) (by simp only [List.length_cons]; omega) (Nat.le_refl _)]

theorem scan_unopened {c : Char} {cs : List Char} (h : Unopened (c :: cs)) :
    scan (c :: cs) = .literal c :: scan cs := by
  rw [scan, List.length_cons, piecesFrom_unopened _ h, scan]

theorem scan_append_of_not_infix {cs rest : List Char} (hcs : ¬ ['$', '\x7b'] <:+: cs)
    (hrest : rest.head? ≠ some '\x7b') : scan (cs ++ rest) = cs.map .literal ++ scan rest := by
  induction cs with
  | nil => rfl
  | cons c cs ih =>
    have hunopened : Unopened (c :: (cs ++ rest)) := by
      intro ds hds
      exfalso
      cases cs with
      | nil =>
        cases hds
        exact hrest rfl
      | cons d cs =>
        cases hds
        exact hcs ⟨[], cs, rfl⟩
    have htail : ¬ ['$', '\x7b'] <:+: cs := fun h => hcs (List.infix_cons h)
    rw [List.cons_append, scan_unopened hunopened, ih htail, List.map_cons, List.cons_append]

theorem reference?_of_not_mem {cs : List Char} (h : '\x7d' ∉ cs) : reference? cs = none := by
  have hdrop : ∀ p (ds rest : List Char), '\x7d' ∉ ds → ds.dropWhile p ≠ '\x7d' :: rest := by
    intro p ds rest hds heq
    exact hds ((List.dropWhile_suffix p).subset (heq ▸ List.mem_cons_self))
  unfold reference?
  simp only
  split
  · rfl
  · split
    · rename_i rest heq
      exact absurd heq (hdrop _ _ _ h)
    · rename_i more heq
      have hmore : '\x7d' ∉ more := fun hm =>
        h ((List.dropWhile_suffix _).subset (heq ▸ List.mem_cons_of_mem _ hm))
      split
      · rename_i rest heq
        exact absurd heq (hdrop _ _ _ hmore)
      · rfl
    · rfl

theorem scan_of_not_mem {cs : List Char} (h : '\x7d' ∉ cs) : scan cs = cs.map .literal := by
  induction cs with
  | nil => rfl
  | cons c cs ih =>
    have hunopened : Unopened (c :: cs) := by
      intro ds hds
      refine reference?_of_not_mem fun hmem => h ?_
      rw [hds]
      exact List.mem_cons_of_mem _ (List.mem_cons_of_mem _ hmem)
    rw [scan_unopened hunopened, ih fun hmem => h (List.mem_cons_of_mem c hmem), List.map_cons]

section

variable {key : List Char} (hne : key ≠ []) (hclosing : '\x7d' ∉ key) (hcolon : ':' ∉ key)

include hclosing hcolon in
theorem keyChars : ∀ c ∈ key, (c != '\x7d' && c != ':') = true := by
  intro c hc
  simp only [Bool.and_eq_true, bne_iff_ne]
  exact ⟨fun h => hclosing (h ▸ hc), fun h => hcolon (h ▸ hc)⟩

include hne hclosing hcolon

theorem reference?_key (rest : List Char) :
    reference? (key ++ '\x7d' :: rest) = some (.reference (trim (.ofList key)) none, rest) := by
  have hkey := keyChars hclosing hcolon
  unfold reference?
  rw [List.takeWhile_append_of_pos hkey, List.dropWhile_append_of_pos hkey]
  simp [hne]

theorem reference?_default {default : List Char} (hdefault : '\x7d' ∉ default)
    (rest : List Char) :
    reference? (key ++ ':' :: (default ++ '\x7d' :: rest)) =
      some (.reference (trim (.ofList key)) (some (.ofList default)), rest) := by
  have hkey := keyChars hclosing hcolon
  have hd : ∀ c ∈ default, (c != '\x7d') = true := fun c hc =>
    bne_iff_ne.mpr fun h => hdefault (h ▸ hc)
  unfold reference?
  rw [List.takeWhile_append_of_pos hkey, List.dropWhile_append_of_pos hkey]
  simp [hne, List.takeWhile_append_of_pos hd, List.dropWhile_append_of_pos hd]

end

end Postroom.Property
