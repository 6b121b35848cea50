import Postroom.Proofs.Property.Segments

namespace Postroom

namespace Layers

open Property Relation

/-- The keys of a chain are held, each is referred to in the stored text of the one before it, and
the last is the first to occur a second time. -/
structure Cycle (ls : Layers) (k : String) (chain : List String) : Prop where
  starts : chain.head? = some k
  held : ∀ c ∈ chain, ls.contains c = true
  linked : chain.IsChain fun a b => ∃ text default, ls.raw? a = some text ∧ Holds text b default
  closes : ∃ front last, chain = front ++ [last] ∧ front.Nodup ∧ last ∈ front

/-- A key that is not held is referred to without a default, in a stored text that references lead
to from `k`. -/
structure Dangling (ls : Layers) (k key expression : String) : Prop where
  unheld : ls.contains key = false
  reached : ∃ c, ReflTransGen ls.Refers k c ∧ ls.raw? c = some expression
  refers : Holds expression key none

def Explains (ls : Layers) (k : String) : PropertyError → Prop
  | .circular chain => ls.Cycle k chain
  | .unresolvable key expression => ls.Dangling k key expression
  | .invalid _ _ _ => False

variable {ls : Layers} {k a : String} {chain : List String}

/-- The chain is a path of references from `k` to `a`. -/
structure Trail (ls : Layers) (k : String) (chain : List String) (a : String) : Prop where
  starts : chain.head? = some k
  ends : chain.getLast? = some a
  linked : chain.IsChain ls.Refers
  held : ∀ c ∈ chain, ls.contains c = true
  reached : ReflTransGen ls.Refers k a

theorem trail_start (hk : ls.contains k = true) : ls.Trail k [k] k where
  starts := rfl
  ends := rfl
  linked := .singleton k
  held := by simpa using hk
  reached := .refl

theorem Trail.extend {b : String} (h : ls.Trail k chain a) (hab : ls.Refers a b) :
    ls.Trail k (chain ++ [b]) b where
  starts := by rw [List.head?_append, h.starts, Option.some_or]
  ends := List.getLast?_concat
  linked := by
    refine List.isChain_append.mpr ⟨h.linked, .singleton b, ?_⟩
    rintro c hc d hd
    rw [h.ends] at hc
    cases hc
    cases hd
    exact hab
  held := by
    intro c hc
    obtain hc | hc := List.mem_append.mp hc
    · exact h.held c hc
    · exact List.mem_singleton.mp hc ▸ hab.1
  reached := h.reached.tail hab

theorem Trail.cycle {b : String} (h : ls.Trail k chain a) (hnodup : chain.Nodup)
    (hab : ls.Refers a b) (hb : b ∈ chain) : ls.Cycle k (chain ++ [b]) where
  starts := (h.extend hab).starts
  held := (h.extend hab).held
  linked := by
    refine (h.extend hab).linked.imp ?_
    rintro c d ⟨-, text, default, hc, hd⟩
    exact ⟨text, default, hc, holds_of_mem hd⟩
  closes := ⟨chain, b, rfl, hnodup, hb⟩

theorem Trail.explains {fuel : Nat} {text : String} {e : PropertyError} (h : ls.Trail k chain a)
    (hbounded : ls.Bounded fuel chain) (ha : ls.raw? a = some text)
    (he : ls.evaluateWith fuel chain text = .error e) : ls.Explains k e := by
  induction fuel generalizing chain a text with
  | zero => exact absurd hbounded.one_lt (Nat.not_lt_zero 1)
  | succ fuel ih =>
    rw [evaluateWith_succ] at he
    cases hp : (pieces text).mapM (ls.pieceText (ls.evaluateWith fuel) chain text) with
    | ok parts =>
      rw [hp] at he
      cases he
    | error e' =>
      rw [hp] at he
      cases he
      obtain ⟨front, piece, back, hsplit, -, hpiece⟩ := split_of_mapM_error hp
      have hmem : piece ∈ pieces text := by simp [hsplit]
      cases piece with
      | literal c => cases hpiece
      | reference key default =>
        cases hraw : ls.raw? key with
        | some next =>
          have hab : ls.Refers a key :=
            ⟨contains_iff.mpr ⟨next, hraw⟩, text, default, ha, hmem⟩
          by_cases hkey : key ∈ chain
          · simp only [pieceText, hraw, List.contains_iff_mem, hkey, if_true] at hpiece
            cases hpiece
            exact h.cycle hbounded.nodup hab hkey
          · rw [pieceText_held hraw hkey] at hpiece
            exact ih (h.extend hab) (hbounded.extend hkey (mem_referred ha hmem)) hraw hpiece
        | none =>
          cases default with
          | some d =>
            have hfuel : 0 < fuel := Nat.lt_of_succ_lt_succ hbounded.one_lt
            rw [pieceText_default hfuel hraw (not_mem_default hmem)] at hpiece
            cases hpiece
          | none =>
            simp only [pieceText, hraw] at hpiece
            cases hpiece
            exact ⟨not_contains_iff.mpr hraw, ⟨a, h.reached, ha⟩, holds_of_mem hmem⟩

/-- A cycle that is reported is there, and so is a reference that is reported as unresolved; there
are no other errors. -/
theorem get_error_explained {e : PropertyError} (he : ls.get k = .error e) : ls.Explains k e := by
  cases hraw : ls.raw? k with
  | none => simp [get, hraw] at he
  | some text =>
    have hk : ls.contains k = true := contains_iff.mpr ⟨text, hraw⟩
    simp only [get, hraw] at he
    cases hvalue : ls.evaluateWith (ls.referenceCount + 2) [k] text with
    | ok v =>
      rw [hvalue] at he
      cases he
    | error e' =>
      rw [hvalue] at he
      cases he
      exact (trail_start hk).explains (bounded_key ls k) hraw hvalue

/-- Two references before the one that leads into the cycle have a value, one of them by way of a
key that the cycle refers to as well; the last reference of another key is to a key that is not
held. -/
theorem get_error_explained_siblings :
    let ls : Layers := .ofList [.table "app" [("a", "$\x7bb\x7d$\x7bx:\x7d$\x7b d \x7d"),
      ("b", "$\x7bc\x7d"), ("c", "1"), ("d", "$\x7bc\x7d$\x7be:0\x7d"), ("e", "$\x7bd\x7d"),
      ("f", "$\x7bb\x7d$\x7bg\x7d"), ("g", "$\x7bc\x7d $\x7bh\x7d")]]
    (ls.get "a" = .error (.circular ["a", "d", "e", "d"]) ∧ ls.Cycle "a" ["a", "d", "e", "d"]) ∧
      ls.get "f" = .error (.unresolvable "h" "$\x7bc\x7d $\x7bh\x7d") ∧
      ls.Dangling "f" "h" "$\x7bc\x7d $\x7bh\x7d" := by
  intro ls
  have ha : ls.get "a" = .error (.circular ["a", "d", "e", "d"]) := by decide +kernel
  have hf : ls.get "f" = .error (.unresolvable "h" "$\x7bc\x7d $\x7bh\x7d") := by decide +kernel
  exact ⟨⟨ha, get_error_explained ha⟩, hf, get_error_explained hf⟩

end Layers

end Postroom
