import Postroom.Proofs.Property.References

namespace Postroom

open Property Text

/-- What a segment of an expression contributes to its value. -/
def Property.Segment.value (ls : Layers) (expression : String) :
    Segment → Except PropertyError String
  | .literal t => .ok t
  | .placeholder k d =>
    match ls.get (trim k) with
    | .error e => .error e
    | .ok (some v) => .ok v
    | .ok none =>
      match d with
      | some d => .ok d
      | none => .error (.unresolvable (trim k) expression)

namespace Layers

variable {ls : Layers}

theorem evaluateWith_key {key next : String} (hraw : ls.raw? key = some next) :
    (ls.evaluateWith (ls.referenceCount + 2) [key] next).map some = ls.get key := by
  simp only [get, hraw]

theorem get_eq_none_iff {key : String} : ls.get key = .ok none ↔ ls.contains key = false := by
  rw [not_contains_iff]
  cases hraw : ls.raw? key with
  | none => simp [get, hraw]
  | some text =>
    rw [← evaluateWith_key hraw]
    cases ls.evaluateWith (ls.referenceCount + 2) [key] text <;> simp [Except.map]

theorem pieceText_placeholder (e : String) {k : String} {d : Option String}
    (h : (Segment.placeholder k d).WellFormed) :
    ls.pieceText (ls.evaluateWith (ls.referenceCount + 2)) [] e (.reference (trim k) d) =
      Segment.value ls e (.placeholder k d) := by
  cases hraw : ls.raw? (trim k) with
  | none =>
    cases d with
    | none => simp only [pieceText, Segment.value, get, hraw]
    | some d =>
      rw [pieceText_default (Nat.succ_pos _) hraw (h.2.2.2 d rfl)]
      simp only [Segment.value, get, hraw]
  | some next =>
    rw [pieceText_held hraw List.not_mem_nil, List.nil_append]
    simp only [Segment.value, ← evaluateWith_key hraw]
    cases ls.evaluateWith (ls.referenceCount + 2) [trim k] next <;> rfl

theorem join_reference (nested : List String → String → Except PropertyError String)
    (chain : List String) (e key : String) (default : Option String) :
    ([Piece.reference key default].mapM (ls.pieceText nested chain e)).map String.join =
      ls.pieceText nested chain e (.reference key default) := by
  rw [join_mapM_cons]
  cases ls.pieceText nested chain e (.reference key default) <;>
    simp [Except.bind, Except.map, pure, Except.pure, String.join_nil]

theorem evaluate_text (ls : Layers) (e : Expression) :
    ls.evaluate e.text = (e.segments.mapM (Segment.value ls e.text)).map String.join := by
  rw [evaluate, evaluateWith_succ, e.pieces_text]
  refine join_mapM_flatMap ?_
  intro s hs
  cases s with
  | literal t => rw [Segment.pieces, join_literals, String.ofList_toList, Segment.value]
  | placeholder k d =>
    rw [Segment.pieces, join_reference, pieceText_placeholder _ (e.wellFormed _ hs)]

theorem evaluate_placeholder {k : String} (h : (Segment.placeholder k none).WellFormed)
    (hk : ls.contains (trim k) = true) :
    (ls.evaluate (Segment.placeholder k none).written).map some = ls.get (trim k) := by
  let e : Expression := ⟨[.placeholder k none], by simpa using h, .singleton _⟩
  have htext : e.text = (Segment.placeholder k none).written := by simp [e, Expression.text]
  rw [← htext, evaluate_text ls e, join_mapM_cons, Segment.value]
  cases hget : ls.get (trim k) with
  | error err => rfl
  | ok v =>
    cases v with
    | none =>
      rw [get_eq_none_iff, hk] at hget
      cases hget
    | some v => simp [Except.bind, Except.map, pure, Except.pure]

/-- The value of an expression is made of its segments in their order, up to the first that has
none. A reference contributes what looking up its key gives, and its default, which stands for
itself, only where the key is not held. So an expression that is one reference has the value, or
the error, of its key without the white space around it. -/
theorem evaluate_by_segments (ls : Layers) (e : Expression) :
    ls.evaluate e.text = (e.segments.mapM (Segment.value ls e.text)).map String.join ∧
    (∀ key, ls.get key = .ok none ↔ ls.contains key = false) ∧
    (∀ chain d, '\x7d' ∉ d.toList → ∀ fuel, ls.evaluateWith (fuel + 1) chain d = .ok d) ∧
    ∀ k key, (Segment.placeholder k none).WellFormed → trim k = key → ls.contains key = true →
      (ls.evaluate (Segment.placeholder k none).written).map some = ls.get key := by
  refine ⟨evaluate_text ls e, fun key => get_eq_none_iff,
    fun chain d hd fuel => evaluateWith_of_not_mem fuel chain hd, ?_⟩
  rintro k key hform rfl hk
  exact evaluate_placeholder hform hk

theorem evaluate_by_segments_cycle :
    let ls : Layers := .ofList [.table "app" [("a", "$\x7b b \x7d"), ("b", "$\x7ba:x\x7d")]]
    let e : Expression := ⟨[.literal "cost: $", .placeholder "z\x7b" (some "$\x7b0"),
      .placeholder " a" none, .literal "!"], by decide +kernel, by decide⟩
    e.text = "cost: $$\x7bz\x7b:$\x7b0\x7d$\x7b a\x7d!" ∧
      ls.evaluate e.text = .error (.circular ["a", "b", "a"]) ∧
      (Segment.placeholder " a" none).WellFormed ∧ trim " a" = "a" ∧ ls.contains "a" = true ∧
      (ls.evaluate "$\x7b a\x7d").map some = ls.get "a" := by
  intro ls e
  have hform : (Segment.placeholder " a" none).WellFormed := by decide +kernel
  have htrim : trim " a" = "a" := by decide +kernel
  have hk : ls.contains "a" = true := by decide +kernel
  obtain ⟨hvalue, -, -, hkey⟩ := evaluate_by_segments ls e
  have hcircular : (e.segments.mapM (Segment.value ls e.text)).map String.join =
      .error (.circular ["a", "b", "a"]) := by decide +kernel
  exact ⟨by decide +kernel, hvalue.trans hcircular, hform, htrim, hk, hkey " a" "a" hform htrim hk⟩

/-- A key that is held with white space around it is not what a reference to it asks for. -/
theorem evaluate_ne_get_of_blank :
    let ls : Layers := .ofList [.table "app" [(" a ", "1")]]
    (Segment.placeholder " a " none).WellFormed ∧ ls.contains " a " = true ∧
      ls.evaluate (Segment.placeholder " a " none).written =
        .error (.unresolvable "a" "$\x7b a \x7d") ∧
      ls.get " a " = .ok (some "1") ∧
      (ls.evaluate (Segment.placeholder " a " none).written).map some ≠ ls.get " a " := by
  decide +kernel

end Layers

end Postroom
