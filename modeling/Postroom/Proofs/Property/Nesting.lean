import Postroom.Proofs.Property.Segments

namespace Postroom

namespace Property

/-- A part of an expression whose defaults are expressions of their own, nested to any depth. -/
inductive Part
  | literal (text : String)
  | reference (key : String)
  | withDefault (key : String) (default : List Part)

namespace Part

def isLiteral : Part → Bool
  | literal _ => true
  | _ => false

mutual

def written : Part → String
  | literal t => t
  | reference k => "$\x7b" ++ k ++ "\x7d"
  | withDefault k ps => "$\x7b" ++ k ++ ":" ++ text ps ++ "\x7d"

def text : List Part → String
  | [] => ""
  | p :: ps => written p ++ text ps

end

/-- Literals hold no braces, and the keys of references can be read as keys. -/
inductive WellFormed : Part → Prop
  | literal {t : String} : '\x7b' ∉ t.toList → '\x7d' ∉ t.toList → WellFormed (literal t)
  | reference {k : String} : (Segment.placeholder k none).WellFormed → WellFormed (reference k)
  | withDefault {k : String} {ps : List Part} : (Segment.placeholder k none).WellFormed →
      (∀ p ∈ ps, WellFormed p) → WellFormed (withDefault k ps)

theorem WellFormed.mem_written_iff {p : Part} (h : p.WellFormed) :
    '\x7d' ∈ p.written.toList ↔ p.isLiteral = false := by
  cases h with
  | literal _ hclosing => simpa [written, isLiteral] using hclosing
  | reference _ => simp [written, isLiteral]
  | withDefault _ _ => simp [written, isLiteral]

theorem mem_text_iff {ps : List Part} (hps : ∀ p ∈ ps, p.WellFormed) :
    '\x7d' ∈ (text ps).toList ↔ ∃ p ∈ ps, p.isLiteral = false := by
  induction ps with
  | nil => simp [text]
  | cons p ps ih =>
    have hp := (hps p List.mem_cons_self).mem_written_iff
    have hrest := ih fun q hq => hps q (List.mem_cons_of_mem p hq)
    simp only [text, String.toList_append, List.mem_append, hp, hrest, List.mem_cons,
      exists_eq_or_imp]

end Part

end Property

def PropertyError.atKey : PropertyError → PropertyError
  | unresolvable key _ => unresolvable key ""
  | e => e

namespace Layers

open Property Text

variable {ls : Layers}

/-- The same value, or an error of the same kind about the same keys. -/
def Same (r s : Except PropertyError String) : Prop :=
  r.mapError PropertyError.atKey = s.mapError PropertyError.atKey

theorem Same.map {r s : Except PropertyError String} (h : Same r s) (f : String → String) :
    Same (r.map f) (s.map f) := by
  cases r <;> cases s <;> simp_all [Same, Except.map, Except.mapError]

theorem same_bind {r s : Except PropertyError String} (h : Same r s)
    {f g : String → Except PropertyError String} (hfg : ∀ v, Same (f v) (g v)) :
    Same (r.bind f) (s.bind g) := by
  cases r <;> cases s <;> simp_all [Same, Except.bind, Except.mapError]

theorem pieceText_same (nested : List String → String → Except PropertyError String)
    (chain : List String) (e e' : String) (piece : Piece) :
    Same (ls.pieceText nested chain e piece) (ls.pieceText nested chain e' piece) := by
  cases piece with
  | literal c => rfl
  | reference key default =>
    simp only [pieceText]
    split
    · rfl
    · cases default <;> rfl

theorem pieces_same (nested : List String → String → Except PropertyError String)
    (chain : List String) (e e' : String) (ps : List Piece) :
    Same ((ps.mapM (ls.pieceText nested chain e)).map String.join)
      ((ps.mapM (ls.pieceText nested chain e')).map String.join) := by
  induction ps with
  | nil => rfl
  | cons p ps ih =>
    rw [join_mapM_cons, join_mapM_cons]
    exact same_bind (pieceText_same nested chain e e' p) fun v => ih.map _

section

variable {k : String} (hk : (Segment.placeholder k none).WellFormed)
  (hunheld : ls.contains (trim k) = false)

include hk hunheld

theorem evaluate_front {front : String} (hfront : '\x7d' ∉ front.toList) (rest : String) :
    Same (ls.evaluate ("$\x7b" ++ k ++ ":" ++ front ++ "\x7d" ++ rest))
      ((ls.evaluate rest).map (front ++ ·)) := by
  have hform : (Segment.placeholder k (some front)).WellFormed :=
    ⟨hk.1, hk.2.1, hk.2.2.1, by simpa using hfront⟩
  have hpieces : pieces ("$\x7b" ++ k ++ ":" ++ front ++ "\x7d" ++ rest) =
      .reference (trim k) (some front) :: pieces rest := by
    rw [pieces_eq_scan, pieces_eq_scan, ← Segment.scan_placeholder hform, String.toList_append]
    rfl
  rw [evaluate, evaluateWith_succ, hpieces, join_mapM_cons, evaluate, evaluateWith_succ]
  rw [pieceText_default (Nat.succ_pos _) (not_contains_iff.mp hunheld) hfront]
  exact (pieces_same _ _ _ _ (pieces rest)).map _

theorem evaluate_plain {d : String} (hd : '\x7d' ∉ d.toList) :
    ls.evaluate ("$\x7b" ++ k ++ ":" ++ d ++ "\x7d") = ls.evaluate d := by
  have hself : ls.evaluate d = .ok d := evaluateWith_of_not_mem _ [] hd
  have hempty : ls.evaluate "" = .ok "" := rfl
  have h := evaluate_front hk hunheld hd ""
  rw [String.append_empty, hempty] at h
  rw [hself]
  cases he : ls.evaluate ("$\x7b" ++ k ++ ":" ++ d ++ "\x7d") <;>
    simp_all [Same, Except.map, Except.mapError]

/-- A reference to a key that is not held has the value of its default as long as that holds no
reference. Otherwise the default ends within its first reference, and the rest of it, closing brace
included, is evaluated behind the reference to the key. -/
theorem evaluate_default_until_closing {ps : List Part} (hps : ∀ p ∈ ps, p.WellFormed) :
    ((∀ p ∈ ps, p.isLiteral = true) →
      ls.evaluate (Part.withDefault k ps).written = ls.evaluate (Part.text ps)) ∧
    ((∃ p ∈ ps, p.isLiteral = false) →
      ∃ front back, Part.text ps = front ++ "\x7d" ++ back ∧ '\x7d' ∉ front.toList ∧
        Same (ls.evaluate (Part.withDefault k ps).written)
          ((ls.evaluate (back ++ "\x7d")).map (front ++ ·))) := by
  constructor
  · intro hliteral
    refine evaluate_plain hk hunheld fun hmem => ?_
    obtain ⟨p, hp, hreference⟩ := (Part.mem_text_iff hps).mp hmem
    rw [hliteral p hp] at hreference
    cases hreference
  · intro hreference
    have hmem := (Part.mem_text_iff hps).mpr hreference
    obtain ⟨front, back, hsplit, hfront⟩ := List.eq_append_cons_of_mem hmem
    have htext : Part.text ps = .ofList front ++ "\x7d" ++ .ofList back := by
      rw [← String.toList_inj, hsplit]
      simp
    have hwritten : (Part.withDefault k ps).written =
        "$\x7b" ++ k ++ ":" ++ .ofList front ++ "\x7d" ++ (.ofList back ++ "\x7d") := by
      simp only [Part.written, htext, String.append_assoc]
    refine ⟨.ofList front, .ofList back, htext, by simpa using hfront, ?_⟩
    rw [hwritten]
    exact evaluate_front hk hunheld (by simpa using hfront) _

end

/-- Braces do not have to be balanced for a default to end, with white space around the key and a
default of its own in the default. -/
theorem evaluate_default_until_closing_nested :
    let ls : Layers := .ofList [.table "app" [("host", "h")]]
    let ps : List Part := [.literal "a:", .withDefault "x" [.literal "1"], .reference "host"]
    (Segment.placeholder " k " none).WellFormed ∧ ls.contains (trim " k ") = false ∧
      (∀ p ∈ ps, p.WellFormed) ∧ (∃ p ∈ ps, p.isLiteral = false) ∧
      (∃ front back, Part.text ps = front ++ "\x7d" ++ back ∧ '\x7d' ∉ front.toList ∧
        Same (ls.evaluate (Part.withDefault " k " ps).written)
          ((ls.evaluate (back ++ "\x7d")).map (front ++ ·))) ∧
      ls.evaluate (Part.withDefault " k " ps).written = .ok "a:$\x7bx:1h\x7d" := by
  intro ls ps
  have hk : (Segment.placeholder " k " none).WellFormed := by decide +kernel
  have hx : (Segment.placeholder "x" none).WellFormed := by decide +kernel
  have hhost : (Segment.placeholder "host" none).WellFormed := by decide +kernel
  have hunheld : ls.contains (trim " k ") = false := by decide +kernel
  have hps : ∀ p ∈ ps, p.WellFormed := by
    simp only [ps, List.forall_mem_cons]
    refine ⟨.literal (by decide) (by decide), .withDefault hx ?_, .reference hhost, by simp⟩
    simpa using Part.WellFormed.literal (by decide) (by decide)
  have hreference : ∃ p ∈ ps, p.isLiteral = false := ⟨.reference "host", by simp [ps], rfl⟩
  exact ⟨hk, hunheld, hps, hreference,
    (evaluate_default_until_closing hk hunheld hps).2 hreference, by decide +kernel⟩

/-- A reference in a default is not evaluated: its text comes out, and not its default. -/
theorem evaluate_withDefault_ne :
    let ls : Layers := {}
    let ps : List Part := [.withDefault "x" [.literal "1"]]
    (Segment.placeholder "k" none).WellFormed ∧ ls.contains (trim "k") = false ∧
      (∀ p ∈ ps, p.WellFormed) ∧
      ls.evaluate (Part.withDefault "k" ps).written = .ok "$\x7bx:1\x7d" ∧
      ls.evaluate (Part.text ps) = .ok "1" ∧
      ¬ Same (ls.evaluate (Part.withDefault "k" ps).written) (ls.evaluate (Part.text ps)) := by
  intro ls ps
  have hx : (Segment.placeholder "x" none).WellFormed := by decide +kernel
  have hnested : ls.evaluate (Part.withDefault "k" ps).written = .ok "$\x7bx:1\x7d" := by
    decide +kernel
  have hdefault : ls.evaluate (Part.text ps) = .ok "1" := by decide +kernel
  have hps : ∀ p ∈ ps, p.WellFormed := by
    simp only [ps, List.forall_mem_singleton]
    refine .withDefault hx ?_
    simpa using Part.WellFormed.literal (by decide) (by decide)
  refine ⟨by decide +kernel, by decide +kernel, hps, hnested, hdefault, ?_⟩
  rw [hnested, hdefault]
  simp [Same, Except.mapError]

end Layers

end Postroom
