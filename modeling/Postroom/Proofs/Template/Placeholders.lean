import Mathlib.Data.List.Chain
import Mathlib.Data.List.Find
import Postroom.Proofs.Sequence
import Postroom.Template.Engine

namespace Postroom

namespace Placeholders

open Text

variable {syn : Placeholders}

theorem length_opening (syn : Placeholders) : syn.opening.length = 2 := by cases syn <;> rfl

theorem length_of_placeholder? {cs rest : List Char} {name : String}
    (h : syn.placeholder? cs = some (name, rest)) : rest.length < cs.length := by
  unfold placeholder? at h
  split at h
  · cases h
  · rename_i inner hinner
    have hopening := congrArg List.length (eq_append_of_after? hinner)
    rw [List.length_append, length_opening] at hopening
    simp only at h
    split at h
    · cases h
    · obtain ⟨rest', hrest, heq⟩ := Option.map_eq_some_iff.mp h
      cases heq
      have hclosing := congrArg List.length (eq_append_of_after? hrest)
      have hblank := length_dropWhile_le (p := isBlank) inner
      have hname := length_dropWhile_le (p := isNameChar) (trimLeft inner)
      have hblank' := length_dropWhile_le (p := isBlank) ((trimLeft inner).dropWhile isNameChar)
      rw [List.length_append] at hclosing
      simp only [trimLeft] at hclosing hname hblank'
      omega

theorem piecesFrom_eq {m n : Nat} {cs : List Char} (hm : cs.length ≤ m) (hn : cs.length ≤ n) :
    syn.piecesFrom m cs = syn.piecesFrom n cs := by
  refine read_eq_of_length_le (fun m n => by cases m <;> cases n <;> rfl) (fun c cs => ?_) hm hn
  cases h : syn.placeholder? (c :: cs) with
  | none => exact ⟨cs, (.literal c :: ·), Nat.le_refl _, fun n => by rw [piecesFrom, h]⟩
  | some hit =>
    have hrest := length_of_placeholder? h
    rw [List.length_cons] at hrest
    exact ⟨hit.2, (.placeholder hit.1 :: ·), Nat.le_of_lt_succ hrest, fun n => by
      rw [piecesFrom, h]⟩

def scan (syn : Placeholders) (cs : List Char) : List Piece := syn.piecesFrom cs.length cs

theorem pieces_eq_scan (source : String) : syn.pieces source = syn.scan source.toList := by
  rw [pieces, scan, String.length_toList]

theorem scan_found {cs rest : List Char} {name : String}
    (h : syn.placeholder? cs = some (name, rest)) :
    syn.scan cs = .placeholder name :: syn.scan rest := by
  have hrest := length_of_placeholder? h
  cases cs with
  | nil => simp at hrest
  | cons c cs =>
    rw [List.length_cons] at hrest
    rw [scan, List.length_cons, piecesFrom, h]
    dsimp only
    rw [piecesFrom_eq (n := rest.length) (by omega) (Nat.le_refl _), scan]

theorem scan_missed {c : Char} {cs : List Char} (h : syn.placeholder? (c :: cs) = none) :
    syn.scan (c :: cs) = .literal c :: syn.scan cs := by
  rw [scan, List.length_cons, piecesFrom, h, scan]

theorem placeholder?_eq_none {cs : List Char} (h : ¬ syn.opening <+: cs) :
    syn.placeholder? cs = none := by
  unfold placeholder?
  split
  · rfl
  · rename_i inner hinner
    exact absurd ⟨inner, (eq_append_of_after? hinner).symm⟩ h

theorem placeholder?_cons_opening (c : Char) (rest : List Char) :
    syn.placeholder? (c :: (syn.opening ++ rest)) = none := by
  cases syn with
  | dollar =>
    refine placeholder?_eq_none fun h => ?_
    simp [opening] at h
  | braces =>
    by_cases hc : c = '\x7b'
    · subst hc
      have hblank : isBlank '\x7b' = false := by decide
      have hname : isNameChar '\x7b' = false := by decide
      simp [placeholder?, opening, after?, trimLeft, hblank, hname]
    · refine placeholder?_eq_none fun h => hc ?_
      simp only [opening, List.cons_append, List.cons_prefix_cons] at h
      exact h.1.symm

theorem scan_append_of_not_infix {cs rest : List Char} (hcs : ¬ syn.opening <:+: cs)
    (hrest : rest = [] ∨ syn.opening <+: rest) :
    syn.scan (cs ++ rest) = cs.map .literal ++ syn.scan rest := by
  induction cs with
  | nil => rfl
  | cons c cs ih =>
    have htail : ¬ syn.opening <:+: cs := fun h => hcs (List.infix_cons h)
    have hmissed : syn.placeholder? (c :: (cs ++ rest)) = none := by
      cases cs with
      | nil =>
        rcases hrest with rfl | ⟨more, rfl⟩
        · refine placeholder?_eq_none fun h => ?_
          have hlength := h.length_le
          rw [length_opening] at hlength
          simp at hlength
        · exact placeholder?_cons_opening c more
      | cons d cs =>
        refine placeholder?_eq_none fun h => hcs ?_
        -- two characters of the literal would be the opening
        have htake : syn.opening = [c, d] := by
          rw [List.prefix_iff_eq_take.mp h, length_opening]
          rfl
        rw [htake]
        exact ⟨[], cs, rfl⟩
    rw [List.cons_append, scan_missed hmissed, ih htail, List.map_cons, List.cons_append]

theorem isBlank_eq_false {c : Char} (h : isNameChar c = true) : isBlank c = false := by
  have hcode : 45 ≤ c.toNat ∧ c.toNat ≤ 122 := by
    obtain h | h | h | h : c.isAlphanum = true ∨ c = '_' ∨ c = '.' ∨ c = '-' := by
      simpa [isNameChar, or_assoc] using h
    · delta Char.isAlphanum Char.isAlpha Char.isUpper Char.isLower Char.isDigit at h
      simp [UInt32.le_iff_toNat_le] at h
      omega
    all_goals
      subst h
      decide
  simp [isBlank, blanks, Ranges.has]
  omega

theorem isNameChar_eq_false {c : Char} (h : isBlank c = true) : isNameChar c = false :=
  Bool.eq_false_iff.mpr fun hc => by
    rw [isBlank_eq_false hc] at h
    cases h

theorem head?_closing (syn : Placeholders) (rest : List Char) :
    (syn.closing ++ rest).head? = some '\x7d' := by
  cases syn <;> rfl

theorem placeholder?_written {before name behind : List Char} (hne : name ≠ [])
    (hname : ∀ c ∈ name, isNameChar c = true) (hbefore : ∀ c ∈ before, isBlank c = true)
    (hbehind : ∀ c ∈ behind, isBlank c = true) (rest : List Char) :
    syn.placeholder? (syn.opening ++ (before ++ (name ++ (behind ++ (syn.closing ++ rest))))) =
      some (.ofList name, rest) := by
  have hstart : (name ++ (behind ++ (syn.closing ++ rest))).head?.any isBlank = false := by
    cases name with
    | nil => exact absurd rfl hne
    | cons c name => exact isBlank_eq_false (hname c List.mem_cons_self)
  have hend : (behind ++ (syn.closing ++ rest)).head?.any isNameChar = false := by
    cases behind with
    | nil => rw [List.nil_append, head?_closing]; rfl
    | cons c behind => exact isNameChar_eq_false (hbehind c List.mem_cons_self)
  have hclosing : (syn.closing ++ rest).head?.any isBlank = false := by
    rw [head?_closing]
    decide
  simp only [placeholder?, after?_append, trimLeft, dropWhile_append_stop hbefore hstart,
    takeWhile_append_stop hname hend, dropWhile_append_stop hname hend,
    dropWhile_append_stop hbehind hclosing]
  simp [hne]

def Piece.filled? (bindings : List (String × String)) : Piece → Except String String
  | literal c => .ok (.singleton c)
  | placeholder name =>
    match bindings.lookup name with
    | some value => .ok value
    | none => .error name

theorem mapM_filled? (bindings : List (String × String)) (ps : List Piece) :
    ps.mapM (Piece.filled? bindings) =
      match (ps.filterMap Piece.name?).find? fun name => (bindings.lookup name).isNone with
      | some name => .error name
      | none => .ok (ps.map (Piece.filled bindings)) := by
  induction ps with
  | nil => rfl
  | cons p ps ih =>
    rw [List.mapM_cons, ih]
    cases p with
    | literal c =>
      rw [List.filterMap_cons_none rfl]
      cases (ps.filterMap Piece.name?).find? fun name => (bindings.lookup name).isNone <;> rfl
    | placeholder name =>
      have hnames : (Piece.placeholder name :: ps).filterMap Piece.name? =
          name :: ps.filterMap Piece.name? := rfl
      rw [hnames, List.find?_cons, List.map_cons, Piece.filled, Piece.filled?]
      cases bindings.lookup name with
      | none => rfl
      | some value =>
        cases (ps.filterMap Piece.name?).find? fun name => (bindings.lookup name).isNone <;> rfl

/-- Checking for a missing variable and then replacing is the same as replacing one placeholder after
the other, each by its variable: none is ever replaced by nothing for want of one. -/
theorem render_eq_mapM (bindings : List (String × String)) (source : String) :
    syn.render bindings source =
      ((syn.pieces source).mapM (Piece.filled? bindings)).map String.join := by
  rw [render, missing?, replaceAll, mapM_filled?]
  cases ((syn.pieces source).filterMap Piece.name?).find? fun name =>
    (bindings.lookup name).isNone <;> rfl

end Placeholders

namespace Template

open Text Placeholders

/-- A part of a template source as it is written: a literal, or a placeholder with what stands
between its marks and its name. -/
inductive Segment
  | literal (text : String)
  | placeholder (before name behind : String)
  deriving DecidableEq, Repr

namespace Segment

def isLiteral : Segment → Bool
  | literal _ => true
  | placeholder .. => false

def name? : Segment → Option String
  | literal _ => none
  | placeholder _ name _ => some name

def written (syn : Placeholders) : Segment → List Char
  | literal t => t.toList
  | placeholder before name behind =>
    syn.opening ++ (before.toList ++ (name.toList ++ (behind.toList ++ syn.closing)))

/-- A literal holds no opening; a name is not empty and of name characters, and only white space is
around it. -/
def WellFormed (syn : Placeholders) : Segment → Prop
  | literal t => ¬ syn.opening <:+: t.toList
  | placeholder before name behind => name.toList ≠ [] ∧
      (∀ c ∈ name.toList, isNameChar c = true) ∧ (∀ c ∈ before.toList, isBlank c = true) ∧
      ∀ c ∈ behind.toList, isBlank c = true

instance (syn : Placeholders) : DecidablePred (WellFormed syn)
  | literal _ => inferInstanceAs (Decidable (¬ _))
  | placeholder before name behind =>
    decidable_of_iff (name.toList ≠ [] ∧ name.toList.all isNameChar ∧
        before.toList.all isBlank ∧ behind.toList.all isBlank) <| by
      simp only [WellFormed, List.all_eq_true]

/-- What a segment becomes, where nothing stands for a name without a variable. -/
def filled (bindings : List (String × String)) : Segment → String
  | literal t => t
  | placeholder _ name _ => (bindings.lookup name).getD ""

def pieces : Segment → List Piece
  | literal t => t.toList.map .literal
  | placeholder _ name _ => [.placeholder name]

theorem scan_placeholder {syn : Placeholders} {before name behind : String}
    (h : (placeholder before name behind).WellFormed syn) (rest : List Char) :
    syn.scan ((placeholder before name behind).written syn ++ rest) =
      .placeholder name :: syn.scan rest := by
  obtain ⟨hne, hname, hbefore, hbehind⟩ := h
  have hfound : syn.placeholder? ((placeholder before name behind).written syn ++ rest) =
      some (.ofList name.toList, rest) := by
    simpa [written] using placeholder?_written hne hname hbefore hbehind rest
  rw [scan_found hfound, String.ofList_toList]

end Segment

/-- A template source, of which no two literals are neighbours. -/
structure Source (syn : Placeholders) where
  segments : List Segment
  wellFormed : ∀ s ∈ segments, s.WellFormed syn
  separated : segments.IsChain fun s t => s.isLiteral = false ∨ t.isLiteral = false

theorem scan_segments {syn : Placeholders} {segments : List Segment}
    (hform : ∀ s ∈ segments, s.WellFormed syn)
    (hseparated : segments.IsChain fun s t => s.isLiteral = false ∨ t.isLiteral = false) :
    syn.scan (segments.flatMap (Segment.written syn)) = segments.flatMap Segment.pieces := by
  induction segments with
  | nil => rfl
  | cons s segments ih =>
    have hs := hform s List.mem_cons_self
    have hrest := ih (fun t ht => hform t (List.mem_cons_of_mem s ht)) hseparated.of_cons
    rw [List.flatMap_cons, List.flatMap_cons, ← hrest]
    cases s with
    | placeholder before name behind => exact Segment.scan_placeholder hs _
    | literal t =>
      refine scan_append_of_not_infix hs ?_
      cases segments with
      | nil => exact .inl rfl
      | cons next segments =>
        cases next with
        | literal u => simp [Segment.isLiteral] at hseparated
        | placeholder before name behind =>
          right
          simp [Segment.written]

namespace Source

variable {syn : Placeholders}

def text (t : Source syn) : String := .ofList (t.segments.flatMap (Segment.written syn))

def names (t : Source syn) : List String := t.segments.filterMap Segment.name?

def filled (t : Source syn) (bindings : List (String × String)) : String :=
  String.join (t.segments.map (Segment.filled bindings))

theorem pieces_text (t : Source syn) : syn.pieces t.text = t.segments.flatMap Segment.pieces := by
  rw [pieces_eq_scan, ← scan_segments t.wellFormed t.separated, text, String.toList_ofList]

end Source

theorem filled_pieces (bindings : List (String × String)) (s : Segment) :
    String.join (s.pieces.map (Piece.filled bindings)) = s.filled bindings := by
  cases s with
  | literal t =>
    rw [← String.toList_inj, String.toList_join]
    simp [Segment.pieces, Segment.filled, Piece.filled, List.flatMap_map]
  | placeholder before name behind =>
    rw [← String.toList_inj, String.toList_join]
    simp [Segment.pieces, Segment.filled, Piece.filled]

theorem names_pieces (segments : List Segment) :
    (segments.flatMap Segment.pieces).filterMap Piece.name? =
      segments.filterMap Segment.name? := by
  induction segments with
  | nil => rfl
  | cons s segments ih =>
    rw [List.flatMap_cons, List.filterMap_append, ih]
    cases s with
    | literal t =>
      have hnone : (t.toList.map Piece.literal).filterMap Piece.name? = [] := by
        simp [List.filterMap_map, Function.comp_def, Piece.name?]
      rw [Segment.pieces, hnone]
      rfl
    | placeholder before name behind => rfl

def missing (bindings : List (String × String)) (names : List String) : Option String :=
  names.find? fun n => (bindings.lookup n).isNone

theorem render_text {syn : Placeholders} (t : Source syn) (bindings : List (String × String)) :
    syn.render bindings t.text =
      match missing bindings t.names with
      | some name => .error name
      | none => .ok (t.filled bindings) := by
  have hmissing : syn.missing? bindings t.text = missing bindings t.names := by
    rw [missing?, t.pieces_text, names_pieces]
    rfl
  have hfilled : syn.replaceAll bindings t.text = t.filled bindings := by
    rw [replaceAll, t.pieces_text, Source.filled, ← String.toList_inj]
    simp only [String.toList_join, List.flatMap_map, List.flatMap_assoc, ← filled_pieces]
  cases hname : missing bindings t.names with
  | some name => simp only [render, hmissing, hname]
  | none => simp only [render, hmissing, hname, hfilled]

theorem missing_congr {bindings bindings' : List (String × String)} {names : List String}
    (h : ∀ n ∈ names, bindings'.lookup n = bindings.lookup n) :
    missing bindings' names = missing bindings names :=
  List.find?_congr fun n hn => by rw [h n hn]

theorem Source.filled_congr {syn : Placeholders} {t : Source syn}
    {bindings bindings' : List (String × String)}
    (h : ∀ n ∈ t.names, bindings'.lookup n = bindings.lookup n) :
    t.filled bindings' = t.filled bindings := by
  refine congrArg String.join (List.map_congr_left fun s hs => ?_)
  cases s with
  | literal u => rfl
  | placeholder before name behind =>
    have hname : name ∈ t.names := List.mem_filterMap.mpr ⟨_, hs, rfl⟩
    rw [Segment.filled, Segment.filled, h name hname]

/-- Rendering a source puts the variables in the places of their names and keeps the literals, and
what a variable puts is not read again. If some name has no variable, the first of them is reported
with the path as it was written. Variables that no placeholder names make no difference. -/
theorem parse_by_segments {σ : Type} (engine : String) (syn : Placeholders)
    (requirements : Requirements) (path : ResourcePath) (t : Source syn)
    (bindings : List (String × String)) :
    let parser : TemplateParser σ := .placeholders engine syn requirements
    parser.parse ⟨path, t.text, bindings⟩ = pure (
      match t.names.find? fun n => (bindings.lookup n).isNone with
      | none => .ok (String.join (t.segments.map fun
          | .literal u => u
          | .placeholder _ name _ => (bindings.lookup name).getD ""))
      | some name => .error (.missingVariable path.written name)) ∧
    ∀ bindings', (∀ n ∈ t.names, bindings'.lookup n = bindings.lookup n) →
      parser.parse ⟨path, t.text, bindings'⟩ = parser.parse ⟨path, t.text, bindings⟩ := by
  intro parser
  have hparse : ∀ bs, parser.parse ⟨path, t.text, bs⟩ = pure (
      match missing bs t.names with
      | none => .ok (t.filled bs)
      | some name => .error (.missingVariable path.written name)) := by
    intro bs
    simp only [parser, TemplateParser.placeholders, render_text]
    cases missing bs t.names <;> rfl
  refine ⟨(hparse bindings).trans ?_, fun bindings' h => ?_⟩
  · have hfilled : (fun
        | .literal u => u
        | .placeholder _ name _ => (bindings.lookup name).getD "") = Segment.filled bindings := by
      funext s
      cases s <;> rfl
    rw [hfilled]
    rfl
  · rw [hparse, hparse, missing_congr h, Source.filled_congr h]

theorem parse_by_segments_braces :
    let parser : TemplateParser Unit := .placeholders "mustache" .braces
    let t : Source .braces := ⟨[.literal "\x7b", .placeholder " " "user.name" "\n", .literal "\x7d",
      .placeholder "" "code" ""], by decide, by decide⟩
    let bindings := [("code", "\x7b\x7bcode\x7d\x7d"), ("user.name", "Ada")]
    let more := ("other", "?") :: bindings
    t.text = "\x7b\x7b\x7b user.name\n\x7d\x7d\x7d\x7b\x7bcode\x7d\x7d" ∧
      parser.parse ⟨.parse "s:x", t.text, bindings⟩ = pure (.ok "\x7bAda\x7d\x7b\x7bcode\x7d\x7d") ∧
      (∀ n ∈ t.names, more.lookup n = bindings.lookup n) ∧
      parser.parse ⟨.parse "s:x", t.text, more⟩ = parser.parse ⟨.parse "s:x", t.text, bindings⟩ ∧
      parser.parse ⟨.parse "s:x", t.text, [("code", "")]⟩ =
        pure (.error (.missingVariable "s:x" "user.name")) := by
  intro parser t bindings more
  have hmore : ∀ n ∈ t.names, more.lookup n = bindings.lookup n := by decide
  obtain ⟨hfilled, hsame⟩ :=
    parse_by_segments (σ := Unit) "mustache" .braces {} (.parse "s:x") t bindings
  have hmissing :=
    (parse_by_segments (σ := Unit) "mustache" .braces {} (.parse "s:x") t [("code", "")]).1
  exact ⟨by decide +kernel, hfilled, hmore, hsame more hmore, hmissing⟩

end Template

end Postroom
