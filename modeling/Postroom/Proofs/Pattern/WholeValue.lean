import Postroom.Pattern.WholeValue
import Postroom.Proofs.Pattern.Reading

namespace Postroom.Pattern

namespace Regex

theorem parse?_eq (text : String) :
    parse? text = (Reader.start.read text.toList).bind fun e =>
      if e.outer.isEmpty then some e.result else none := by
  rw [parse?, Reader.read, String.length_toList]
  cases Reader.start.run (text.length + 1) text.toList <;> rfl

theorem parse?_ordered {text : String} {r : Regex} (h : parse? text = some r) : r.Ordered := by
  rw [parse?_eq] at h
  obtain ⟨e, he, h⟩ := Option.bind_eq_some_iff.mp h
  split at h
  · cases h
    exact (Reader.start_ordered.read he).result
  · cases h

theorem textStart_holdsAt_iff {cs : List Char} {i : Nat} (hi : i ≤ cs.length) :
    Edge.textStart.holdsAt cs.toArray i = true ↔ i = 0 := by
  by_cases h : i = 0
  · simp [Edge.holdsAt, Edge.holds, h]
  · simp [Edge.holdsAt, Edge.holds, h]
    omega

theorem textEnd_holdsAt_iff {cs : List Char} {i : Nat} (hi : i ≤ cs.length) :
    Edge.textEnd.holdsAt cs.toArray i = true ↔ i = cs.length := by
  simp [Edge.holdsAt, Edge.holds]
  omega

def whole (r : Regex) : Regex := .seq (.edge .textStart) (.seq r (.edge .textEnd))

theorem finds_whole_iff {r : Regex} {text : String} : r.whole.Finds text ↔ r.Covers text := by
  simp only [Finds, whole, spans_seq_iff, spans_edge_iff, Covers]
  constructor
  · rintro ⟨i, j, hij, hj, _, ⟨hstart, rfl⟩, k, hspans, hend, rfl⟩
    have hi : i = 0 := textStart_holdsAt_iff (Nat.le_trans hij hj) |>.mp hstart
    have hk : k = text.toList.length := textEnd_holdsAt_iff hj |>.mp hend
    subst hi
    rwa [hk] at hspans
  · intro hspans
    exact ⟨0, _, Nat.zero_le _, Nat.le_refl _, 0, ⟨rfl, rfl⟩, _, hspans,
      textEnd_holdsAt_iff (Nat.le_refl _) |>.mpr rfl, rfl⟩

end Regex

namespace Reader

def wholeFrame : Frame := ⟨{}, none, [.pattern (.edge .textStart)]⟩

theorem read_wholeText (source : String) :
    start.read (wholeText source).toList =
      (start.within [wholeFrame]).read (source.toList ++ [')', '$']) := by
  have htext : (wholeText source).toList =
      '^' :: '(' :: '?' :: ':' :: (source.toList ++ [')', '$']) := by
    simp [wholeText]
  have hstart : start.Step (wholeText source).toList
      { start with branch := [.pattern (.edge .textStart)] }
      ('(' :: '?' :: ':' :: (source.toList ++ [')', '$'])) := by
    rw [htext]
    exact ⟨_, _, _, rfl, rfl, rfl⟩
  have hopen : Step { start with branch := [.pattern (.edge .textStart)] }
      ('(' :: '?' :: ':' :: (source.toList ++ [')', '$']))
      (start.within [wholeFrame]) (source.toList ++ [')', '$']) :=
    ⟨_, _, .opening {} none, rfl, rfl, rfl⟩
  rw [hstart.read_eq, hopen.read_eq]

theorem read_wholeEnd {e : Reader} (he : e.outer = []) :
    (e.within [wholeFrame]).read [')', '$'] =
      some ⟨{ wholeFrame with branch :=
        [.pattern (.edge .textEnd), .pattern e.result, .pattern (.edge .textStart)] },
        e.names, []⟩ := by
  obtain ⟨frame, names, outer⟩ := e
  obtain rfl : outer = [] := he
  have hclose : Step (within ⟨frame, names, []⟩ [wholeFrame]) [')', '$']
      ⟨{ wholeFrame with branch :=
        [.pattern (result ⟨frame, names, []⟩), .pattern (.edge .textStart)] }, names, []⟩ ['$'] :=
    ⟨_, _, .closing, skipSpace_paren _ _, rfl, rfl⟩
  rw [hclose.read_eq]
  rfl

theorem outer_ne_nil_of_wholeEnd {e e' : Reader} (he : e.outer ≠ [])
    (h : (e.within [wholeFrame]).read [')', '$'] = some e') : e'.outer ≠ [] := by
  obtain ⟨frame, names, outer⟩ := e
  cases outer with
  | nil => exact absurd rfl he
  | cons f outer =>
    have hclose : Step (within ⟨frame, names, f :: outer⟩ [wholeFrame]) [')', '$']
        ⟨{ f with branch := .pattern (result ⟨frame, names, f :: outer⟩) :: f.branch }, names,
          outer ++ [wholeFrame]⟩ ['$'] :=
      ⟨_, _, .closing, skipSpace_paren _ _, rfl, rfl⟩
    rw [hclose.read_eq] at h
    exact outer_ne_nil_of_read (by decide) h (by simp)

end Reader

open Reader

/-- A parenthesis in the text closes a group that the text has not opened. -/
def Strays (source : String) : Prop := start.Strays source.toList

/-- The text is a pattern, and is one with a parenthesis behind it, which no piece of it reads: the
text ends in a comment. -/
def EndsInComment (source : String) : Prop :=
  (Regex.parse? source).isSome ∧ (Regex.parse? (source ++ ")")).isSome

theorem Strays.parse?_eq_none {source : String} (h : Strays source) :
    Regex.parse? source = none := by
  rw [Regex.parse?_eq, Reader.Strays.read_eq_none h]
  rfl

theorem parse?_wholeText {source : String} (h : ¬Strays source) :
    (∃ r, Regex.parse? source = some r ∧ ¬EndsInComment source ∧
      Regex.parse? (wholeText source) = some r.whole) ∨
    (Regex.parse? source = none ∨ EndsInComment source) ∧
      Regex.parse? (wholeText source) = none := by
  have hclosed : ∀ e : Reader, e.outer ≠ [] →
      (if e.outer.isEmpty then some e.result else none) = none := by
    intro e he
    cases hne : e.outer with
    | nil => exact absurd hne he
    | cons _ _ => rfl
  have hsource : (source ++ ")").toList = source.toList ++ ')' :: [] := by simp
  simp only [EndsInComment, Regex.parse?_eq, read_wholeText, hsource]
  cases ending h with
  | kept e alone behind =>
    have hwhole := behind [wholeFrame] ['$'] (by decide)
    have hparen : start.read (source.toList ++ [')']) = (e.within []).read [')'] :=
      behind [] [] (by simp)
    rw [alone, hparen, hwhole]
    -- the parenthesis closes the group around the text, or one that the text leaves open
    by_cases he : e.outer = []
    · have hstray : (e.within []).Strays [')'] :=
        .here (skipSpace_paren _ _) (by rw [within, he]; rfl)
      refine .inl ⟨e.result, by simp [he], ?_, ?_⟩
      · rintro ⟨-, hsome⟩
        simp [hstray.read_eq_none] at hsome
      · rw [read_wholeEnd he]
        rfl
    · exact .inr ⟨.inl (hclosed e he), Option.bind_eq_none_iff.mpr fun e' he' =>
        hclosed e' (outer_ne_nil_of_wholeEnd he he')⟩
  | swallowed e alone behind =>
    have hwhole := behind [wholeFrame] ['$'] (by decide)
    have hparen : start.read (source.toList ++ [')']) = some (e.within []) := behind [] [] (by simp)
    rw [alone, hparen, hwhole]
    -- nothing closes the group around the text
    refine .inr ⟨?_, hclosed _ (by simp [within])⟩
    by_cases he : e.outer = []
    · exact .inr ⟨by simp [he], by simp [within, he]⟩
    · exact .inl (hclosed e he)
  | cut alone behind =>
    refine .inr ⟨.inl (by rw [alone]; rfl), Option.bind_eq_none_iff.mpr fun e he => hclosed e ?_⟩
    exact behind [wholeFrame] ['$'] (by simp) (by decide) (by decide) e he

namespace ValuePattern

theorem isSome_ofText? (source : String) :
    (ofText? source).isSome = (Regex.parse? (wholeText source)).isSome := by
  rw [ofText?]
  split <;> simp_all

theorem read_of_ofText? {source : String} {q : ValuePattern} (h : ofText? source = some q) :
    Regex.parse? (wholeText source) = some q.regex := by
  rw [ofText?] at h
  split at h
  · rename_i r hr
    cases h
    exact hr
  · cases h

/-- A text that does not close the group around it is a pattern for whole values exactly if it is a
pattern and does not end in a comment; a text that closes it is no pattern. The values that match
are those that the pattern by itself covers. -/
theorem whole_value_of_pattern (source : String) :
    (¬Strays source →
      ((ofText? source).isSome ↔ (Regex.parse? source).isSome ∧ ¬EndsInComment source)) ∧
    (Strays source → Regex.parse? source = none) ∧
    ∀ q r, ofText? source = some q → Regex.parse? source = some r →
      ∀ value, q.accepts value = true ↔ r.Covers value := by
  refine ⟨fun h => ?_, Strays.parse?_eq_none, fun q r hq hr value => ?_⟩
  · rw [isSome_ofText?]
    obtain ⟨r, hr, hcomment, hwhole⟩ | ⟨hnone, hwhole⟩ := parse?_wholeText h
    · simp [hr, hcomment, hwhole]
    · rw [hwhole]
      obtain hnone | hcomment := hnone
      · simp [hnone]
      · simp [hcomment]
  · have hstrays : ¬Strays source := fun h => by simp [h.parse?_eq_none] at hr
    have hread := read_of_ofText? hq
    obtain ⟨r', hr', -, hwhole⟩ | ⟨-, hwhole⟩ := parse?_wholeText hstrays
    · obtain rfl : r = r' := Option.some.inj (hr.symm.trans hr')
      have hregex : q.regex = r.whole := Option.some.inj (hread.symm.trans hwhole)
      have hordered : r.whole.Ordered := ⟨trivial, Regex.parse?_ordered hr, trivial⟩
      rw [accepts, hregex, Regex.isMatch_iff_finds hordered, Regex.finds_whole_iff]
    · rw [hwhole] at hread
      cases hread

/-- The comment ends with its line, so the group around the pattern is closed. -/
theorem whole_value_of_pattern_commented :
    let source := "(?x)a|b # c\n"
    ¬Strays source ∧ ∃ q r, ofText? source = some q ∧ Regex.parse? source = some r ∧
      (q.accepts "b" = true ∧ r.Covers "b") ∧ q.accepts "ab" = false ∧ ¬r.Covers "ab" := by
  intro source
  have hpattern : (Regex.parse? source).isSome = true := by decide
  have hcomment : ¬EndsInComment source := by
    rintro ⟨-, hparen⟩
    revert hparen
    decide
  obtain ⟨hread, hstray, hcovers⟩ := whole_value_of_pattern source
  have hstrays : ¬Strays source := fun h => by simp [hstray h] at hpattern
  obtain ⟨q, hq⟩ := Option.isSome_iff_exists.mp ((hread hstrays).mpr ⟨hpattern, hcomment⟩)
  obtain ⟨r, hr⟩ := Option.isSome_iff_exists.mp hpattern
  have haccepted : (ofText? source).any (·.accepts "b") = true := by decide
  have hrefused : (ofText? source).any (·.accepts "ab") = false := by decide
  rw [hq, Option.any_some] at haccepted hrefused
  refine ⟨hstrays, q, r, hq, hr, ⟨haccepted, (hcovers q r hq hr "b").mp haccepted⟩, hrefused,
    fun hab => ?_⟩
  rw [(hcovers q r hq hr "ab").mpr hab] at hrefused
  cases hrefused

/-- A text that closes the group around it is no pattern, but one for whole values, which matches
what neither of its parts covers; a text that ends in a comment is a pattern, but none for whole
values. -/
theorem whole_value_ne_pattern :
    (Regex.parse? "a)|(?:b" = none ∧ (ofText? "a)|(?:b").any (·.accepts "ab") = true) ∧
      (Regex.parse? "(?x)a # c").isSome = true ∧ (ofText? "(?x)a # c").isSome = false := by
  decide

end ValuePattern

end Postroom.Pattern
