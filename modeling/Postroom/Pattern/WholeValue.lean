import Postroom.Pattern.Matching
import Postroom.Pattern.Parser
import Postroom.Text.Quoted

namespace Postroom.Pattern

/-- The text of a pattern inside a group between the ends of the text. A text whose parentheses
close that group keeps its own meaning. -/
def wholeText (source : String) : String := "^(?:" ++ source ++ ")$"

/-- A pattern for the values of a property, with the text it was written as. -/
structure ValuePattern where
  source : String
  regex : Regex
  read : Regex.parse? (wholeText source) = some regex

namespace ValuePattern

/-- The pattern of a text, if its wrapped form can be read. -/
def ofText? (source : String) : Option ValuePattern :=
  match h : Regex.parse? (wholeText source) with
  | some r => some ⟨source, r, h⟩
  | none => none

def accepts (p : ValuePattern) (value : String) : Bool := p.regex.isMatch value

theorem ext {p q : ValuePattern} (h : p.source = q.source) : p = q := by
  obtain ⟨s, r, hr⟩ := p
  obtain ⟨s', r', hr'⟩ := q
  obtain rfl : s = s' := h
  obtain rfl : r = r' := Option.some.inj (hr.symm.trans hr')
  rfl

instance : DecidableEq ValuePattern := fun p q =>
  decidable_of_iff (p.source = q.source) ⟨ext, fun h => h ▸ rfl⟩

def shown (p : ValuePattern) : String := Text.shownApply "ValuePattern" (Text.quote p.source)

end ValuePattern

end Postroom.Pattern
