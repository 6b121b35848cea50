import Postroom.Text.Blank

namespace Postroom.Text

def after? : List Char → List Char → Option (List Char)
  | [], s => some s
  | _ :: _, [] => none
  | p :: ps, c :: cs => if p == c then after? ps cs else none

theorem after?_append (p s : List Char) : after? p (p ++ s) = some s := by
  induction p with
  | nil => rfl
  | cons c p ih => simp [after?, ih]

theorem eq_append_of_after? {p s r : List Char} (h : after? p s = some r) : s = p ++ r := by
  fun_induction after? p s with
  | case1 => simp_all
  | case2 => simp at h
  | case3 p ps c cs hc ih => simp_all
  | case4 => simp at h

def occurs (p : List Char) : List Char → Bool
  | [] => p.isEmpty
  | c :: cs => p.isPrefixOf (c :: cs) || occurs p cs

/-- Every occurrence of a text, from left to right and without overlap, gives way to another; an
empty text is not looked for. -/
def replaceFrom (old new : List Char) : Nat → List Char → List Char
  | 0, s => s
  | _ + 1, [] => []
  | n + 1, c :: cs =>
    match after? old (c :: cs) with
    | some rest => new ++ replaceFrom old new n rest
    | none => c :: replaceFrom old new n cs

def trimLeft (s : List Char) : List Char := s.dropWhile isBlank

def trimRight (s : List Char) : List Char := (s.reverse.dropWhile isBlank).reverse

def beginsWith (s p : String) : Bool := p.toList.isPrefixOf s.toList

def endsWith (s p : String) : Bool := p.toList.isSuffixOf s.toList

def contains (s p : String) : Bool := occurs p.toList s.toList

def trim (s : String) : String := .ofList (trimRight (trimLeft s.toList))

def replace (s old new : String) : String :=
  if old.isEmpty then s
  else .ofList (replaceFrom old.toList new.toList (s.length + 1) s.toList)

def asciiUpper (s : String) : String := .ofList (s.toList.map Char.toUpper)

def asciiLower (s : String) : String := .ofList (s.toList.map Char.toLower)

end Postroom.Text
