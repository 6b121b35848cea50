import Postroom.Document.Flatten
import Postroom.Proofs.Sequence

namespace Postroom.Document

def Step.written : Step → List Char
  | .field name => '.' :: name.toList
  | .item index => '[' :: ((toString index).toList ++ [']'])

/-- The steps of a path, one behind the other. No dot is put at the front of the whole, so empty
names leave nothing there. -/
def rendered : List Step → List Char
  | [] => []
  | .field name :: steps =>
    if name.isEmpty then rendered steps else name.toList ++ steps.flatMap Step.written
  | .item index :: steps => (Step.item index).written ++ steps.flatMap Step.written

def pathText (steps : List Step) : String := .ofList (rendered steps)

theorem Step.extend_of_ne_empty {path : String} (h : path ≠ "") (step : Step) :
    step.extend path = path ++ .ofList step.written := by
  have hempty : path.isEmpty = false := by simpa using h
  cases step with
  | field name => simp [extend, written, hempty, ← String.toList_inj]
  | item index => simp [extend, written, ← String.toList_inj]

theorem foldl_extend_of_ne_empty {path : String} (h : path ≠ "") (steps : List Step) :
    steps.foldl Step.extend path = path ++ .ofList (steps.flatMap Step.written) := by
  induction steps generalizing path with
  | nil => simp
  | cons step steps ih =>
    have hne : path ++ .ofList step.written ≠ "" := by simp [h]
    rw [List.foldl_cons, step.extend_of_ne_empty h, ih hne, List.flatMap_cons]
    simp [← String.toList_inj]

theorem foldl_extend (steps : List Step) : steps.foldl Step.extend "" = pathText steps := by
  induction steps with
  | nil => rfl
  | cons step steps ih =>
    cases step with
    | field name =>
      have hextend : Step.extend "" (.field name) = name := rfl
      rw [List.foldl_cons, hextend, pathText, rendered]
      by_cases h : name = ""
      · subst h
        exact ih
      · rw [foldl_extend_of_ne_empty h]
        simp [h]
    | item index =>
      have hextend : Step.extend "" (.item index) = .ofList (Step.item index).written := by
        simp [Step.extend, Step.written, ← String.toList_inj]
      have hne : String.ofList (Step.item index).written ≠ "" := by
        simp [Step.written, ← String.toList_inj]
      rw [List.foldl_cons, hextend, foldl_extend_of_ne_empty hne, pathText, rendered]
      simp

/-- A name that is not empty and holds neither a dot nor an opening bracket. -/
def PlainName (name : String) : Prop :=
  name ≠ "" ∧ '.' ∉ name.toList ∧ '[' ∉ name.toList

instance : DecidablePred PlainName := fun _ => inferInstanceAs (Decidable (_ ∧ _))

def Step.Plain : Step → Prop
  | .field name => PlainName name
  | .item _ => True

def endsName (c : Char) : Bool := c == '.' || c == '['

theorem PlainName.continues {name : String} (h : PlainName name) :
    ∀ c ∈ name.toList, (!endsName c) = true := by
  intro c hc
  have hdot : c ≠ '.' := fun he => h.2.1 (he ▸ hc)
  have hbracket : c ≠ '[' := fun he => h.2.2 (he ▸ hc)
  simp [endsName, hdot, hbracket]

theorem head?_written (steps : List Step) :
    (steps.flatMap Step.written).head?.any (!endsName ·) = false := by
  cases steps with
  | nil => rfl
  | cons step steps => cases step <;> rfl

theorem name_append_inj {name name' : String} (h : PlainName name) (h' : PlainName name')
    {steps steps' : List Step} (heq : name.toList ++ steps.flatMap Step.written =
      name'.toList ++ steps'.flatMap Step.written) :
    name = name' ∧ steps.flatMap Step.written = steps'.flatMap Step.written := by
  have htake := congrArg (List.takeWhile (!endsName ·)) heq
  have hdrop := congrArg (List.dropWhile (!endsName ·)) heq
  rw [takeWhile_append_stop h.continues (head?_written steps),
    takeWhile_append_stop h'.continues (head?_written steps')] at htake
  rw [dropWhile_append_stop h.continues (head?_written steps),
    dropWhile_append_stop h'.continues (head?_written steps')] at hdrop
  exact ⟨String.toList_inj.mp htake, hdrop⟩

theorem index_append_inj {index index' : Nat} {rest rest' : List Char}
    (heq : (Step.item index).written ++ rest = (Step.item index').written ++ rest') :
    index = index' ∧ rest = rest' := by
  have htext : ∀ n : Nat, (toString n).toList = Nat.toDigits 10 n := fun _ => Nat.toList_repr
  have hdigits : ∀ n : Nat, ∀ c ∈ (toString n).toList, c.isDigit = true := by
    intro n c hc
    rw [htext] at hc
    exact Nat.isDigit_of_mem_toDigits (by decide) (Nat.le_refl 10) hc
  have hclosing : ∀ cs : List Char, (']' :: cs).head?.any Char.isDigit = false := fun _ => rfl
  have htail : (toString index).toList ++ ']' :: rest =
      (toString index').toList ++ ']' :: rest' := by
    simpa [Step.written] using heq
  have htake := congrArg (List.takeWhile Char.isDigit) htail
  have hdrop := congrArg (List.dropWhile Char.isDigit) htail
  rw [takeWhile_append_stop (hdigits index) (hclosing rest),
    takeWhile_append_stop (hdigits index') (hclosing rest')] at htake
  rw [dropWhile_append_stop (hdigits index) (hclosing rest),
    dropWhile_append_stop (hdigits index') (hclosing rest')] at hdrop
  have hvalue := congrArg (Nat.ofDigitChars 10 · 0) htake
  simp only [htext, Nat.ofDigitChars_toDigits (by decide : 1 < 10) (Nat.le_refl 10)] at hvalue
  exact ⟨hvalue, (List.cons.inj hdrop).2⟩

theorem written_injective {steps steps' : List Step} (h : ∀ s ∈ steps, s.Plain)
    (h' : ∀ s ∈ steps', s.Plain)
    (heq : steps.flatMap Step.written = steps'.flatMap Step.written) : steps = steps' := by
  induction steps generalizing steps' with
  | nil =>
    cases steps' with
    | nil => rfl
    | cons step' steps' => cases step' <;> cases heq
  | cons step steps ih =>
    have hsteps : ∀ s ∈ steps, s.Plain := fun s hs => h s (List.mem_cons_of_mem step hs)
    cases steps' with
    | nil => cases step <;> cases heq
    | cons step' steps' =>
      have hsteps' : ∀ s ∈ steps', s.Plain := fun s hs => h' s (List.mem_cons_of_mem step' hs)
      rw [List.flatMap_cons, List.flatMap_cons] at heq
      -- the first character tells a name from a place
      cases step with
      | field name =>
        cases step' with
        | field name' =>
          obtain ⟨rfl, hrest⟩ := name_append_inj (h _ List.mem_cons_self)
            (h' _ List.mem_cons_self) (List.cons.inj heq).2
          rw [ih hsteps hsteps' hrest]
        | item index' => exact absurd (List.cons.inj heq).1 (by decide)
      | item index =>
        cases step' with
        | field name' => exact absurd (List.cons.inj heq).1 (by decide)
        | item index' =>
          obtain ⟨rfl, hrest⟩ := index_append_inj heq
          rw [ih hsteps hsteps' hrest]

theorem rendered_field {name : String} (h : PlainName name) (steps : List Step) :
    '.' :: rendered (.field name :: steps) = (Step.field name :: steps).flatMap Step.written := by
  rw [rendered, if_neg (by simpa using h.1)]
  rfl

theorem head?_rendered_field {name : String} (h : PlainName name) (steps : List Step) :
    ∃ c, (rendered (.field name :: steps)).head? = some c ∧ c ≠ '[' := by
  rw [rendered, if_neg (by simpa using h.1)]
  cases hname : name.toList with
  | nil => exact absurd (String.toList_inj.mp hname) h.1
  | cons c cs => exact ⟨c, rfl, fun hc => h.2.2 (by rw [hname, hc]; exact List.mem_cons_self)⟩

theorem head?_rendered_item (index : Nat) (steps : List Step) :
    (rendered (.item index :: steps)).head? = some '[' := rfl

theorem pathText_injective {steps steps' : List Step} (h : ∀ s ∈ steps, s.Plain)
    (h' : ∀ s ∈ steps', s.Plain) (heq : pathText steps = pathText steps') : steps = steps' := by
  have hchars : rendered steps = rendered steps' := String.ofList_injective heq
  have hhead := congrArg List.head? hchars
  -- the first character tells how a path begins; then both are written behind something
  cases steps with
  | nil =>
    cases steps' with
    | nil => rfl
    | cons step' steps' =>
      cases step' with
      | field name' =>
        obtain ⟨c, hc, -⟩ := head?_rendered_field (h' _ List.mem_cons_self) steps'
        rw [hc] at hhead
        cases hhead
      | item index' => cases hhead
  | cons step steps =>
    cases step with
    | field name =>
      have hname : PlainName name := h _ List.mem_cons_self
      obtain ⟨c, hc, hne⟩ := head?_rendered_field hname steps
      cases steps' with
      | nil =>
        rw [hc] at hhead
        cases hhead
      | cons step' steps' =>
        cases step' with
        | field name' =>
          have hname' : PlainName name' := h' _ List.mem_cons_self
          refine written_injective h h' ?_
          rw [← rendered_field hname, ← rendered_field hname', hchars]
        | item index' =>
          rw [hc, head?_rendered_item] at hhead
          exact absurd (Option.some.inj hhead) hne
    | item index =>
      cases steps' with
      | nil => cases hhead
      | cons step' steps' =>
        cases step' with
        | field name' =>
          obtain ⟨c, hc, hne⟩ := head?_rendered_field (h' _ List.mem_cons_self) steps'
          rw [hc, head?_rendered_item] at hhead
          exact absurd (Option.some.inj hhead).symm hne
        | item index' => exact written_injective h h' hchars

end Postroom.Document
