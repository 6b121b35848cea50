import Postroom.Proofs.Attempting

namespace Postroom

namespace Content

@[induction_eliminator]
theorem induct {motive : Content → Prop} (text : ∀ s, motive (text s))
    (template : ∀ t, motive (template t))
    (multi : ∀ parts, (∀ c ∈ parts, motive c) → motive (multi parts)) (c : Content) :
    motive c := by
  apply Content.rec (motive_1 := motive) (motive_2 := fun parts => ∀ c ∈ parts, motive c)
  case nil => exact fun c h => absurd h List.not_mem_nil
  case cons =>
    intro c parts hc hparts d hd
    obtain rfl | hd := List.mem_cons.mp hd
    · exact hc
    · exact hparts d hd
  all_goals assumption

mutual

def templates : Content → List TemplateContent
  | text _ => []
  | template t => [t]
  | multi parts => templatesOf parts

def templatesOf : List Content → List TemplateContent
  | [] => []
  | c :: cs => templates c ++ templatesOf cs

end

mutual

/-- Puts texts in the places of the templates, in order, and keeps everything else as it is. The
texts left over are given back; there is no result if there are too few. -/
def fill : Content → List String → Option (Content × List String)
  | text s, texts => some (text s, texts)
  | template _, [] => none
  | template _, x :: texts => some (text x, texts)
  | multi parts, texts => (fillParts parts texts).map fun r => (multi r.1, r.2)

def fillParts : List Content → List String → Option (List Content × List String)
  | [], texts => some ([], texts)
  | c :: cs, texts =>
    match fill c texts with
    | some (d, rest) => (fillParts cs rest).map fun r => (d :: r.1, r.2)
    | none => none

end

def Filled (c : Content) (texts : List String) (d : Content) : Prop :=
  ∀ rest, c.fill (texts ++ rest) = some (d, rest)

def FilledParts (cs : List Content) (texts : List String) (ds : List Content) : Prop :=
  ∀ rest, fillParts cs (texts ++ rest) = some (ds, rest)

theorem Filled.fill_eq {c d : Content} {texts : List String} (h : Filled c texts d) :
    c.fill texts = some (d, []) := by
  have hall := h []
  rwa [List.append_nil] at hall

theorem FilledParts.cons {c d : Content} {cs ds : List Content} {xs ys : List String}
    (hc : Filled c xs d) (hcs : FilledParts cs ys ds) :
    FilledParts (c :: cs) (xs ++ ys) (d :: ds) := by
  intro rest
  rw [List.append_assoc, fillParts, hc]
  simp only [hcs rest, Option.map_some]

theorem FilledParts.multi {cs ds : List Content} {xs : List String} (h : FilledParts cs xs ds) :
    Filled (multi cs) xs (multi ds) := by
  intro rest
  rw [fill, h]
  rfl

theorem templatesOf_of_fillParts {cs : List Content}
    (ih : ∀ c ∈ cs, ∀ texts d rest, c.fill texts = some (d, rest) → d.templates = [])
    {texts : List String} {ds : List Content} {rest : List String}
    (h : fillParts cs texts = some (ds, rest)) : templatesOf ds = [] := by
  induction cs generalizing texts ds with
  | nil =>
    cases h
    rfl
  | cons c cs ihs =>
    rw [fillParts] at h
    split at h
    · rename_i d between hd
      obtain ⟨⟨es, rest'⟩, hes, heq⟩ := Option.map_eq_some_iff.mp h
      cases heq
      rw [templatesOf, ih c List.mem_cons_self texts d between hd,
        ihs (fun e he => ih e (List.mem_cons_of_mem c he)) hes, List.append_nil]
    · cases h

theorem templates_of_fill {c d : Content} {texts rest : List String}
    (h : c.fill texts = some (d, rest)) : d.templates = [] := by
  induction c generalizing texts d rest with
  | text s =>
    cases h
    rfl
  | template t =>
    cases texts with
    | nil => cases h
    | cons x texts =>
      cases h
      rfl
  | multi parts ih =>
    obtain ⟨⟨ds, rest'⟩, hds, heq⟩ := Option.map_eq_some_iff.mp h
    cases heq
    exact templatesOf_of_fillParts (fun c hc texts d rest => ih c hc) hds

end Content

namespace Translators

open Attempting Content

variable {σ : Type} {sur : Surroundings} {t : Translators σ}
  {render : TemplateContent → Attempting σ String}

/-- Templates are rendered, and texts are passed on. -/
structure Renders (sur : Surroundings) (t : Translators σ)
    (render : TemplateContent → Attempting σ String) : Prop where
  text : ∀ s, t.translateWhole sur (.text s) = pure (.text s)
  template : ∀ r, t.translateWhole sur (.template r) = do return .text (← render r)

theorem translateParts_follows {cs : List Content}
    (ih : ∀ c ∈ cs, Follows (Filled c) (c.templates.mapM render) (t.translate sur c)) :
    Follows (FilledParts cs) ((templatesOf cs).mapM render) (t.translateParts sur cs) := by
  induction cs with
  | nil => exact .pure fun rest => rfl
  | cons c cs ihs =>
    have hc := ih c List.mem_cons_self
    have hcs := ihs fun d hd => ih d (List.mem_cons_of_mem c hd)
    rw [templatesOf, List.mapM_append, translateParts]
    refine hc.bind fun xs d hd => hcs.bind fun ys ds hds => ?_
    exact .pure (FilledParts.cons hd hds)

theorem translate_follows (h : Renders sur t render) (c : Content) :
    Follows (Filled c) (c.templates.mapM render) (t.translate sur c) := by
  induction c with
  | text s =>
    rw [translate, h.text]
    exact .pure fun rest => rfl
  | template r =>
    have hsingle : [r].mapM render = do return [← render r] := by
      rw [List.mapM_cons]
      rfl
    rw [translate, h.template, templates, hsingle]
    have hself : Follows Eq (render r) (render r) := by
      intro world s
      obtain ⟨⟨_ | x, world'⟩, s'⟩ := render r world s
      · rfl
      · exact ⟨x, rfl, rfl⟩
    refine hself.bind fun x y hxy => ?_
    subst hxy
    exact .pure fun rest => rfl
  | multi parts ih =>
    rw [translate, templates]
    have hparts := translateParts_follows (t := t) ih
    have hpure : (templatesOf parts).mapM render =
        (templatesOf parts).mapM render >>= pure := (bind_pure _).symm
    rw [hpure]
    exact hparts.bind fun xs ds hds => .pure (FilledParts.multi hds)

end Translators

end Postroom
