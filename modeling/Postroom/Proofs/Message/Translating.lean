import Postroom.Journal
import Postroom.Proofs.Message.Rendering
import Postroom.Proofs.Selection.Tested

namespace Postroom.Translators

open Attempting

variable {σ : Type} {ts : List (Translator σ)}

theorem ofList_registry (ts : List (Translator σ)) :
    (ofList ts).registry.candidates =
      (firsts Translator.name ts).map (.tested Translator.name fun x => ⟨x.name, x.supports⟩) := by
  have hregistry : (ofList ts).registry =
      ts.foldl (fun r x => r.register (.tested Translator.name (fun x => ⟨x.name, x.supports⟩) x))
        { name := "content-translators" } :=
    (List.foldl_hom registry fun _ _ => rfl).symm
  rw [hregistry, Registry.foldl_tested]

theorem supportsWhole_ofList (c : Content) :
    (ofList ts).supportsWhole c = (firsts Translator.name ts).any (·.supports c) := by
  unfold supportsWhole SupportTest.about
  rw [Registry.alone_find? (ofList_registry ts), Option.isSome_map, Bool.eq_iff_iff]
  simp

theorem matching_ofList (c : Content) :
    (ofList ts).matching c = .ok ((firsts Translator.name ts).filter (·.supports c)) := by
  unfold matching SupportTest.about
  rw [Registry.alone_selectAll (ofList_registry ts)]
  simp [Except.map, Candidate.tested, Function.comp_def]

variable (sur : Surroundings)

theorem applyEach_eq_foldlM (xs : List (Translator σ)) (c : Content) :
    applyEach sur xs c = xs.foldlM (fun d x => x.translate sur d) c := by
  induction xs generalizing c with
  | nil => rfl
  | cons x xs ih =>
    rw [applyEach, List.foldlM_cons]
    exact congrArg _ (funext ih)

theorem translateWhole_ofList (c : Content) :
    (ofList ts).translateWhole sur c =
      ((firsts Translator.name ts).filter (·.supports c)).foldlM
        (fun d x => x.translate sur d) c := by
  rw [translateWhole, matching_ofList]
  exact applyEach_eq_foldlM sur _ c

theorem supportsSome_eq_any (t : Translators σ) (cs : List Content) :
    t.supportsSome cs = cs.any t.supports := by
  induction cs with
  | nil => rfl
  | cons c cs ih => rw [supportsSome, ih, List.any_cons]

theorem translateParts_eq_mapM (t : Translators σ) (cs : List Content) :
    t.translateParts sur cs = cs.mapM (t.translate sur) := by
  induction cs with
  | nil => rfl
  | cons c cs ih => rw [translateParts, ih, List.mapM_cons]

theorem of_whole (t : Translators σ) {c : Content} (h : ∀ parts, c ≠ .multi parts) :
    t.supports c = t.supportsWhole c ∧ t.translate sur c = t.translateWhole sur c := by
  cases c with
  | text s => exact ⟨rfl, rfl⟩
  | template r => exact ⟨rfl, rfl⟩
  | multi parts => exact absurd rfl (h parts)

theorem translate_multi (t : Translators σ) (parts : List Content) (world : σ)
    (s : Session Check) :
    t.translate sur (.multi parts) world s =
      match parts.mapM (t.translate sur) world s with
      | ((.ok ds, world'), s') => ((.ok (.multi ds), world'), s')
      | ((.error e, world'), s') => ((.error e, world'), s') := by
  rw [translate, translateParts_eq_mapM, bind_eq]
  rcases parts.mapM (t.translate sur) world s with ⟨⟨e | ds, world'⟩, s'⟩ <;> rfl

theorem translate_multi_ok_iff {t : Translators σ} {parts : List Content} {d : Content}
    {world world' : σ} {s s' : Session Check} :
    t.translate sur (.multi parts) world s = ((.ok d, world'), s') ↔
      ∃ ds, d = .multi ds ∧ InTurn (t.translate sur) parts world s ds world' s' := by
  rw [translate_multi]
  constructor
  · intro h
    rcases hparts : parts.mapM (t.translate sur) world s with ⟨⟨e | ds, world₁⟩, s₁⟩
    · rw [hparts] at h
      cases h
    · rw [hparts] at h
      cases h
      exact ⟨ds, rfl, mapM_ok_iff.mp hparts⟩
  · rintro ⟨ds, rfl, h⟩
    rw [mapM_ok_iff.mpr h]

theorem translate_multi_error_iff {t : Translators σ} {parts : List Content} {e : MessagingError}
    {world world' : σ} {s s' : Session Check} :
    t.translate sur (.multi parts) world s = ((.error e, world'), s') ↔
      ∃ front part back ds world₁ s₁, parts = front ++ part :: back ∧
        InTurn (t.translate sur) front world s ds world₁ s₁ ∧
        t.translate sur part world₁ s₁ = ((.error e, world'), s') := by
  rw [translate_multi, ← Attempting.mapM_error_iff]
  rcases parts.mapM (t.translate sur) world s with ⟨⟨e₁ | ds, world₁⟩, s₁⟩
  · constructor <;> intro h <;> cases h <;> rfl
  · constructor <;> intro h <;> cases h

theorem translate_of_not_supports (c : Content) (h : (ofList ts).supports c = false) :
    (ofList ts).translate sur c = pure c := by
  have hwhole : ∀ d, (ofList ts).supportsWhole d = false →
      (ofList ts).translateWhole sur d = pure d := by
    intro d hd
    rw [supportsWhole_ofList, List.any_eq_false] at hd
    rw [translateWhole_ofList, List.filter_eq_nil_iff.mpr hd]
    rfl
  induction c with
  | text s => exact hwhole _ h
  | template r => exact hwhole _ h
  | multi parts ih =>
    rw [supports, supportsSome_eq_any, List.any_eq_false] at h
    have hparts : parts.mapM ((ofList ts).translate sur) = pure parts :=
      mapM_eq_pure fun c hc => ih c hc (by simpa using h c hc)
    rw [translate, translateParts_eq_mapM, hparts]
    rfl

/-- What no translator supports is left as it is. A content without parts goes through the
translators that support it as it came in, each being given what the one before it made, up to the
first that fails. The parts of a content are translated one after the other, up to the first that
fails; of the translators with one name the first counts. -/
theorem translate_by_supporting (ts : List (Translator σ)) (sur : Surroundings) :
    let t := ofList ts
    let supporting (c : Content) := (firsts Translator.name ts).filter (·.supports c)
    let through (xs : List (Translator σ)) (c : Content) : Attempting σ Content :=
      xs.foldlM (fun d x => x.translate sur d) c
    (∀ c, t.supports c = false → t.translate sur c = pure c) ∧
    (∀ c, (∀ parts, c ≠ .multi parts) →
      (t.supports c = true ↔ supporting c ≠ []) ∧
      t.translate sur c = through (supporting c) c ∧
      ∀ world s e world' s', t.translate sur c world s = ((.error e, world'), s') ↔
        ∃ front x back d world₁ s₁, supporting c = front ++ x :: back ∧
          through front c world s = ((.ok d, world₁), s₁) ∧
          x.translate sur d world₁ s₁ = ((.error e, world'), s')) ∧
    ∀ parts,
      (t.supports (.multi parts) = true ↔ ∃ part ∈ parts, t.supports part = true) ∧
      (∀ world s d world' s', t.translate sur (.multi parts) world s = ((.ok d, world'), s') ↔
        ∃ ds, d = .multi ds ∧ InTurn (t.translate sur) parts world s ds world' s') ∧
      ∀ world s e world' s', t.translate sur (.multi parts) world s = ((.error e, world'), s') ↔
        ∃ front part back ds world₁ s₁, parts = front ++ part :: back ∧
          InTurn (t.translate sur) front world s ds world₁ s₁ ∧
          t.translate sur part world₁ s₁ = ((.error e, world'), s') := by
  intro t supporting through
  refine ⟨translate_of_not_supports sur, ?_, fun parts => ⟨?_, ?_, ?_⟩⟩
  · intro c hc
    obtain ⟨hsupports, htranslate⟩ := of_whole sur t hc
    have hthrough : t.translate sur c = through (supporting c) c :=
      htranslate.trans (translateWhole_ofList sur c)
    refine ⟨?_, hthrough, fun world s e world' s' => ?_⟩
    · rw [hsupports, supportsWhole_ofList]
      simp [supporting]
    · rw [hthrough]
      exact foldlM_error_iff
  · rw [supports, supportsSome_eq_any, List.any_eq_true]
  · exact fun world s d world' s' => translate_multi_ok_iff sur
  · exact fun world s e world' s' => translate_multi_error_iff sur

/-- The second translator has a name that is taken, and the third fails at a text that it supports
as it came in, after the first has made it longer. -/
theorem translate_by_supporting_fails :
    let shout : Translator Unit := TextAction.translator "shout" "!" .suffix
    let check : Translator Unit := TextAction.translator "check" "x" .failContaining
    let t := ofList [shout, TextAction.translator "shout" "?" .fail, check]
    let sur : Surroundings := ⟨.bare, fun _ _ => true⟩
    let form : Content := .multi [.template ⟨"a", []⟩, .multi []]
    t.supports form = false ∧ t.translate sur form = pure form ∧
      (∀ parts, Content.text "ax" ≠ .multi parts) ∧
      t.translate sur (.text "ax") () {} = ((.error (.configuration "x"), ()), {}) ∧
      t.translate sur (.multi [form, .text "b", .multi [.text "ax"], .text "c"]) () {} =
        ((.error (.configuration "x"), ()), {}) := by
  intro shout check t sur form
  obtain ⟨hpass, hwhole, hparts⟩ :=
    translate_by_supporting [shout, TextAction.translator "shout" "?" .fail, check] sur
  have hform : t.supports form = false := rfl
  have hnot : ∀ parts, Content.text "ax" ≠ .multi parts := by simp
  have hfails : t.translate sur (.text "ax") () {} = ((.error (.configuration "x"), ()), {}) :=
    ((hwhole _ hnot).2.2 () {} _ () {}).mpr
      ⟨[shout], check, [], .text "ax!", (), {}, by rfl, by rfl, by rfl⟩
  have hinner : t.translate sur (.multi [.text "ax"]) () {} =
      ((.error (.configuration "x"), ()), {}) :=
    ((hparts _).2.2 () {} _ () {}).mpr ⟨[], _, [], [], (), {}, rfl, .nil _ _, hfails⟩
  refine ⟨hform, hpass form hform, hnot, hfails, ((hparts _).2.2 () {} _ () {}).mpr ?_⟩
  have hfirst : t.translate sur form () {} = ((.ok form, ()), {}) := by rw [hpass form hform]; rfl
  have hsecond : t.translate sur (.text "b") () {} = ((.ok (.text "b!"), ()), {}) := by rfl
  exact ⟨[form, .text "b"], _, [.text "c"], [form, .text "b!"], (), {}, rfl,
    .cons hfirst (.cons hsecond (.nil _ _)), hinner⟩

end Postroom.Translators
