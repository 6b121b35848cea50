import Postroom.Proofs.Selection.Tested
import Postroom.Property.Evaluation

namespace Postroom.Layers

variable (ls : Layers) (later : List Layer)

theorem holder?_eq (key : String) : ls.holder? key = ls.layers.find? (·.holds key) := by
  have hcandidates : ls.registry.candidates = ls.layers.map (.tested Layer.name .mk) := rfl
  have hfirst := Registry.alone_find? hcandidates (HoldingTest.holds key)
  rw [holder?, hfirst, Option.map_map]
  exact Option.map_id_apply

theorem add_eq (l : Layer) : ls.add l = ⟨appendNew Layer.name ls.layers l⟩ := by
  have hregistered : (ls.registry.register (candidate l)).candidates =
      (appendNew Layer.name ls.layers l).map candidate := by
    rw [Registry.register_eq]
    exact appendNew_map Candidate.key candidate ls.layers l
  rw [add, hregistered, List.map_map]
  exact congrArg mk (List.map_id _)

theorem foldl_add : later.foldl add ls = ⟨later.foldl (appendNew Layer.name) ls.layers⟩ :=
  List.foldl_hom mk fun kept l => add_eq ⟨kept⟩ l

theorem layers_ofList (added : List Layer) :
    (ofList added).layers = firsts Layer.name added := by
  rw [ofList, foldl_add]
  exact foldl_appendNew_nil Layer.name added

theorem answers_of_holder (key : String) :
    (ls.raw? key, ls.sourceOf? key, ls.contains key) =
      match ls.layers.find? fun l => (l.get? key).isSome with
      | some holder => (holder.get? key, some holder.name, true)
      | none => (none, none, false) := by
  have hholder : ls.holder? key = ls.layers.find? fun l => (l.get? key).isSome := by
    rw [holder?_eq]
    simp only [Layer.holds_eq]
  rw [raw?, sourceOf?, contains, hholder]
  cases ls.layers.find? fun l => (l.get? key).isSome <;> rfl

theorem holder?_foldl_add {key : String} (h : ls.contains key = true) :
    (later.foldl add ls).holder? key = ls.holder? key := by
  rw [contains, holder?_eq] at h
  rw [holder?_eq, holder?_eq, foldl_add, foldl_appendNew, List.find?_append]
  exact Option.or_of_isSome h

theorem foldl_add_of_known (h : ∀ l ∈ later, l.name ∈ ls.names) : later.foldl add ls = ls := by
  rw [foldl_add]
  exact congrArg mk (foldl_appendNew_of_known Layer.name h)

/-- Of the layers that are added under one name the first is kept, and the first kept layer that
holds a key answers for it. Layers that are added later change no answer about a key that is held,
and under names that are there they change nothing at all. -/
theorem first_holder_answers (added later : List Layer) (key : String) :
    let ls := ofList added
    let more := later.foldl add ls
    KeepsFirsts Layer.name added ls.layers ∧
    (ls.raw? key, ls.sourceOf? key, ls.contains key) =
      (match ls.layers.find? fun l => (l.get? key).isSome with
        | some holder => (holder.get? key, some holder.name, true)
        | none => (none, none, false)) ∧
    more = ofList (added ++ later) ∧
    (ls.contains key = true →
      more.raw? key = ls.raw? key ∧ more.sourceOf? key = ls.sourceOf? key ∧
        more.contains key = true) ∧
    ((∀ l ∈ later, l.name ∈ added.map Layer.name) →
      more = ls ∧ (∀ k, more.get k = ls.get k) ∧ ∀ e, more.evaluate e = ls.evaluate e) := by
  intro ls more
  have hkept : KeepsFirsts Layer.name added ls.layers := by
    rw [show ls.layers = firsts Layer.name added from layers_ofList added]
    exact keepsFirsts_firsts Layer.name added
  refine ⟨hkept, ls.answers_of_holder key, List.foldl_append.symm, ?_, ?_⟩
  · intro hheld
    have hholder := holder?_foldl_add ls later hheld
    refine ⟨?_, ?_, ?_⟩
    · rw [raw?, raw?, hholder]
    · rw [sourceOf?, sourceOf?, hholder]
    · rw [contains, hholder]
      exact hheld
  · intro hknown
    have hsame : more = ls :=
      foldl_add_of_known ls later fun l hl => hkept.mem_keys_iff.mpr (hknown l hl)
    rw [hsame]
    exact ⟨rfl, fun _ => rfl, fun _ => rfl⟩

theorem first_holder_answers_shadowed :
    let added : List Layer := [.table "app" [("a", "1")], .process none [("B", "2")],
      .table "app" [("a", "9"), ("c", "3")]]
    let late : List Layer := [.table "late" [("a", "7"), ("b", "8"), ("c", "4")]]
    let known : List Layer := [.table "environment" [("b", "$\x7ba\x7d")], .table "app" [("c", "3")]]
    let ls := ofList added
    ls.contains "b" = true ∧ (late.foldl add ls).raw? "b" = some "2" ∧
      (late.foldl add ls).sourceOf? "b" = some "environment" ∧
      (late.foldl add ls).raw? "c" = some "4" ∧
      (∀ l ∈ known, l.name ∈ added.map Layer.name) ∧ known.foldl add ls = ls := by
  intro added late known ls
  obtain ⟨-, -, -, hheld, -⟩ := first_holder_answers added late "b"
  obtain ⟨-, -, -, -, hsame⟩ := first_holder_answers added known "b"
  have hb : ls.contains "b" = true := by decide +kernel
  have hraw : ls.raw? "b" = some "2" := by decide +kernel
  have hsource : ls.sourceOf? "b" = some "environment" := by decide +kernel
  have hknown : ∀ l ∈ known, l.name ∈ added.map Layer.name := by decide +kernel
  obtain ⟨hraw', hsource', -⟩ := hheld hb
  exact ⟨hb, hraw'.trans hraw, hsource'.trans hsource, by decide +kernel, hknown, (hsame hknown).1⟩

end Postroom.Layers
