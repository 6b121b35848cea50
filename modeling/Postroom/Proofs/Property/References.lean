import Mathlib.Data.List.Nodup
import Mathlib.Data.List.Perm.Subperm
import Mathlib.Logic.Relation
import Postroom.Proofs.Property.Layering
import Postroom.Proofs.Property.Written

namespace Postroom.Layers

open Property Relation

/-- The stored text of `a` refers to `b`, which is held. -/
def Refers (ls : Layers) (a b : String) : Prop :=
  ls.contains b = true ∧
    ∃ text default, ls.raw? a = some text ∧ .reference b default ∈ pieces text

def Closed (ls : Layers) (text : String) : Prop :=
  ∀ key default, .reference key default ∈ pieces text →
    ls.contains key = true ∨ default.isSome = true

/-- No key that references lead to from `k` refers back to itself, directly or by way of others. -/
def AcyclicFrom (ls : Layers) (k : String) : Prop :=
  ∀ c, ReflTransGen ls.Refers k c → ¬ TransGen ls.Refers c c

/-- The texts that references lead to from `k` are closed. -/
def ClosedFrom (ls : Layers) (k : String) : Prop :=
  ∀ c text, ReflTransGen ls.Refers k c → ls.raw? c = some text → ls.Closed text

variable {ls : Layers}

theorem contains_iff {k : String} : ls.contains k = true ↔ ∃ text, ls.raw? k = some text := by
  unfold contains raw?
  rw [holder?_eq]
  cases h : ls.layers.find? (·.holds k) with
  | none => simp
  | some l =>
    have hl := List.find?_some h
    rw [l.holds_eq] at hl
    simpa using Option.isSome_iff_exists.mp hl

theorem not_contains_iff {k : String} : ls.contains k = false ↔ ls.raw? k = none := by
  rw [← Bool.not_eq_true, contains_iff]
  cases ls.raw? k <;> simp

def referred (ls : Layers) : List String :=
  (ls.layers.flatMap Layer.texts).flatMap referredKeys

theorem mem_referred {k text key : String} {default : Option String} (hk : ls.raw? k = some text)
    (hr : .reference key default ∈ pieces text) : key ∈ ls.referred := by
  have hmem : key ∈ referredKeys text := List.mem_filterMap.mpr ⟨_, hr, rfl⟩
  unfold raw? at hk
  cases hl : ls.holder? k with
  | none => simp [hl] at hk
  | some l =>
    rw [hl, Option.bind_some] at hk
    rw [holder?_eq] at hl
    have htext : text ∈ ls.layers.flatMap Layer.texts :=
      List.mem_flatMap.mpr ⟨l, List.mem_of_find?_eq_some hl, l.mem_texts hk⟩
    exact List.mem_flatMap.mpr ⟨text, htext, hmem⟩

/-- A chain of keys on which evaluation stands, with the length that it may still gain. -/
structure Bounded (ls : Layers) (fuel : Nat) (chain : List String) : Prop where
  nodup : chain.Nodup
  referred : ∀ b ∈ chain.tail, b ∈ ls.referred
  enough : ls.referenceCount + 3 ≤ fuel + chain.length

theorem Bounded.one_lt {fuel : Nat} {chain : List String} (h : ls.Bounded fuel chain) :
    1 < fuel := by
  have hsub : chain.tail.length ≤ ls.referred.length :=
    (List.subperm_of_subset h.nodup.tail h.referred).length_le
  have htail : chain.tail.length = chain.length - 1 := List.length_tail
  have hcount : ls.referred.length = ls.referenceCount := rfl
  have := h.enough
  omega

theorem Bounded.extend {fuel : Nat} {chain : List String} {b : String}
    (h : ls.Bounded (fuel + 1) chain) (hb : b ∉ chain) (hr : b ∈ ls.referred) :
    ls.Bounded fuel (chain ++ [b]) where
  nodup := by
    rw [List.nodup_append]
    refine ⟨h.nodup, List.nodup_singleton b, ?_⟩
    rintro a ha c hc rfl
    exact hb (List.mem_singleton.mp hc ▸ ha)
  referred := by
    intro c hc
    cases chain with
    | nil => simp at hc
    | cons a chain =>
      obtain hc | hc := List.mem_append.mp hc
      · exact h.referred c hc
      · exact List.mem_singleton.mp hc ▸ hr
  enough := by
    have := h.enough
    rw [List.length_append, List.length_singleton]
    omega

theorem bounded_key (ls : Layers) (k : String) : ls.Bounded (ls.referenceCount + 2) [k] where
  nodup := List.nodup_singleton k
  referred := by simp
  enough := by simp

theorem evaluateWith_succ (ls : Layers) (fuel : Nat) (chain : List String) (e : String) :
    ls.evaluateWith (fuel + 1) chain e =
      ((pieces e).mapM (ls.pieceText (ls.evaluateWith fuel) chain e)).map String.join := by
  rw [evaluateWith]
  cases (pieces e).mapM (ls.pieceText (ls.evaluateWith fuel) chain e) <;> rfl

theorem pieceText_held {nested : List String → String → Except PropertyError String}
    {chain : List String} {e key next : String} {default : Option String}
    (hraw : ls.raw? key = some next) (hkey : key ∉ chain) :
    ls.pieceText nested chain e (.reference key default) = nested (chain ++ [key]) next := by
  simp only [pieceText, hraw, List.contains_iff_mem, hkey, if_false]

theorem join_literals (nested : List String → String → Except PropertyError String)
    (chain : List String) (e : String) (cs : List Char) :
    ((cs.map Piece.literal).mapM (ls.pieceText nested chain e)).map String.join =
      .ok (.ofList cs) := by
  induction cs with
  | nil => rfl
  | cons c cs ih =>
    rw [List.map_cons, join_mapM_cons, ih, pieceText]
    simp [Except.bind, Except.map, String.ofList_cons]

theorem evaluateWith_of_not_mem (fuel : Nat) (chain : List String) {text : String}
    (h : '\x7d' ∉ text.toList) : ls.evaluateWith (fuel + 1) chain text = .ok text := by
  rw [evaluateWith_succ, pieces_eq_scan, scan_of_not_mem h, join_literals, String.ofList_toList]

theorem pieceText_default {fuel : Nat} {chain : List String} {e key d : String} (hfuel : 0 < fuel)
    (hraw : ls.raw? key = none) (hd : '\x7d' ∉ d.toList) :
    ls.pieceText (ls.evaluateWith fuel) chain e (.reference key (some d)) = .ok d := by
  obtain ⟨n, rfl⟩ := Nat.exists_eq_add_one.mpr hfuel
  simp only [pieceText, hraw, evaluateWith_of_not_mem n chain hd]

/-- The text is closed, and so are the texts it refers to, in a well-founded way. -/
inductive Grounded (ls : Layers) : String → Prop
  | intro (text : String) (closed : ls.Closed text)
      (below : ∀ key default raw, .reference key default ∈ pieces text →
        ls.raw? key = some raw → Grounded ls raw) : Grounded ls text

theorem grounded_of_evaluateWith {fuel : Nat} {chain : List String} {e v : String}
    (h : ls.evaluateWith fuel chain e = .ok v) : ls.Grounded e := by
  induction fuel generalizing chain e v with
  | zero => cases h
  | succ fuel ih =>
    rw [evaluateWith_succ] at h
    cases hp : (pieces e).mapM (ls.pieceText (ls.evaluateWith fuel) chain e) with
    | error err =>
      rw [hp] at h
      cases h
    | ok parts =>
      have hall := mem_ok_of_mapM_ok hp
      refine .intro e ?_ ?_
      · intro key default hr
        obtain ⟨part, hpart⟩ := hall _ hr
        cases hraw : ls.raw? key with
        | some text => exact .inl (contains_iff.mpr ⟨text, hraw⟩)
        | none =>
          cases default with
          | some d => exact .inr rfl
          | none => simp [pieceText, hraw] at hpart
      · intro key default raw hr hraw
        obtain ⟨part, hpart⟩ := hall _ hr
        simp only [pieceText, hraw] at hpart
        split at hpart
        · cases hpart
        · exact ih hpart

theorem Grounded.refers {a b text : String} (h : ls.Grounded text) (ha : ls.raw? a = some text)
    (hab : ls.Refers a b) : ∃ next, ls.raw? b = some next ∧ ls.Grounded next := by
  obtain ⟨hb, text', default, ha', hr⟩ := hab
  obtain ⟨next, hnext⟩ := contains_iff.mp hb
  rw [ha] at ha'
  cases ha'
  cases h with
  | intro _ closed below => exact ⟨next, hnext, below b default next hr hnext⟩

theorem Grounded.reaches {a c text : String} (h : ls.Grounded text) (ha : ls.raw? a = some text)
    (hac : ReflTransGen ls.Refers a c) : ∃ next, ls.raw? c = some next ∧ ls.Grounded next := by
  induction hac with
  | refl => exact ⟨text, ha, h⟩
  | tail _ hbc ih =>
    obtain ⟨next, hnext, hg⟩ := ih
    exact hg.refers hnext hbc

theorem Grounded.acyclic {text : String} (h : ls.Grounded text) {a : String}
    (ha : ls.raw? a = some text) : ¬ TransGen ls.Refers a a := by
  induction h generalizing a with
  | intro text closed below ih =>
    intro hcycle
    obtain ⟨b, hab, hba⟩ := TransGen.head'_iff.mp hcycle
    obtain ⟨hb, text', default, ha', hr⟩ := hab
    obtain ⟨next, hnext⟩ := contains_iff.mp hb
    rw [ha] at ha'
    cases ha'
    exact ih b default next hr hnext hnext
      (TransGen.tail' hba ⟨hb, text, default, ha, hr⟩)

theorem Grounded.closed {text : String} (h : ls.Grounded text) : ls.Closed text := by
  cases h with
  | intro _ closed _ => exact closed

structure Leads (ls : Layers) (k : String) (chain : List String) (a : String) : Prop where
  reached : ReflTransGen ls.Refers k a
  from_start : ∀ b ∈ chain, ReflTransGen ls.Refers k b
  to_end : ∀ b ∈ chain, ReflTransGen ls.Refers b a

theorem Leads.extend {k a b : String} {chain : List String} (h : ls.Leads k chain a)
    (hab : ls.Refers a b) : ls.Leads k (chain ++ [b]) b where
  reached := h.reached.tail hab
  from_start := by
    intro c hc
    obtain hc | hc := List.mem_append.mp hc
    · exact h.from_start c hc
    · exact List.mem_singleton.mp hc ▸ h.reached.tail hab
  to_end := by
    intro c hc
    obtain hc | hc := List.mem_append.mp hc
    · exact (h.to_end c hc).tail hab
    · exact List.mem_singleton.mp hc ▸ .refl

theorem Leads.not_mem {k a b : String} {chain : List String} (h : ls.Leads k chain a)
    (hacyclic : ls.AcyclicFrom k) (hab : ls.Refers a b) : b ∉ chain :=
  fun hb => hacyclic b (h.from_start b hb) (TransGen.tail' (h.to_end b hb) hab)

theorem not_closed {text key : String} (hmem : .reference key none ∈ pieces text)
    (hraw : ls.raw? key = none) : ¬ ls.Closed text := by
  intro hclosed
  obtain hk | hd := hclosed key none hmem
  · rw [not_contains_iff.mpr hraw] at hk
    cases hk
  · cases hd

/-- Without cycles an evaluation gives a value, or stops at a reference that cannot be resolved. -/
theorem evaluateWith_of_acyclic {k a : String} {fuel : Nat} {chain : List String} {text : String}
    (hacyclic : ls.AcyclicFrom k) (hbounded : ls.Bounded fuel chain) (hleads : ls.Leads k chain a)
    (ha : ls.raw? a = some text) :
    (∃ v, ls.evaluateWith fuel chain text = .ok v) ∨
      ∃ c t key, ReflTransGen ls.Refers k c ∧ ls.raw? c = some t ∧ ¬ ls.Closed t ∧
        ls.evaluateWith fuel chain text = .error (.unresolvable key t) := by
  induction fuel generalizing chain a text with
  | zero => exact absurd hbounded.one_lt (Nat.not_lt_zero 1)
  | succ fuel ih =>
    rw [evaluateWith_succ]
    cases hp : (pieces text).mapM (ls.pieceText (ls.evaluateWith fuel) chain text) with
    | ok parts => exact .inl ⟨String.join parts, rfl⟩
    | error e =>
      obtain ⟨front, piece, back, hsplit, -, hpiece⟩ := split_of_mapM_error hp
      have hmem : piece ∈ pieces text := by simp [hsplit]
      cases piece with
      | literal c => cases hpiece
      | reference key default =>
        cases hraw : ls.raw? key with
        | some next =>
          have hab : ls.Refers a key :=
            ⟨contains_iff.mpr ⟨next, hraw⟩, text, default, ha, hmem⟩
          have hkey : key ∉ chain := hleads.not_mem hacyclic hab
          rw [pieceText_held hraw hkey] at hpiece
          have hnext := ih (hbounded.extend hkey (mem_referred ha hmem)) (hleads.extend hab) hraw
          rw [hpiece] at hnext
          obtain ⟨v, hv⟩ | ⟨c, t, key', hc, ht, hopen, herr⟩ := hnext
          · cases hv
          · cases herr
            exact .inr ⟨c, t, key', hc, ht, hopen, rfl⟩
        | none =>
          cases default with
          | some d =>
            have hfuel : 0 < fuel := Nat.lt_of_succ_lt_succ hbounded.one_lt
            rw [pieceText_default hfuel hraw (not_mem_default hmem)] at hpiece
            cases hpiece
          | none =>
            simp only [pieceText, hraw] at hpiece
            cases hpiece
            have hopen := not_closed hmem hraw
            exact .inr ⟨a, text, key, hleads.reached, ha, hopen, rfl⟩

theorem leads_start (ls : Layers) (k : String) : ls.Leads k [k] k where
  reached := .refl
  from_start := fun _ hb => List.mem_singleton.mp hb ▸ .refl
  to_end := fun _ hb => List.mem_singleton.mp hb ▸ .refl

theorem get_eq_ok_iff {k text v : String} (hk : ls.raw? k = some text) :
    ls.get k = .ok (some v) ↔ ls.evaluateWith (ls.referenceCount + 2) [k] text = .ok v := by
  unfold get
  simp only [hk]
  cases ls.evaluateWith (ls.referenceCount + 2) [k] text <;> simp [Except.map]

/-- A held key has a value exactly when no cycle can be reached from it and every reference on the
way is resolved. When no cycle can be reached, no reference is taken for a circular one. -/
theorem get_ok_iff_acyclic_closed (ls : Layers) (k : String) (hk : ls.contains k = true) :
    ((∃ v, ls.get k = .ok (some v)) ↔ ls.AcyclicFrom k ∧ ls.ClosedFrom k) ∧
      (ls.AcyclicFrom k → ∀ chain, ls.get k ≠ .error (.circular chain)) := by
  obtain ⟨text, htext⟩ := contains_iff.mp hk
  have hrun := fun hacyclic =>
    evaluateWith_of_acyclic hacyclic (bounded_key ls k) (leads_start ls k) htext
  refine ⟨⟨?_, ?_⟩, ?_⟩
  · rintro ⟨v, hv⟩
    have hg := grounded_of_evaluateWith ((get_eq_ok_iff htext).mp hv)
    refine ⟨?_, ?_⟩
    · intro c hc
      obtain ⟨next, hnext, hgc⟩ := hg.reaches htext hc
      exact hgc.acyclic hnext
    · intro c t hc ht
      obtain ⟨next, hnext, hgc⟩ := hg.reaches htext hc
      rw [ht] at hnext
      cases hnext
      exact hgc.closed
  · rintro ⟨hacyclic, hclosed⟩
    obtain ⟨v, hv⟩ | ⟨c, t, key, hc, ht, hopen, -⟩ := hrun hacyclic
    · exact ⟨v, (get_eq_ok_iff htext).mpr hv⟩
    · exact absurd (hclosed c t hc ht) hopen
  · intro hacyclic chain hget
    unfold get at hget
    simp only [htext] at hget
    obtain ⟨v, hv⟩ | ⟨c, t, key, -, -, -, he⟩ := hrun hacyclic
    · rw [hv] at hget
      cases hget
    · rw [he] at hget
      cases hget

theorem get_ok_iff_acyclic_closed_diamond :
    let ls : Layers := .ofList [.table "app" [("a", "$\x7bb\x7d+$\x7b c \x7d"), ("b", "$\x7bd\x7d")],
      .table "base" [("b", "$\x7ba\x7d"), ("c", "$\x7bd\x7d$\x7be:!\x7d"), ("d", "1")]]
    ls.contains "a" = true ∧ ls.get "a" = .ok (some "1+1!") ∧
      ls.AcyclicFrom "a" ∧ ls.ClosedFrom "a" := by
  intro ls
  have hk : ls.contains "a" = true := by decide +kernel
  have hget : ls.get "a" = .ok (some "1+1!") := by decide +kernel
  exact ⟨hk, hget, (get_ok_iff_acyclic_closed ls "a" hk).1.mp ⟨_, hget⟩⟩

end Postroom.Layers
