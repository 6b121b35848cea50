import Mathlib.Data.List.Dedup
import Postroom.Proofs.Property.Failing

namespace Postroom

namespace Property

structure Frame where
  expression : String
  rest : List Piece
  out : String
  deriving DecidableEq, Repr

namespace Frame

def start (expression : String) : Frame := ⟨expression, pieces expression, ""⟩

def add (f : Frame) (text : String) : Frame := { f with out := f.out ++ text }

end Frame

/-- A text whose evaluation waits for the value of a key, or for a default. -/
structure Waiting where
  frame : Frame
  key : Option String
  deriving DecidableEq, Repr

/-- A point of an evaluation: the chain, the text that is evaluated, and those that wait for it, the
innermost first. -/
structure Point where
  chain : List String
  frame : Frame
  waiting : List Waiting
  deriving DecidableEq, Repr

end Property

namespace Layers

open Property Relation

def step (ls : Layers) : Point → Point ⊕ Except PropertyError String
  | ⟨_, ⟨_, [], out⟩, []⟩ => .inr (.ok out)
  | ⟨chain, ⟨_, [], out⟩, w :: ws⟩ =>
    .inl ⟨if w.key.isSome then chain.dropLast else chain, w.frame.add out, ws⟩
  | ⟨chain, ⟨e, .literal c :: rest, out⟩, ws⟩ =>
    .inl ⟨chain, ⟨e, rest, out ++ .singleton c⟩, ws⟩
  | ⟨chain, ⟨e, .reference key default :: rest, out⟩, ws⟩ =>
    match ls.raw? key with
    | some text =>
      if chain.contains key then .inr (.error (.circular (chain ++ [key])))
      else .inl ⟨chain ++ [key], .start text, ⟨⟨e, rest, out⟩, some key⟩ :: ws⟩
    | none =>
      match default with
      | some d => .inl ⟨chain, .start d, ⟨⟨e, rest, out⟩, none⟩ :: ws⟩
      | none => .inr (.error (.unresolvable key e))

def expressionStart (expression : String) : Point := ⟨[], .start expression, []⟩

def keyStart (key text : String) : Point := ⟨[key], .start text, []⟩

def Reaches (ls : Layers) : Point → Point → Prop :=
  ReflTransGen fun p q => ls.step p = .inl q

inductive Move (ls : Layers) : Point → Point → Prop
  | literal (chain : List String) (e : String) (c : Char) (rest : List Piece) (out : String)
    (ws : List Waiting) :
    Move ls ⟨chain, ⟨e, .literal c :: rest, out⟩, ws⟩ ⟨chain, ⟨e, rest, out ++ .singleton c⟩, ws⟩
  | key {chain : List String} {key text : String} (held : ls.raw? key = some text)
    (new : key ∉ chain) (e : String) (default : Option String) (rest : List Piece) (out : String)
    (ws : List Waiting) :
    Move ls ⟨chain, ⟨e, .reference key default :: rest, out⟩, ws⟩
      ⟨chain ++ [key], .start text, ⟨⟨e, rest, out⟩, some key⟩ :: ws⟩
  | default {key : String} (unheld : ls.raw? key = none) (chain : List String) (e d : String)
    (rest : List Piece) (out : String) (ws : List Waiting) :
    Move ls ⟨chain, ⟨e, .reference key (some d) :: rest, out⟩, ws⟩
      ⟨chain, .start d, ⟨⟨e, rest, out⟩, none⟩ :: ws⟩
  | back (chain : List String) (e out : String) (w : Waiting) (ws : List Waiting) :
    Move ls ⟨chain, ⟨e, [], out⟩, w :: ws⟩
      ⟨if w.key.isSome then chain.dropLast else chain, w.frame.add out, ws⟩

variable {ls : Layers} {start p q : Point} {chain : List String} {e out : String}
  {rest : List Piece} {ws : List Waiting}

theorem Move.step_eq (h : Move ls p q) : ls.step p = .inl q := by
  cases h with
  | literal => rfl
  | key held new => simp [step, held, new]
  | default unheld => simp [step, unheld]
  | back => rfl

theorem move_of_step (h : ls.step p = .inl q) : Move ls p q := by
  obtain ⟨chain, ⟨e, rest, out⟩, ws⟩ := p
  cases rest with
  | nil =>
    cases ws with
    | nil => cases h
    | cons w ws =>
      cases h
      exact .back chain e out w ws
  | cons piece rest =>
    cases piece with
    | literal c =>
      cases h
      exact .literal chain e c rest out ws
    | reference key default =>
      simp only [step] at h
      split at h
      · rename_i text held
        split at h
        · cases h
        · rename_i hnew
          cases h
          exact .key held (by simpa using hnew) e default rest out ws
      · rename_i unheld
        split at h
        · rename_i d
          cases h
          exact .default unheld chain e d rest out ws
        · cases h

theorem end_of_step {r : Except PropertyError String} (h : ls.step p = .inr r) :
    (∃ v, r = .ok v) ∨ (∃ key expression, r = .error (.unresolvable key expression)) ∨
      ∃ chain, r = .error (.circular chain) := by
  obtain ⟨chain, ⟨e, rest, out⟩, ws⟩ := p
  cases rest with
  | nil =>
    cases ws with
    | nil =>
      cases h
      exact .inl ⟨out, rfl⟩
    | cons w ws => cases h
  | cons piece rest =>
    cases piece with
    | literal c => cases h
    | reference key default =>
      simp only [step] at h
      split at h
      · split at h
        · cases h
          exact .inr (.inr ⟨_, rfl⟩)
        · cases h
      · split at h
        · cases h
        · cases h
          exact .inr (.inl ⟨key, e, rfl⟩)

/-- The chain goes on from the one at the start with the keys whose values are waited for; they are
held, and no key is there twice. -/
structure Tracks (ls : Layers) (start p : Point) : Prop where
  nodup : p.chain.Nodup
  held : ∀ k ∈ p.chain, ls.contains k = true
  chain_eq : p.chain = start.chain ++ p.waiting.reverse.filterMap Waiting.key

theorem Tracks.move (h : ls.Tracks start p) (hmove : Move ls p q) : ls.Tracks start q := by
  obtain ⟨hnodup, hheld, hchain⟩ := h
  cases hmove with
  | literal => exact ⟨hnodup, hheld, hchain⟩
  | @key chain key text held new e default rest out ws =>
    refine ⟨?_, ?_, ?_⟩
    · exact List.nodup_append.mpr ⟨hnodup, List.nodup_singleton key, fun a ha b hb hab =>
        new (List.mem_singleton.mp hb ▸ hab ▸ ha)⟩
    · intro k hk
      obtain hk | hk := List.mem_append.mp hk
      · exact hheld k hk
      · exact List.mem_singleton.mp hk ▸ contains_iff.mpr ⟨text, held⟩
    · dsimp only at hchain ⊢
      simp [hchain]
  | default => exact ⟨hnodup, hheld, by simpa using hchain⟩
  | back chain e out w ws =>
    obtain ⟨f, key⟩ := w
    cases key with
    | none => exact ⟨hnodup, hheld, by simpa using hchain⟩
    | some key =>
      -- the last key of the chain is the one whose value was waited for
      have hlast : chain = (start.chain ++ ws.reverse.filterMap Waiting.key) ++ [key] := by
        simpa using hchain
      have hfront : chain.dropLast = start.chain ++ ws.reverse.filterMap Waiting.key := by
        rw [hlast, List.dropLast_concat]
      have hsub : chain.dropLast.Sublist chain := List.dropLast_sublist chain
      exact ⟨hsub.nodup hnodup, fun k hk => hheld k (hsub.subset hk), hfront⟩

theorem Tracks.reaches (h : ls.Tracks start p) (hreaches : ls.Reaches p q) : ls.Tracks start q := by
  induction hreaches with
  | refl => exact h
  | tail _ hstep ih => exact ih.move (move_of_step hstep)

/-- From one point the evaluation comes to the point behind a value, or it ends with an error. -/
def Yields (ls : Layers) (p : Point) (behind : String → Point) :
    Except PropertyError String → Prop
  | .ok v => ls.Reaches p (behind v)
  | .error e => ∃ q, ls.Reaches p q ∧ ls.step q = .inr (.error e)

section

variable {behind behind' : String → Point} {r : Except PropertyError String}

theorem Yields.head (hmove : Move ls p q) (h : ls.Yields q behind r) : ls.Yields p behind r := by
  cases r with
  | ok v => exact .head hmove.step_eq h
  | error e =>
    obtain ⟨q', hreaches, hend⟩ := h
    exact ⟨q', .head hmove.step_eq hreaches, hend⟩

theorem Yields.bind {f : String → Except PropertyError String} (h : ls.Yields p behind r)
    (hf : ∀ v, ls.Yields (behind v) behind' (f v)) : ls.Yields p behind' (r.bind f) := by
  cases r with
  | error e => exact h
  | ok v =>
    have hv := hf v
    change ls.Yields p behind' (f v)
    cases hfv : f v with
    | ok w =>
      rw [hfv] at hv
      exact ReflTransGen.trans h hv
    | error e =>
      rw [hfv] at hv
      obtain ⟨q, hreaches, hend⟩ := hv
      exact ⟨q, ReflTransGen.trans h hreaches, hend⟩

theorem Yields.map {f : String → String} (h : ls.Yields p (fun v => behind (f v)) r) :
    ls.Yields p behind (r.map f) := by
  cases r <;> exact h

theorem Yields.move (h : ls.Yields p behind r) (hmove : ∀ v, Move ls (behind v) (behind' v)) :
    ls.Yields p behind' r := by
  cases r with
  | ok v => exact ReflTransGen.tail h (hmove v).step_eq
  | error e => exact h

end

theorem yields_pieces {f : Piece → Except PropertyError String} {ps : List Piece}
    (h : ∀ x ∈ ps, ∀ rest out, ls.Yields ⟨chain, ⟨e, x :: rest, out⟩, ws⟩
      (fun s => ⟨chain, ⟨e, rest, out ++ s⟩, ws⟩) (f x)) (out : String) :
    ls.Yields ⟨chain, ⟨e, ps, out⟩, ws⟩ (fun v => ⟨chain, ⟨e, [], out ++ v⟩, ws⟩)
      ((ps.mapM f).map String.join) := by
  induction ps generalizing out with
  | nil =>
    change ls.Reaches _ ⟨chain, ⟨e, [], out ++ ""⟩, ws⟩
    rw [String.append_empty]
    exact .refl
  | cons x ps ih =>
    rw [join_mapM_cons]
    refine (h x List.mem_cons_self ps out).bind fun s => Yields.map ?_
    have hps := ih (fun y hy => h y (List.mem_cons_of_mem x hy)) (out ++ s)
    simpa only [String.append_assoc] using hps

theorem yields_literal (c : Char) (rest : List Piece) (out : String) :
    ls.Yields ⟨chain, ⟨e, .literal c :: rest, out⟩, ws⟩
      (fun s => ⟨chain, ⟨e, rest, out ++ s⟩, ws⟩) (.ok (.singleton c)) :=
  ReflTransGen.single rfl

/-- A text is evaluated to a value, or with an error, whatever waits for it. With a value the chain
is as it was. -/
def Evaluates (ls : Layers) (chain : List String) (text : String)
    (r : Except PropertyError String) : Prop :=
  ∀ ws, ls.Yields ⟨chain, .start text, ws⟩ (fun v => ⟨chain, ⟨text, [], v⟩, ws⟩) r

theorem evaluates_of_pieces {f : Piece → Except PropertyError String} {text : String}
    (h : ∀ x ∈ pieces text, ∀ rest out ws, ls.Yields ⟨chain, ⟨text, x :: rest, out⟩, ws⟩
      (fun s => ⟨chain, ⟨text, rest, out ++ s⟩, ws⟩) (f x)) :
    ls.Evaluates chain text (((pieces text).mapM f).map String.join) := by
  intro ws
  have hpieces := yields_pieces (fun x hx rest out => h x hx rest out ws) ""
  simp only [String.empty_append] at hpieces
  exact hpieces

theorem evaluates_default {fuel : Nat} {d : String} (hfuel : 0 < fuel) (hd : '\x7d' ∉ d.toList) :
    ls.Evaluates chain d (ls.evaluateWith fuel chain d) := by
  obtain ⟨n, rfl⟩ := Nat.exists_eq_add_one.mpr hfuel
  rw [evaluateWith_succ]
  refine evaluates_of_pieces fun x hx rest out ws => ?_
  rw [pieces_eq_scan, scan_of_not_mem hd] at hx
  obtain ⟨c, -, rfl⟩ := List.mem_map.mp hx
  exact yields_literal c rest out

theorem yields_reference {key text : String} {default : Option String}
    {nested : List String → String → Except PropertyError String}
    (hnested : ∀ next, ls.raw? key = some next → key ∉ chain →
      ls.Evaluates (chain ++ [key]) next (nested (chain ++ [key]) next))
    (hdefault : ∀ d ∈ default, ls.Evaluates chain d (nested chain d))
    (rest : List Piece) (out : String) (ws : List Waiting) :
    ls.Yields ⟨chain, ⟨text, .reference key default :: rest, out⟩, ws⟩
      (fun s => ⟨chain, ⟨text, rest, out ++ s⟩, ws⟩)
      (ls.pieceText nested chain text (.reference key default)) := by
  cases hraw : ls.raw? key with
  | some next =>
    by_cases hkey : key ∈ chain
    · simp only [pieceText, hraw, List.contains_iff_mem, hkey, if_true]
      exact ⟨_, .refl, by simp [step, hraw, hkey]⟩
    · rw [pieceText_held hraw hkey]
      refine .head (.key hraw hkey text default rest out ws) ?_
      refine (hnested next hraw hkey _).move fun v => ?_
      have hback : Move ls _ _ := .back (chain ++ [key]) next v ⟨⟨text, rest, out⟩, some key⟩ ws
      simpa [Frame.add] using hback
  | none =>
    cases default with
    | some d =>
      simp only [pieceText, hraw]
      refine .head (.default hraw chain text d rest out ws) ?_
      refine (hdefault d rfl _).move fun v => ?_
      exact .back chain d v ⟨⟨text, rest, out⟩, none⟩ ws
    | none =>
      simp only [pieceText, hraw]
      exact ⟨_, .refl, by simp [step, hraw]⟩

theorem evaluates_text {fuel : Nat} {text : String} (hfuel : 0 < fuel)
    (hnested : ∀ key default next, .reference key default ∈ pieces text →
      ls.raw? key = some next → key ∉ chain →
        ls.Evaluates (chain ++ [key]) next (ls.evaluateWith fuel (chain ++ [key]) next)) :
    ls.Evaluates chain text (ls.evaluateWith (fuel + 1) chain text) := by
  rw [evaluateWith_succ]
  refine evaluates_of_pieces fun x hx rest out ws => ?_
  cases x with
  | literal c => exact yields_literal c rest out
  | reference key default =>
    refine yields_reference (fun next => hnested key default next hx) ?_ rest out ws
    rintro d rfl
    exact evaluates_default hfuel (not_mem_default hx)

theorem Bounded.evaluates {fuel : Nat} {a text : String} (h : ls.Bounded fuel chain)
    (ha : ls.raw? a = some text) : ls.Evaluates chain text (ls.evaluateWith fuel chain text) := by
  -- the fuel covers the keys that are not on the chain yet, and each nested text takes one of them
  induction fuel generalizing chain a text with
  | zero => exact absurd h.one_lt (Nat.not_lt_zero 1)
  | succ fuel ih =>
    refine evaluates_text (Nat.lt_of_succ_lt_succ h.one_lt) fun key default next hmem hnext hkey => ?_
    exact ih (h.extend hkey (mem_referred ha hmem)) hnext

theorem evaluates_expression (ls : Layers) (e : String) : ls.Evaluates [] e (ls.evaluate e) :=
  evaluates_text (Nat.succ_pos _) fun key _ _ _ hnext _ => (bounded_key ls key).evaluates hnext

theorem Evaluates.ends {text : String} {r : Except PropertyError String}
    (h : ls.Evaluates chain text r) :
    ∃ p, ls.Reaches ⟨chain, .start text, []⟩ p ∧ ls.step p = .inr r := by
  cases r with
  | ok v => exact ⟨_, h [], rfl⟩
  | error e => exact h []

/-- Every step is the only one from its point, so an evaluation that can end goes on nowhere. -/
theorem acc_of_ends {r : Except PropertyError String} (h : ls.Reaches start p)
    (hend : ls.step p = .inr r) : Acc (fun b a => ls.step a = .inl b) start := by
  induction h using ReflTransGen.head_induction_on with
  | refl =>
    refine .intro p fun q hq => ?_
    rw [hend] at hq
    cases hq
  | @head a b hstep _ ih =>
    refine .intro a fun q hq => ?_
    rw [hstep] at hq
    cases hq
    exact ih

def ofTables (tables : List (String × List (String × String))) : Layers :=
  ofList (tables.map fun t => .table t.1 t.2)

def heldKeys (tables : List (String × List (String × String))) : List String :=
  ((firsts Prod.fst tables).flatMap fun t => t.2.map Prod.fst).dedup

theorem mem_heldKeys_iff {tables : List (String × List (String × String))} {k : String} :
    k ∈ heldKeys tables ↔ (ofTables tables).contains k = true := by
  have hlayers : (ofTables tables).layers =
      (firsts Prod.fst tables).map fun t => .table t.1 t.2 := by
    rw [ofTables, layers_ofList, firsts_map]
    rfl
  rw [contains, holder?_eq, List.isSome_find?, List.any_eq_true, hlayers, heldKeys, List.mem_dedup,
    List.mem_flatMap]
  simp [Layer.table]

/-- At every point that an evaluation comes to, the chain has no key twice and none that is not
held, so there are never more than are held, and it is the same whenever the same texts wait: what a
nested evaluation has put there is gone when it has come to its value. The evaluation ends, and it
ends with this result. -/
structure Orderly (ls : Layers) (keys : List String) (start : Point)
    (r : Except PropertyError String) : Prop where
  distinct : ∀ p, ls.Reaches start p → p.chain.Nodup
  held : ∀ p, ls.Reaches start p → ∀ k ∈ p.chain, ls.contains k = true
  bounded : ∀ p, ls.Reaches start p → p.chain.length ≤ keys.length
  restored : ∀ p q, ls.Reaches start p → ls.Reaches start q → p.waiting = q.waiting →
    p.chain = q.chain
  terminates : Acc (fun b a => ls.step a = .inl b) start
  ends : ∃ p, ls.Reaches start p ∧ ls.step p = .inr r
  result : (∃ v, r = .ok v) ∨ (∃ key expression, r = .error (.unresolvable key expression)) ∨
    ∃ chain, r = .error (.circular chain)

theorem Evaluates.orderly {tables : List (String × List (String × String))} {text : String}
    {r : Except PropertyError String} (h : (ofTables tables).Evaluates chain text r)
    (hnodup : chain.Nodup) (hheld : ∀ k ∈ chain, (ofTables tables).contains k = true) :
    (ofTables tables).Orderly (heldKeys tables) ⟨chain, .start text, []⟩ r := by
  have hstart : (ofTables tables).Tracks ⟨chain, .start text, []⟩ ⟨chain, .start text, []⟩ :=
    ⟨hnodup, hheld, (List.append_nil chain).symm⟩
  have htracks := fun p hp => hstart.reaches (q := p) hp
  obtain ⟨p, hp, hend⟩ := h.ends
  refine ⟨fun q hq => (htracks q hq).nodup, fun q hq => (htracks q hq).held, fun q hq => ?_,
    fun q q' hq hq' hwaiting => ?_, acc_of_ends hp hend, ⟨p, hp, hend⟩, end_of_step hend⟩
  · have hsub : q.chain ⊆ heldKeys tables :=
      fun k hk => mem_heldKeys_iff.mpr ((htracks q hq).held k hk)
    exact (List.subperm_of_subset (htracks q hq).nodup hsub).length_le
  · rw [(htracks q hq).chain_eq, (htracks q' hq').chain_eq, hwaiting]

/-- Over tables every evaluation of an expression and of a held key is orderly, whatever the values
refer to, and its result is the value or the error that is answered. -/
theorem evaluation_ends (tables : List (String × List (String × String))) :
    let ls := ofTables tables
    let keys := heldKeys tables
    (∀ k, k ∈ keys ↔ ls.contains k = true) ∧ keys.Nodup ∧
    (∀ expression, ls.Orderly keys (expressionStart expression) (ls.evaluate expression)) ∧
    ∀ key, match ls.raw? key with
      | none => ls.get key = .ok none
      | some text => ∃ r, ls.get key = r.map some ∧ ls.Orderly keys (keyStart key text) r := by
  intro ls keys
  refine ⟨fun k => mem_heldKeys_iff, List.nodup_dedup _, fun expression => ?_, fun key => ?_⟩
  · exact (evaluates_expression ls expression).orderly List.nodup_nil (by simp)
  · cases hraw : ls.raw? key with
    | none => simp only [get, hraw]
    | some text =>
      have hkey : ls.contains key = true := contains_iff.mpr ⟨text, hraw⟩
      refine ⟨ls.evaluateWith (ls.referenceCount + 2) [key] text, by simp only [get, hraw], ?_⟩
      exact ((bounded_key ls key).evaluates hraw).orderly (List.nodup_singleton key)
        (by simpa using hkey)

end Layers

end Postroom
