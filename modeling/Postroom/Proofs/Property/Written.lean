import Mathlib.Data.List.Chain
import Mathlib.Data.List.TakeWhile
import Postroom.Proofs.Property.Scanning

namespace Postroom.Property

open Text

/-- A part of a property text as it is written: a literal, or a reference with white space around
its key. -/
inductive Segment
  | literal (text : String)
  | placeholder (key : String) (default : Option String)
  deriving DecidableEq, Repr

namespace Segment

def isLiteral : Segment → Bool
  | literal _ => true
  | placeholder _ _ => false

def written : Segment → String
  | literal t => t
  | placeholder k none => "$\x7b" ++ k ++ "\x7d"
  | placeholder k (some d) => "$\x7b" ++ k ++ ":" ++ d ++ "\x7d"

/-- A literal does not open a reference; a key is not empty and holds neither a closing brace nor a
colon, and a default holds no closing brace. -/
def WellFormed : Segment → Prop
  | literal t => ¬ ['$', '\x7b'] <:+: t.toList
  | placeholder k d => k.toList ≠ [] ∧ '\x7d' ∉ k.toList ∧ ':' ∉ k.toList ∧
      ∀ x ∈ d, '\x7d' ∉ x.toList

instance : DecidablePred WellFormed
  | literal _ => inferInstanceAs (Decidable (¬ _))
  | placeholder _ _ => inferInstanceAs (Decidable (_ ∧ _))

def pieces : Segment → List Piece
  | literal t => t.toList.map .literal
  | placeholder k d => [.reference (trim k) d]

theorem scan_placeholder {k : String} {d : Option String} (h : (placeholder k d).WellFormed)
    (rest : List Char) :
    scan ((placeholder k d).written.toList ++ rest) = .reference (trim k) d :: scan rest := by
  obtain ⟨hne, hclosing, hcolon, hd⟩ := h
  cases d with
  | none =>
    have hr := reference?_key hne hclosing hcolon rest
    rw [String.ofList_toList] at hr
    rw [← scan_opened hr]
    simp [written]
  | some d =>
    have hr := reference?_default hne hclosing hcolon (hd d rfl) rest
    rw [String.ofList_toList, String.ofList_toList] at hr
    rw [← scan_opened hr]
    simp [written]

theorem head?_placeholder (k : String) (d : Option String) (rest : List Char) :
    ((placeholder k d).written.toList ++ rest).head? = some '$' := by
  cases d <;> simp [written]

end Segment

/-- A text of segments of which no two literals are neighbours. -/
structure Expression where
  segments : List Segment
  wellFormed : ∀ s ∈ segments, s.WellFormed
  separated : segments.IsChain fun s t => s.isLiteral = false ∨ t.isLiteral = false

def Expression.text (e : Expression) : String := String.join (e.segments.map Segment.written)

theorem scan_segments {segments : List Segment} (hform : ∀ s ∈ segments, s.WellFormed)
    (hseparated : segments.IsChain fun s t => s.isLiteral = false ∨ t.isLiteral = false) :
    scan (segments.flatMap fun s => s.written.toList) = segments.flatMap Segment.pieces := by
  induction segments with
  | nil => rfl
  | cons s segments ih =>
    have hs := hform s List.mem_cons_self
    have hrest := ih (fun t ht => hform t (List.mem_cons_of_mem s ht)) hseparated.of_cons
    rw [List.flatMap_cons, List.flatMap_cons, ← hrest]
    cases s with
    | placeholder k d => exact Segment.scan_placeholder hs _
    | literal t =>
      refine scan_append_of_not_infix hs ?_
      cases segments with
      | nil => simp
      | cons next segments =>
        cases next with
        | literal u => simp [Segment.isLiteral] at hseparated
        | placeholder k d =>
          rw [List.flatMap_cons, Segment.head?_placeholder]
          decide

theorem Expression.pieces_text (e : Expression) :
    pieces e.text = e.segments.flatMap Segment.pieces := by
  rw [pieces_eq_scan, ← scan_segments e.wellFormed e.separated, Expression.text,
    String.toList_join, List.flatMap_map]

/-- A reference that the text is read to hold, written in it with white space around its key. -/
structure Holds (text key : String) (default : Option String) : Prop where
  read : .reference key default ∈ pieces text
  written : ∃ front k back, text = front ++ (Segment.placeholder k default).written ++ back ∧
    (Segment.placeholder k default).WellFormed ∧ trim k = key

theorem split_of_dropWhile {p : Char → Bool} {cs rest : List Char} {c : Char}
    (h : cs.dropWhile p = c :: rest) :
    cs = cs.takeWhile p ++ c :: rest ∧ ∀ d ∈ cs.takeWhile p, p d = true :=
  ⟨by rw [← h, List.takeWhile_append_dropWhile], fun _ hd => List.mem_takeWhile_imp hd⟩

theorem wellFormed_of_plain {key : List Char} {default : Option String} (hne : key ≠ [])
    (hplain : ∀ c ∈ key, (c != '\x7d' && c != ':') = true)
    (hdefault : ∀ d ∈ default, '\x7d' ∉ d.toList) :
    (Segment.placeholder (.ofList key) default).WellFormed := by
  simp only [Bool.and_eq_true, bne_iff_ne] at hplain
  rw [Segment.WellFormed, String.toList_ofList]
  exact ⟨hne, fun h => (hplain _ h).1 rfl, fun h => (hplain _ h).2 rfl, hdefault⟩

theorem written_of_reference? {cs rest : List Char} {piece : Piece}
    (h : reference? cs = some (piece, rest)) :
    ∃ k default, '$' :: '\x7b' :: cs = (Segment.placeholder k default).written.toList ++ rest ∧
      (Segment.placeholder k default).WellFormed ∧ piece = .reference (trim k) default := by
  unfold reference? at h
  simp only at h
  split at h
  · cases h
  · rename_i hempty
    have hne : (cs.takeWhile fun c => c != '\x7d' && c != ':') ≠ [] := by simpa using hempty
    split at h
    · rename_i hdrop
      cases h
      obtain ⟨hcs, hplain⟩ := split_of_dropWhile hdrop
      refine ⟨_, none, ?_, wellFormed_of_plain hne hplain (by simp), rfl⟩
      conv_lhs => rw [hcs]
      simp [Segment.written]
    · rename_i more hdrop
      obtain ⟨hcs, hplain⟩ := split_of_dropWhile hdrop
      split at h
      · rename_i hend
        cases h
        obtain ⟨hmore, hopen⟩ := split_of_dropWhile hend
        have hdefault : '\x7d' ∉ more.takeWhile (· != '\x7d') := fun hc => by simpa using hopen _ hc
        refine ⟨_, some _, ?_, wellFormed_of_plain hne hplain (by simpa using hdefault), rfl⟩
        conv_lhs => rw [hcs, hmore]
        simp [Segment.written]
      · cases h
    · cases h

theorem written_of_mem_scan {cs : List Char} {key : String} {default : Option String}
    (h : .reference key default ∈ scan cs) :
    ∃ front k back, cs = front ++ (Segment.placeholder k default).written.toList ++ back ∧
      (Segment.placeholder k default).WellFormed ∧ trim k = key := by
  induction hn : cs.length using Nat.strongRecOn generalizing cs with
  | _ n ih =>
    obtain ⟨ds, piece, rest, rfl, hr⟩ | hunopened := opened_or_unopened cs
    · obtain ⟨k, d, hwritten, hform, rfl⟩ := written_of_reference? hr
      have hrest := length_of_reference? hr
      rw [scan_opened hr] at h
      rw [hwritten]
      obtain heq | h := List.mem_cons.mp h
      · cases heq
        exact ⟨[], k, rest, rfl, hform, rfl⟩
      · simp only [List.length_cons] at hn
        obtain ⟨front, k', back, rfl, hk'⟩ := ih rest.length (by omega) h rfl
        exact ⟨(Segment.placeholder k d).written.toList ++ front, k', back,
          by simp only [List.append_assoc], hk'⟩
    · cases cs with
      | nil => cases h
      | cons c cs =>
        rw [scan_unopened hunopened] at h
        obtain heq | h := List.mem_cons.mp h
        · cases heq
        · obtain ⟨front, k, back, rfl, hk⟩ := ih cs.length (by simp [← hn]) h rfl
          exact ⟨c :: front, k, back, rfl, hk⟩

theorem holds_of_mem {text key : String} {default : Option String}
    (h : .reference key default ∈ pieces text) : Holds text key default where
  read := h
  written := by
    rw [pieces_eq_scan] at h
    obtain ⟨front, k, back, htext, hk⟩ := written_of_mem_scan h
    refine ⟨.ofList front, k, .ofList back, ?_, hk⟩
    rw [← String.toList_inj, htext]
    simp

theorem not_mem_default {text key d : String} (h : .reference key (some d) ∈ pieces text) :
    '\x7d' ∉ d.toList := by
  obtain ⟨-, _, k, _, -, hform, -⟩ := holds_of_mem h
  exact hform.2.2.2 d rfl

end Postroom.Property
