import Postroom.Proofs.Resource.Resolving

namespace Postroom

namespace Lookup

theorem opening_mem_openings (l : Lookup) : (l.opening, l) ∈ openings := by
  cases l <;> simp [opening, name, openings]

end Lookup

namespace ResourcePath

variable {p : ResourcePath}

/-- Reading what the path is written as gives the path. -/
def Reparses (p : ResourcePath) : Prop := parse p.written = p

instance : DecidablePred Reparses := fun p => inferInstanceAs (Decidable (parse p.written = p))

theorem reparses_parse (text : String) : (parse text).Reparses := rfl

theorem reparses_opening (l : Lookup) (path : String) :
    Reparses ⟨l.opening ++ path, some l, path⟩ :=
  (Reads.opened l.opening_mem_openings path).parse

theorem Reparses.orLookup (h : p.Reparses) (l : Option Lookup) : (p.orLookup l).Reparses := by
  obtain ⟨written, lookup, path⟩ := p
  cases lookup with
  | some l' => exact h
  | none =>
    cases l with
    | none => exact h
    | some l => exact reparses_opening l path

theorem orLookup_of_isSome (h : p.lookup.isSome = true) (l : Option Lookup) :
    p.orLookup l = p := by
  obtain ⟨written, lookup, path⟩ := p
  cases lookup with
  | some l' => rfl
  | none => cases h

theorem withPath_withPath (p : ResourcePath) (x y : String) :
    (p.withPath x).withPath y = p.withPath y := by
  obtain ⟨written, lookup, path⟩ := p
  cases lookup <;> rfl

theorem reparses_withPath_iff {x : String} : (p.withPath x).Reparses ↔
    p.lookup.isSome = true ∨ ∀ o ∈ Lookup.openings, ¬ o.1.toList <+: x.toList := by
  obtain ⟨written, lookup, path⟩ := p
  cases lookup with
  | some l => exact iff_of_true (reparses_opening l x) (.inl rfl)
  | none =>
    change parse x = ⟨x, none, x⟩ ↔ _
    rw [← reads_iff]
    constructor
    · rintro (⟨⟩ | h)
      exact .inr h
    · rintro (h | h)
      · cases h
      · exact .bare h

example : ¬ ((parse "a").withPath "file:a").Reparses := by decide

end ResourcePath

namespace Resolver

open ResourcePath

def ended (ending text : String) : String :=
  if ending.toList <:+ text.toList then text else text ++ ending

variable {ending text : String}

theorem prefix_ended : text.toList <+: (ended ending text).toList := by
  unfold ended
  split
  · exact List.prefix_rfl
  · rw [String.toList_append]
    exact List.prefix_append _ _

theorem suffix_ended : ending.toList <:+ (ended ending text).toList := by
  unfold ended
  split
  · assumption
  · rw [String.toList_append]
    exact List.suffix_append _ _

theorem ended_append (h : ¬ ending.toList <:+ text.toList) :
    ended ending (text ++ ending) = ended ending text := by
  have happended : ending.toList <:+ (text ++ ending).toList := by
    rw [String.toList_append]
    exact List.suffix_append _ _
  rw [ended, ended, if_pos happended, if_neg h]

theorem relativize_eq (parent extension : String) (p : ResourcePath) :
    relativize parent extension p = p.withPath (ended extension (parent ++ p.path)) := by
  simp only [relativize, ended, Text.endsWith, List.isSuffixOf_iff_suffix]

theorem prefix_relativize (parent extension : String) (p : ResourcePath) :
    parent.toList <+: (relativize parent extension p).path.toList := by
  rw [relativize_eq, path_withPath]
  refine List.IsPrefix.trans ?_ prefix_ended
  rw [String.toList_append]
  exact List.prefix_append _ _

theorem suffix_relativize (parent extension : String) (p : ResourcePath) :
    extension.toList <:+ (relativize parent extension p).path.toList := by
  rw [relativize_eq, path_withPath]
  exact suffix_ended

theorem relativize_appended {parent extension : String} {p : ResourcePath}
    (h : ¬ extension.toList <:+ (parent ++ p.path).toList) :
    relativize parent extension (p.withPath (p.path ++ extension)) =
      relativize parent extension p := by
  rw [relativize_eq, relativize_eq, withPath_withPath, path_withPath, ← String.append_assoc,
    ended_append h]

/-- A text that is read and gets a lookup has one, its own where it has one, and no other lookup
changes it. With a lookup a path is read again from what it is written as: as it is, with another
path proper, which may begin with an opening itself, and behind a parent path and with an extension.
Whatever its lookup, it begins with the parent path then and ends with the extension, and an
extension that is put behind it before makes no difference. -/
theorem rewritten_reparses (t : String) (l : Lookup) (q : ResourcePath) (x a e : String) :
    (let p := (parse t).orLookup (some l)
     p.lookup = some ((parse t).lookup.getD l) ∧ parse p.written = p ∧
      ∀ other, p.orLookup other = p) ∧
    (q.lookup.isSome = true →
      parse (q.withPath x).written = q.withPath x ∧
        (q.withPath x).lookup = q.lookup ∧ (q.withPath x).path = x) ∧
    (let r := relativize a e q
     (q.lookup.isSome = true → parse r.written = r ∧ r.lookup = q.lookup) ∧
      a.toList <+: r.path.toList ∧ e.toList <:+ r.path.toList) ∧
    (¬ e.toList <:+ (a ++ q.path).toList →
      relativize a e (q.withPath (q.path ++ e)) = relativize a e q) := by
  refine ⟨?_, fun hq => ?_, ⟨fun hq => ?_, prefix_relativize a e q, suffix_relativize a e q⟩,
    relativize_appended⟩
  · have hlookup : ((parse t).orLookup (some l)).lookup = some ((parse t).lookup.getD l) := by
      rw [lookup_orLookup, Option.or_some]
    have hsome : ((parse t).orLookup (some l)).lookup.isSome = true := by rw [hlookup]; rfl
    exact ⟨hlookup, (reparses_parse t).orLookup _, fun other => orLookup_of_isSome hsome other⟩
  · exact ⟨reparses_withPath_iff.mpr (.inl hq), q.lookup_withPath x, q.path_withPath x⟩
  · rw [relativize_eq]
    exact ⟨reparses_withPath_iff.mpr (.inl hq), q.lookup_withPath _⟩

theorem rewritten_reparses_openings :
    let q : ResourcePath := parse "s:file:a.html"
    let r := relativize "classpath:" "l.html" q
    q.lookup.isSome = true ∧ q.withPath "string:x" = ⟨"string:string:x", some .inPath, "string:x"⟩ ∧
      parse (q.withPath "string:x").written = q.withPath "string:x" ∧
      r.written = "string:classpath:file:a.htmll.html" ∧ parse r.written = r ∧
      ¬ "l.html".toList <:+ ("classpath:" ++ q.path).toList ∧
      relativize "classpath:" "l.html" (q.withPath "file:a.htmll.html") = r := by
  intro q r
  have hq : q.lookup.isSome = true := by decide
  have hmissing : ¬ "l.html".toList <:+ ("classpath:" ++ q.path).toList := by decide
  obtain ⟨-, hpath, ⟨hr, -⟩, happended⟩ :=
    rewritten_reparses "a" .file q "string:x" "classpath:" "l.html"
  exact ⟨hq, by decide, (hpath hq).1, by decide, (hr hq).1, hmissing, happended hmissing⟩

end Resolver

end Postroom
