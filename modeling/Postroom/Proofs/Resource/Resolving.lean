import Postroom.Proofs.Selection.Tested
import Postroom.Resource.Resolution

namespace Postroom

open Text

namespace Lookup

theorem openings_apart : ∀ o ∈ openings, ∀ o' ∈ openings, o.1.toList <+: o'.1.toList → o = o' := by
  decide

theorem split_opened {o : String × Lookup} (ho : o ∈ openings) (rest : String) :
    split (o.1 ++ rest) = (some o.2, rest) := by
  unfold split
  split
  · rename_i l text hfound
    obtain ⟨o', ho', hafter⟩ := List.exists_of_findSome?_eq_some hfound
    obtain ⟨cs, hcs, heq⟩ := Option.map_eq_some_iff.mp hafter
    have happend : (o.1 ++ rest).toList = o.1.toList ++ rest.toList := String.toList_append
    have hfront : o.1.toList <+: (o.1 ++ rest).toList := ⟨rest.toList, happend.symm⟩
    have hfront' : o'.1.toList <+: (o.1 ++ rest).toList := ⟨cs, (eq_append_of_after? hcs).symm⟩
    -- both are openings of one text, so one begins with the other
    obtain rfl : o = o' := by
      rcases List.prefix_or_prefix_of_prefix hfront hfront' with h | h
      · exact openings_apart o ho o' ho' h
      · exact (openings_apart o' ho' o ho h).symm
    rw [happend, after?_append] at hcs
    cases hcs
    cases heq
    simp
  · rename_i hnone
    have hmissed := List.findSome?_eq_none_iff.mp hnone o ho
    rw [String.toList_append, after?_append] at hmissed
    cases hmissed

theorem split_bare {text : String} (h : ∀ o ∈ openings, ¬ o.1.toList <+: text.toList) :
    split text = (none, text) := by
  unfold split
  split
  · rename_i l rest hfound
    obtain ⟨o, ho, hafter⟩ := List.exists_of_findSome?_eq_some hfound
    obtain ⟨cs, hcs, -⟩ := Option.map_eq_some_iff.mp hafter
    exact absurd ⟨cs, (eq_append_of_after? hcs).symm⟩ (h o ho)
  · rfl

end Lookup

namespace ResourcePath

inductive Reads : String → Option Lookup → String → Prop
  | opened {o : String × Lookup} (ho : o ∈ Lookup.openings) (rest : String) :
    Reads (o.1 ++ rest) (some o.2) rest
  | bare {text : String} (h : ∀ o ∈ Lookup.openings, ¬ o.1.toList <+: text.toList) :
    Reads text none text

theorem Reads.parse {text path : String} {l : Option Lookup} (h : Reads text l path) :
    ResourcePath.parse text = ⟨text, l, path⟩ := by
  cases h with
  | opened ho => rw [ResourcePath.parse, Lookup.split_opened ho]
  | bare h => rw [ResourcePath.parse, Lookup.split_bare h]

theorem reads_parse (text : String) : Reads text (parse text).lookup (parse text).path := by
  by_cases h : ∀ o ∈ Lookup.openings, ¬ o.1.toList <+: text.toList
  · rw [(Reads.bare h).parse]
    exact .bare h
  · simp only [Classical.not_forall, Classical.not_not] at h
    obtain ⟨o, ho, rest, hrest⟩ := h
    obtain rfl : o.1 ++ String.ofList rest = text := by
      rw [← String.toList_inj, String.toList_append, String.toList_ofList, hrest]
    rw [(Reads.opened ho _).parse]
    exact .opened ho _

theorem reads_iff {text path : String} {l : Option Lookup} :
    Reads text l path ↔ parse text = ⟨text, l, path⟩ := by
  refine ⟨Reads.parse, fun h => ?_⟩
  have hreads := reads_parse text
  rwa [h] at hreads

example : Reads "s:file:a" (some .inPath) "file:a" := reads_iff.mpr (by decide)

@[simp]
theorem path_orLookup (p : ResourcePath) (l : Option Lookup) : (p.orLookup l).path = p.path := by
  obtain ⟨written, lookup, path⟩ := p
  cases lookup <;> cases l <;> rfl

@[simp]
theorem lookup_orLookup (p : ResourcePath) (l : Option Lookup) :
    (p.orLookup l).lookup = p.lookup.or l := by
  obtain ⟨written, lookup, path⟩ := p
  cases lookup <;> cases l <;> rfl

@[simp]
theorem orLookup_orLookup (p : ResourcePath) (l : Option Lookup) :
    (p.orLookup l).orLookup l = p.orLookup l := by
  obtain ⟨written, lookup, path⟩ := p
  cases lookup <;> cases l <;> rfl

@[simp]
theorem lookup_withPath (p : ResourcePath) (path : String) :
    (p.withPath path).lookup = p.lookup := by
  unfold withPath
  split <;> simp [*]

@[simp]
theorem path_withPath (p : ResourcePath) (path : String) : (p.withPath path).path = path := by
  unfold withPath
  split <;> rfl

end ResourcePath

namespace Files

theorem isFile_iff_read {fs : Files} {path : String} :
    fs.isFile path = true ↔ ∃ content, fs.read path = .ok content := by
  rw [isFile, read]
  cases fs.locate path with
  | error e => simp
  | ok p =>
    dsimp only
    cases fs.isDirectory p with
    | true => simp
    | false => cases fs.file? p <;> simp

end Files

namespace Resolver

/-- What a resolver says to be there is what can be had from it. -/
def Honest (r : Resolver) : Prop := ∀ p, r.has p = true ↔ ∃ found, r.resolve p = .ok found

theorem honest_inPath : inPath.Honest := fun _ => ⟨fun _ => ⟨_, rfl⟩, fun _ => rfl⟩

theorem honest_ofFiles (fs : Files) (base : Option String) : (ofFiles fs base).Honest := by
  intro p
  simp only [ofFiles, Files.isFile_iff_read]
  cases fs.read (location base p.path) with
  | ok content => simp
  | error cause => cases cause <;> simp

theorem honest_bundled (puts : List (String × ByteArray)) : (bundled puts).Honest := by
  intro p
  simp only [bundled]
  split <;> simp [*]

theorem honest_of_isOk {r : Resolver} (h : r.has = fun p => (r.resolve p).isOk) : r.Honest := by
  intro p
  rw [h]
  cases hp : r.resolve p <;> simp [hp, Except.isOk, Except.toBool]

theorem Honest.relative {r : Resolver} (h : r.Honest) (parent extension : String) :
    (r.relative parent extension).Honest :=
  fun p => h (relativize parent extension p)

def behind (parent extension : Option String) (p : ResourcePath) : ResourcePath :=
  if parent = none ∧ extension = none then p
  else
    let full := parent.getD "" ++ p.path
    let ending := extension.getD ""
    p.withPath (if ending.toList <:+ full.toList then full else full ++ ending)

theorem lookup_behind (parent extension : Option String) (p : ResourcePath) :
    (behind parent extension p).lookup = p.lookup := by
  unfold behind
  split
  · rfl
  · exact p.lookup_withPath _

theorem behind_eq_relativize {parent extension : Option String}
    (h : parent.isSome || extension.isSome) (p : ResourcePath) :
    behind parent extension p = relativize (parent.getD "") (extension.getD "") p := by
  have hset : ¬(parent = none ∧ extension = none) := by
    rintro ⟨rfl, rfl⟩
    cases h
  simp only [behind, if_neg hset, relativize, Text.endsWith, List.isSuffixOf_iff_suffix]

theorem behind_unset {parent extension : Option String}
    (h : ¬(parent.isSome || extension.isSome)) (p : ResourcePath) :
    behind parent extension p = p := by
  have hunset : parent = none ∧ extension = none := by
    cases parent <;> cases extension <;> simp_all
  rw [behind, if_pos hunset]

end Resolver

def Resolver.test (r : Resolver) : LookupTest := ⟨r.lookups⟩

namespace ResolutionPlan

variable (plan : ResolutionPlan)

def placed (r : Resolver) : Resolver :=
  if (plan.parent.isSome || plan.extension.isSome) && r.relativisable then
    .relative (plan.parent.getD "") (plan.extension.getD "") r
  else r

@[simp]
theorem name_placed (r : Resolver) : (plan.placed r).name = r.name := by
  unfold placed
  split <;> rfl

@[simp]
theorem lookups_placed (r : Resolver) : (plan.placed r).lookups = r.lookups := by
  unfold placed
  split <;> rfl

theorem resolve_placed_of_relativisable {r : Resolver} (hr : r.relativisable = true)
    (p : ResourcePath) :
    (plan.placed r).resolve p = r.resolve (Resolver.behind plan.parent plan.extension p) := by
  unfold placed
  rw [hr, Bool.and_true]
  split
  · rename_i hset
    rw [Resolver.behind_eq_relativize hset]
    rfl
  · rename_i hunset
    rw [Resolver.behind_unset hunset]

theorem placed_of_not_relativisable {r : Resolver} (hr : r.relativisable = false) :
    plan.placed r = r := by
  unfold placed
  rw [hr, Bool.and_false]
  rfl

theorem honest_placed {r : Resolver} (h : r.Honest) : (plan.placed r).Honest := by
  unfold placed
  split
  · exact h.relative _ _
  · exact h

def registered : List Resolver := firsts Resolver.name plan.resolvers

theorem build_eq : plan.build =
    { registry :=
        { name := "resource-resolvers"
          candidates :=
            (plan.registered.map plan.placed).map (.tested Resolver.name Resolver.test) }
      defaultLookup := plan.defaultLookup } := by
  have hadd : (plan.resolvers.map plan.placed).foldl Resolution.add
      { defaultLookup := plan.defaultLookup } =
        ⟨(plan.resolvers.map plan.placed).foldl
          (fun r x => r.register (.tested Resolver.name Resolver.test x))
          { name := "resource-resolvers" }, plan.defaultLookup⟩ :=
    List.foldl_hom (Resolution.mk · plan.defaultLookup) fun _ _ => rfl
  rw [Registry.foldl_tested, firsts_map, List.foldl_map] at hadd
  simp only [name_placed] at hadd
  exact hadd

theorem candidates_build : plan.build.registry.candidates =
    (plan.registered.map plan.placed).map (.tested Resolver.name Resolver.test) := by
  rw [build_eq]

theorem effective_build (p : ResourcePath) :
    plan.build.effective p = p.orLookup plan.defaultLookup := by
  rw [build_eq]
  rfl

def resolver? (l : Option Lookup) : Option Resolver :=
  plan.registered.find? fun r => l.any r.lookups.contains

theorem select_build (p : ResourcePath) : plan.build.select p =
    match plan.resolver? (p.orLookup plan.defaultLookup).lookup with
    | some r => .ok (plan.placed r)
    | none => .error ⟨"resource-resolvers", (p.orLookup plan.defaultLookup).shown,
        plan.registered.map fun r => (r.name, "fn(" ++ Named.name r.test ++ ")")⟩ := by
  have hname : plan.build.registry.name = "resource-resolvers" := by rw [build_eq]
  have hfind : (plan.registered.map plan.placed).find?
      (fun r => LookupTest.holds (p.orLookup plan.defaultLookup) r.test) =
        (plan.resolver? (p.orLookup plan.defaultLookup).lookup).map plan.placed := by
    rw [List.find?_map, resolver?]
    simp only [Function.comp_def, LookupTest.holds, Resolver.test, lookups_placed]
  simp only [Resolution.select, effective_build]
  rw [Registry.alone_select plan.candidates_build, hfind,
    Registry.noMatch_tested plan.candidates_build, hname]
  cases plan.resolver? (p.orLookup plan.defaultLookup).lookup with
  | some r => rfl
  | none => simp only [Option.map_none, List.map_map, Function.comp_def, name_placed,
      Resolver.test, lookups_placed, Except.map]

theorem resolve_build (p : ResourcePath) : plan.build.resolve p =
    match plan.resolver? (p.orLookup plan.defaultLookup).lookup with
    | some r => (plan.placed r).resolve (p.orLookup plan.defaultLookup)
    | none => .error (.noResolver ⟨"resource-resolvers", (p.orLookup plan.defaultLookup).shown,
        plan.registered.map fun r => (r.name, "fn(" ++ Named.name r.test ++ ")")⟩) := by
  rw [Resolution.resolve, effective_build, select_build, ResourcePath.orLookup_orLookup]
  cases plan.resolver? (p.orLookup plan.defaultLookup).lookup <;> rfl

theorem has_build (p : ResourcePath) : plan.build.has p =
    (plan.resolver? (p.orLookup plan.defaultLookup).lookup).any fun r =>
      (plan.placed r).has (p.orLookup plan.defaultLookup) := by
  rw [Resolution.has, effective_build, select_build, ResourcePath.orLookup_orLookup]
  cases plan.resolver? (p.orLookup plan.defaultLookup).lookup <;> rfl

theorem has_build_iff (h : ∀ r ∈ plan.resolvers, r.Honest) (p : ResourcePath) :
    plan.build.has p = true ↔ ∃ found, plan.build.resolve p = .ok found := by
  rw [has_build, resolve_build]
  cases hr : plan.resolver? (p.orLookup plan.defaultLookup).lookup with
  | none => simp
  | some r =>
    have hmem : r ∈ plan.resolvers := firsts_subset _ _ (List.mem_of_find?_eq_some hr)
    exact plan.honest_placed (h r hmem) _

end ResolutionPlan

/-- Where resources come from: the path itself, files, or what is bundled. -/
inductive Origin
  | path
  | files (base : Option String)
  | bundled (puts : List (String × ByteArray))

namespace Origin

def lookup : Origin → Lookup
  | path => .inPath
  | files _ => .file
  | bundled _ => .bundled

def resolver (fs : Files) : Origin → Resolver
  | path => .inPath
  | files base => .ofFiles fs base
  | bundled puts => .bundled puts

def name (o : Origin) : String := o.lookup.name

theorem name_resolver (fs : Files) (o : Origin) : (o.resolver fs).name = o.name := by
  cases o <;> rfl

theorem lookups_resolver (fs : Files) (o : Origin) : (o.resolver fs).lookups = [o.lookup] := by
  cases o <;> rfl

theorem honest_resolver (fs : Files) (o : Origin) : (o.resolver fs).Honest := by
  cases o with
  | path => exact Resolver.honest_inPath
  | files base => exact Resolver.honest_ofFiles fs base
  | bundled puts => exact Resolver.honest_bundled puts

section

variable (fs : Files) (origins : List Origin) (parent extension : Option String)
  (default : Option Lookup)

def plan : ResolutionPlan where
  resolvers := origins.map (resolver fs)
  parent := parent
  extension := extension
  defaultLookup := default

theorem registered_plan : (plan fs origins parent extension default).registered =
    (firsts name origins).map (resolver fs) := by
  simp only [ResolutionPlan.registered, plan, firsts_map, name_resolver]

theorem resolver?_plan (l : Option Lookup) :
    (plan fs origins parent extension default).resolver? l =
      ((firsts name origins).find? fun o => l == some o.lookup).map (resolver fs) := by
  have hserves : ∀ o : Origin, (l.any (o.resolver fs).lookups.contains) = (l == some o.lookup) := by
    intro o
    rw [Bool.eq_iff_iff]
    cases l <;> simp [lookups_resolver]
  rw [ResolutionPlan.resolver?, registered_plan, List.find?_map]
  simp only [Function.comp_def, hserves]

theorem honest_plan : ∀ r ∈ (plan fs origins parent extension default).resolvers, r.Honest := by
  intro r hr
  obtain ⟨o, -, rfl⟩ := List.mem_map.mp hr
  exact o.honest_resolver fs

/-- The first registered origin that has the lookup of a path, or the default one where it has none,
answers for it. What the path itself holds is had whatever is set; the others are asked behind the
parent path and with the extension. -/
theorem resolution_by_lookup (p : ResourcePath) :
    let resolution := (plan fs origins parent extension default).build
    let e := p.orLookup default
    let registered := firsts name origins
    (resolution.resolve p =
      match registered.find? fun o => e.lookup == some o.lookup with
      | none => .error (.noResolver ⟨"resource-resolvers", e.shown,
          registered.map fun o => (o.name, "fn(lookup(" ++ o.lookup.name ++ "))")⟩)
      | some .path => .ok ⟨e, p.path.toUTF8⟩
      | some o => (o.resolver fs).resolve (Resolver.behind parent extension e)) ∧
    (resolution.has p = true ↔ ∃ found, resolution.resolve p = .ok found) ∧
    (e.lookup = p.lookup.or default ∧ e.path = p.path ∧
      (Resolver.behind parent extension e).lookup = e.lookup) ∧
    ∀ text l path,
      ResourcePath.Reads text l path ↔ ResourcePath.parse text = ⟨text, l, path⟩ := by
  intro resolution e registered
  refine ⟨?_, ResolutionPlan.has_build_iff _ (honest_plan fs origins parent extension default) p,
    ⟨p.lookup_orLookup default, p.path_orLookup default, Resolver.lookup_behind parent extension e⟩,
    fun _ _ _ => ResourcePath.reads_iff⟩
  have hresolve := ResolutionPlan.resolve_build (plan fs origins parent extension default) p
  have hreport : (plan fs origins parent extension default).registered.map
      (fun r => (r.name, "fn(" ++ Named.name r.test ++ ")")) =
        registered.map fun o => (o.name, "fn(lookup(" ++ o.lookup.name ++ "))") := by
    rw [registered_plan, List.map_map]
    refine List.map_congr_left fun o _ => ?_
    cases o <;> rfl
  rw [hreport, resolver?_plan] at hresolve
  refine hresolve.trans ?_
  change (match (registered.find? fun o => e.lookup == some o.lookup).map (resolver fs) with
    | some r => _
    | none => _) = _
  cases registered.find? fun o => e.lookup == some o.lookup with
  | none => rfl
  | some o =>
    let plan := plan fs origins parent extension default
    have hasked : ∀ r, r.relativisable = true →
        (plan.placed r).resolve e = r.resolve (Resolver.behind parent extension e) :=
      fun r hr => plan.resolve_placed_of_relativisable hr e
    cases o with
    | path =>
      have hpath : plan.placed .inPath = .inPath := plan.placed_of_not_relativisable rfl
      change (plan.placed .inPath).resolve e = _
      rw [hpath, ← p.path_orLookup default]
      rfl
    | files base => exact hasked _ rfl
    | bundled puts => exact hasked _ rfl

end

end Origin

end Postroom
