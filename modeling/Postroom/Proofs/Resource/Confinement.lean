import Mathlib.Data.List.Basic
import Postroom.Resource.Resolver

namespace Postroom

namespace Files

variable {fs fs' : Files}

theorem isDirectory_of_isPrefix {p q : List String} (hpq : p <+: q) (h : fs.isDirectory q = true) :
    fs.isDirectory p = true := by
  simp only [isDirectory, Bool.or_eq_true, List.any_eq_true, Bool.and_eq_true,
    List.isPrefixOf_iff_prefix, decide_eq_true_eq] at h ⊢
  rcases h with (h | ⟨d, hd, h⟩) | ⟨f, hf, h, hlt⟩
  · exact .inl (.inl (hpq.trans h))
  · exact .inl (.inr ⟨d, hd, hpq.trans h⟩)
  · exact .inr ⟨f, hf, hpq.trans h, Nat.lt_of_le_of_lt hpq.length_le hlt⟩

theorem walk_cons (here : List String) (c : String) (cs : List String) :
    fs.walk here (c :: cs) = (fs.step here c).bind fun next => fs.walk next cs := List.foldlM_cons

theorem walk_append (here : List String) (cs cs' : List String) :
    fs.walk here (cs ++ cs') = (fs.walk here cs).bind fun next => fs.walk next cs' :=
  List.foldlM_append

theorem step_of_not_isDirectory {here : List String} (h : fs.isDirectory here = false)
    (c : String) : fs.step here c = .error .notDirectory := by
  simp [step, h]

theorem step_blank {here : List String} (h : fs.isDirectory here = true) {c : String}
    (hc : (c == "" || c == ".") = true) : fs.step here c = .ok here := by
  simp [step, h, hc]

theorem step_up {here : List String} (h : fs.isDirectory here = true) {c : String}
    (hc : (c == "..") = true) : fs.step here c = .ok here.dropLast := by
  obtain rfl : c = ".." := by simpa using hc
  simp [step, h]

theorem walk_blank (here : List String) {cs : List String} (hcs : cs ≠ []) :
    fs.walk here ("" :: cs) = fs.walk here cs := by
  rw [walk_cons]
  cases h : fs.isDirectory here with
  | true =>
    rw [step_blank h (by rfl)]
    rfl
  | false =>
    cases cs with
    | nil => exact absurd rfl hcs
    | cons c cs =>
      rw [walk_cons, step_of_not_isDirectory h, step_of_not_isDirectory h]
      rfl

theorem components_ne_nil (path : String) : components path ≠ [] := by
  simp [components, List.splitOn]

theorem components_append (front back : String) :
    components (front ++ "/" ++ back) = components front ++ components back := by
  have hchars : (front ++ "/" ++ back).toList = front.toList ++ '/' :: back.toList := by simp
  rw [components, hchars, List.splitOn, List.splitOnP_append_cons _ _ (by rfl), List.map_append]
  rfl

theorem start_append {base : String} (h : base ≠ "") (rest : String) :
    fs.start (base ++ rest) = fs.start base := by
  have hhead : (base ++ rest).toList.head? = base.toList.head? := by
    rw [String.toList_append]
    cases hbase : base.toList with
    | nil => exact absurd (String.toList_inj.mp hbase) h
    | cons c cs => rfl
  rw [start, start, hhead]

theorem start_withoutLeadingSlashes (path : String) :
    fs.start (withoutLeadingSlashes path) = fs.working := by
  have hhead := List.head?_dropWhile_not (· == '/') path.toList
  rw [start, withoutLeadingSlashes, String.toList_ofList]
  cases h : (path.toList.dropWhile (· == '/')).head? with
  | none => rfl
  | some c =>
    rw [h] at hhead
    simp_all

theorem isDirectory_working (fs : Files) : fs.isDirectory fs.working = true := by
  simp [isDirectory, List.isPrefixOf_iff_prefix]

theorem follow_empty (fs : Files) : fs.follow "" = .ok fs.working := by
  change fs.walk fs.working [""] = _
  rw [walk_cons, step_blank fs.isDirectory_working (by rfl)]
  rfl

theorem follow_slash {base : String} (hbase : base ≠ "") (path : String) :
    fs.follow (base ++ "/" ++ path) =
      (fs.follow base).bind fun place => fs.walk place (components path) := by
  rw [follow, String.append_assoc, start_append hbase, ← String.append_assoc, components_append,
    walk_append, follow]

theorem follow_slash_append (front path : String) :
    fs.follow (front ++ "/" ++ path) =
      (fs.follow (front ++ "/")).bind fun place => fs.walk place (components path) := by
  have hbase : front ++ "/" ≠ "" := by simp
  have hcomponents : components (front ++ "/") = components front ++ [""] := by
    have happend := components_append front ""
    rwa [String.append_empty] at happend
  rw [follow, start_append hbase, components_append, walk_append, follow, hcomponents, walk_append]
  cases fs.walk (fs.start (front ++ "/")) (components front) with
  | error e => rfl
  | ok place =>
    have hblank : fs.walk place (components path) =
        (fs.walk place [""]).bind fun next => fs.walk next (components path) := by
      rw [← walk_append, List.singleton_append, walk_blank place (components_ne_nil _)]
    simp only [Except.bind, hblank]

theorem follow_location (base path : String) :
    fs.follow (Resolver.location (some base) path) =
      (fs.follow base).bind fun place =>
        fs.walk place (components (withoutLeadingSlashes path)) := by
  by_cases hbase : base = ""
  · subst hbase
    have hlocation : Resolver.location (some "") path = withoutLeadingSlashes path := rfl
    simp only [follow_empty, hlocation, Except.bind]
    rw [follow, start_withoutLeadingSlashes]
  · have hnonempty : base.isEmpty = false := by simpa using hbase
    cases hslash : Text.endsWith base "/" with
    | false =>
      have hlocation : Resolver.location (some base) path =
          base ++ "/" ++ withoutLeadingSlashes path := by
        simp [Resolver.location, hnonempty, hslash]
      rw [hlocation, follow_slash hbase]
    | true =>
      have hlocation : Resolver.location (some base) path = base ++ withoutLeadingSlashes path := by
        simp [Resolver.location, hnonempty, hslash]
      obtain ⟨front, rfl⟩ : ∃ front, base = front ++ "/" := by
        obtain ⟨cs, hcs⟩ := List.isSuffixOf_iff_suffix.mp hslash
        exact ⟨.ofList cs, by simp [← String.toList_inj, ← hcs]⟩
      rw [hlocation, follow_slash_append]

def isName (c : String) : Bool := !(c == "" || c == ".") && c != ".."

/-- Whether a path that is followed from so many levels below a directory looks up a name outside
of that directory. -/
def strays : Nat → List String → Bool
  | _, [] => false
  | depth, c :: cs =>
    if c == "" || c == "." then strays depth cs
    else if c == ".." then
      match depth with
      | 0 => cs.any isName
      | depth + 1 => strays depth cs
    else strays (depth + 1) cs

def SameBelow (fs fs' : Files) (place place' : List String) : Prop :=
  ∀ rest, fs.file? (place ++ rest) = fs'.file? (place' ++ rest) ∧
    fs.isDirectory (place ++ rest) = fs'.isDirectory (place' ++ rest)

/-- What two paths lead to: no place for the same reason, places with the same content, or
directories that need not have anything in common. -/
inductive Alike (fs fs' : Files) :
    Except FileError (List String) → Except FileError (List String) → Prop
  | nowhere (e : FileError) : Alike fs fs' (.error e) (.error e)
  | below {p p' : List String} (hfile : fs.file? p = fs'.file? p')
    (hdirectory : fs.isDirectory p = fs'.isDirectory p') : Alike fs fs' (.ok p) (.ok p')
  | above {p p' : List String} (h : fs.isDirectory p = true) (h' : fs'.isDirectory p' = true) :
    Alike fs fs' (.ok p) (.ok p')

theorem Alike.read_eq {path : String} (h : Alike fs fs' (fs.locate path) (fs'.locate path)) :
    fs.read path = fs'.read path := by
  rw [read, read]
  generalize fs.locate path = r at h ⊢
  generalize fs'.locate path = r' at h ⊢
  cases h with
  | nowhere e => rfl
  | below hfile hdirectory => simp only [hfile, hdirectory]
  | above h h' => simp only [h, h', if_true]

theorem Alike.isFile_eq {path : String} (h : Alike fs fs' (fs.locate path) (fs'.locate path)) :
    fs.isFile path = fs'.isFile path := by
  rw [isFile, isFile]
  generalize fs.locate path = r at h ⊢
  generalize fs'.locate path = r' at h ⊢
  cases h with
  | nowhere e => rfl
  | below hfile hdirectory => simp only [hfile, hdirectory]
  | above h h' => simp only [h, h', Bool.not_true, Bool.false_and]

theorem step_of_not_isName {here : List String} {c : String} (hc : isName c = false)
    (h : fs.isDirectory here = true) :
    ∃ next, fs.step here c = .ok next ∧ fs.isDirectory next = true := by
  by_cases hblank : (c == "" || c == ".") = true
  · exact ⟨here, step_blank h hblank, h⟩
  · have hup : (c == "..") = true := by simpa [isName, hblank] using hc
    exact ⟨here.dropLast, step_up h hup, isDirectory_of_isPrefix (List.dropLast_prefix here) h⟩

theorem walk_of_not_isName {here : List String} {cs : List String} (hcs : cs.any isName = false)
    (h : fs.isDirectory here = true) :
    ∃ p, fs.walk here cs = .ok p ∧ fs.isDirectory p = true := by
  induction cs generalizing here with
  | nil => exact ⟨here, rfl, h⟩
  | cons c cs ih =>
    rw [List.any_cons, Bool.or_eq_false_iff] at hcs
    obtain ⟨next, hstep, hnext⟩ := step_of_not_isName hcs.1 h
    obtain ⟨p, hp, hdirectory⟩ := ih hcs.2 hnext
    refine ⟨p, ?_, hdirectory⟩
    rw [walk_cons, hstep]
    exact hp

section

variable {place place' : List String}

theorem walk_alike_above {cs : List String} (hcs : cs.any isName = false)
    (h : fs.isDirectory place = true) (h' : fs'.isDirectory place' = true) :
    Alike fs fs' (fs.walk place cs) (fs'.walk place' cs) := by
  obtain ⟨p, hp, hdirectory⟩ := walk_of_not_isName hcs h
  obtain ⟨p', hp', hdirectory'⟩ := walk_of_not_isName hcs h'
  rw [hp, hp']
  exact .above hdirectory hdirectory'

variable (same : SameBelow fs fs' place place')

include same

theorem step_name {c : String} (hc : isName c = true) (rest : List String) :
    (∃ e, fs.step (place ++ rest) c = .error e ∧ fs'.step (place' ++ rest) c = .error e) ∨
      fs.step (place ++ rest) c = .ok (place ++ (rest ++ [c])) ∧
        fs'.step (place' ++ rest) c = .ok (place' ++ (rest ++ [c])) := by
  obtain ⟨hblank, hup⟩ : (c == "" || c == ".") = false ∧ (c == "..") = false := by
    simpa [isName] using hc
  obtain ⟨hfile, hdirectory⟩ := same (rest ++ [c])
  simp only [step, hblank, hup, (same rest).2, List.append_assoc, hfile, hdirectory,
    Bool.false_eq_true, if_false]
  split
  · exact .inl ⟨_, rfl, rfl⟩
  · split
    · exact .inl ⟨_, rfl, rfl⟩
    · split
      · exact .inr ⟨rfl, rfl⟩
      · exact .inl ⟨_, rfl, rfl⟩

theorem walk_alike {rest : List String} {cs : List String} (h : strays rest.length cs = false) :
    Alike fs fs' (fs.walk (place ++ rest) cs) (fs'.walk (place' ++ rest) cs) := by
  induction cs generalizing rest with
  | nil => exact .below (same rest).1 (same rest).2
  | cons c cs ih =>
    rw [walk_cons, walk_cons]
    cases hdirectory : fs.isDirectory (place ++ rest) with
    | false =>
      have hdirectory' := (same rest).2.symm.trans hdirectory
      rw [step_of_not_isDirectory hdirectory, step_of_not_isDirectory hdirectory']
      exact .nowhere _
    | true =>
      have hdirectory' := (same rest).2.symm.trans hdirectory
      by_cases hblank : (c == "" || c == ".") = true
      · have hstay : strays rest.length cs = false := by simpa [strays, hblank] using h
        rw [step_blank hdirectory hblank, step_blank hdirectory' hblank]
        exact ih hstay
      · by_cases hup : (c == "..") = true
        · rw [step_up hdirectory hup, step_up hdirectory' hup]
          rcases List.eq_nil_or_concat' rest with rfl | ⟨front, d, rfl⟩
          · -- above the base only directories are left to be found
            have hnames : cs.any isName = false := by simpa [strays, hblank, hup] using h
            rw [List.append_nil] at hdirectory hdirectory'
            rw [List.append_nil, List.append_nil]
            exact walk_alike_above hnames
              (isDirectory_of_isPrefix (List.dropLast_prefix place) hdirectory)
              (isDirectory_of_isPrefix (List.dropLast_prefix place') hdirectory')
          · have hback : strays front.length cs = false := by
              simpa [strays, hblank, hup] using h
            rw [← List.append_assoc, ← List.append_assoc, List.dropLast_concat,
              List.dropLast_concat]
            exact ih hback
        · have hname : isName c = true := by simp_all [isName]
          have hdeeper : strays (rest ++ [c]).length cs = false := by
            simpa [strays, hblank, hup] using h
          rcases step_name same hname rest with ⟨e, he, he'⟩ | ⟨hok, hok'⟩
          · rw [he, he']
            exact .nowhere e
          · rw [hok, hok']
            exact ih hdeeper

end

/-- Below what a base leads to there are the same files and directories in two trees. -/
inductive AgreeUnder (base : String) (fs fs' : Files) : Prop
  | missing {e : FileError} (h : fs.follow base = .error e) (h' : fs'.follow base = .error e)
  | below {place place' : List String} (h : fs.follow base = .ok place)
    (h' : fs'.follow base = .ok place') (same : SameBelow fs fs' place place')

theorem locate_alike {base : String} (agree : AgreeUnder base fs fs') {path : String}
    (h : strays 0 (components (withoutLeadingSlashes path)) = false) :
    Alike fs fs' (fs.locate (Resolver.location (some base) path))
      (fs'.locate (Resolver.location (some base) path)) := by
  rw [locate, locate]
  -- what a text has to be like to be a path does not depend on the tree
  split
  · exact .nowhere _
  · split
    · exact .nowhere _
    · split
      · exact .nowhere _
      · rw [follow_location, follow_location]
        cases agree with
        | missing hbase hbase' =>
          rw [hbase, hbase']
          exact .nowhere _
        | @below place place' hbase hbase' same =>
          have halike := walk_alike same (show strays ([] : List String).length _ = false from h)
          rw [List.append_nil, List.append_nil] at halike
          simpa only [hbase, hbase', Except.bind] using halike

end Files

namespace Resolver

open Files

def beside : Files where
  files := [(["work", "secret.txt"], "outside".toUTF8),
    (["work", "base", "mail", "welcome.txt"], "inside".toUTF8)]
  working := ["work"]

def alone : Files where
  files := [(["work", "base", "mail", "welcome.txt"], "inside".toUTF8)]
  working := ["work"]

theorem beside_alone_agree : AgreeUnder "base" beside alone :=
  have hbase : beside.follow "base" = .ok ["work", "base"] := by rfl
  have hbase' : alone.follow "base" = .ok ["work", "base"] := by rfl
  .below hbase hbase' fun rest => by simp [beside, alone, file?, isDirectory, List.lookup_cons]

/-- A resolver below a base answers the same in any two trees that agree under the base, for every
path that does not climb above the base and look up a name there. -/
theorem confined_of_not_strays {base : String} {fs fs' : Files} (agree : AgreeUnder base fs fs')
    {p : ResourcePath} (h : strays 0 (components (withoutLeadingSlashes p.path)) = false) :
    (ofFiles fs (some base)).resolve p = (ofFiles fs' (some base)).resolve p ∧
      (ofFiles fs (some base)).has p = (ofFiles fs' (some base)).has p := by
  have halike := locate_alike agree h
  simp only [ofFiles, halike.read_eq, halike.isFile_eq, and_self]

theorem confined_of_not_strays_slashes :
    let p := ResourcePath.parse "file://mail/../mail/welcome.txt"
    AgreeUnder "base" beside alone ∧
      strays 0 (components (withoutLeadingSlashes p.path)) = false ∧
      (ofFiles beside (some "base")).has p = true ∧
      (ofFiles beside (some "base")).has p = (ofFiles alone (some "base")).has p :=
  have h := by decide
  ⟨beside_alone_agree, h, by decide, (confined_of_not_strays beside_alone_agree h).2⟩

/-- By `..` a path that begins with a slash comes to the file beside the base. -/
theorem not_confined_climbing :
    ¬ ∀ (base : String) (fs fs' : Files), AgreeUnder base fs fs' → ∀ p : ResourcePath,
      (ofFiles fs (some base)).resolve p = (ofFiles fs' (some base)).resolve p ∧
        (ofFiles fs (some base)).has p = (ofFiles fs' (some base)).has p := by
  intro hconfined
  have hhas := (hconfined "base" beside alone beside_alone_agree (.parse "file:/../secret.txt")).2
  revert hhas
  decide

end Resolver

end Postroom
