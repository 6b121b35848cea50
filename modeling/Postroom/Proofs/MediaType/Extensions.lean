import Mathlib.Data.List.Find
import Postroom.MediaType.Provider
import Postroom.Proofs.Keyed

namespace Postroom

open Text

namespace Text

theorem toLower_toLower (c : Char) : c.toLower.toLower = c.toLower := by
  by_cases h : c.val ≥ 'A'.val ∧ c.val ≤ 'Z'.val
  · have hlower : c.toLower.val = c.val + ('a'.val - 'A'.val) := congrArg Char.val (dif_pos h)
    have habove : ¬c.toLower.val ≤ 'Z'.val := by
      rw [hlower]
      simp only [ge_iff_le, UInt32.le_iff_toNat_le, UInt32.toNat_add] at h ⊢
      have hA : 'A'.val.toNat = 65 := rfl
      have hZ : 'Z'.val.toNat = 90 := rfl
      have hshift : ('a'.val - 'A'.val).toNat = 32 := rfl
      omega
    exact dif_neg fun hup => habove hup.2
  · have hkept : c.toLower = c := dif_neg h
    rw [hkept, hkept]

theorem asciiLower_asciiLower (s : String) : asciiLower (asciiLower s) = asciiLower s := by
  simp only [asciiLower, String.toList_ofList, List.map_map, Function.comp_def, toLower_toLower]

end Text

/-- What stands before the last dot of a file's name, and the extension behind it. -/
structure SplitsAtDot (stem ext : String) : Prop where
  stem_ne : stem ≠ ""
  ext_ne : ext ≠ ""
  stem_slash : '/' ∉ stem.toList
  ext_slash : '/' ∉ ext.toList
  ext_dot : '.' ∉ ext.toList

namespace SplitsAtDot

variable {stem ext : String}

theorem fileName?_eq (h : SplitsAtDot stem ext) :
    fileName? (stem ++ "." ++ ext) = some (stem.toList ++ '.' :: ext.toList) := by
  have hchars : (stem ++ "." ++ ext).toList = stem.toList ++ '.' :: ext.toList := by simp
  have hslash : '/' ∉ stem.toList ++ '.' :: ext.toList := by
    simp [h.stem_slash, h.ext_slash]
  have hstem : 0 < stem.toList.length := by simpa [List.length_pos_iff] using h.stem_ne
  have hext : 0 < ext.toList.length := by simpa [List.length_pos_iff] using h.ext_ne
  -- the names that stand for directories are shorter
  have hlength : 3 ≤ (stem.toList ++ '.' :: ext.toList).length := by
    rw [List.length_append, List.length_cons]
    omega
  have hkept : (stem.toList ++ '.' :: ext.toList != [] &&
      stem.toList ++ '.' :: ext.toList != ['.']) = true := by
    rw [Bool.and_eq_true, bne_iff_ne, bne_iff_ne]
    exact ⟨fun he => by simp [he] at hlength, fun he => by simp [he] at hlength⟩
  rw [fileName?, hchars, List.splitOn_eq_singleton hslash, List.filter_cons, if_pos hkept,
    List.filter_nil, List.getLast?_singleton]
  split
  · rename_i hup
    rw [Option.some.inj hup] at hlength
    simp at hlength
  · rfl

theorem extension?_eq (h : SplitsAtDot stem ext) : extension? (stem ++ "." ++ ext) = some ext := by
  have hext : (stem.toList ++ '.' :: ext.toList).reverse.takeWhile (· != '.') =
      ext.toList.reverse := by
    rw [List.reverse_append, List.reverse_cons, List.append_assoc]
    refine takeWhile_append_stop (fun c hc => ?_) (by rfl)
    rw [bne_iff_ne]
    rintro rfl
    exact h.ext_dot (List.mem_reverse.mp hc)
  have hstem : 0 < stem.toList.length := by simpa [List.length_pos_iff] using h.stem_ne
  have hlonger : ¬ (stem.toList ++ '.' :: ext.toList).length ≤ ext.toList.length + 1 := by
    rw [List.length_append, List.length_cons]
    omega
  simp only [extension?, h.fileName?_eq, hext, List.reverse_reverse, if_neg hlonger,
    String.ofList_toList]

end SplitsAtDot

namespace ExtensionTable

def ofGiven (given : List (String × String)) : ExtensionTable :=
  given.foldl (fun t g => t.withEntry g.1 g.2) {}

def lastGiven? (wanted : String → Bool) (given : List (String × String)) :
    Option (String × String) :=
  given.reverse.find? fun g => wanted g.1

/-- The type that was given last for an extension that is wanted, or else one that is known. -/
def lastOrKnown (wanted : String → Bool) (given : List (String × String)) : Option MediaType :=
  ((lastGiven? wanted given).map fun g => ⟨g.2⟩).or
    ((knownExtensions.find? fun e => wanted e.1).map Prod.snd)

variable {given : List (String × String)}

theorem lastGiven?_eq_some_iff {wanted : String → Bool} {g : String × String} :
    lastGiven? wanted given = some g ↔ wanted g.1 = true ∧
      ∃ front back, given = front ++ g :: back ∧ ∀ g' ∈ back, wanted g'.1 = false :=
  find?_reverse_eq_some_iff

theorem entries_ofGiven (given : List (String × String)) :
    (ofGiven given).entries =
      putEach (given.map fun g => (g.1, (⟨g.2⟩ : MediaType))) knownExtensions := by
  have hput : (ofGiven given).entries =
      given.foldl (fun es g => putKey g.1 (⟨g.2⟩ : MediaType) es) knownExtensions :=
    (List.foldl_hom entries fun _ _ => rfl).symm
  rw [hput, putEach, List.foldl_map]

theorem lookup_entries_ofGiven (given : List (String × String)) (k : String) :
    (ofGiven given).entries.lookup k = lastOrKnown (fun e => e = k) given := by
  rw [entries_ofGiven, lookup_putEach, ← List.map_reverse, List.find?_map, Option.map_map,
    lookup_eq_find?]
  rfl

theorem typeOf?_ofGiven {stem ext : String} (h : SplitsAtDot stem ext) :
    (ofGiven given).typeOf? (stem ++ "." ++ ext) =
      lastOrKnown (fun e => e = asciiLower ext) given := by
  rw [typeOf?, h.extension?_eq, Option.bind_some, lookup_entries_ofGiven]

def sameButCase (ext e : String) : Bool := asciiLower e = asciiLower ext

def inLowerCase (given : List (String × String)) : List (String × String) :=
  given.filter fun g => asciiLower g.1 = g.1

theorem eq_asciiLower_iff {e ext : String} :
    e = asciiLower ext ↔ asciiLower e = e ∧ asciiLower e = asciiLower ext := by
  constructor
  · rintro rfl
    exact ⟨asciiLower_asciiLower ext, asciiLower_asciiLower ext⟩
  · rintro ⟨hlower, hsame⟩
    exact hlower ▸ hsame

theorem find?_knownExtensions (ext : String) :
    (knownExtensions.find? fun e => e.1 = asciiLower ext) =
      knownExtensions.find? fun e => sameButCase ext e.1 := by
  have hlower : ∀ e ∈ knownExtensions, asciiLower e.1 = e.1 := by decide
  refine List.find?_congr fun e he => ?_
  rw [sameButCase, hlower e he]

theorem lastGiven?_inLowerCase (given : List (String × String)) (ext : String) :
    lastGiven? (sameButCase ext) (inLowerCase given) =
      lastGiven? (fun e => e = asciiLower ext) given := by
  rw [lastGiven?, lastGiven?, inLowerCase, ← List.filter_reverse, List.find?_filter]
  refine List.find?_congr fun g _ => ?_
  simp only [sameButCase, decide_eq_true_eq, eq_asciiLower_iff (e := g.1)]

theorem lastGiven?_inLowerCase_of_last {ext : String}
    (h : ∀ g ∈ lastGiven? (sameButCase ext) given, asciiLower g.1 = g.1) :
    lastGiven? (sameButCase ext) (inLowerCase given) = lastGiven? (sameButCase ext) given := by
  cases hlast : lastGiven? (sameButCase ext) given with
  | none =>
    rw [lastGiven?, List.find?_eq_none] at hlast ⊢
    intro g hg
    refine hlast g (List.mem_reverse.mpr ?_)
    exact (List.mem_filter.mp (List.mem_reverse.mp hg)).1
  | some g =>
    obtain ⟨hsame, front, back, rfl, hback⟩ := lastGiven?_eq_some_iff.mp hlast
    have hkept : inLowerCase (front ++ g :: back) = inLowerCase front ++ g :: inLowerCase back := by
      have hg : asciiLower g.1 = g.1 := h g hlast
      simp [inLowerCase, hg]
    refine lastGiven?_eq_some_iff.mpr ⟨hsame, _, _, hkept, fun g' hg' => ?_⟩
    exact hback g' (List.mem_filter.mp hg').1

theorem typeOf?_eq_inLowerCase {stem ext : String} (h : SplitsAtDot stem ext)
    (given : List (String × String)) :
    (ofGiven given).typeOf? (stem ++ "." ++ ext) =
      lastOrKnown (sameButCase ext) (inLowerCase given) := by
  rw [typeOf?_ofGiven h, lastOrKnown, lastOrKnown, lastGiven?_inLowerCase, find?_knownExtensions]

def answerOf (fileName : String) : Option MediaType → Except MediaTypeError MediaType
  | some m => .ok m
  | none => .error (.undetected "extension" fileName)

theorem detect_ofExtensions {σ : Type} (t : ExtensionTable) (fileName : String) (s : σ) :
    ((MediaTypeProvider.ofExtensions t).detect (.fileName fileName)).run s =
      (answerOf fileName (t.typeOf? fileName), s) := by
  rw [MediaTypeProvider.ofExtensions]
  dsimp only
  cases t.typeOf? fileName <;> rfl

/-- A table answers about a file with the type that was given last for its extension, or else is
known for it, up to the case of letters; but of what was given it only ever finds what is in lower
case. If what was given last is in lower case, this makes no difference. -/
theorem detect_by_extension {stem ext : String} (h : SplitsAtDot stem ext)
    (given : List (String × String)) {σ : Type} (s : σ) :
    let fileName := stem ++ "." ++ ext
    let provider := MediaTypeProvider.ofExtensions (ofGiven given)
    let ended := (provider.detect (.fileName fileName)).run s
    ended = (answerOf fileName (lastOrKnown (sameButCase ext) (inLowerCase given)), s) ∧
    ((∀ g ∈ lastGiven? (sameButCase ext) given, asciiLower g.1 = g.1) →
      ended = (answerOf fileName (lastOrKnown (sameButCase ext) given), s)) ∧
    ∀ g, lastGiven? (sameButCase ext) given = some g ↔ asciiLower g.1 = asciiLower ext ∧
      ∃ front back, given = front ++ g :: back ∧
        ∀ g' ∈ back, asciiLower g'.1 ≠ asciiLower ext := by
  intro fileName provider ended
  have hended : ended =
      (answerOf fileName (lastOrKnown (sameButCase ext) (inLowerCase given)), s) := by
    rw [← typeOf?_eq_inLowerCase h]
    exact detect_ofExtensions (ofGiven given) fileName s
  refine ⟨hended, fun hlast => ?_, fun g => ?_⟩
  · rw [hended, lastOrKnown, lastOrKnown, lastGiven?_inLowerCase_of_last hlast]
  · rw [lastGiven?_eq_some_iff]
    simp only [sameButCase, decide_eq_true_eq, decide_eq_false_iff_not, ne_eq]

theorem detect_by_extension_again :
    let given := [("ics", "text/calendar"), ("ICS", "text/x-calendar"), ("ics", "text/plain"),
      ("PDF", "text/x-pdf")]
    let provider : MediaTypeProvider Unit := .ofExtensions (ofGiven given)
    SplitsAtDot "in.vite." "IcS" ∧ SplitsAtDot ".x" "Pdf" ∧
      (∀ g ∈ lastGiven? (sameButCase "IcS") given, asciiLower g.1 = g.1) ∧
      ((provider.detect (.fileName "in.vite..IcS")).run ()).1 = .ok ⟨"text/plain"⟩ ∧
      ((provider.detect (.fileName ".x.Pdf")).run ()).1 = .ok ⟨"application/pdf"⟩ := by
  intro given provider
  have hics : SplitsAtDot "in.vite." "IcS" := by constructor <;> decide
  have hpdf : SplitsAtDot ".x" "Pdf" := by constructor <;> decide
  have hlast : ∀ g ∈ lastGiven? (sameButCase "IcS") given, asciiLower g.1 = g.1 := by decide
  obtain ⟨-, hgiven, -⟩ := detect_by_extension hics given ()
  obtain ⟨hknown, -, -⟩ := detect_by_extension hpdf given ()
  exact ⟨hics, hpdf, hlast, (congrArg Prod.fst (hgiven hlast)).trans (by decide),
    (congrArg Prod.fst hknown).trans (by decide)⟩

/-- What is given last in upper case is passed over, whatever the case of the name: nothing is
answered, or what is known. -/
theorem detect_ne_last_given :
    let given := [("ICS", "text/calendar"), ("PNG", "image/x-png")]
    let provider : MediaTypeProvider Unit := .ofExtensions (ofGiven given)
    SplitsAtDot "invite" "ICS" ∧
      ((provider.detect (.fileName "invite.ICS")).run ()).1 =
        .error (.undetected "extension" "invite.ICS") ∧
      answerOf "invite.ICS" (lastOrKnown (sameButCase "ICS") given) = .ok ⟨"text/calendar"⟩ ∧
    SplitsAtDot "logo" "png" ∧
      ((provider.detect (.fileName "logo.png")).run ()).1 = .ok ⟨"image/png"⟩ ∧
      answerOf "logo.png" (lastOrKnown (sameButCase "png") given) = .ok ⟨"image/x-png"⟩ := by
  intro given provider
  exact ⟨by constructor <;> decide, by decide, by decide, by constructor <;> decide, by decide,
    by decide⟩

end ExtensionTable

end Postroom
