import Postroom.Property.Setting

namespace Postroom

variable {α τ : Type}

namespace Session

def reading (s : Session α) (keys : List String) : Session α :=
  ⟨s.facts, s.asked ++ keys.map .value⟩

def valueAfter (w : Outside α) (s : Session α) (front : List String) (key : String) :
    Option String :=
  (w (s.reading front).asked).source.value key

/-- No key has a value when it is its turn to be asked for. -/
def Valueless (w : Outside α) (s : Session α) (keys : List String) : Prop :=
  ∀ front key back, keys = front ++ key :: back → s.valueAfter w front key = none

variable {w : Outside α} {s : Session α}

theorem reading_reading (front back : List String) :
    (s.reading front).reading back = s.reading (front ++ back) := by
  simp [reading]

theorem valueAfter_reading (front back : List String) (key : String) :
    (s.reading front).valueAfter w back key = s.valueAfter w (front ++ back) key := by
  rw [valueAfter, reading_reading, valueAfter]

theorem value_eq (w : Outside α) (s : Session α) (key : String) :
    value w key s = (s.valueAfter w [] key, s.reading [key]) := by
  simp [value, valueAfter, reading]

theorem valueless_nil : s.Valueless w [] := by
  intro front key back h
  cases front <;> cases h

theorem Valueless.cons {key : String} {keys : List String} (hkey : s.valueAfter w [] key = none)
    (hkeys : (s.reading [key]).Valueless w keys) : s.Valueless w (key :: keys) := by
  intro front k back h
  cases front with
  | nil =>
    cases h
    exact hkey
  | cons k' front =>
    cases h
    have hk := hkeys front k back rfl
    rwa [valueAfter_reading] at hk

end Session

namespace RequiredProperty

theorem firstValue_cons (w : Outside α) (key : String) (keys : List String) (s : Session α) :
    firstValue w (key :: keys) s =
      match s.valueAfter w [] key with
      | some text => (some (key, text), s.reading [key])
      | none => firstValue w keys (s.reading [key]) := by
  simp only [firstValue, bind, StateT.bind, Session.value_eq]
  cases s.valueAfter w [] key <;> rfl

theorem firstValue_reads (w : Outside α) (keys : List String) (s : Session α) :
    ∃ front, s.Valueless w front ∧
      ((keys = front ∧ firstValue w keys s = (none, s.reading front)) ∨
        ∃ key back text, keys = front ++ key :: back ∧ s.valueAfter w front key = some text ∧
          firstValue w keys s = (some (key, text), s.reading (front ++ [key]))) := by
  -- the session is general, since the rest of the keys is asked for after this one
  induction keys generalizing s with
  | nil =>
    refine ⟨[], Session.valueless_nil, .inl ⟨rfl, ?_⟩⟩
    rw [Session.reading, List.map_nil, List.append_nil]
    rfl
  | cons k keys ih =>
    cases hk : s.valueAfter w [] k with
    | some text =>
      refine ⟨[], Session.valueless_nil, .inr ⟨k, keys, text, rfl, hk, ?_⟩⟩
      rw [firstValue_cons, hk]
      rfl
    | none =>
      have hfirst : firstValue w (k :: keys) s = firstValue w keys (s.reading [k]) := by
        rw [firstValue_cons, hk]
      obtain ⟨front, hfront, ⟨rfl, hnone⟩ | ⟨key, back, text, rfl, hkey, hsome⟩⟩ :=
        ih (s.reading [k])
      · refine ⟨k :: keys, hfront.cons hk, .inl ⟨rfl, ?_⟩⟩
        rw [hfirst, hnone, Session.reading_reading]
        rfl
      · refine ⟨k :: front, hfront.cons hk, .inr ⟨key, back, text, rfl, ?_, ?_⟩⟩
        · rwa [Session.valueAfter_reading] at hkey
        · rw [hfirst, hsome, Session.reading_reading]
          rfl

end RequiredProperty

namespace Setting

inductive Call (τ : Type)
  | properties (keys : List String)
  | value (v : τ)
  | defaultValue (v : τ)

namespace Call

def apply (s : Setting τ) : Call τ → Setting τ
  | properties keys => s.properties keys
  | value v => s.value v
  | defaultValue v => s.defaultValue v

def keys : Call τ → List String
  | properties keys => keys
  | _ => []

def value? : Call τ → Option τ
  | value v => some v
  | _ => none

def default? : Call τ → Option τ
  | defaultValue v => some v
  | _ => none

end Call

theorem foldl_apply (s : Setting τ) (calls : List (Call τ)) :
    calls.foldl Call.apply s =
      ⟨s.keys ++ calls.flatMap Call.keys, (calls.filterMap Call.value?).getLast?.or s.explicit,
        (calls.filterMap Call.default?).getLast?.or s.fallback⟩ := by
  induction calls generalizing s with
  | nil => simp
  | cons call calls ih =>
    rw [List.foldl_cons, ih]
    cases call with
    | properties keys => simp [Call.apply, properties, Call.keys, Call.value?, Call.default?]
    | value v => simp [Call.apply, value, Call.keys, Call.value?, Call.default?, List.getLast?_cons]
    | defaultValue v =>
      simp [Call.apply, defaultValue, Call.keys, Call.value?, Call.default?, List.getLast?_cons]

theorem lookUp_eq_firstValue (w : Outside α) (keys : List String) :
    resolve.lookUp w keys = RequiredProperty.firstValue w keys := by
  induction keys with
  | nil => rfl
  | cons key keys ih =>
    rw [resolve.lookUp, ih]
    rfl

theorem resolve_explicit (w : Outside α) (read : String → Except String τ) (keys : List String)
    (v : τ) (fallback : Option τ) (s : Session α) :
    resolve w read ⟨keys, some v, fallback⟩ s = (.ok (some v), s) := rfl

theorem resolve_of_firstValue (w : Outside α) (read : String → Except String τ)
    (keys : List String) (fallback : Option τ) (s : Session α) :
    resolve w read ⟨keys, none, fallback⟩ s =
      (match (RequiredProperty.firstValue w keys s).1 with
        | none => .ok fallback
        | some (key, text) =>
          match read text with
          | .ok v => .ok (some v)
          | .error reason => .error (.invalid key text reason),
        (RequiredProperty.firstValue w keys s).2) := by
  simp only [resolve, lookUp_eq_firstValue, bind, StateT.bind]
  rcases RequiredProperty.firstValue w keys s with ⟨_ | ⟨key, text⟩, t⟩
  · rfl
  · simp only
    cases read text <;> rfl

/-- With an explicit value nothing is read, and the last one that was given is the value. Otherwise
the keys before the first that has a value are read and that key, in their order: its text is the
value, or is reported with the key. Where no key has a value the last default is taken. The keys of a
required property are read in the same way for its text. -/
theorem resolve_by_precedence (w : Outside α) (read : String → Except String τ)
    (calls : List (Call τ)) (s : Session α) :
    let keys := calls.flatMap Call.keys
    let given := (calls.filterMap Call.value?).getLast?
    let default := (calls.filterMap Call.default?).getLast?
    let setting := calls.foldl Call.apply {}
    setting = ⟨keys, given, default⟩ ∧
    (match given with
      | some v => setting.resolve w read s = (.ok (some v), s)
      | none => ∃ front, s.Valueless w front ∧
        ((keys = front ∧ setting.resolve w read s = (.ok default, s.reading front)) ∨
          ∃ key back text, keys = front ++ key :: back ∧ s.valueAfter w front key = some text ∧
            setting.resolve w read s =
              (match read text with
                | .ok v => .ok (some v)
                | .error reason => .error (.invalid key text reason),
              s.reading (front ++ [key])))) ∧
    ∀ p : RequiredProperty, resolve w .ok ⟨p.keys, none, none⟩ s =
      (.ok ((p.resolve w s).1.map Prod.snd), (p.resolve w s).2) := by
  intro keys given default setting
  have hsetting : setting = ⟨keys, given, default⟩ := by
    simp only [setting, foldl_apply, List.nil_append, Option.or_none, keys, given, default]
  refine ⟨hsetting, ?_, fun p => ?_⟩
  · rw [hsetting]
    cases given with
    | some v => exact resolve_explicit w read keys v default s
    | none =>
      obtain ⟨front, hfront, ⟨hkeys, hnone⟩ | ⟨key, back, text, hkeys, hkey, hsome⟩⟩ :=
        RequiredProperty.firstValue_reads w keys s
      · refine ⟨front, hfront, .inl ⟨hkeys, ?_⟩⟩
        rw [resolve_of_firstValue, hnone]
      · refine ⟨front, hfront, .inr ⟨key, back, text, hkeys, hkey, ?_⟩⟩
        rw [resolve_of_firstValue, hsome]
  · rw [resolve_of_firstValue, ← RequiredProperty.resolve]
    rcases p.resolve w s with ⟨_ | ⟨key, text⟩, t⟩ <;> rfl

end Setting

end Postroom
