import DatabaseResource.Config.Load

/-!
# Where settings come from

The text of a setting is the value of the last variable for it, as it stands there.
-/

namespace DatabaseResource

/-- What is found by a key that nothing else has. -/
theorem find?_key_eq_some_iff {α κ : Type} [BEq κ] [LawfulBEq κ] {key : α → κ} {l : List α}
    (hall : ∀ a, a ∈ l) (hkey : ∀ a b, key a = key b → a = b) {k : κ} {a : α} :
    l.find? (fun a => key a == k) = some a ↔ key a = k := by
  constructor
  · intro h
    have hfound : (key a == k) = true := by simpa using List.find?_some h
    exact beq_iff_eq.mp hfound
  · rintro rfl
    have hisSome : (l.find? fun b => key b == key a).isSome :=
      List.find?_isSome.mpr ⟨a, hall a, beq_self_eq_true _⟩
    obtain ⟨b, hb⟩ := Option.isSome_iff_exists.mp hisSome
    have hfound : (key b == key a) = true := by simpa using List.find?_some hb
    rw [hb, hkey b a (beq_iff_eq.mp hfound)]

namespace Settings

/-- The last variable for a setting has a text as its value. -/
def LastGiven (env : Environment) (s : Setting) (text : String) : Prop :=
  ∃ before entry after, env = before ++ entry :: after ∧ ofVariable? entry = some (s, text) ∧
    ∀ later ∈ after, ∀ text', ofVariable? later ≠ some (s, text')

variable {env : Environment} {s : Setting} {text : String} {entry : List UInt8 × List UInt8}

theorem not_lastGiven_nil : ¬ LastGiven [] s text := by
  rintro ⟨before, entry, after, h, -⟩
  cases before <;> cases h

theorem lastGiven_cons :
    LastGiven (entry :: env) s text ↔
      LastGiven env s text ∨
      ofVariable? entry = some (s, text) ∧
        ∀ later ∈ env, ∀ text', ofVariable? later ≠ some (s, text') := by
  constructor
  · rintro ⟨before, given, after, henv, hgiven, hlast⟩
    cases before with
    | nil =>
      obtain ⟨rfl, rfl⟩ := List.cons.inj henv
      exact .inr ⟨hgiven, hlast⟩
    | cons first before =>
      obtain ⟨rfl, rfl⟩ := List.cons.inj henv
      exact .inl ⟨before, given, after, rfl, hgiven, hlast⟩
  · rintro (⟨before, given, after, rfl, hgiven, hlast⟩ | ⟨hgiven, hlast⟩)
    · exact ⟨entry :: before, given, after, rfl, hgiven, hlast⟩
    · exact ⟨[], entry, env, rfl, hgiven, hlast⟩

/-- What is found behind a variable is what the last one gives, or what was found before. -/
theorem foldl_eq_some_iff (found : Option String) :
    (env.filterMap ofVariable?).foldl (fun found (t, value) => if t = s then some value else found)
        found = some text ↔
      LastGiven env s text ∨
      found = some text ∧ ∀ later ∈ env, ∀ text', ofVariable? later ≠ some (s, text') := by
  induction env generalizing found with
  | nil => simp [not_lastGiven_nil]
  | cons entry env ih =>
    rw [lastGiven_cons]
    cases h : ofVariable? entry with
    | none => simp [h, ih]
    | some given =>
      obtain ⟨t, value⟩ := given
      by_cases ht : t = s
      · simp [h, ih, ht]
      · simp [h, ih, ht]

theorem ofEnvironment_eq_some_iff :
    ofEnvironment env s = some text ↔ LastGiven env s text := by
  simp [ofEnvironment, foldl_eq_some_iff]

end Settings

namespace Config

theorem bind_eq_ok {ε α β : Type} {x : Except ε α} {f : α → Except ε β} {b : β}
    (h : x >>= f = .ok b) : ∃ a, x = .ok a ∧ f a = .ok b := by
  cases x with
  | error e => cases h
  | ok a => exact ⟨a, rfl, h⟩

theorem require_eq_ok_iff {settings : Settings} {s : Setting} {text : String} :
    require settings s = .ok text ↔ settings s = some text := by
  unfold require
  cases settings s <;> simp

/-- The name of the database is its setting's text. -/
theorem name_of_ofSettings {settings : Settings} {config : Config}
    (h : ofSettings settings = .ok config) : settings .name = some config.name := by
  unfold ofSettings at h
  obtain ⟨user, -, h⟩ := bind_eq_ok h
  obtain ⟨password, -, h⟩ := bind_eq_ok h
  obtain ⟨host, -, h⟩ := bind_eq_ok h
  obtain ⟨port, -, h⟩ := bind_eq_ok h
  obtain ⟨name, hname, h⟩ := bind_eq_ok h
  obtain ⟨-, -, h⟩ := bind_eq_ok h
  obtain ⟨-, -, h⟩ := bind_eq_ok h
  obtain ⟨-, -, h⟩ := bind_eq_ok h
  split at h
  · cases h
  · split at h
    · cases h
    · cases h
      exact require_eq_ok_iff.mp hname

end Config

end DatabaseResource
