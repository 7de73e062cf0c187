import DatabaseResource.Proofs.Settings
import DatabaseResource.Provisioner

/-!
# Which variable gives a setting

A variable gives a setting if its name and value are UTF-8 and its name is the common start with the
setting's key behind it, in either case of ASCII letters (`Settings.GivenBy`). Of several variables
for one setting the last one counts, and what all others hold changes nothing
(`environment_resolves_settings`).
-/

namespace DatabaseResource

/-! ### Texts in UTF-8 -/

/-- The bytes of a text. -/
def Text.utf8 (text : String) : List UInt8 := text.toList.flatMap String.utf8EncodeChar

theorem Text.data_toByteArray (text : String) :
    text.toByteArray.data = (Text.utf8 text).toArray := by
  have h := String.toByteArray_ofList (l := text.toList)
  rw [String.ofList_toList, List.utf8Encode] at h
  rw [h, List.data_toByteArray, Text.utf8]

theorem Text.ofUtf8?_eq_some_iff {bytes : List UInt8} {text : String} :
    Text.ofUtf8? bytes = some text ↔ bytes = Text.utf8 text := by
  unfold Text.ofUtf8? String.fromUTF8?
  constructor
  · intro h
    split at h
    next valid =>
      cases h
      exact List.toArray_inj (Text.data_toByteArray (String.fromUTF8 _ valid))
    next => cases h
  · rintro rfl
    have hbytes : (⟨(Text.utf8 text).toArray⟩ : ByteArray) = text.toByteArray :=
      ByteArray.ext (Text.data_toByteArray text).symm
    rw [dif_pos (hbytes ▸ text.isValidUTF8)]
    exact congrArg some (String.toByteArray_inj.mp hbytes)

/-! ### Variables for a setting -/

namespace Setting

theorem mem_all (s : Setting) : s ∈ all := by cases s <;> decide

theorem key_injective (s t : Setting) (h : s.key.toList = t.key.toList) : s = t := by
  revert h
  cases s <;> cases t <;> decide

/-- A name stands for a setting if its key follows on the common start, in either case of ASCII
letters. -/
theorem ofVariable?_eq_some_iff {name : String} {s : Setting} :
    ofVariable? name = some s ↔
      ∃ suffix : String, name = variableStart ++ suffix ∧
        suffix.toList.map Char.toLower = s.key.toList := by
  have hlength : variableStart.length = variableStart.toList.length := rfl
  unfold ofVariable?
  constructor
  · intro h
    split at h
    next hstart =>
      obtain ⟨suffix, hsuffix⟩ := List.isPrefixOf_iff_prefix.mp hstart
      rw [← hsuffix, hlength, List.drop_left] at h
      have hkey := (find?_key_eq_some_iff mem_all key_injective).mp h
      refine ⟨String.ofList suffix, ?_, ?_⟩
      · rw [← String.toList_inj, String.toList_append, String.toList_ofList, hsuffix]
      · rw [String.toList_ofList, hkey]
    next => cases h
  · rintro ⟨suffix, rfl, hkey⟩
    rw [String.toList_append, if_pos (List.isPrefixOf_iff_prefix.mpr (List.prefix_append ..)),
      hlength, List.drop_left, hkey]
    exact (find?_key_eq_some_iff mem_all key_injective).mpr rfl

end Setting

namespace Settings

/-- A variable gives a setting its text. The common start of the name is told by its case; behind
it stands the setting's key, in either case of its letters. -/
structure GivenBy (entry : List UInt8 × List UInt8) (s : Setting) (text : String) : Prop where
  name : ∃ suffix : String, entry.1 = Text.utf8 ("CLAY_DATABASE_" ++ suffix) ∧
    suffix.toList.map Char.toLower = s.key.toList
  value : entry.2 = Text.utf8 text

variable {env : Environment} {s : Setting} {text : String} {entry : List UInt8 × List UInt8}

theorem givenBy_iff : GivenBy entry s text ↔ ofVariable? entry = some (s, text) := by
  obtain ⟨name, value⟩ := entry
  simp only [ofVariable?, Option.bind_eq_bind, Option.bind_eq_some_iff, Option.some.injEq,
    Prod.mk.injEq, Text.ofUtf8?_eq_some_iff, Setting.ofVariable?_eq_some_iff]
  constructor
  · rintro ⟨⟨suffix, hname, hkey⟩, hvalue⟩
    exact ⟨_, hname, _, hvalue, s, ⟨suffix, rfl, hkey⟩, rfl, rfl⟩
  · rintro ⟨_, hname, _, hvalue, _, ⟨suffix, rfl, hkey⟩, rfl, rfl⟩
    exact ⟨⟨suffix, hname, hkey⟩, hvalue⟩

/-- What an environment says of a setting: the text of the last variable that gives it, or nothing
where there is none. -/
inductive Resolves (env : Environment) (s : Setting) : Option String → Prop where
  | missing (nowhere : ∀ entry ∈ env, ∀ text, ¬ GivenBy entry s text) : Resolves env s none
  | given {before entry after text} (split : env = before ++ entry :: after)
      (gives : GivenBy entry s text) (last : ∀ later ∈ after, ∀ text', ¬ GivenBy later s text') :
      Resolves env s (some text)

theorem resolves_some_iff : Resolves env s (some text) ↔ LastGiven env s text := by
  constructor
  · rintro (_ | ⟨split, gives, last⟩)
    exact ⟨_, _, _, split, givenBy_iff.mp gives,
      fun later hlater text' h => last later hlater text' (givenBy_iff.mpr h)⟩
  · rintro ⟨before, entry, after, split, gives, last⟩
    exact .given split (givenBy_iff.mpr gives)
      fun later hlater text' h => last later hlater text' (givenBy_iff.mp h)

/-- Nothing is found where nothing was found before and no variable is for the setting. -/
theorem foldl_eq_none_iff (found : Option String) :
    (env.filterMap ofVariable?).foldl (fun found (t, value) => if t = s then some value else found)
        found = none ↔
      found = none ∧ ∀ entry ∈ env, ∀ text, ofVariable? entry ≠ some (s, text) := by
  induction env generalizing found with
  | nil => simp
  | cons entry env ih =>
    cases h : ofVariable? entry with
    | none => simp [h, ih]
    | some given =>
      obtain ⟨t, value⟩ := given
      by_cases ht : t = s
      · simp [h, ih, ht]
      · simp [h, ih, ht]

theorem resolves_none_iff :
    Resolves env s none ↔ ∀ entry ∈ env, ∀ text, ofVariable? entry ≠ some (s, text) := by
  constructor
  · rintro ⟨nowhere⟩ entry hentry text h
    exact nowhere entry hentry text (givenBy_iff.mpr h)
  · intro nowhere
    exact .missing fun entry hentry text h => nowhere entry hentry text (givenBy_iff.mp h)

theorem resolves_iff {given : Option String} :
    Resolves env s given ↔ ofEnvironment env s = given := by
  cases given with
  | some text => rw [resolves_some_iff, ofEnvironment_eq_some_iff]
  | none => rw [resolves_none_iff, ofEnvironment, foldl_eq_none_iff, and_iff_right rfl]

/-- **The last variable for a setting counts, and no other.** The settings that an environment gives
are the texts of the last variables for them, and missing where there is none; what is loaded are
these settings. So environments that say the same of the six settings load alike, with the same
configuration or the same error, whatever else they hold. -/
theorem environment_resolves_settings :
    (∀ (env : Environment) (settings : Settings),
      (∀ s, Resolves env s (settings s)) ↔ ofEnvironment env = settings) ∧
    (∀ (env : Environment) (settings : Settings), (∀ s, Resolves env s (settings s)) →
      Config.ofEnvironment env = Config.ofSettings settings) ∧
    ∀ env env' : Environment, (∀ s given, Resolves env s given ↔ Resolves env' s given) →
      Config.ofEnvironment env = Config.ofEnvironment env' ∧
      DatabaseProvisioner.ofEnvironment env = DatabaseProvisioner.ofEnvironment env' := by
  have hall (env : Environment) (settings : Settings) :
      (∀ s, Resolves env s (settings s)) ↔ ofEnvironment env = settings := by
    simp only [resolves_iff, funext_iff]
  refine ⟨hall, fun env settings h => ?_, fun env env' h => ?_⟩
  · rw [Config.ofEnvironment, (hall env settings).mp h]
  · have hsame : ofEnvironment env = ofEnvironment env' :=
      (hall env _).mp fun s => (h s _).mpr (resolves_iff.mpr rfl)
    have hconfig : Config.ofEnvironment env = Config.ofEnvironment env' := by
      rw [Config.ofEnvironment, hsame, Config.ofEnvironment]
    exact ⟨hconfig, by rw [DatabaseProvisioner.ofEnvironment, hconfig,
      DatabaseProvisioner.ofEnvironment]⟩

/-- A name in other letters counts, a later value that is no UTF-8 does not, and neither does a name
that begins in another case: the two environments load alike. -/
theorem unreadable_value_changes_nothing :
    let env : Environment := [(Text.utf8 "CLAY_DATABASE_NAME", Text.utf8 "app"),
      (Text.utf8 "CLAY_DATABASE_name", [0xFF]), (Text.utf8 "clay_database_NAME", Text.utf8 "other")]
    let env' : Environment := [(Text.utf8 "CLAY_DATABASE_Name", Text.utf8 "other"),
      (Text.utf8 "CLAY_DATABASE_nAME", Text.utf8 "app")]
    (∀ s given, Resolves env s given ↔ Resolves env' s given) ∧
      Resolves env .name (some "app") ∧
      Config.ofEnvironment env = Config.ofEnvironment env' := by
  intro env env'
  have hsame : ∀ s, ofEnvironment env s = ofEnvironment env' s := by
    intro s
    cases s <;> decide +kernel
  have hresolves (s given) : Resolves env s given ↔ Resolves env' s given := by
    rw [resolves_iff, resolves_iff, hsame]
  refine ⟨hresolves, resolves_iff.mpr (by decide +kernel), ?_⟩
  exact (environment_resolves_settings.2.2 env env' hresolves).1

end Settings

end DatabaseResource
