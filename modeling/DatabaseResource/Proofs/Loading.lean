import Mathlib.Data.Nat.Digits.Defs
import DatabaseResource.Fault
import DatabaseResource.Proofs.Settings

/-!
# Which settings load

What settings must say for a configuration to be loaded from them, and which one it is then
(`Config.Usable`). Ten demands are made of settings, in an order (`Config.Demand.all`); settings
that do not load are refused for the first demand that they do not meet
(`settings_load_iff_usable`).
-/

namespace DatabaseResource

/-! ### Texts without the blank characters around them -/

namespace Text

/-- The middle of a text: blank characters are around it, and none at its ends. -/
structure Trims (cs mid : List Char) : Prop where
  parts : ∃ front back, cs = front ++ (mid ++ back) ∧ (∀ c ∈ front, isBlank c = true) ∧
    ∀ c ∈ back, isBlank c = true
  first : ∀ c ∈ mid.head?, isBlank c = false
  last : ∀ c ∈ mid.getLast?, isBlank c = false

variable {cs mid front : List Char}

theorem exists_front (cs : List Char) :
    ∃ front, cs = front ++ trimLeft cs ∧ ∀ c ∈ front, isBlank c = true :=
  ⟨cs.takeWhile isBlank, List.takeWhile_append_dropWhile.symm,
    List.all_eq_true.mp List.all_takeWhile⟩

theorem exists_back (cs : List Char) :
    ∃ back, cs = trimRight cs ++ back ∧ ∀ c ∈ back, isBlank c = true := by
  obtain ⟨front, hfront, hblank⟩ := exists_front cs.reverse
  refine ⟨front.reverse, ?_, fun c hc => hblank c (List.mem_reverse.mp hc)⟩
  rw [trimRight, ← List.reverse_append, ← List.reverse_eq_iff]
  exact hfront

theorem isBlank_of_mem_head?_trimLeft {c : Char} (h : c ∈ (trimLeft cs).head?) :
    isBlank c = false := by
  cases hcs : trimLeft cs with
  | nil => simp [hcs] at h
  | cons d ds =>
    obtain rfl : d = c := by simpa [hcs] using h
    exact isBlank_of_trimLeft_eq_cons hcs

theorem trims_trim (cs : List Char) : Trims cs (trim cs) := by
  obtain ⟨front, hfront, hblank⟩ := exists_front cs
  obtain ⟨back, hback, hblank'⟩ := exists_back (trimLeft cs)
  rw [← trim] at hback
  refine ⟨⟨front, back, ?_, hblank, hblank'⟩, fun c hc => ?_, fun c hc => ?_⟩
  · rw [← hback, ← hfront]
  · have hfirst : c ∈ (trimLeft cs).head? := by
      rw [hback, List.head?_append, Option.mem_def.mp hc]
      rfl
    exact isBlank_of_mem_head?_trimLeft hfirst
  · have hlast : c ∈ (trimLeft (trimLeft cs).reverse).head? := by
      rwa [trim, trimRight, List.getLast?_reverse] at hc
    exact isBlank_of_mem_head?_trimLeft hlast

theorem trimLeft_append {rest : List Char} (hfront : ∀ c ∈ front, isBlank c = true)
    (hrest : ∀ c ∈ rest.head?, isBlank c = false) : trimLeft (front ++ rest) = rest := by
  rw [trimLeft, List.dropWhile_append_of_pos hfront]
  cases rest with
  | nil => rfl
  | cons c rest => exact List.dropWhile_cons_of_neg (by simp [hrest c rfl])

theorem trimRight_append {back : List Char} (hback : ∀ c ∈ back, isBlank c = true)
    (hmid : ∀ c ∈ mid.getLast?, isBlank c = false) : trimRight (mid ++ back) = mid := by
  have hleft : trimLeft (back.reverse ++ mid.reverse) = mid.reverse :=
    trimLeft_append (fun c hc => hback c (List.mem_reverse.mp hc)) (by simpa using hmid)
  rw [trimRight, List.reverse_append, ← trimLeft, hleft, List.reverse_reverse]

theorem Trims.eq_trim (h : Trims cs mid) : trim cs = mid := by
  obtain ⟨⟨front, back, rfl, hfront, hback⟩, hfirst, hlast⟩ := h
  cases mid with
  | nil =>
    rw [trim_eq_nil_iff]
    intro c hc
    rcases List.mem_append.mp hc with hc | hc
    · exact hfront c hc
    · exact hback c hc
  | cons d ds =>
    have hleft : trimLeft (front ++ (d :: ds ++ back)) = d :: ds ++ back :=
      trimLeft_append hfront hfirst
    rw [trim, hleft, trimRight_append hback hlast]

theorem trims_iff : Trims cs mid ↔ trim cs = mid := by
  constructor
  · exact Trims.eq_trim
  · rintro rfl
    exact trims_trim cs

/-- A text shows something: not all of its characters are blank. -/
def Visible (s : String) : Prop := ∃ c ∈ s.toList, isBlank c = false

theorem isAllBlank_eq_false_iff {s : String} : isAllBlank s = false ↔ Visible s := by
  rw [← Bool.not_eq_true, isAllBlank_iff, Visible]
  simp

end Text

open Text

namespace Config

/-! ### Port numbers -/

/-- Decimal digits, and the number that they are. -/
structure Decimal (digits : List Char) (n : Nat) : Prop where
  some : digits ≠ []
  digit : ∀ c ∈ digits, '0' ≤ c ∧ c ≤ '9'
  value : n = Nat.ofDigits 10 (digits.reverse.map fun c => c.toNat - '0'.toNat)

/-- A port number: digits behind an optional plus sign. Zeros may stand in front. -/
def IsPort (cs : List Char) (n : Nat) : Prop :=
  ∃ sign digits, cs = sign ++ digits ∧ (sign = [] ∨ sign = ['+']) ∧ Decimal digits n ∧
    1 ≤ n ∧ n ≤ 65535

variable {c : Char} {cs digits : List Char} {n : Nat}

/-- The number that further digits make of one. -/
theorem foldl_digits_iff (digits : List Char) (front : Option Nat) :
    digits.foldl (fun n c => do
        let n ← n
        if '0' ≤ c ∧ c ≤ '9' then some (n * 10 + (c.toNat - 48)) else none) front = some n ↔
    ∃ f, front = some f ∧ (∀ c ∈ digits, '0' ≤ c ∧ c ≤ '9') ∧
      n = f * 10 ^ digits.length
        + Nat.ofDigits 10 (digits.reverse.map fun c => c.toNat - '0'.toNat) := by
  induction digits generalizing front with
  | nil =>
    cases front with
    | none => simp
    | some f => simp [eq_comm]
  | cons c cs ih =>
    rw [List.foldl_cons, ih]
    cases front with
    | none => simp
    | some f =>
      have hvalue : f * 10 ^ (c :: cs).length
            + Nat.ofDigits 10 ((c :: cs).reverse.map fun c => c.toNat - '0'.toNat)
          = (f * 10 + (c.toNat - 48)) * 10 ^ cs.length
            + Nat.ofDigits 10 (cs.reverse.map fun c => c.toNat - '0'.toNat) := by
        simp only [List.reverse_cons, List.map_append, List.map_cons, List.map_nil,
          Nat.ofDigits_append, Nat.ofDigits_singleton, List.length_map, List.length_reverse,
          List.length_cons, pow_succ, Char.reduceToNat]
        ring
      simp only [Option.some.injEq, exists_eq_left', hvalue]
      by_cases hc : '0' ≤ c ∧ c ≤ '9'
      · simp [hc]
      · simp [hc]

theorem decimal?_eq_some_iff : decimal? digits = some n ↔ Decimal digits n := by
  unfold decimal?
  cases digits with
  | nil =>
    refine iff_of_false ?_ fun h => h.some rfl
    simp
  | cons c cs =>
    rw [List.isEmpty_cons, if_neg Bool.false_ne_true, foldl_digits_iff]
    constructor
    · rintro ⟨f, hf, hdigit, hn⟩
      obtain rfl : 0 = f := Option.some.inj hf
      exact ⟨List.cons_ne_nil c cs, hdigit, by rw [hn, Nat.zero_mul, Nat.zero_add]⟩
    · intro h
      exact ⟨0, rfl, h.digit, by rw [Nat.zero_mul, Nat.zero_add, ← h.value]⟩

theorem decimal?_inRange_iff :
    (do
      let n ← decimal? digits
      if 1 ≤ n ∧ n ≤ 65535 then some n else none) = some n ↔
    Decimal digits n ∧ 1 ≤ n ∧ n ≤ 65535 := by
  rw [← decimal?_eq_some_iff]
  cases decimal? digits with
  | none => simp
  | some d =>
    rw [Option.bind_eq_bind, Option.bind_some, Option.ite_none_right_eq_some, and_comm,
      Option.some.injEq]
    constructor
    · rintro ⟨rfl, hrange⟩
      exact ⟨rfl, hrange⟩
    · rintro ⟨rfl, hrange⟩
      exact ⟨rfl, hrange⟩

/-- A plus sign is no digit: it is clear which of the digits of a port number is the first. -/
theorem Decimal.head_ne (h : Decimal (c :: cs) n) : c ≠ '+' := by
  rintro rfl
  exact absurd (h.digit '+' List.mem_cons_self).1 (by decide)

theorem port?_eq_some_iff : port? cs = some n ↔ IsPort cs n := by
  unfold port?
  split
  case h_1 digits =>
    rw [decimal?_inRange_iff]
    constructor
    · intro h
      exact ⟨['+'], digits, rfl, .inr rfl, h⟩
    · rintro ⟨sign, digits', hcs, rfl | rfl, hdecimal, hrange⟩
      · obtain rfl : '+' :: digits = digits' := hcs
        exact absurd rfl hdecimal.head_ne
      · obtain rfl : digits = digits' := List.tail_eq_of_cons_eq hcs
        exact ⟨hdecimal, hrange⟩
  case h_2 hplus =>
    rw [decimal?_inRange_iff]
    constructor
    · intro h
      exact ⟨[], cs, rfl, .inl rfl, h⟩
    · rintro ⟨sign, digits', hcs, rfl | rfl, h⟩
      · obtain rfl : cs = digits' := hcs
        exact h
      · exact absurd hcs (hplus digits')

example : port? "+00443".toList = some 443 := by decide

example : port? "-0".toList = none ∧ port? "++1".toList = none := by decide

end Config

/-! ### Modes -/

namespace SslMode

theorem mem_all (mode : SslMode) : mode ∈ all := by cases mode <;> decide

theorem word_injective (m m' : SslMode) (h : m.word.toList = m'.word.toList) : m = m' := by
  revert h
  cases m <;> cases m' <;> decide

/-- A word names the mode that it is, in either case of ASCII letters. -/
theorem ofWord?_eq_some_iff {text : String} {m : SslMode} :
    ofWord? text = some m ↔ text.toList.map Char.toLower = m.word.toList := by
  rw [ofWord?, find?_key_eq_some_iff mem_all word_injective, eq_comm]

end SslMode

namespace Config

/-- The mode that a setting means, if it means one. -/
inductive GivesMode : Option String → SslMode → Prop where
  | missing : GivesMode none .prefer
  | blank {text : String} (blank : ¬ Visible text) : GivesMode (some text) .prefer
  | named {text : String} {mid : List Char} {m : SslMode} (trims : Trims text.toList mid)
      (word : mid.map Char.toLower = m.word.toList) : GivesMode (some text) m

/-- A setting names no mode; what it does say is `mid`. -/
structure NamesNoMode (given : Option String) (mid : List Char) : Prop where
  given : ∃ text, given = some text ∧ Trims text.toList mid
  some : mid ≠ []
  unknown : ∀ m : SslMode, mid.map Char.toLower ≠ m.word.toList

variable {text : String} {given : Option String} {m : SslMode} {e : RuleError}

theorem not_visible_iff : ¬ Visible text ↔ trim text.toList = [] := by
  rw [← isAllBlank_eq_false_iff, Bool.not_eq_false, isAllBlank, List.isEmpty_iff]

theorem mode_of_blank (h : trim text.toList = []) : mode (some text) = .ok .prefer := by
  simp [mode, h]

theorem mode_of_trim {mid : List Char} (h : trim text.toList = mid) (hmid : mid ≠ []) :
    mode (some text) = (SslMode.ofWord? (String.ofList mid)).elim
      (.error (.badMode (String.ofList mid))) .ok := by
  cases mid with
  | nil => exact absurd rfl hmid
  | cons c cs =>
    simp only [mode, Option.map_some, h]
    cases SslMode.ofWord? (String.ofList (c :: cs)) <;> rfl

theorem ofWord?_eq_none_iff {mid : List Char} :
    SslMode.ofWord? (String.ofList mid) = none ↔
      ∀ m : SslMode, mid.map Char.toLower ≠ m.word.toList := by
  rw [Option.eq_none_iff_forall_ne_some]
  simp only [ne_eq, SslMode.ofWord?_eq_some_iff, String.toList_ofList]

theorem mode_eq_ok_iff : mode given = .ok m ↔ GivesMode given m := by
  constructor
  · intro h
    cases given with
    | none =>
      cases h
      exact .missing
    | some text =>
      by_cases hmid : trim text.toList = []
      · rw [mode_of_blank hmid] at h
        cases h
        exact .blank (not_visible_iff.mpr hmid)
      · rw [mode_of_trim rfl hmid] at h
        cases hword : SslMode.ofWord? (String.ofList (trim text.toList)) with
        | none => simp [hword] at h
        | some m' =>
          obtain rfl : m' = m := by simpa [hword] using h
          rw [SslMode.ofWord?_eq_some_iff, String.toList_ofList] at hword
          exact .named (trims_trim _) hword
  · intro h
    cases h with
    | missing => rfl
    | blank blank => exact mode_of_blank (not_visible_iff.mp blank)
    | @named text mid m trims word =>
      have hmid : mid ≠ [] := by
        rintro rfl
        revert word
        cases m <;> decide
      have hword : SslMode.ofWord? (String.ofList mid) = some m := by
        rwa [SslMode.ofWord?_eq_some_iff, String.toList_ofList]
      rw [mode_of_trim trims.eq_trim hmid, hword, Option.elim_some]

theorem mode_eq_error_iff :
    mode given = .error e ↔ ∃ mid, NamesNoMode given mid ∧ e = .badMode (String.ofList mid) := by
  constructor
  · intro h
    cases given with
    | none => cases h
    | some text =>
      by_cases hmid : trim text.toList = []
      · rw [mode_of_blank hmid] at h
        cases h
      · rw [mode_of_trim rfl hmid] at h
        cases hword : SslMode.ofWord? (String.ofList (trim text.toList)) with
        | none =>
          rw [hword, Option.elim_none, Except.error.injEq] at h
          exact ⟨_, ⟨⟨text, rfl, trims_trim _⟩, hmid, ofWord?_eq_none_iff.mp hword⟩, h.symm⟩
        | some m => simp [hword] at h
  · rintro ⟨mid, ⟨⟨text, rfl, trims⟩, hmid, unknown⟩, rfl⟩
    rw [mode_of_trim trims.eq_trim hmid, ofWord?_eq_none_iff.mpr unknown, Option.elim_none]

/-! ### Settings that load -/

/-- Settings are usable, and this is the configuration that they mean. Texts are as they were given;
nothing is asked of the password. -/
structure Usable (settings : Settings) (config : Config) : Prop where
  user : settings .user = some config.user
  password : settings .password = some config.password
  host : settings .host = some config.host
  name : settings .name = some config.name
  userVisible : Visible config.user
  hostVisible : Visible config.host
  nameVisible : Visible config.name
  port : ∃ text mid, settings .hostPort = some text ∧ Trims text.toList mid ∧
    IsPort mid config.hostPort
  mode : GivesMode (settings .sslMode) config.sslMode

/-- What is asked of settings. -/
inductive Demand where
  | given (setting : Setting)
  | visible (setting : Setting)
  | port
  | mode
deriving DecidableEq

/-- All demands, in their order. -/
def Demand.all : List Demand :=
  [.given .user, .given .password, .given .host, .given .hostPort, .given .name,
    .visible .user, .visible .host, .visible .name, .port, .mode]

/-- Settings do not meet a demand, and this is how it is said. A bad port is quoted as it stands,
and a bad mode without the blank characters around it. -/
inductive Breaks (settings : Settings) : Demand → Error → Prop where
  | given {s : Setting} (missing : settings s = none) :
      Breaks settings (.given s) (.settings (.missing s.key))
  | visible {s : Setting} {text : String} (given : settings s = some text)
      (blank : ¬ Visible text) : Breaks settings (.visible s) (.rule (.blank s))
  | port {text : String} (given : settings .hostPort = some text)
      (noPort : ∀ mid n, Trims text.toList mid → ¬ IsPort mid n) :
      Breaks settings .port (.rule (.badPort text))
  | mode {mid : List Char} (noMode : NamesNoMode (settings .sslMode) mid) :
      Breaks settings .mode (.rule (.badMode (String.ofList mid)))

variable {settings : Settings} {config : Config} {s : Setting}

theorem checkNotBlank_eq_ok_iff : checkNotBlank s text = .ok () ↔ Visible text := by
  rw [← isAllBlank_eq_false_iff, checkNotBlank]
  cases isAllBlank text <;> simp

theorem port?_trim_eq_some_iff :
    port? (trim text.toList) = some n ↔ ∃ mid, Trims text.toList mid ∧ IsPort mid n := by
  rw [port?_eq_some_iff]
  constructor
  · intro h
    exact ⟨_, trims_trim _, h⟩
  · rintro ⟨mid, trims, h⟩
    rwa [trims.eq_trim]

theorem ofSettings_eq_ok_iff : ofSettings settings = .ok config ↔ Usable settings config := by
  constructor
  · intro h
    unfold ofSettings at h
    obtain ⟨user, huser, h⟩ := bind_eq_ok h
    obtain ⟨password, hpassword, h⟩ := bind_eq_ok h
    obtain ⟨host, hhost, h⟩ := bind_eq_ok h
    obtain ⟨port, hport, h⟩ := bind_eq_ok h
    obtain ⟨name, hname, h⟩ := bind_eq_ok h
    obtain ⟨⟨⟩, huserVisible, h⟩ := bind_eq_ok h
    obtain ⟨⟨⟩, hhostVisible, h⟩ := bind_eq_ok h
    obtain ⟨⟨⟩, hnameVisible, h⟩ := bind_eq_ok h
    split at h
    next => cases h
    next hostPort hhostPort =>
      split at h
      next => cases h
      next sslMode hmode =>
        cases h
        obtain ⟨mid, trims, hmid⟩ := port?_trim_eq_some_iff.mp hhostPort
        exact {
          user := require_eq_ok_iff.mp huser
          password := require_eq_ok_iff.mp hpassword
          host := require_eq_ok_iff.mp hhost
          name := require_eq_ok_iff.mp hname
          userVisible := checkNotBlank_eq_ok_iff.mp huserVisible
          hostVisible := checkNotBlank_eq_ok_iff.mp hhostVisible
          nameVisible := checkNotBlank_eq_ok_iff.mp hnameVisible
          port := ⟨port, mid, require_eq_ok_iff.mp hport, trims, hmid⟩
          mode := mode_eq_ok_iff.mp hmode }
  · intro h
    obtain ⟨port, mid, hport, trims, hmid⟩ := h.port
    have hhostPort := port?_trim_eq_some_iff.mpr ⟨mid, trims, hmid⟩
    simp only [ofSettings, require, h.user, h.password, h.host, hport, h.name,
      checkNotBlank_eq_ok_iff.mpr h.userVisible, checkNotBlank_eq_ok_iff.mpr h.hostVisible,
      checkNotBlank_eq_ok_iff.mpr h.nameVisible, hhostPort, mode_eq_ok_iff.mpr h.mode,
      Except.bind, bind]

/-! ### Settings that do not load -/

/-- What is said of settings that do not meet a demand. -/
def Demand.error? (settings : Settings) : Demand → Option Error
  | .given s => if settings s = none then some (.settings (.missing s.key)) else none
  | .visible s => do
    let text ← settings s
    if isAllBlank text then some (.rule (.blank s)) else none
  | .port => do
    let text ← settings .hostPort
    if port? (trim text.toList) = none then some (.rule (.badPort text)) else none
  | .mode =>
    match Config.mode (settings .sslMode) with
    | .error e => some (.rule e)
    | .ok _ => none

variable {demand : Demand} {error : Error}

theorem error?_eq_some_iff :
    demand.error? settings = some error ↔ Breaks settings demand error := by
  cases demand with
  | given s =>
    rw [Demand.error?, Option.ite_none_right_eq_some, Option.some.injEq]
    constructor
    · rintro ⟨hmissing, rfl⟩
      exact .given hmissing
    · rintro ⟨hmissing⟩
      exact ⟨hmissing, rfl⟩
  | visible s =>
    simp only [Demand.error?, Option.bind_eq_bind, Option.bind_eq_some_iff,
      Option.ite_none_right_eq_some, Option.some.injEq]
    constructor
    · rintro ⟨text, hgiven, hblank, rfl⟩
      refine .visible hgiven ?_
      rw [← isAllBlank_eq_false_iff, hblank]
      exact Bool.true_eq_false.mp
    · rintro (_ | ⟨hgiven, hblank⟩)
      refine ⟨_, hgiven, ?_, rfl⟩
      rwa [← isAllBlank_eq_false_iff, Bool.not_eq_false] at hblank
  | port =>
    simp only [Demand.error?, Option.bind_eq_bind, Option.bind_eq_some_iff,
      Option.ite_none_right_eq_some, Option.some.injEq, Option.eq_none_iff_forall_ne_some]
    constructor
    · rintro ⟨text, hgiven, hnone, rfl⟩
      exact .port hgiven fun mid n trims h => hnone n (port?_trim_eq_some_iff.mpr ⟨mid, trims, h⟩)
    · rintro (_ | _ | ⟨hgiven, hnone⟩)
      refine ⟨_, hgiven, fun n h => ?_, rfl⟩
      obtain ⟨mid, trims, hmid⟩ := port?_trim_eq_some_iff.mp h
      exact hnone mid n trims hmid
  | mode =>
    rw [Demand.error?]
    constructor
    · intro h
      split at h
      next e he =>
        obtain ⟨mid, noMode, rfl⟩ := mode_eq_error_iff.mp he
        obtain rfl : _ = error := Option.some.inj h
        exact .mode noMode
      next => cases h
    · rintro (_ | _ | _ | ⟨noMode⟩)
      rw [mode_eq_error_iff.mpr ⟨_, noMode, rfl⟩]

theorem error?_eq_none_iff :
    demand.error? settings = none ↔ ∀ error, ¬ Breaks settings demand error := by
  rw [Option.eq_none_iff_forall_ne_some]
  simp only [ne_eq, error?_eq_some_iff]

/-- What is said of settings that do not load is said for the first demand that they do not meet. -/
theorem ofSettings_eq_error_iff :
    ofSettings settings = .error error ↔
      Demand.all.findSome? (Demand.error? settings) = some error := by
  simp only [ofSettings, require, checkNotBlank, Demand.all, List.findSome?_cons,
    List.findSome?_nil, Demand.error?, bind, Except.bind]
  cases settings .user with
  | none => simp
  | some user =>
  cases settings .password with
  | none => simp
  | some password =>
  cases settings .host with
  | none => simp
  | some host =>
  cases settings .hostPort with
  | none => simp
  | some port =>
  cases settings .name with
  | none => simp
  | some name =>
  simp only [reduceCtorEq, if_false, Option.bind_some]
  cases isAllBlank user with
  | true => simp
  | false =>
  cases isAllBlank host with
  | true => simp
  | false =>
  cases isAllBlank name with
  | true => simp
  | false =>
  cases port? (trim port.toList) with
  | none => simp
  | some hostPort =>
  cases Config.mode (settings .sslMode) with
  | error e => simp
  | ok sslMode => simp

/-- **Which settings load, as what, and why others do not.** Settings load as the configuration that
they mean, and only if they are usable. Settings that do not load are refused for the first of the
demands that they do not meet: a missing one is said to be missing before any is said to be
wrong. -/
theorem settings_load_iff_usable (settings : Settings) :
    (∀ config, ofSettings settings = .ok config ↔ Usable settings config) ∧
    (∀ error, ofSettings settings = .error error ↔
      ∃ before demand after, Demand.all = before ++ demand :: after ∧
        Breaks settings demand error ∧
        ∀ met ∈ before, ∀ error', ¬ Breaks settings met error') ∧
    (∀ s : Setting, (Fault.ofConfigError (.settings (.missing s.key))).message =
      "Configuration error: missing field `" ++ s.key ++ "`") ∧
    (∀ s : Setting, (Fault.ofConfigError (.rule (.blank s))).message =
      "Invalid configuration: " ++ s.variableName ++ " must not be empty") ∧
    (∀ text, (Fault.ofConfigError (.rule (.badPort text))).message =
      "Invalid configuration: CLAY_DATABASE_HOST_PORT must be a port number (got "
        ++ text ++ ")") ∧
    ∀ mid, (Fault.ofConfigError (.rule (.badMode mid))).message =
      "Invalid configuration: CLAY_DATABASE_SSL_MODE must be one of "
        ++ "disable, allow, prefer, require, verify-ca, verify-full" ++ " (got " ++ mid ++ ")" := by
  refine ⟨fun config => ofSettings_eq_ok_iff, fun error => ?_,
    fun s => rfl, fun s => rfl, fun text => rfl, fun mid => rfl⟩
  rw [ofSettings_eq_error_iff, List.findSome?_eq_some_iff]
  simp only [error?_eq_some_iff, error?_eq_none_iff]

/-- A port and a mode may have blank characters around them, and zeros and capital letters in them;
a name is taken with its blank characters. -/
theorem padded_settings_load :
    let settings : Settings
      | .user => some "admin"
      | .password => some ""
      | .host => some "db"
      | .hostPort => some " +005432\n"
      | .name => some " app"
      | .sslMode => some "\tVerify-CA"
    ofSettings settings = .ok ⟨"admin", "", "db", 5432, " app", .verifyCa⟩ := by
  intro settings
  refine ((settings_load_iff_usable settings).1 _).mpr ?_
  refine ⟨rfl, rfl, rfl, rfl, ⟨'a', by decide, by decide⟩, ⟨'d', by decide, by decide⟩,
    ⟨'a', by decide, by decide⟩, ⟨_, "+005432".toList, rfl, trims_iff.mpr (by decide), ?_⟩, ?_⟩
  · exact port?_eq_some_iff.mp (by decide)
  · have htrims : Trims "\tVerify-CA".toList "Verify-CA".toList := trims_iff.mpr (by decide)
    exact .named htrims (by decide)

end Config

end DatabaseResource
