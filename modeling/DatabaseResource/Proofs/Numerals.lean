import DatabaseResource.Proofs.Lexemes

/-!
# Numbers are read as the grammar says

A numeral is read as its number, and passed over whatever it is, if nothing follows that would go on
with it (`readNumber_of_numeral`, `skipNumber_of_numeral`). What is read is passed over as well
(`skipNumber_of_readNumber`), and what is passed over is a numeral (`numeral_of_skipNumber`).
-/

namespace DatabaseResource.Json

/-- A text does not begin with a digit. -/
def NoDigit (rest : List Char) : Prop := ∀ c cs, rest = c :: cs → isDigit c = false

/-- A text does not go on with a number in front of it. -/
def Stops (rest : List Char) : Prop :=
  ∀ c cs, rest = c :: cs → isDigit c = false ∧ c ≠ '.' ∧ c ≠ 'e' ∧ c ≠ 'E'

variable {rest : List Char} {d : Char} {ds : List Char}

theorem Stops.noDigit (h : Stops rest) : NoDigit rest := fun c cs hc => (h c cs hc).1

theorem stops_nil : Stops [] := nofun

theorem stops_cons {c : Char} (h : isDigit c = false ∧ c ≠ '.' ∧ c ≠ 'e' ∧ c ≠ 'E')
    (cs : List Char) : Stops (c :: cs) := by
  rintro c' cs' ⟨⟩
  exact h

theorem takeDigits_append (hds : ∀ c ∈ ds, isDigit c = true) (hrest : NoDigit rest) :
    takeDigits (ds ++ rest) = (ds, rest) := by
  have hstop : rest.takeWhile isDigit = [] ∧ rest.dropWhile isDigit = rest := by
    cases rest with
    | nil => exact ⟨rfl, rfl⟩
    | cons c cs => simp [hrest c cs rfl]
  rw [takeDigits, List.takeWhile_append_of_pos hds, List.dropWhile_append_of_pos hds, hstop.1,
    hstop.2, List.append_nil]

theorem takeDigits_spec (cs : List Char) :
    (∀ c ∈ (takeDigits cs).1, isDigit c = true) ∧ cs = (takeDigits cs).1 ++ (takeDigits cs).2 := by
  exact ⟨List.all_eq_true.mp List.all_takeWhile, List.takeWhile_append_dropWhile.symm⟩

theorem takeDigits_cons (hd : isDigit d = true) (hds : ∀ c ∈ ds, isDigit c = true)
    (hrest : NoDigit rest) : takeDigits (d :: (ds ++ rest)) = (d :: ds, rest) := by
  rw [← List.cons_append]
  exact takeDigits_append (List.forall_mem_cons.mpr ⟨hd, hds⟩) hrest

/-- A digit is none of the characters that mean something else in a number. -/
theorem ne_of_isDigit {c : Char} (h : isDigit d = true) (hc : isDigit c = false) : d ≠ c := by
  rintro rfl
  rw [h] at hc
  cases hc

/-- A value that begins with a digit begins with none of the characters of other values. -/
theorem not_other_of_isDigit (h : isDigit d = true) : d ≠ 'n' ∧ d ≠ 't' ∧ d ≠ 'f' ∧ d ≠ '-' ∧
    d ≠ '"' ∧ d ≠ '[' ∧ d ≠ '{' := by
  refine ⟨?_, ?_, ?_, ?_, ?_, ?_, ?_⟩ <;> exact ne_of_isDigit h (by decide)

/-! ### Passing over numbers -/

section Skip

variable {sign exponent fraction whole numeral cs : List Char}

theorem skipExponent_of_digits (hsign : Sign sign) (hd : isDigit d = true)
    (hds : ∀ c ∈ ds, isDigit c = true) (hrest : NoDigit rest) :
    skipExponent (sign ++ d :: (ds ++ rest)) = .ok rest := by
  have hdigits := takeDigits_cons hd hds hrest
  have hplus : d ≠ '+' := ne_of_isDigit hd (by decide)
  have hminus : d ≠ '-' := ne_of_isDigit hd (by decide)
  cases hsign with
  | none => simp [skipExponent, hplus, hminus, hd, hdigits]
  | plus => simp [skipExponent, hd, hdigits]
  | minus => simp [skipExponent, hd, hdigits]

theorem skipOptionalExponent_of_exponent (h : Exponent exponent) (hrest : Stops rest) :
    skipOptionalExponent (exponent ++ rest) = .ok rest := by
  cases h with
  | none =>
    cases rest with
    | nil => rfl
    | cons c cs =>
      obtain ⟨-, -, he, hE⟩ := hrest c cs rfl
      simp [skipOptionalExponent, he, hE]
  | @digits e sign d ds letter hsign hd hds =>
    have hskip := skipExponent_of_digits hsign hd hds hrest.noDigit
    simpa [skipOptionalExponent, letter] using hskip

/-- What follows the digits in front of an exponent is no digit. -/
theorem Exponent.noDigit (h : Exponent exponent) (hrest : Stops rest) :
    NoDigit (exponent ++ rest) := by
  cases h with
  | none => exact hrest.noDigit
  | digits letter =>
    rintro c cs ⟨⟩
    rcases letter with rfl | rfl <;> decide

theorem skipFraction_of_fraction (hf : Fraction fraction) (he : Exponent exponent)
    (hrest : Stops rest) : skipFraction (fraction ++ (exponent ++ rest)) = .ok rest := by
  have hexponent := skipOptionalExponent_of_exponent he hrest
  cases hf with
  | none =>
    have hdot : ∀ cs, exponent ++ rest ≠ '.' :: cs := by
      intro cs hcs
      cases he with
      | none => exact (hrest _ _ hcs).2.1 rfl
      | digits letter =>
        cases hcs
        rcases letter with h | h <;> cases h
    rw [List.nil_append, skipFraction]
    · exact hexponent
    · exact hdot
  | @digits d ds hd hds =>
    have hdigits := takeDigits_cons hd hds (he.noDigit hrest)
    simp only [List.cons_append, skipFraction, hdigits, List.isEmpty_cons]
    exact hexponent

/-- What follows a whole number is no digit. -/
theorem Fraction.noDigit (hf : Fraction fraction) (he : Exponent exponent) (hrest : Stops rest) :
    NoDigit (fraction ++ (exponent ++ rest)) := by
  cases hf with
  | none => exact he.noDigit hrest
  | digits =>
    rintro c cs ⟨⟩
    decide

/-- A numeral is passed over, whatever its number is. -/
theorem skipNumber_of_numeral (h : Numeral numeral) (hrest : Stops rest) :
    skipNumber (numeral ++ rest) = .ok rest := by
  obtain @⟨whole, fraction, exponent, hw, hf, he⟩ := h
  rw [List.append_assoc, List.append_assoc]
  have hfraction := skipFraction_of_fraction hf he hrest
  have hdigit := hf.noDigit he hrest
  generalize fraction ++ (exponent ++ rest) = behind at hfraction hdigit
  cases hw with
  | zero =>
    cases behind with
    | nil => exact hfraction
    | cons c cs => simpa [skipNumber, hdigit c cs rfl] using hfraction
  | @digits d ds hd nonzero hds =>
    have hdigits := takeDigits_cons hd hds hdigit
    rw [List.cons_append, skipNumber]
    · simpa [hd, hdigits] using hfraction
    · exact fun h => nonzero h

/-! ### Reading numbers -/

/-- Reading a part of a number comes to the same whatever follows. -/
def Settled (read : List Char → Except ReadError (Number × List Char)) (part : List Char) : Prop :=
  ∃ n, ∀ rest, Stops rest → Reads (read (part ++ rest)) n rest

theorem readDouble_settled (negative : Bool) (significand : Nat) (exponent : Int) :
    Settled (readDouble negative significand exponent) [] := by
  unfold readDouble
  cases scaled? 4 significand.toUInt64.toFloat exponent with
  | none => exact ⟨none, fun rest _ => .error _ rest⟩
  | some f => exact ⟨some _, fun rest _ => .ok _ rest⟩

/-- The number with an exponent whose sign and digits have been read. -/
def withExponent (negative : Bool) (significand : Nat) (exponent : Int) (down : Bool)
    (digits rest : List Char) : Except ReadError (Number × List Char) :=
  let (value, left) := appendDigits maxExponent 0 digits
  if left = 0 then
    readDouble negative significand (if down then exponent - value else exponent + value) rest
  else if significand ≠ 0 ∧ ¬down then
    .error ⟨.numberOutOfRange, Text.byteCount rest + (left - 1)⟩
  else .ok (.double (.ofFloat (if negative then -0.0 else 0.0)), rest)

theorem withExponent_settled (negative : Bool) (significand : Nat) (exponent : Int) (down : Bool)
    (digits : List Char) :
    Settled (withExponent negative significand exponent down digits) [] := by
  unfold withExponent
  generalize appendDigits maxExponent 0 digits = appended
  obtain ⟨value, left⟩ := appended
  dsimp only
  by_cases hleft : left = 0
  · simp only [if_pos hleft]
    exact readDouble_settled negative significand _
  · by_cases hrange : significand ≠ 0 ∧ ¬down
    · simp only [if_neg hleft, if_pos hrange]
      exact ⟨none, fun rest _ => .error _ rest⟩
    · simp only [if_neg hleft, if_neg hrange]
      exact ⟨some _, fun rest _ => .ok _ rest⟩

theorem readExponent_settled (negative : Bool) (significand : Nat) (exponent : Int)
    (hsign : Sign sign) (hd : isDigit d = true) (hds : ∀ c ∈ ds, isDigit c = true) :
    Settled (readExponent negative significand exponent) (sign ++ d :: ds) := by
  have hread : ∃ down, ∀ rest, Stops rest →
      readExponent negative significand exponent (sign ++ d :: ds ++ rest)
        = withExponent negative significand exponent down (d :: ds) rest := by
    have hplus : d ≠ '+' := ne_of_isDigit hd (by decide)
    have hminus : d ≠ '-' := ne_of_isDigit hd (by decide)
    cases hsign with
    | none =>
      refine ⟨false, fun rest hrest => ?_⟩
      have hdigits := takeDigits_cons hd hds hrest.noDigit
      simp [readExponent, withExponent, hplus, hminus, hd, hdigits]
    | plus =>
      refine ⟨false, fun rest hrest => ?_⟩
      have hdigits := takeDigits_cons hd hds hrest.noDigit
      simp [readExponent, withExponent, hd, hdigits]
    | minus =>
      refine ⟨true, fun rest hrest => ?_⟩
      have hdigits := takeDigits_cons hd hds hrest.noDigit
      simp [readExponent, withExponent, hd, hdigits]
  obtain ⟨down, hread⟩ := hread
  obtain ⟨n, hn⟩ := withExponent_settled negative significand exponent down (d :: ds)
  exact ⟨n, fun rest hrest => hread rest hrest ▸ hn rest hrest⟩

/-- Behind a whole number without fraction and exponent. -/
theorem readFraction_settled_nil (negative : Bool) (significand left : Nat) :
    Settled (readFraction negative significand left) [] := by
  have hread : ∀ rest, Stops rest → readFraction negative significand left rest
      = if left = 0 then .ok (wholeNumber negative significand, rest)
        else readDouble negative significand left rest := by
    intro rest hrest
    cases rest with
    | nil => rfl
    | cons c cs =>
      obtain ⟨-, hdot, he, hE⟩ := hrest c cs rfl
      rw [readFraction]
      · simp [he, hE]
      · exact fun h => hdot h
  by_cases hleft : left = 0
  · refine ⟨some (wholeNumber negative significand), fun rest hrest => ?_⟩
    rw [List.nil_append, hread rest hrest, if_pos hleft]
    exact .ok _ rest
  · obtain ⟨n, hn⟩ := readDouble_settled negative significand left
    refine ⟨n, fun rest hrest => ?_⟩
    rw [List.nil_append, hread rest hrest, if_neg hleft]
    exact hn rest hrest

/-- The number behind the digits of its fraction. -/
def withFraction (negative : Bool) (significand : Nat) (exponent : Int) :
    List Char → Except ReadError (Number × List Char)
  | c :: cs =>
    if c = 'e' ∨ c = 'E' then readExponent negative significand exponent cs
    else readDouble negative significand exponent (c :: cs)
  | [] => readDouble negative significand exponent []

theorem withFraction_settled (negative : Bool) (significand : Nat) (power : Int)
    (he : Exponent exponent) : Settled (withFraction negative significand power) exponent := by
  cases he with
  | none =>
    obtain ⟨n, hn⟩ := readDouble_settled negative significand power
    refine ⟨n, fun rest hrest => ?_⟩
    cases rest with
    | nil => exact hn [] hrest
    | cons c cs =>
      obtain ⟨-, -, he, hE⟩ := hrest c cs rfl
      simpa [withFraction, he, hE] using hn (c :: cs) hrest
  | @digits e sign d ds letter hsign hd hds =>
    obtain ⟨n, hn⟩ := readExponent_settled negative significand power hsign hd hds
    refine ⟨n, fun rest hrest => ?_⟩
    simpa [withFraction, letter] using hn rest hrest

theorem readFraction_digits (negative : Bool) (significand left : Nat) (hd : isDigit d = true)
    (hds : ∀ c ∈ ds, isDigit c = true) (hrest : NoDigit rest) :
    readFraction negative significand left ('.' :: d :: (ds ++ rest))
      = withFraction negative (appendDigits maxSignificand significand (d :: ds)).1
          ((left : Int) - (((d :: ds).length
            - (appendDigits maxSignificand significand (d :: ds)).2 : Nat) : Int)) rest := by
  have hdigits := takeDigits_cons hd hds hrest
  simp only [readFraction, hdigits]
  cases rest <;> rfl

theorem readFraction_settled (negative : Bool) (significand left : Nat) (hf : Fraction fraction)
    (he : Exponent exponent) :
    Settled (readFraction negative significand left) (fraction ++ exponent) := by
  cases hf with
  | none =>
    cases he with
    | none => exact readFraction_settled_nil negative significand left
    | @digits e sign d ds letter hsign hd hds =>
      obtain ⟨n, hn⟩ := readExponent_settled negative significand left hsign hd hds
      refine ⟨n, fun rest hrest => ?_⟩
      have hread : readFraction negative significand left (e :: (sign ++ d :: ds ++ rest))
          = readExponent negative significand left (sign ++ d :: ds ++ rest) := by
        rw [readFraction]
        · simp [letter]
        · rintro rfl
          rcases letter with h | h <;> cases h
      rw [List.nil_append, List.cons_append, hread]
      exact hn rest hrest
  | @digits d ds hd hds =>
    obtain ⟨n, hn⟩ := withFraction_settled negative
      (appendDigits maxSignificand significand (d :: ds)).1
      ((left : Int) - (((d :: ds).length
        - (appendDigits maxSignificand significand (d :: ds)).2 : Nat) : Int)) he
    refine ⟨n, fun rest hrest => ?_⟩
    have hread := readFraction_digits negative significand left hd hds (he.noDigit hrest)
    rw [List.append_assoc, List.cons_append, List.cons_append, hread]
    exact hn rest hrest

theorem readNumber_settled (negative : Bool) (h : Numeral numeral) :
    Settled (readNumber negative) numeral := by
  obtain @⟨whole, fraction, exponent, hw, hf, he⟩ := h
  cases hw with
  | zero =>
    obtain ⟨n, hn⟩ := readFraction_settled negative 0 0 hf he
    refine ⟨n, fun rest hrest => ?_⟩
    have hdigit := hf.noDigit he hrest
    have hread := hn rest hrest
    rw [List.append_assoc] at hread
    rw [List.append_assoc, List.append_assoc]
    generalize fraction ++ (exponent ++ rest) = behind at hread hdigit
    cases behind with
    | nil => exact hread
    | cons c cs => simpa [readNumber, hdigit c cs rfl] using hread
  | @digits d ds hd nonzero hds =>
    obtain ⟨n, hn⟩ := readFraction_settled negative (appendDigits maxSignificand 0 (d :: ds)).1
      (appendDigits maxSignificand 0 (d :: ds)).2 hf he
    refine ⟨n, fun rest hrest => ?_⟩
    have hdigits := takeDigits_cons hd hds (hf.noDigit he hrest)
    have hread := hn rest hrest
    rw [List.append_assoc] at hread
    rw [List.append_assoc, List.append_assoc, List.cons_append, readNumber]
    · simpa [hd, hdigits] using hread
    · exact fun h => nonzero h

/-- A numeral is read as its number. -/
theorem readNumber_of_numeral (negative : Bool) (h : Numeral numeral) (hrest : Stops rest) :
    Reads (readNumber negative (numeral ++ rest)) (numberOf? negative numeral) rest := by
  obtain ⟨n, hn⟩ := readNumber_settled negative h
  have hwhole := hn [] stops_nil
  have hnumber : numberOf? negative numeral = n := by
    rw [List.append_nil, Reads] at hwhole
    rw [numberOf?, hwhole, Option.map_map]
    cases n <;> rfl
  rw [hnumber]
  exact hn rest hrest

/-! ### Conversely -/

section Conversely

variable {negative : Bool} {significand left : Nat} {power : Int} {n : Number} {behind : List Char}

theorem rest_of_readDouble (h : readDouble negative significand power behind = .ok (n, rest)) :
    behind = rest := by
  unfold readDouble at h
  split at h
  · cases h
  · exact (Prod.mk.inj (Except.ok.inj h)).2

theorem rest_of_withExponent {down : Bool} {digits : List Char}
    (h : withExponent negative significand power down digits behind = .ok (n, rest)) :
    behind = rest := by
  unfold withExponent at h
  dsimp only at h
  split at h
  · exact rest_of_readDouble h
  · split at h
    · cases h
    · exact (Prod.mk.inj (Except.ok.inj h)).2

/-- The exponent behind its sign, as it is read and as it is passed over. -/
def readBehindSign (negative : Bool) (significand : Nat) (power : Int) (down : Bool)
    (cs : List Char) : Except ReadError (Number × List Char) :=
  match cs with
  | [] => .error (.here .endInValue [])
  | c :: _ =>
    if isDigit c then
      withExponent negative significand power down (takeDigits cs).1 (takeDigits cs).2
    else .error (.next .invalidNumber cs)

def skipBehindSign (cs : List Char) : Except ReadError (List Char) :=
  match cs with
  | c :: _ => if isDigit c then .ok (takeDigits cs).2 else .error (.next .invalidNumber cs)
  | [] => .error (.next .invalidNumber cs)

theorem skipBehindSign_of_read (down : Bool)
    (h : readBehindSign negative significand power down cs = .ok (n, rest)) :
    skipBehindSign cs = .ok rest := by
  cases cs with
  | nil => cases h
  | cons c cs =>
    rw [readBehindSign] at h
    rw [skipBehindSign]
    split at h
    next hc => rw [if_pos hc, rest_of_withExponent h]
    · cases h

/-- An exponent that is read is passed over. -/
theorem skipExponent_of_readExponent
    (h : readExponent negative significand power cs = .ok (n, rest)) :
    skipExponent cs = .ok rest := by
  cases cs with
  | nil => cases h
  | cons c cs =>
    by_cases hplus : c = '+'
    · subst hplus
      exact skipBehindSign_of_read false h
    · by_cases hminus : c = '-'
      · subst hminus
        exact skipBehindSign_of_read true h
      · have hread : readBehindSign negative significand power false (c :: cs) = .ok (n, rest) := by
          simpa [readExponent, hplus, hminus, withExponent, readBehindSign] using h
        simpa [skipExponent, hplus, hminus, skipBehindSign] using skipBehindSign_of_read false hread

theorem skipFraction_of_readFraction
    (h : readFraction negative significand left cs = .ok (n, rest)) :
    skipFraction cs = .ok rest := by
  have hwhole {x : Except ReadError (Number × List Char)} {cs : List Char}
      (hx : x = if left = 0 then .ok (wholeNumber negative significand, cs)
        else readDouble negative significand left cs) (h : x = .ok (n, rest)) : cs = rest := by
    rw [hx] at h
    split at h
    · exact (Prod.mk.inj (Except.ok.inj h)).2
    · exact rest_of_readDouble h
  cases cs with
  | nil => exact congrArg Except.ok (hwhole rfl h)
  | cons c cs =>
    by_cases hdot : c = '.'
    · subst hdot
      simp only [readFraction] at h
      simp only [skipFraction]
      generalize (takeDigits cs).1 = digits at h ⊢
      generalize (takeDigits cs).2 = behind at h ⊢
      cases digits with
      | nil => cases behind <;> cases h
      | cons d ds =>
        rw [List.isEmpty_cons, if_neg (by decide)]
        cases behind with
        | nil => exact congrArg Except.ok (rest_of_readDouble h)
        | cons c cs =>
          dsimp only at h
          by_cases hletter : c = 'e' ∨ c = 'E'
          · rw [if_pos hletter] at h
            rw [skipOptionalExponent, if_pos hletter]
            exact skipExponent_of_readExponent h
          · rw [if_neg hletter] at h
            rw [skipOptionalExponent, if_neg hletter]
            exact congrArg Except.ok (rest_of_readDouble h)
    · have hskip : skipFraction (c :: cs) = skipOptionalExponent (c :: cs) := by
        rw [skipFraction]
        exact fun _ h => hdot (List.cons.inj h).1
      rw [hskip, skipOptionalExponent]
      rw [readFraction] at h
      · by_cases hletter : c = 'e' ∨ c = 'E'
        · rw [if_pos hletter] at h
          rw [if_pos hletter]
          exact skipExponent_of_readExponent h
        · rw [if_neg hletter] at h
          rw [if_neg hletter]
          exact congrArg Except.ok (hwhole rfl h)
      · exact fun h => hdot h

/-- A number that is read is passed over. -/
theorem skipNumber_of_readNumber (h : readNumber negative cs = .ok (n, rest)) :
    skipNumber cs = .ok rest := by
  cases cs with
  | nil => cases h
  | cons c cs =>
    by_cases hzero : c = '0'
    · subst hzero
      cases cs with
      | nil =>
        have hread : readFraction negative 0 0 [] = .ok (n, rest) := h
        exact skipFraction_of_readFraction hread
      | cons c cs =>
        simp only [readNumber] at h
        simp only [skipNumber]
        split at h
        · cases h
        next hc =>
          rw [if_neg hc]
          exact skipFraction_of_readFraction h
    · rw [readNumber] at h
      · rw [skipNumber]
        · split at h
          next hc =>
            rw [if_pos hc]
            exact skipFraction_of_readFraction h
          · cases h
        · exact fun h => hzero h
      · exact fun h => hzero h

theorem exponent_of_skipBehindSign {e : Char} {sign : List Char} (letter : e = 'e' ∨ e = 'E')
    (hsign : Sign sign) (h : skipBehindSign cs = .ok rest) :
    ∃ exponent, Exponent exponent ∧ e :: (sign ++ cs) = exponent ++ rest := by
  cases cs with
  | nil => cases h
  | cons c cs =>
    rw [skipBehindSign] at h
    split at h
    next hc =>
      obtain ⟨hall, hcs⟩ := takeDigits_spec cs
      have hrest : (takeDigits cs).2 = rest := by simpa [takeDigits, hc] using h
      rw [hrest] at hcs
      refine ⟨_, .digits letter hsign hc hall, ?_⟩
      rw [List.cons_append, List.append_assoc, List.cons_append, ← hcs]
    · cases h

theorem exponent_of_skipExponent {e : Char} (letter : e = 'e' ∨ e = 'E')
    (h : skipExponent cs = .ok rest) :
    ∃ exponent, Exponent exponent ∧ e :: cs = exponent ++ rest := by
  cases cs with
  | nil => cases h
  | cons c cs =>
    by_cases hplus : c = '+'
    · subst hplus
      exact exponent_of_skipBehindSign letter .plus h
    · by_cases hminus : c = '-'
      · subst hminus
        exact exponent_of_skipBehindSign letter .minus h
      · have hskip : skipBehindSign (c :: cs) = .ok rest := by
          simpa [skipExponent, hplus, hminus, skipBehindSign] using h
        exact exponent_of_skipBehindSign letter .none hskip

theorem exponent_of_skipOptionalExponent (h : skipOptionalExponent cs = .ok rest) :
    ∃ exponent, Exponent exponent ∧ cs = exponent ++ rest := by
  cases cs with
  | nil => exact ⟨[], .none, Except.ok.inj h⟩
  | cons c cs =>
    rw [skipOptionalExponent] at h
    split at h
    next letter => exact exponent_of_skipExponent letter h
    · exact ⟨[], .none, Except.ok.inj h⟩

theorem fraction_of_skipFraction (h : skipFraction cs = .ok rest) :
    ∃ fraction exponent, Fraction fraction ∧ Exponent exponent ∧
      cs = fraction ++ (exponent ++ rest) := by
  unfold skipFraction at h
  split at h
  next cs =>
    obtain ⟨hall, hcs⟩ := takeDigits_spec cs
    dsimp only at h
    generalize (takeDigits cs).1 = digits at h hall hcs
    cases digits with
    | nil => cases h
    | cons d ds =>
      rw [List.isEmpty_cons, if_neg (by decide)] at h
      obtain ⟨exponent, hexponent, hbehind⟩ := exponent_of_skipOptionalExponent h
      obtain ⟨hd, hds⟩ := List.forall_mem_cons.mp hall
      refine ⟨'.' :: d :: ds, exponent, .digits hd hds, hexponent, ?_⟩
      rw [hcs, hbehind]
      rfl
  · obtain ⟨exponent, hexponent, hcs⟩ := exponent_of_skipOptionalExponent h
    exact ⟨[], exponent, .none, hexponent, hcs⟩

/-- What is passed over as a number is a numeral. -/
theorem numeral_of_skipNumber (h : skipNumber cs = .ok rest) :
    ∃ numeral, Numeral numeral ∧ cs = numeral ++ rest := by
  -- A whole number, and what is passed over behind it.
  have hbehind {whole behind : List Char} (hwhole : Whole whole)
      (h : skipFraction behind = .ok rest) :
      ∃ numeral, Numeral numeral ∧ whole ++ behind = numeral ++ rest := by
    obtain ⟨fraction, exponent, hf, he, rfl⟩ := fraction_of_skipFraction h
    refine ⟨_, .mk hwhole hf he, ?_⟩
    simp only [List.append_assoc]
  cases cs with
  | nil => cases h
  | cons c cs =>
    by_cases hzero : c = '0'
    · subst hzero
      apply hbehind .zero
      cases cs with
      | nil => exact h
      | cons c cs =>
        simp only [skipNumber] at h
        split at h
        · cases h
        · exact h
    · rw [skipNumber] at h
      · split at h
        next hc =>
          obtain ⟨hall, hcs⟩ := takeDigits_spec cs
          have htake : (takeDigits (c :: cs)).2 = (takeDigits cs).2 := by simp [takeDigits, hc]
          rw [htake] at h
          rw [hcs, ← List.cons_append]
          exact hbehind (.digits hc hzero hall) h
        · cases h
      · exact fun h => hzero h

/-- What is read as a number is a numeral. -/
theorem numeral_of_readNumber (h : readNumber negative cs = .ok (n, rest)) :
    ∃ numeral, Numeral numeral ∧ cs = numeral ++ rest :=
  numeral_of_skipNumber (skipNumber_of_readNumber h)

end Conversely

end Skip

end DatabaseResource.Json
