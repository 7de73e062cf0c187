import DatabaseResource.Proofs.Grammar

/-!
# Strings are read as the grammar says

Reading comes to a value, or to none, in front of a rest (`Reads`). A string in the text is read as
what its pieces are, and passed over whatever they are (`readString_of_letters`,
`skipString_of_letters`). Conversely what is read or passed over is a string
(`letters_of_readString`, `letters_of_skipString`).
-/

namespace DatabaseResource.Json

/-! ### White space -/

theorem skipSpace_cons_of_isSpace {c : Char} (h : isSpace c = true) (cs : List Char) :
    skipSpace (c :: cs) = skipSpace cs := by
  simp [skipSpace, h]

theorem skipSpace_cons {c : Char} (h : isSpace c = false) (cs : List Char) :
    skipSpace (c :: cs) = c :: cs := by
  simp [skipSpace, h]

@[simp] theorem skipSpace_skipSpace (cs : List Char) : skipSpace (skipSpace cs) = skipSpace cs := by
  induction cs with
  | nil => rfl
  | cons c cs ih =>
    cases h : isSpace c with
    | true => rw [skipSpace_cons_of_isSpace h, ih]
    | false => rw [skipSpace_cons h, skipSpace_cons h]

theorem length_skipSpace_le (cs : List Char) : (skipSpace cs).length ≤ cs.length :=
  (List.dropWhile_suffix isSpace).length_le

/-! ### What is read -/

/-- Reading comes to a value and a rest of the text, or fails where there is no value. -/
def Reads {α : Type} (x : Except ReadError (α × List Char)) (a : Option α) (rest : List Char) :
    Prop :=
  x.toOption = a.map fun a => (a, rest)

namespace Reads

variable {α β : Type} {a : α} {b : Option α} {rest mid : List Char}

theorem ok (a : α) (rest : List Char) : Reads (.ok (a, rest)) (some a) rest := rfl

theorem error (e : ReadError) (rest : List Char) :
    Reads (.error e : Except ReadError (α × List Char)) none rest := rfl

theorem eq_ok {x : Except ReadError (α × List Char)} (h : Reads x (some a) rest) :
    x = .ok (a, rest) := by
  cases x with
  | error e => cases h
  | ok p => exact congrArg Except.ok (Option.some.inj h)

/-- What is read is the value. -/
theorem eq_some {x : Except ReadError (α × List Char)} (h : Reads x b rest)
    (hx : x = .ok (a, mid)) : b = some a := by
  subst hx
  cases b with
  | none => cases h
  | some a' => exact congrArg some (Prod.mk.inj (Option.some.inj h)).1.symm

theorem exists_error {x : Except ReadError (α × List Char)} (h : Reads x none rest) :
    ∃ e, x = .error e := by
  cases x with
  | error e => exact ⟨e, rfl⟩
  | ok p => cases h

protected theorem bind {x : Except ReadError (α × List Char)}
    {f : α × List Char → Except ReadError (β × List Char)} {g : α → Option β}
    (hx : Reads x b mid) (hf : ∀ a, b = some a → Reads (f (a, mid)) (g a) rest) :
    Reads (x >>= f) (b.bind g) rest := by
  cases b with
  | none =>
    obtain ⟨e, rfl⟩ := hx.exists_error
    exact .error e rest
  | some a =>
    rw [hx.eq_ok]
    exact hf a rfl

/-- What is made of a value behind reading it. -/
protected theorem map {x : Except ReadError (α × List Char)} (f : α → β) (hx : Reads x b rest) :
    Reads (x >>= fun p => .ok (f p.1, p.2)) (b.map f) rest := by
  rw [Option.map_eq_bind]
  exact hx.bind fun a _ => .ok (f a) rest

end Reads

/-! ### Strings -/

theorem readHex_of_hexNumber {a b c d : Char} {n : Nat} (h : hexNumber? a b c d = some n)
    (cs : List Char) : readHex (a :: b :: c :: d :: cs) = .ok (n, cs) := by
  have hbytes : ¬ Text.byteCount [a, b, c, d] < 4 := by
    have ha := a.utf8Size_pos
    have hb := b.utf8Size_pos
    have hc := c.utf8Size_pos
    have hd := d.utf8Size_pos
    simp only [Text.byteCount_cons, Text.byteCount_nil]
    omega
  simp only [hexNumber?, Option.bind_eq_bind, Option.bind_eq_some_iff, Option.some.injEq] at h
  obtain ⟨ha, hha, hb, hhb, hc, hhc, hd, hhd, rfl⟩ := h
  simp only [readHex, List.take_succ_cons, List.take_zero, hbytes, if_false, hha, hhb, hhc, hhd]

theorem hexNumber_of_readHex {cs rest : List Char} {n : Nat} (h : readHex cs = .ok (n, rest)) :
    ∃ a b c d, cs = a :: b :: c :: d :: rest ∧ hexNumber? a b c d = some n := by
  unfold readHex at h
  split at h
  · cases h
  · split at h
    next a b c d _ _ =>
      split at h
      next ha hb hc hd =>
        cases h
        exact ⟨a, b, c, d, rfl, by simp [hexNumber?, ha, hb, hc, hd]⟩
      next => cases h
    next => cases h

section Escapes

variable {a b c d : Char} {n low : Nat} {cs mid rest : List Char} {ps : List Piece}

theorem readUnicodeEscape_of_single (cs : List Char) (hex : hexNumber? a b c d = some n)
    (hhigh : ¬ IsHigh n) (hlow : ¬ IsLow n) :
    readUnicodeEscape (a :: b :: c :: d :: cs) = .ok (Char.ofNat n, cs) := by
  have hsingle : n < 0xD800 ∨ 0xDBFF < n := by omega
  simp [readUnicodeEscape, readHex_of_hexNumber hex, bind, Except.bind, hlow, hsingle]

theorem readUnicodeEscape_of_pair (cs : List Char) {a' b' c' d' : Char}
    (hex : hexNumber? a b c d = some n) (hhigh : IsHigh n)
    (hex' : hexNumber? a' b' c' d' = some low) (hlow : IsLow low) :
    readUnicodeEscape (a :: b :: c :: d :: '\\' :: 'u' :: a' :: b' :: c' :: d' :: cs)
      = .ok (paired n low, cs) := by
  have hnot : ¬ IsLow n := by omega
  have hsingle : ¬ (n < 0xD800 ∨ 0xDBFF < n) := by omega
  have hpair : ¬ (low < 0xDC00 ∨ 0xDFFF < low) := by omega
  simp [readUnicodeEscape, readHex_of_hexNumber hex, readHex_of_hexNumber hex', bind, Except.bind,
    hnot, hsingle, hpair, paired]

theorem readUnicodeEscape_of_low (cs : List Char) (hex : hexNumber? a b c d = some n)
    (hlow : IsLow n) :
    ∃ e, readUnicodeEscape (a :: b :: c :: d :: cs) = .error e := by
  simp [readUnicodeEscape, readHex_of_hexNumber hex, bind, Except.bind, hlow]

/-- The first half of a pair is refused where the second half does not follow. -/
theorem readUnicodeEscape_of_high (hex : hexNumber? a b c d = some n) (hhigh : IsHigh n)
    (h : Letters cs ps rest) (halone : ∀ low ps', ps = .code low :: ps' → ¬ IsLow low) :
    ∃ e, readUnicodeEscape (a :: b :: c :: d :: cs) = .error e := by
  have hnot : ¬ IsLow n := by omega
  have hsingle : ¬ (n < 0xD800 ∨ 0xDBFF < n) := by omega
  simp only [readUnicodeEscape, readHex_of_hexNumber hex, bind, Except.bind, hnot, hsingle,
    if_false]
  cases h with
  | closing => exact ⟨_, rfl⟩
  | plain _ backslash => simp [backslash]
  | @short e c cs ps _ escape =>
    have hu : e ≠ 'u' := by
      rintro rfl
      simp [shortEscape?] at escape
    simp [hu]
  | @code _ _ _ _ low _ _ _ hex' =>
    have hpair : low < 0xDC00 ∨ 0xDFFF < low := by
      have := halone low _ rfl
      omega
    simp [readHex_of_hexNumber hex', hpair]

end Escapes

section Chars

variable {fuel : Nat} {done : List Char} {c : Char} {cs mid rest : List Char} {ps : List Piece}

theorem readChars_plain (quote : c ≠ '"') (backslash : c ≠ '\\') (control : 0x20 ≤ c.toNat) :
    readChars (fuel + 1) done (c :: cs) = readChars fuel (c :: done) cs := by
  have hcontrol : ¬ c.toNat < 0x20 := by omega
  rw [readChars]
  · rw [if_neg hcontrol]
  · exact fun h => quote h
  · exact fun h => backslash h

theorem readChars_escape (h : readEscape cs = .ok (c, mid)) :
    readChars (fuel + 1) done ('\\' :: cs) = readChars fuel (c :: done) mid := by
  simp only [readChars, h]

theorem readChars_escape_error {e : ReadError} (h : readEscape cs = .error e) :
    readChars (fuel + 1) done ('\\' :: cs) = .error e := by
  simp only [readChars, h]

theorem readEscape_short {e : Char} (h : shortEscape? e = some c) :
    readEscape (e :: cs) = .ok (c, cs) := by
  have hu : e ≠ 'u' := by
    rintro rfl
    simp [shortEscape?] at h
  rw [readEscape]
  · rw [h]
  · exact fun hu' => hu hu'

/-- What is read behind a character, and what is read with it. -/
theorem Reads.char_in_front {x : Except ReadError (List Char × List Char)}
    (h : Reads x ((decode? ps).map ((c :: done).reverse ++ ·)) rest) :
    Reads x (((decode? ps).map (c :: ·)).map (done.reverse ++ ·)) rest := by
  have hsame : ((decode? ps).map (c :: ·)).map (done.reverse ++ ·)
      = (decode? ps).map ((c :: done).reverse ++ ·) := by
    rw [Option.map_map]
    congr 1
    funext s
    simp
  rwa [hsame]

/-- A string is read as what its pieces are. -/
theorem readChars_of_letters (done : List Char) (h : Letters cs ps rest)
    (hfuel : cs.length < fuel) :
    Reads (readChars fuel done cs) ((decode? ps).map (done.reverse ++ ·)) rest := by
  induction fuel generalizing done cs ps with
  | zero => omega
  | succ fuel ih =>
    cases h with
    | closing => simp [readChars, decode?, Reads, Except.toOption]
    | plain quote backslash control more =>
      rw [readChars_plain quote backslash control]
      exact (ih _ more (by simpa using hfuel)).char_in_front
    | short escape more =>
      rw [readChars_escape (readEscape_short escape)]
      exact (ih _ more (by simp at hfuel; omega)).char_in_front
    | @code a b c d n cs ps _ hex more =>
      have hcs : cs.length < fuel := by
        simp at hfuel
        omega
      by_cases hhigh : IsHigh n
      · by_cases hpair : ∃ low ps', ps = .code low :: ps' ∧ IsLow low
        · obtain ⟨low, ps', rfl, hlow⟩ := hpair
          cases more with
          | @code _ _ _ _ _ cs _ _ hex' more =>
            have hread := readUnicodeEscape_of_pair cs hex hhigh hex' hlow
            rw [readChars_escape (show readEscape ('u' :: _) = _ from hread),
              decode?_pair hhigh hlow]
            exact (ih _ more (by simp at hcs; omega)).char_in_front
        · have halone : ∀ low ps', ps = .code low :: ps' → ¬ IsLow low :=
            fun low ps' hps hlow => hpair ⟨low, ps', hps, hlow⟩
          obtain ⟨e, hread⟩ := readUnicodeEscape_of_high hex hhigh more halone
          rw [readChars_escape_error (show readEscape ('u' :: _) = _ from hread),
            decode?_high hhigh halone]
          exact .error e rest
      · by_cases hlow : IsLow n
        · obtain ⟨e, hread⟩ := readUnicodeEscape_of_low cs hex hlow
          rw [readChars_escape_error (show readEscape ('u' :: _) = _ from hread),
            decode?_low hlow]
          exact .error e rest
        · have hread := readUnicodeEscape_of_single cs hex hhigh hlow
          rw [readChars_escape (show readEscape ('u' :: _) = _ from hread),
            decode?_single hhigh hlow]
          exact (ih _ more hcs).char_in_front

theorem readString_of_letters (h : Letters cs ps rest) :
    Reads (readString cs) (textOf? ps) rest := by
  have hread := readChars_of_letters [] h (Nat.lt_succ_self _)
  unfold readString textOf?
  cases hdecode : decode? ps with
  | none =>
    rw [hdecode] at hread
    obtain ⟨e, he⟩ := hread.exists_error
    rw [he]
    exact .error e rest
  | some s =>
    rw [hdecode] at hread
    rw [hread.eq_ok]
    exact .ok _ rest

/-- A string is passed over whatever its pieces are. -/
theorem skipChars_of_letters (h : Letters cs ps rest) (hfuel : cs.length < fuel) :
    skipChars fuel cs = .ok rest := by
  induction h generalizing fuel with
  | closing =>
    obtain ⟨fuel, rfl⟩ := Nat.exists_eq_add_one_of_ne_zero (show fuel ≠ 0 by omega)
    rfl
  | @plain c cs ps _ quote backslash control _ ih =>
    obtain ⟨fuel, rfl⟩ := Nat.exists_eq_add_one_of_ne_zero (show fuel ≠ 0 by omega)
    have hcontrol : ¬ c.toNat < 0x20 := by omega
    rw [skipChars]
    · rw [if_neg hcontrol]
      exact ih (by simpa using hfuel)
    · exact fun h => quote h
    · exact fun h => backslash h
  | @short e c cs ps _ escape _ ih =>
    obtain ⟨fuel, rfl⟩ := Nat.exists_eq_add_one_of_ne_zero (show fuel ≠ 0 by omega)
    have hu : e ≠ 'u' := by
      rintro rfl
      simp [shortEscape?] at escape
    have hskip : skipEscape (e :: cs) = .ok cs := by
      rw [skipEscape]
      · rw [escape]
      · exact fun hu' => hu hu'
    simp only [skipChars, hskip]
    exact ih (by simp at hfuel; omega)
  | @code a b c d n cs ps _ hex _ ih =>
    obtain ⟨fuel, rfl⟩ := Nat.exists_eq_add_one_of_ne_zero (show fuel ≠ 0 by omega)
    have hskip : skipEscape ('u' :: a :: b :: c :: d :: cs) = .ok cs := by
      simp only [skipEscape, readHex_of_hexNumber hex]
      rfl
    simp only [skipChars, hskip]
    exact ih (by simp at hfuel; omega)

theorem skipString_of_letters (h : Letters cs ps rest) : skipString cs = .ok rest :=
  skipChars_of_letters h (Nat.lt_succ_self _)

/-! ### Conversely -/

theorem letters_of_readUnicodeEscape (h : readUnicodeEscape cs = .ok (c, mid))
    (more : Letters mid ps rest) : ∃ ps', Letters ('\\' :: 'u' :: cs) ps' rest := by
  simp only [readUnicodeEscape, bind, Except.bind] at h
  cases hhigh : readHex cs with
  | error e =>
    rw [hhigh] at h
    cases h
  | ok first =>
    obtain ⟨high, behind⟩ := first
    obtain ⟨a, b, c, d, rfl, hex⟩ := hexNumber_of_readHex hhigh
    rw [hhigh] at h
    dsimp only at h
    split at h
    · cases h
    · split at h
      · cases h
        exact ⟨_, .code hex more⟩
      · split at h
        · cases h
        · cases h
        next cs =>
          cases hlow : readHex cs with
          | error e =>
            rw [hlow] at h
            cases h
          | ok second =>
            obtain ⟨low, behind⟩ := second
            obtain ⟨a', b', c', d', rfl, hex'⟩ := hexNumber_of_readHex hlow
            rw [hlow] at h
            dsimp only at h
            split at h
            · cases h
            · obtain ⟨-, rfl⟩ := Prod.mk.inj (Except.ok.inj h)
              exact ⟨_, .code hex (.code hex' more)⟩
        · cases h
        · cases h

theorem letters_of_readEscape (h : readEscape cs = .ok (c, mid)) (more : Letters mid ps rest) :
    ∃ ps', Letters ('\\' :: cs) ps' rest := by
  unfold readEscape at h
  split at h
  · cases h
  · exact letters_of_readUnicodeEscape h more
  · split at h
    next escape =>
      cases h
      exact ⟨_, .short escape more⟩
    · cases h

theorem letters_of_readChars {s : List Char} (h : readChars fuel done cs = .ok (s, rest)) :
    ∃ ps, Letters cs ps rest := by
  induction fuel generalizing done cs with
  | zero => simp [readChars] at h
  | succ fuel ih =>
    cases cs with
    | nil => simp [readChars] at h
    | cons c cs =>
      by_cases quote : c = '"'
      · subst quote
        obtain ⟨-, rfl⟩ : done.reverse = s ∧ cs = rest := by simpa [readChars] using h
        exact ⟨_, .closing⟩
      · by_cases backslash : c = '\\'
        · subst backslash
          cases hescape : readEscape cs with
          | error e =>
            rw [readChars_escape_error hescape] at h
            cases h
          | ok escaped =>
            rw [readChars_escape hescape] at h
            obtain ⟨ps, more⟩ := ih h
            exact letters_of_readEscape hescape more
        · by_cases control : 0x20 ≤ c.toNat
          · rw [readChars_plain quote backslash control] at h
            obtain ⟨ps, more⟩ := ih h
            exact ⟨_, .plain quote backslash control more⟩
          · have hcontrol : c.toNat < 0x20 := by omega
            simp [readChars, hcontrol] at h

theorem letters_of_readString {s : String} (h : readString cs = .ok (s, rest)) :
    ∃ ps, Letters cs ps rest := by
  unfold readString at h
  cases hread : readChars (cs.length + 1) [] cs with
  | error e =>
    rw [hread] at h
    cases h
  | ok p =>
    rw [hread] at h
    cases h
    exact letters_of_readChars hread

theorem letters_of_skipEscape (h : skipEscape cs = .ok mid) (more : Letters mid ps rest) :
    ∃ ps', Letters ('\\' :: cs) ps' rest := by
  unfold skipEscape at h
  split at h
  · cases h
  next cs =>
    cases hread : readHex cs with
    | error e =>
      rw [hread] at h
      cases h
    | ok p =>
      obtain ⟨n, behind⟩ := p
      obtain ⟨a, b, c, d, rfl, hex⟩ := hexNumber_of_readHex hread
      rw [hread] at h
      cases h
      exact ⟨_, .code hex more⟩
  · split at h
    next escape =>
      cases h
      exact ⟨_, .short escape more⟩
    · cases h

theorem letters_of_skipChars (h : skipChars fuel cs = .ok rest) : ∃ ps, Letters cs ps rest := by
  induction fuel generalizing cs with
  | zero => simp [skipChars] at h
  | succ fuel ih =>
    cases cs with
    | nil => simp [skipChars] at h
    | cons c cs =>
      by_cases quote : c = '"'
      · subst quote
        obtain rfl : cs = rest := by simpa [skipChars] using h
        exact ⟨_, .closing⟩
      · by_cases backslash : c = '\\'
        · subst backslash
          simp only [skipChars] at h
          cases hescape : skipEscape cs with
          | error e =>
            rw [hescape] at h
            cases h
          | ok mid =>
            rw [hescape] at h
            obtain ⟨ps, more⟩ := ih h
            exact letters_of_skipEscape hescape more
        · by_cases control : 0x20 ≤ c.toNat
          · have hcontrol : ¬ c.toNat < 0x20 := by omega
            obtain ⟨ps, more⟩ : ∃ ps, Letters cs ps rest := by
              apply ih
              simpa [skipChars, hcontrol] using h
            exact ⟨_, .plain quote backslash control more⟩
          · have hcontrol : c.toNat < 0x20 := by omega
            simp [skipChars, hcontrol] at h

theorem letters_of_skipString (h : skipString cs = .ok rest) : ∃ ps, Letters cs ps rest :=
  letters_of_skipChars h

end Chars

end DatabaseResource.Json
