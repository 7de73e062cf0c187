import DatabaseResource.Proofs.Reading

/-!
# Values that nobody keeps are passed over

What a text spells is passed over however deep it is, and whether or not it has a value
(`skipValue_of_spells`). Passing over a value inside of open brackets comes to the text behind it
with the same brackets open; the fuel that this takes is at most twice the characters passed over.
-/

namespace DatabaseResource.Json

variable {part : Part} {d : Doc} {cs mid rest : List Char}
variable {fuel length : Nat} {bracket : Bracket} {brackets : List Bracket}

/-- Passing over a part comes to the rest of the text, with the brackets still open that were open
in front of it. -/
def PassesTo (start : Nat → List Bracket → Except ReadError (List Char)) (length : Nat)
    (rest : List Char) : Prop :=
  ∃ used, used + 2 * rest.length ≤ 2 * length ∧
    ∀ fuel brackets, start (fuel + used) brackets = skipOut fuel brackets rest

theorem PassesTo.of_eq {start start' : Nat → List Bracket → Except ReadError (List Char)}
    {length' : Nat} (h : PassesTo start length rest) (hlength : length ≤ length')
    (heq : ∀ fuel brackets, start' fuel brackets = start fuel brackets) :
    PassesTo start' length' rest := by
  obtain ⟨used, hused, hpass⟩ := h
  refine ⟨used, by omega, fun fuel brackets => ?_⟩
  rw [heq, hpass]

/-- From a value on. -/
def PassesValue (cs rest : List Char) : Prop :=
  PassesTo (fun fuel brackets => skipInto fuel brackets cs) cs.length rest

/-- From an item or a member of an open bracket on, up to where the bracket is closed. -/
def PassesInside (bracket : Bracket) (cs rest : List Char) : Prop :=
  PassesTo (fun fuel brackets => do skipInto fuel (bracket :: brackets) (← skipToValue bracket cs))
    cs.length rest

/-- From what follows an item or a member on, up to where the bracket is closed. -/
def PassesOut (bracket : Bracket) (cs rest : List Char) : Prop :=
  PassesTo (fun fuel brackets => skipOut fuel (bracket :: brackets) cs) cs.length rest

/-! ### White space -/

theorem skipInto_skipSpace : skipInto fuel brackets (skipSpace cs) = skipInto fuel brackets cs := by
  cases fuel with
  | zero => simp only [skipInto]
  | succ fuel => simp only [skipInto, skipSpace_skipSpace]

theorem skipOut_skipSpace : skipOut fuel (bracket :: brackets) (skipSpace cs)
    = skipOut fuel (bracket :: brackets) cs := by
  cases fuel with
  | zero => simp only [skipOut]
  | succ fuel => simp only [skipOut, skipSpace_skipSpace]

theorem skipToValue_skipSpace :
    (do skipInto fuel brackets (← skipToValue bracket (skipSpace cs)))
      = (do skipInto fuel brackets (← skipToValue bracket cs)) := by
  cases bracket with
  | list => exact skipInto_skipSpace
  | object => simp only [skipToValue, skipName, skipSpace_skipSpace]

/-! ### Brackets -/

theorem PassesValue.inside (h : PassesValue cs mid) (hmore : PassesOut bracket mid rest) :
    PassesTo (fun fuel brackets => skipInto fuel (bracket :: brackets) cs) cs.length rest := by
  obtain ⟨used, hused, hpass⟩ := h
  obtain ⟨used', hused', hpass'⟩ := hmore
  refine ⟨used' + used, by omega, fun fuel brackets => ?_⟩
  calc skipInto (fuel + (used' + used)) (bracket :: brackets) cs
      = skipInto (fuel + used' + used) (bracket :: brackets) cs := by rw [Nat.add_assoc]
    _ = skipOut (fuel + used') (bracket :: brackets) mid := hpass (fuel + used') _
    _ = skipOut fuel brackets rest := hpass' fuel brackets

theorem passesOut_closing (h : skipSpace cs = bracket.closing :: rest) :
    PassesOut bracket cs rest := by
  have hlength := length_of_skipSpace h
  refine ⟨1, by omega, fun fuel brackets => ?_⟩
  have hcomma : bracket.closing ≠ ',' := by cases bracket <;> decide
  simp only [skipOut, h, if_neg hcomma, if_true]

theorem passesOut_comma (h : skipSpace cs = ',' :: mid) (hinside : PassesInside bracket mid rest) :
    PassesOut bracket cs rest := by
  have hlength := length_of_skipSpace h
  obtain ⟨used, hused, hpass⟩ := hinside
  refine ⟨used + 1, by omega, fun fuel brackets => ?_⟩
  rw [← Nat.add_assoc, ← hpass fuel brackets]
  simp only [skipOut, h, if_true]

/-- The character that opens a bracket. -/
def Bracket.opening : Bracket → Char
  | list => '['
  | object => '{'

theorem skipInto_opening : skipInto (fuel + 1) brackets (bracket.opening :: cs)
    = skipFirst fuel bracket brackets cs := by
  cases bracket <;> rfl

theorem passesValue_closing (bracket : Bracket) (h : skipSpace cs = bracket.closing :: rest) :
    PassesValue (bracket.opening :: cs) rest := by
  have hlength := length_of_skipSpace h
  refine ⟨2, by rw [List.length_cons]; omega, fun fuel brackets => ?_⟩
  dsimp only
  rw [skipInto_opening]
  simp only [skipFirst, h, if_true]

theorem passesValue_inside (bracket : Bracket) {c : Char} (h : skipSpace cs = c :: mid)
    (hc : c ≠ bracket.closing) (hinside : PassesInside bracket cs rest) :
    PassesValue (bracket.opening :: cs) rest := by
  obtain ⟨used, hused, hpass⟩ := hinside
  refine ⟨used + 2, by rw [List.length_cons]; omega, fun fuel brackets => ?_⟩
  rw [← hpass fuel brackets, ← Nat.add_assoc]
  dsimp only
  rw [skipInto_opening]
  simp only [skipFirst, h, if_neg hc]
  rw [← h, skipToValue_skipSpace]

/-! ### What a text spells -/

/-- How a part is passed over. -/
def Passes : Part → List Char → List Char → Prop
  | .value _, cs, rest => Stops rest → PassesValue cs rest
  | .items [], cs, rest => skipSpace cs = Bracket.closing .list :: rest
  | .items (_ :: _), cs, rest => PassesInside .list cs rest
  | .moreItems _, cs, rest => PassesOut .list cs rest
  | .members [], cs, rest => skipSpace cs = Bracket.closing .object :: rest
  | .members (_ :: _), cs, rest => PassesInside .object cs rest
  | .moreMembers _, cs, rest => PassesOut .object cs rest
  | .named _, cs, rest => ∃ mid, skipSpace cs = ':' :: mid ∧ (Stops rest → PassesValue mid rest)

theorem Passes.space {c : Char} (hc : isSpace c = true) (h : Passes part cs rest) :
    Passes part (c :: cs) rest := by
  have hfront := skipSpace_cons_of_isSpace hc cs
  have hlength : cs.length ≤ (c :: cs).length := Nat.le_succ _
  have hinside {bracket : Bracket} (h : PassesInside bracket cs rest) :
      PassesInside bracket (c :: cs) rest := by
    refine h.of_eq hlength fun fuel brackets => ?_
    rw [← skipToValue_skipSpace, hfront, skipToValue_skipSpace]
  have hout {bracket : Bracket} (h : PassesOut bracket cs rest) :
      PassesOut bracket (c :: cs) rest := by
    refine h.of_eq hlength fun fuel brackets => ?_
    rw [← skipOut_skipSpace, hfront, skipOut_skipSpace]
  cases part with
  | value d =>
    intro hrest
    refine (h hrest).of_eq hlength fun fuel brackets => ?_
    rw [← skipInto_skipSpace, hfront, skipInto_skipSpace]
  | items ds =>
    cases ds with
    | nil => exact hfront.trans h
    | cons d ds => exact hinside h
  | moreItems ds => exact hout h
  | members ms =>
    cases ms with
    | nil => exact hfront.trans h
    | cons m ms => exact hinside h
  | moreMembers ms => exact hout h
  | named d =>
    obtain ⟨mid, hcolon, hvalue⟩ := h
    exact ⟨mid, hfront.trans hcolon, hvalue⟩

/-- A value that is one lexeme. -/
theorem passesValue_lexeme {text : List Char} (hlength : rest.length < text.length)
    (h : ∀ fuel brackets, skipInto (fuel + 1) brackets text = skipOut fuel brackets rest) :
    PassesValue text rest :=
  ⟨1, by omega, h⟩

theorem skipInto_of_isDigit {c : Char} (hc : isDigit c = true) :
    skipInto (fuel + 1) brackets (c :: cs)
      = (do skipOut fuel brackets (← skipNumber (c :: cs))) := by
  have hne := not_other_of_isDigit hc
  rw [skipInto.eq_def, skipSpace_cons (isSpace_of_isDigit hc)]
  simp [hne, hc]

/-- A member: its name, its value, and what follows it. -/
theorem passesInside_member {ps : List Piece} {named behind : List Char}
    (name : Letters cs ps named) (hcolon : skipSpace named = ':' :: mid)
    (hvalue : PassesValue mid behind) (hmore : PassesOut .object behind rest) :
    PassesInside .object ('"' :: cs) rest := by
  have hnamed := name.length_lt
  have hmid := length_of_skipSpace hcolon
  have hlength : mid.length ≤ ('"' :: cs).length := by
    rw [List.length_cons]
    omega
  have hname : skipToValue .object ('"' :: cs) = .ok mid := by
    have hskip : skipToValue .object ('"' :: cs) = (do readColon (← skipString cs)) := rfl
    rw [hskip, skipString_of_letters name]
    exact readColon_of_skipSpace hcolon
  refine (hvalue.inside hmore).of_eq hlength fun fuel brackets => ?_
  rw [hname]
  rfl

/-- What a text spells is passed over. -/
theorem Spells.passes (h : Spells part cs rest) : Passes part cs rest := by
  induction h with
  | space hspace _ ih => exact ih.space hspace
  | wordNull | wordTrue | wordFalse =>
    intro _
    refine passesValue_lexeme ?_ fun fuel brackets => rfl
    simp only [List.length_cons]
    omega
  | number ok =>
    intro hrest
    have hskip := skipNumber_of_numeral ok hrest
    obtain ⟨c, cs, rfl, hc⟩ := ok.exists_eq_cons
    refine passesValue_lexeme (by simp only [List.length_cons, List.length_append]; omega)
      fun fuel brackets => ?_
    rw [List.cons_append, skipInto_of_isDigit hc, ← List.cons_append, hskip]
    rfl
  | @negative numeral rest ok =>
    intro hrest
    refine passesValue_lexeme (by simp only [List.length_cons, List.length_append]; omega)
      fun fuel brackets => ?_
    have hskip : skipInto (fuel + 1) brackets ('-' :: (numeral ++ rest))
      = (do skipOut fuel brackets (← skipNumber (numeral ++ rest))) := rfl
    rw [hskip, skipNumber_of_numeral ok hrest]
    rfl
  | @text cs ps rest letters =>
    intro _
    have hlength := letters.length_lt
    refine passesValue_lexeme (by rw [List.length_cons]; omega) fun fuel brackets => ?_
    have hskip : skipInto (fuel + 1) brackets ('"' :: cs)
      = (do skipOut fuel brackets (← skipString cs)) := rfl
    rw [hskip, skipString_of_letters letters]
    rfl
  | @array cs ds rest items ih =>
    intro _
    cases ds with
    | nil => exact passesValue_closing .list ih
    | cons d ds =>
      obtain ⟨mid, first, -⟩ := Spells.items_cons_iff.mp items
      obtain ⟨c, text, htext, hc, -⟩ := first.exists_front
      exact passesValue_inside .list htext hc ih
  | @object cs ms rest members ih =>
    intro _
    cases ms with
    | nil => exact passesValue_closing .object ih
    | cons m ms =>
      obtain ⟨letters, _, _, _, hquote, -⟩ := Spells.members_cons_iff.mp members
      exact passesValue_inside .object hquote (by decide) ih
  | noItem | noMember => rfl
  | item _ more ihfirst ihmore => exact (ihfirst more.stops_moreItems).inside ihmore
  | lastItem | lastMember => exact passesOut_closing rfl
  | nextItem _ ih | nextMember _ ih => exact passesOut_comma rfl ih
  | member name value more ihvalue ihmore =>
    obtain ⟨mid, hcolon, hvalue⟩ := ihvalue
    exact passesInside_member name hcolon (hvalue more.stops_moreMembers) ihmore
  | named _ ih => exact ⟨_, rfl, ih⟩

/-- A value that nobody keeps is passed over, however deep it is. -/
theorem skipValue_of_spells (h : Spells (.value d) cs rest) (hrest : Stops rest) :
    skipValue cs = .ok rest := by
  obtain ⟨used, hused, hpass⟩ := h.passes hrest
  have hfuel : 2 * cs.length + 2 = (2 * cs.length + 2 - used) + used := by omega
  rw [skipValue, hfuel]
  refine (hpass _ []).trans ?_
  rw [skipOut]

end DatabaseResource.Json
