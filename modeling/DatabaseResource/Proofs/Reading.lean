import DatabaseResource.Proofs.Numerals

/-!
# Values are read as the grammar says

What a text spells is read as its value, within the levels that a reader has
(`readValue_of_spells`). Lists and objects are read part by part: where each part is read as a step
says, the whole is read as the steps one after another (`readList_of_spells`,
`readObject_of_spells`).
-/

namespace DatabaseResource.Json

variable {part : Part} {d : Doc} {ds : List Doc} {m : Option String × Doc}
variable {ms : List (Option String × Doc)} {cs mid rest : List Char}

/-! ### The front of a text -/

theorem skipSpace_ne_cons {c : Char} (hc : isSpace c = true) : skipSpace cs ≠ c :: rest := by
  induction cs with
  | nil => exact nofun
  | cons c' cs ih =>
    cases hc' : isSpace c' with
    | true => rwa [skipSpace_cons_of_isSpace hc']
    | false =>
      rw [skipSpace_cons hc']
      rintro ⟨⟩
      rw [hc'] at hc
      cases hc

theorem length_of_skipSpace {c : Char} (h : skipSpace cs = c :: mid) : mid.length < cs.length := by
  have hle := length_skipSpace_le cs
  rw [h, List.length_cons] at hle
  omega

theorem isSpace_of_isDigit {c : Char} (h : isDigit c = true) : isSpace c = false := by
  have hspace : c ≠ ' ' := ne_of_isDigit h (by decide)
  have hline : c ≠ '\n' := ne_of_isDigit h (by decide)
  have htab : c ≠ '\t' := ne_of_isDigit h (by decide)
  have hreturn : c ≠ '\r' := ne_of_isDigit h (by decide)
  simp [isSpace, hspace, hline, htab, hreturn]

theorem stops_space {c : Char} (h : isSpace c = true) (cs : List Char) : Stops (c :: cs) := by
  have hc : ((c = ' ' ∨ c = '\n') ∨ c = '\t') ∨ c = '\r' := by simpa [isSpace] using h
  rcases hc with ((rfl | rfl) | rfl) | rfl <;> exact stops_cons (by decide) cs

/-- White space, or nothing, stops a number. -/
theorem stops_of_skipSpace_eq_nil (h : skipSpace rest = []) : Stops rest := by
  cases rest with
  | nil => exact stops_nil
  | cons c cs =>
    cases hc : isSpace c with
    | true => exact stops_space hc cs
    | false =>
      rw [skipSpace_cons hc] at h
      cases h

theorem Numeral.exists_eq_cons {numeral : List Char} (h : Numeral numeral) :
    ∃ c cs, numeral = c :: cs ∧ isDigit c = true := by
  obtain ⟨hw, -, -⟩ := h
  cases hw with
  | zero => exact ⟨'0', _, rfl, by decide⟩
  | digits first => exact ⟨_, _, rfl, first⟩

theorem Letters.length_lt {ps : List Piece} (h : Letters cs ps rest) : rest.length < cs.length := by
  induction h with
  | closing => simp
  | plain _ _ _ _ ih | short _ _ ih | code _ _ ih =>
    simp only [List.length_cons]
    omega

namespace Spells

/-- White space in front does not matter. -/
theorem front (h : Spells part cs rest) : Spells part (skipSpace cs) rest := by
  induction h with
  | space hspace _ ih => rwa [skipSpace_cons_of_isSpace hspace]
  | number ok =>
    obtain ⟨c, cs, hnumeral, hc⟩ := ok.exists_eq_cons
    rw [hnumeral, List.cons_append, skipSpace_cons (isSpace_of_isDigit hc), ← List.cons_append,
      ← hnumeral]
    exact .number ok
  | item _ more ih _ => exact .item ih more
  | wordNull => exact .wordNull
  | wordTrue => exact .wordTrue
  | wordFalse => exact .wordFalse
  | negative ok => exact .negative ok
  | text letters => exact .text letters
  | array items => exact .array items
  | object members => exact .object members
  | noItem => exact .noItem
  | lastItem => exact .lastItem
  | nextItem next => exact .nextItem next
  | noMember => exact .noMember
  | member name value more => exact .member name value more
  | lastMember => exact .lastMember
  | nextMember next => exact .nextMember next
  | named value => exact .named value

theorem of_front (h : Spells part (skipSpace cs) rest) : Spells part cs rest := by
  induction cs with
  | nil => exact h
  | cons c cs ih =>
    cases hc : isSpace c with
    | true =>
      rw [skipSpace_cons_of_isSpace hc] at h
      exact .space hc (ih h)
    | false => rwa [skipSpace_cons hc] at h

/-- Every part takes some of the text. -/
theorem length_lt (h : Spells part cs rest) : rest.length < cs.length := by
  induction h with
  | number ok =>
    obtain ⟨c, cs, rfl, -⟩ := ok.exists_eq_cons
    simp only [List.length_append, List.length_cons]
    omega
  | text letters =>
    have := letters.length_lt
    simp only [List.length_cons]
    omega
  | member name _ _ ihvalue ihmore =>
    have := name.length_lt
    simp only [List.length_cons]
    omega
  | item _ _ ihfirst ihmore => omega
  | _ =>
    simp only [List.length_cons, List.length_append] at *
    omega

end Spells

/-! ### What the parts of lists and objects consist of -/

/-- The character that a part begins with, if the part is told by it, and the part behind it. -/
def Part.token? : Part → Option (Char × Option Part)
  | items [] | moreItems [] => some (']', none)
  | members [] | moreMembers [] => some ('}', none)
  | moreItems (d :: ds) => some (',', some (items (d :: ds)))
  | moreMembers (m :: ms) => some (',', some (members (m :: ms)))
  | named d => some (':', some (value d))
  | _ => none

namespace Spells

/-- A text begins with a part that is told by its character if it begins with that character, and
behind it with the part that follows. -/
theorem token_iff {c : Char} {next : Option Part} (h : part.token? = some (c, next)) :
    Spells part cs rest ↔
      ∃ mid, skipSpace cs = c :: mid ∧ next.elim (mid = rest) (Spells · mid rest) := by
  constructor
  · intro hspells
    have hfront := hspells.front
    generalize htext : skipSpace cs = text at hfront
    cases hfront with
    | space hspace => exact absurd htext (skipSpace_ne_cons hspace)
    | noItem | lastItem | noMember | lastMember =>
      cases h
      exact ⟨_, rfl, rfl⟩
    | nextItem next | nextMember next | named next =>
      cases h
      exact ⟨_, rfl, next⟩
    | _ => cases h
  · rintro ⟨mid, htext, hnext⟩
    apply of_front
    rw [htext]
    unfold Part.token? at h
    split at h <;> cases h
    · exact hnext ▸ .noItem
    · exact hnext ▸ .lastItem
    · exact hnext ▸ .noMember
    · exact hnext ▸ .lastMember
    · exact .nextItem hnext
    · exact .nextMember hnext
    · exact .named hnext

theorem items_nil_iff : Spells (.items []) cs rest ↔ skipSpace cs = ']' :: rest :=
  (token_iff rfl).trans (by simp)

theorem moreItems_nil_iff : Spells (.moreItems []) cs rest ↔ skipSpace cs = ']' :: rest :=
  (token_iff rfl).trans (by simp)

theorem members_nil_iff : Spells (.members []) cs rest ↔ skipSpace cs = '}' :: rest :=
  (token_iff rfl).trans (by simp)

theorem moreMembers_nil_iff : Spells (.moreMembers []) cs rest ↔ skipSpace cs = '}' :: rest :=
  (token_iff rfl).trans (by simp)

theorem moreItems_cons_iff : Spells (.moreItems (d :: ds)) cs rest ↔
    ∃ mid, skipSpace cs = ',' :: mid ∧ Spells (.items (d :: ds)) mid rest :=
  (token_iff rfl).trans .rfl

theorem moreMembers_cons_iff : Spells (.moreMembers (m :: ms)) cs rest ↔
    ∃ mid, skipSpace cs = ',' :: mid ∧ Spells (.members (m :: ms)) mid rest :=
  (token_iff rfl).trans .rfl

theorem named_iff : Spells (.named d) cs rest ↔
    ∃ mid, skipSpace cs = ':' :: mid ∧ Spells (.value d) mid rest :=
  (token_iff rfl).trans .rfl

/-- An item, and what follows it. -/
theorem items_cons_iff : Spells (.items (d :: ds)) cs rest ↔
    ∃ mid, Spells (.value d) cs mid ∧ Spells (.moreItems ds) mid rest := by
  constructor
  · intro h
    have hfront := h.front
    generalize htext : skipSpace cs = text at hfront
    cases hfront with
    | space hspace => exact absurd htext (skipSpace_ne_cons hspace)
    | item first more => exact ⟨_, of_front (htext ▸ first), more⟩
  · rintro ⟨mid, first, more⟩
    exact .item first more

/-- The name of a member, its value, and what follows it. -/
theorem members_cons_iff : Spells (.members (m :: ms)) cs rest ↔
    ∃ letters ps mid behind, skipSpace cs = '"' :: letters ∧ Letters letters ps mid ∧
      m.1 = textOf? ps ∧ Spells (.named m.2) mid behind ∧ Spells (.moreMembers ms) behind rest := by
  constructor
  · intro h
    have hfront := h.front
    generalize htext : skipSpace cs = text at hfront
    cases hfront with
    | space hspace => exact absurd htext (skipSpace_ne_cons hspace)
    | member name value more => exact ⟨_, _, _, _, rfl, name, rfl, value, more⟩
  · rintro ⟨letters, ps, mid, behind, hquote, name, hname, value, more⟩
    obtain ⟨name?, d⟩ := m
    obtain rfl : name? = textOf? ps := hname
    exact of_front (hquote ▸ .member name value more)

/-- What follows an item of a list stops a number. -/
theorem stops_moreItems (h : Spells (.moreItems ds) cs rest) : Stops cs := by
  cases h with
  | space hspace => exact stops_space hspace _
  | lastItem | nextItem => exact stops_cons (by decide) _

/-- What follows a member of an object stops a number. -/
theorem stops_moreMembers (h : Spells (.moreMembers ms) cs rest) : Stops cs := by
  cases h with
  | space hspace => exact stops_space hspace _
  | lastMember | nextMember => exact stops_cons (by decide) _

/-- A value does not begin with a closing bracket. -/
theorem exists_front (h : Spells (.value d) cs rest) :
    ∃ c text, skipSpace cs = c :: text ∧ c ≠ ']' ∧ c ≠ '}' := by
  have hfront := h.front
  generalize htext : skipSpace cs = text at hfront
  cases hfront with
  | space hspace => exact absurd htext (skipSpace_ne_cons hspace)
  | number ok =>
    obtain ⟨c, cs, rfl, hc⟩ := ok.exists_eq_cons
    exact ⟨c, _, rfl, ne_of_isDigit hc (by decide), ne_of_isDigit hc (by decide)⟩
  | _ => exact ⟨_, _, rfl, by decide, by decide⟩

end Spells

/-! ### Lists and objects -/

section Parts

variable {σ : Type} {fuel : Nat}

/-- Each item of a list is read as a step says. -/
def ItemReads (item : σ → List Char → Except ReadError (σ × List Char))
    (step : σ → Doc → Option σ) : Prop :=
  ∀ s {d cs rest}, Spells (.value d) cs rest → Stops rest → Reads (item s cs) (step s d) rest

/-- Each member of an object is read, behind its name, as a step says. -/
def MemberReads (member : σ → String → List Char → Except ReadError (σ × List Char))
    (step : σ → String → Doc → Option σ) : Prop :=
  ∀ s name {d cs rest}, Spells (.named d) cs rest → Stops rest →
    Reads (member s name cs) (step s name d) rest

/-- The step of a member, if its name is a string. -/
def withName (step : σ → String → Doc → Option σ) (s : σ) (m : Option String × Doc) : Option σ := do
  let name ← m.1
  step s name m.2

variable {item : σ → List Char → Except ReadError (σ × List Char)} {step : σ → Doc → Option σ}

theorem foldItems_comma (hcomma : skipSpace cs = ',' :: mid) (h : Spells (.value d) mid rest)
    (s : σ) : foldItems item (fuel + 1) s cs = (do
      let (s, cs) ← item s (skipSpace mid)
      foldItems item fuel s cs) := by
  obtain ⟨c, text, htext, hlist, -⟩ := h.exists_front
  simp only [foldItems, hcomma, htext]
  split
  next heq => cases heq
  next heq => exact absurd (List.cons.inj heq).1 hlist
  · rfl

theorem foldItems_of_spells (hitem : ItemReads item step) (h : Spells (.moreItems ds) cs rest)
    (hfuel : cs.length < fuel) (s : σ) :
    Reads (foldItems item fuel s cs) (ds.foldlM step s) rest := by
  induction ds generalizing fuel s cs with
  | nil =>
    obtain ⟨fuel, rfl⟩ := Nat.exists_eq_add_one_of_ne_zero (show fuel ≠ 0 by omega)
    simp only [foldItems, Spells.moreItems_nil_iff.mp h]
    exact .ok s rest
  | cons d ds ih =>
    obtain ⟨fuel, rfl⟩ := Nat.exists_eq_add_one_of_ne_zero (show fuel ≠ 0 by omega)
    obtain ⟨mid, hcomma, items⟩ := Spells.moreItems_cons_iff.mp h
    obtain ⟨behind, first, more⟩ := Spells.items_cons_iff.mp items
    have hmid := length_of_skipSpace hcomma
    have hbehind := first.length_lt
    rw [foldItems_comma hcomma first, List.foldlM_cons]
    exact (hitem s first.front more.stops_moreItems).bind fun s' _ => ih more (by omega) s'

/-- A list is read as the steps of its items, one after another. -/
theorem readList_of_spells (hitem : ItemReads item step) (h : Spells (.items ds) cs rest) (s : σ) :
    Reads (readList item s cs) (ds.foldlM step s) rest := by
  cases ds with
  | nil =>
    simp only [readList, Spells.items_nil_iff.mp h]
    exact .ok s rest
  | cons d ds =>
    obtain ⟨mid, first, more⟩ := Spells.items_cons_iff.mp h
    have hread : readList item s cs = (do
        let (s, cs) ← item s (skipSpace cs)
        foldItems item (cs.length + 1) s cs) := by
      obtain ⟨c, text, htext, hlist, -⟩ := first.exists_front
      simp only [readList, htext]
      split
      next heq => cases heq
      next heq => exact absurd (List.cons.inj heq).1 hlist
      · rfl
    rw [hread, List.foldlM_cons]
    exact (hitem s first.front more.stops_moreItems).bind fun s' _ =>
      foldItems_of_spells hitem more (Nat.lt_succ_self _) s'

variable {member : σ → String → List Char → Except ReadError (σ × List Char)}
variable {memberStep : σ → String → Doc → Option σ}

theorem readMember_of_spells (hmember : MemberReads member memberStep) {ps : List Piece}
    (name : Letters cs ps mid) (value : Spells (.named d) mid rest) (hrest : Stops rest) (s : σ) :
    Reads (readMember member s cs) (withName memberStep s (textOf? ps, d)) rest :=
  (readString_of_letters name).bind fun name _ => hmember s name value hrest

theorem foldMembers_of_spells (hmember : MemberReads member memberStep)
    (h : Spells (.moreMembers ms) cs rest) (hfuel : cs.length < fuel) (s : σ) :
    Reads (foldMembers member fuel s cs) (ms.foldlM (withName memberStep) s) rest := by
  induction ms generalizing fuel s cs with
  | nil =>
    obtain ⟨fuel, rfl⟩ := Nat.exists_eq_add_one_of_ne_zero (show fuel ≠ 0 by omega)
    simp only [foldMembers, Spells.moreMembers_nil_iff.mp h]
    exact .ok s rest
  | cons m ms ih =>
    obtain ⟨fuel, rfl⟩ := Nat.exists_eq_add_one_of_ne_zero (show fuel ≠ 0 by omega)
    obtain ⟨name?, d⟩ := m
    obtain ⟨mid, hcomma, members⟩ := Spells.moreMembers_cons_iff.mp h
    obtain ⟨letters, ps, named, behind, hquote, name, rfl, value, more⟩ :=
      Spells.members_cons_iff.mp members
    have hmid := length_of_skipSpace hcomma
    have hletters := length_of_skipSpace hquote
    have hnamed := name.length_lt
    have hbehind := value.length_lt
    simp only [foldMembers, hcomma, hquote, List.foldlM_cons]
    exact (readMember_of_spells hmember name value more.stops_moreMembers s).bind fun s' _ =>
      ih more (by omega) s'

/-- An object is read as the steps of its members, one after another. -/
theorem readObject_of_spells (hmember : MemberReads member memberStep)
    (h : Spells (.members ms) cs rest) (s : σ) :
    Reads (readObject member s cs) (ms.foldlM (withName memberStep) s) rest := by
  cases ms with
  | nil =>
    simp only [readObject, Spells.members_nil_iff.mp h]
    exact .ok s rest
  | cons m ms =>
    obtain ⟨name?, d⟩ := m
    obtain ⟨letters, ps, named, behind, hquote, name, rfl, value, more⟩ :=
      Spells.members_cons_iff.mp h
    simp only [readObject, hquote, List.foldlM_cons]
    exact (readMember_of_spells hmember name value more.stops_moreMembers s).bind fun s' _ =>
      foldMembers_of_spells hmember more (Nat.lt_succ_self _) s'

end Parts

/-! ### Values -/

section Values

variable {levels : Nat} {c : Char} {text : List Char}

theorem readColon_of_skipSpace (h : skipSpace cs = ':' :: mid) : readColon cs = .ok mid := by
  simp only [readColon, h]

theorem readValue_of_isDigit (hc : isDigit c = true) (h : skipSpace cs = c :: text) :
    readValue levels cs = (do
      let (n, cs) ← readNumber false (c :: text)
      .ok (.number n, cs)) := by
  have hne := not_other_of_isDigit hc
  rw [readValue.eq_def, h]
  simp [hne, hc]

theorem foldlM_cons_eq_mapM (f : Doc → Option Value) (ds : List Doc) (vs : List Value) :
    (ds.foldlM (fun vs d => (f d).map (· :: vs)) vs).map List.reverse
      = (ds.mapM f).map (vs.reverse ++ ·) := by
  induction ds generalizing vs with
  | nil => simp
  | cons d ds ih =>
    rw [List.foldlM_cons, List.mapM_cons]
    cases f d with
    | none => rfl
    | some v =>
      simp only [Option.map_some, Option.bind_eq_bind, Option.bind_some, ih]
      cases ds.mapM f <;> simp

/-- The items of an array from the last one on, as they are read. -/
theorem valueIn?_array (levels : Nat) (ds : List Doc) : (Doc.array ds).valueIn? (levels + 1)
    = (ds.foldlM (fun vs d => (Doc.valueIn? levels d).map (· :: vs)) []).map
        fun vs => .array vs.reverse := by
  have hitems := foldlM_cons_eq_mapM (Doc.valueIn? levels) ds []
  have hreverse :
      (fun vs : List Value => Value.array vs.reverse) = Value.array ∘ List.reverse := rfl
  rw [Doc.valueIn?, hreverse, ← Option.map_map, hitems]
  simp

theorem valueIn?_object (levels : Nat) (ms : List (Option String × Doc)) :
    (Doc.object ms).valueIn? (levels + 1)
    = (ms.foldlM (withName fun values name d => (Doc.valueIn? levels d).map (put values name))
        []).map .object := by
  rw [Doc.valueIn?]
  congr 2
  funext values m
  simp only [withName, Option.map_eq_bind]
  rfl

/-- What a text spells is read as its value. -/
theorem readValue_of_spells (h : Spells (.value d) cs rest) (hrest : Stops rest) :
    Reads (readValue levels cs) (d.valueIn? levels) rest := by
  induction levels using Nat.strongRecOn generalizing d cs rest with
  | ind levels ih =>
    have hfront := h.front
    generalize htext : skipSpace cs = text at hfront
    cases hfront with
    | space hspace => exact absurd htext (skipSpace_ne_cons hspace)
    | wordNull | wordTrue | wordFalse =>
      rw [readValue.eq_def, Doc.valueIn?, htext]
      exact .ok _ rest
    | number ok =>
      have hread := readNumber_of_numeral false ok hrest
      obtain ⟨c, cs, hnumeral, hc⟩ := ok.exists_eq_cons
      rw [hnumeral, List.cons_append] at htext
      rw [readValue_of_isDigit hc htext, Doc.valueIn?, ← List.cons_append, ← hnumeral]
      exact hread.map Value.number
    | negative ok =>
      rw [readValue.eq_def, Doc.valueIn?, htext]
      exact (readNumber_of_numeral true ok hrest).map Value.number
    | text letters =>
      rw [readValue.eq_def, Doc.valueIn?, htext]
      exact (readString_of_letters letters).map Value.text
    | array items =>
      cases levels with
      | zero =>
        rw [readValue.eq_def, Doc.valueIn?.eq_def, htext]
        exact .error _ rest
      | succ levels =>
        have hitem : ItemReads (fun vs cs => readValue levels cs >>= fun p => .ok (p.1 :: vs, p.2))
            (fun vs d => (d.valueIn? levels).map (· :: vs)) := by
          intro vs d cs rest value hstops
          exact (ih levels (Nat.lt_succ_self _) value hstops).map (· :: vs)
        rw [readValue.eq_def, htext, valueIn?_array]
        exact (readList_of_spells hitem items []).map fun vs => Value.array vs.reverse
    | object members =>
      cases levels with
      | zero =>
        rw [readValue.eq_def, Doc.valueIn?.eq_def, htext]
        exact .error _ rest
      | succ levels =>
        have hmember : MemberReads (fun values name cs => readColon cs >>= fun cs =>
              readValue levels cs >>= fun p => .ok (put values name p.1, p.2))
            (fun values name d => (d.valueIn? levels).map (put values name)) := by
          intro values name d cs rest named hstops
          obtain ⟨mid, hcolon, value⟩ := Spells.named_iff.mp named
          dsimp only
          rw [readColon_of_skipSpace hcolon]
          exact (ih levels (Nat.lt_succ_self _) value hstops).map (put values name)
        rw [readValue.eq_def, htext, valueIn?_object]
        exact (readObject_of_spells hmember members []).map Value.object

/-- What is read up to the end of a text is its value. -/
theorem Reads.at_end {α : Type} {x : Except ReadError (α × List Char)} {a : Option α}
    (h : Reads x a rest) (hrest : skipSpace rest = []) :
    (x >>= fun p => readEnd p.2 >>= fun _ => .ok p.1).toOption = a := by
  cases a with
  | none =>
    obtain ⟨e, rfl⟩ := h.exists_error
    rfl
  | some a =>
    rw [h.eq_ok]
    simp only [bind, Except.bind, readEnd, hrest]
    rfl

/-- A whole text is read as the value of what it denotes. -/
theorem toOption_read_of_denotes {text : String} (h : Denotes text d) :
    (read text).toOption = d.valueIn? maxLevels := by
  obtain ⟨rest, hspells, hrest⟩ := h
  exact (readValue_of_spells hspells (stops_of_skipSpace_eq_nil hrest)).at_end hrest

end Values

end DatabaseResource.Json
