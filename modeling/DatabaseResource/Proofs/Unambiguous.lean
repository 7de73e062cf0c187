import DatabaseResource.Proofs.Reading

/-!
# The grammar is unambiguous

A text denotes at most one document (`Denotes.unique`). A part that a text begins with determines
its rest as well; only a number has to be followed by what stops it (`Spells.alone`).
-/

namespace DatabaseResource.Json

variable {part : Part} {d : Doc} {ds : List Doc} {cs rest rest' : List Char}

theorem Letters.unique {ps ps' : List Piece} (h : Letters cs ps rest) (h' : Letters cs ps' rest') :
    ps = ps' ∧ rest = rest' := by
  induction h generalizing ps' rest' with
  | closing =>
    cases h' with
    | closing => exact ⟨rfl, rfl⟩
    | plain quote => exact absurd rfl quote
  | plain quote backslash _ _ ih =>
    cases h' with
    | closing => exact absurd rfl quote
    | plain _ _ _ more =>
      obtain ⟨rfl, rfl⟩ := ih more
      exact ⟨rfl, rfl⟩
    | short | code => exact absurd rfl backslash
  | short escape _ ih =>
    cases h' with
    | plain _ backslash => exact absurd rfl backslash
    | short escape' more =>
      obtain rfl := Option.some.inj (escape.symm.trans escape')
      obtain ⟨rfl, rfl⟩ := ih more
      exact ⟨rfl, rfl⟩
    | code => cases escape
  | code hex _ ih =>
    cases h' with
    | plain _ backslash => exact absurd rfl backslash
    | short escape => cases escape
    | code hex' more =>
      obtain rfl := Option.some.inj (hex.symm.trans hex')
      obtain ⟨rfl, rfl⟩ := ih more
      exact ⟨rfl, rfl⟩

/-- Two numerals in front of what stops them are the same. -/
theorem Numeral.unique {numeral numeral' : List Char} (h : Numeral numeral)
    (h' : Numeral numeral') (heq : numeral ++ rest = numeral' ++ rest') (hrest : Stops rest)
    (hrest' : Stops rest') : numeral = numeral' ∧ rest = rest' := by
  have hskip := skipNumber_of_numeral h hrest
  rw [heq, skipNumber_of_numeral h' hrest'] at hskip
  cases hskip
  exact ⟨List.append_cancel_right heq, rfl⟩

/-! ### The front of a value -/

/-- A part that goes on as long as digits follow. -/
def Part.Open : Part → Prop
  | value (.number _) | named (.number _) => True
  | _ => False

/-- What a value is, by the character that it begins with. -/
def ValueFrom (c : Char) (d : Doc) (cs rest : List Char) : Prop :=
  match c with
  | 'n' => d = .null ∧ cs = 'u' :: 'l' :: 'l' :: rest
  | 't' => d = .bool true ∧ cs = 'r' :: 'u' :: 'e' :: rest
  | 'f' => d = .bool false ∧ cs = 'a' :: 'l' :: 's' :: 'e' :: rest
  | '"' => ∃ ps, d = .text (textOf? ps) ∧ Letters cs ps rest
  | '[' => ∃ ds, d = .array ds ∧ Spells (.items ds) cs rest
  | '{' => ∃ ms, d = .object ms ∧ Spells (.members ms) cs rest
  | '-' => ∃ numeral, d = .number (numberOf? true numeral) ∧ Numeral numeral ∧ cs = numeral ++ rest
  | c => ∃ numeral, d = .number (numberOf? false numeral) ∧ Numeral numeral ∧
      c :: cs = numeral ++ rest

theorem valueFrom_of_isDigit {c : Char} (hc : isDigit c = true) : ValueFrom c d cs rest ↔
    ∃ numeral, d = .number (numberOf? false numeral) ∧ Numeral numeral ∧
      c :: cs = numeral ++ rest := by
  have hne := not_other_of_isDigit hc
  unfold ValueFrom
  split <;> first | rfl | simp at hne

namespace Spells

theorem valueFrom {c : Char} (h : Spells (.value d) (c :: cs) rest) (hc : isSpace c = false) :
    ValueFrom c d cs rest := by
  generalize htext : c :: cs = text at h
  cases h with
  | space hspace =>
    cases htext
    rw [hc] at hspace
    cases hspace
  | wordNull | wordTrue | wordFalse =>
    cases htext
    exact ⟨rfl, rfl⟩
  | number ok =>
    obtain ⟨c', cs', rfl, hdigit⟩ := ok.exists_eq_cons
    obtain rfl : c = c' := (List.cons.inj htext).1
    exact (valueFrom_of_isDigit hdigit).mpr ⟨_, rfl, ok, htext⟩
  | negative ok =>
    cases htext
    exact ⟨_, rfl, ok, rfl⟩
  | text letters =>
    cases htext
    exact ⟨_, rfl, letters⟩
  | array items =>
    cases htext
    exact ⟨_, rfl, items⟩
  | object members =>
    cases htext
    exact ⟨_, rfl, members⟩

/-- A list that has an item does not begin with its end. -/
theorem items_cons_ne_closing (h : Spells (.items (d :: ds)) cs rest) :
    skipSpace cs ≠ ']' :: rest' := by
  obtain ⟨_, first, -⟩ := items_cons_iff.mp h
  obtain ⟨c, text, htext, hc, -⟩ := first.exists_front
  rw [htext]
  exact fun heq => hc (List.cons.inj heq).1

end Spells

/-! ### One part of a kind -/

/-- The text begins with no other part of the kind, if a number is followed by what stops it. -/
def Alone (part : Part) (cs rest : List Char) : Prop :=
  ∀ {part' : Part} {rest' : List Char}, Spells part' cs rest' → part.ctorIdx = part'.ctorIdx →
    (part.Open → Stops rest ∧ Stops rest') → part = part' ∧ rest = rest'

namespace Alone

variable {m : Option String × Doc} {ms : List (Option String × Doc)} {mid : List Char}

theorem space {c : Char} (hc : isSpace c = true) (h : Alone part cs rest) :
    Alone part (c :: cs) rest := by
  intro part' rest' h' hkind hstops
  have hfront := h'.front
  rw [skipSpace_cons_of_isSpace hc] at hfront
  exact h hfront.of_front hkind hstops

theorem number {numeral : List Char} (ok : Numeral numeral) :
    Alone (.value (.number (numberOf? false numeral))) (numeral ++ rest) rest := by
  intro part' rest' h' hkind hstops
  cases part' <;> cases hkind
  obtain ⟨c, cs, rfl, hc⟩ := ok.exists_eq_cons
  obtain ⟨numeral', rfl, ok', htext⟩ :=
    (valueFrom_of_isDigit hc).mp (h'.valueFrom (isSpace_of_isDigit hc))
  obtain ⟨hrest, hrest'⟩ := hstops trivial
  obtain ⟨rfl, rfl⟩ := ok.unique ok' htext hrest hrest'
  exact ⟨rfl, rfl⟩

theorem negative {numeral : List Char} (ok : Numeral numeral) :
    Alone (.value (.number (numberOf? true numeral))) ('-' :: (numeral ++ rest)) rest := by
  intro part' rest' h' hkind hstops
  cases part' <;> cases hkind
  obtain ⟨numeral', rfl, ok', htext⟩ := h'.valueFrom (by decide)
  obtain ⟨hrest, hrest'⟩ := hstops trivial
  obtain ⟨rfl, rfl⟩ := ok.unique ok' htext hrest hrest'
  exact ⟨rfl, rfl⟩

theorem text {ps : List Piece} (letters : Letters cs ps rest) :
    Alone (.value (.text (textOf? ps))) ('"' :: cs) rest := by
  intro part' rest' h' hkind _
  cases part' <;> cases hkind
  obtain ⟨ps', rfl, letters'⟩ := h'.valueFrom (by decide)
  obtain ⟨rfl, rfl⟩ := letters.unique letters'
  exact ⟨rfl, rfl⟩

theorem array (h : Alone (.items ds) cs rest) : Alone (.value (.array ds)) ('[' :: cs) rest := by
  intro part' rest' h' hkind _
  cases part' <;> cases hkind
  obtain ⟨ds', rfl, items'⟩ := h'.valueFrom (by decide)
  obtain ⟨heq, rfl⟩ := h items' rfl nofun
  cases heq
  exact ⟨rfl, rfl⟩

theorem object (h : Alone (.members ms) cs rest) :
    Alone (.value (.object ms)) ('{' :: cs) rest := by
  intro part' rest' h' hkind _
  cases part' <;> cases hkind
  obtain ⟨ms', rfl, members'⟩ := h'.valueFrom (by decide)
  obtain ⟨heq, rfl⟩ := h members' rfl nofun
  cases heq
  exact ⟨rfl, rfl⟩

theorem noItem : Alone (.items []) (']' :: rest) rest := by
  intro part' rest' h' hkind _
  cases part' <;> cases hkind
  next ds' =>
    cases ds' with
    | nil =>
      cases Spells.items_nil_iff.mp h'
      exact ⟨rfl, rfl⟩
    | cons => exact absurd rfl h'.items_cons_ne_closing

theorem item (first : Spells (.value d) cs mid) (more : Spells (.moreItems ds) mid rest)
    (hfirst : Alone (.value d) cs mid) (hmore : Alone (.moreItems ds) mid rest) :
    Alone (.items (d :: ds)) cs rest := by
  intro part' rest' h' hkind _
  cases part' <;> cases hkind
  next ds' =>
    cases ds' with
    | nil =>
      have items := Spells.item first more
      exact absurd (Spells.items_nil_iff.mp h') items.items_cons_ne_closing
    | cons d' ds' =>
      obtain ⟨mid', first', more'⟩ := Spells.items_cons_iff.mp h'
      obtain ⟨hd, rfl⟩ := hfirst first' rfl fun _ =>
        ⟨more.stops_moreItems, more'.stops_moreItems⟩
      obtain ⟨hds, rfl⟩ := hmore more' rfl nofun
      cases hd
      cases hds
      exact ⟨rfl, rfl⟩

theorem lastItem : Alone (.moreItems []) (']' :: rest) rest := by
  intro part' rest' h' hkind _
  cases part' <;> cases hkind
  next ds' =>
    cases ds' with
    | nil =>
      cases Spells.moreItems_nil_iff.mp h'
      exact ⟨rfl, rfl⟩
    | cons =>
      obtain ⟨_, hcomma, -⟩ := Spells.moreItems_cons_iff.mp h'
      cases hcomma

theorem nextItem (h : Alone (.items (d :: ds)) cs rest) :
    Alone (.moreItems (d :: ds)) (',' :: cs) rest := by
  intro part' rest' h' hkind _
  cases part' <;> cases hkind
  next ds' =>
    cases ds' with
    | nil => cases Spells.moreItems_nil_iff.mp h'
    | cons =>
      obtain ⟨_, hcomma, next'⟩ := Spells.moreItems_cons_iff.mp h'
      cases hcomma
      obtain ⟨heq, rfl⟩ := h next' rfl nofun
      cases heq
      exact ⟨rfl, rfl⟩

theorem noMember : Alone (.members []) ('}' :: rest) rest := by
  intro part' rest' h' hkind _
  cases part' <;> cases hkind
  next ms' =>
    cases ms' with
    | nil =>
      cases Spells.members_nil_iff.mp h'
      exact ⟨rfl, rfl⟩
    | cons =>
      obtain ⟨_, _, _, _, hquote, -⟩ := Spells.members_cons_iff.mp h'
      cases hquote

theorem member {ps : List Piece} {behind : List Char} (name : Letters cs ps mid)
    (more : Spells (.moreMembers ms) behind rest) (hvalue : Alone (.named d) mid behind)
    (hmore : Alone (.moreMembers ms) behind rest) :
    Alone (.members ((textOf? ps, d) :: ms)) ('"' :: cs) rest := by
  intro part' rest' h' hkind _
  cases part' <;> cases hkind
  next ms' =>
    cases ms' with
    | nil => cases Spells.members_nil_iff.mp h'
    | cons m' ms' =>
      obtain ⟨name?, d'⟩ := m'
      obtain ⟨_, ps', _, _, hquote, name', rfl, value', more'⟩ := Spells.members_cons_iff.mp h'
      cases hquote
      obtain ⟨rfl, rfl⟩ := name.unique name'
      obtain ⟨hd, rfl⟩ := hvalue value' rfl fun _ =>
        ⟨more.stops_moreMembers, more'.stops_moreMembers⟩
      obtain ⟨hms, rfl⟩ := hmore more' rfl nofun
      cases hd
      cases hms
      exact ⟨rfl, rfl⟩

theorem lastMember : Alone (.moreMembers []) ('}' :: rest) rest := by
  intro part' rest' h' hkind _
  cases part' <;> cases hkind
  next ms' =>
    cases ms' with
    | nil =>
      cases Spells.moreMembers_nil_iff.mp h'
      exact ⟨rfl, rfl⟩
    | cons =>
      obtain ⟨_, hcomma, -⟩ := Spells.moreMembers_cons_iff.mp h'
      cases hcomma

theorem nextMember (h : Alone (.members (m :: ms)) cs rest) :
    Alone (.moreMembers (m :: ms)) (',' :: cs) rest := by
  intro part' rest' h' hkind _
  cases part' <;> cases hkind
  next ms' =>
    cases ms' with
    | nil => cases Spells.moreMembers_nil_iff.mp h'
    | cons =>
      obtain ⟨_, hcomma, next'⟩ := Spells.moreMembers_cons_iff.mp h'
      cases hcomma
      obtain ⟨heq, rfl⟩ := h next' rfl nofun
      cases heq
      exact ⟨rfl, rfl⟩

theorem named (h : Alone (.value d) cs rest) : Alone (.named d) (':' :: cs) rest := by
  intro part' rest' h' hkind hstops
  cases part' <;> cases hkind
  obtain ⟨_, hcolon, value'⟩ := Spells.named_iff.mp h'
  cases hcolon
  obtain ⟨heq, rfl⟩ := h value' rfl (by cases d <;> exact hstops)
  cases heq
  exact ⟨rfl, rfl⟩

end Alone

/-- What a text begins with is the only part of its kind. -/
theorem Spells.alone (h : Spells part cs rest) : Alone part cs rest := by
  induction h with
  | space hspace _ ih => exact ih.space hspace
  | wordNull | wordTrue | wordFalse =>
    intro part' rest' h' hkind _
    cases part' <;> cases hkind
    obtain ⟨rfl, htext⟩ := h'.valueFrom (by decide)
    cases htext
    exact ⟨rfl, rfl⟩
  | number ok => exact Alone.number ok
  | negative ok => exact Alone.negative ok
  | text letters => exact Alone.text letters
  | array _ ih => exact ih.array
  | object _ ih => exact ih.object
  | noItem => exact Alone.noItem
  | item first more ihfirst ihmore => exact Alone.item first more ihfirst ihmore
  | lastItem => exact Alone.lastItem
  | nextItem _ ih => exact ih.nextItem
  | noMember => exact Alone.noMember
  | member name _ more ihvalue ihmore => exact Alone.member name more ihvalue ihmore
  | lastMember => exact Alone.lastMember
  | nextMember _ ih => exact ih.nextMember
  | named _ ih => exact ih.named

/-- A text denotes at most one document. -/
theorem Denotes.unique {text : String} {d d' : Doc} (h : Denotes text d) (h' : Denotes text d') :
    d = d' := by
  obtain ⟨rest, hspells, hrest⟩ := h
  obtain ⟨rest', hspells', hrest'⟩ := h'
  obtain ⟨hvalue, -⟩ := hspells.alone hspells' rfl fun _ =>
    ⟨stops_of_skipSpace_eq_nil hrest, stops_of_skipSpace_eq_nil hrest'⟩
  cases hvalue
  rfl

end DatabaseResource.Json
