import DatabaseResource.Proofs.Skipping
import DatabaseResource.Proofs.Settings

/-!
# What is read is spelled

A text that is read or passed over spells a value (`spells_of_readValue`, `spells_of_skipValue`).
Lists and objects are taken part by part again: where each part that is read is spelled, the whole
is (`spells_of_readList`, `spells_of_readObject`).
-/

namespace DatabaseResource.Json

open Config (bind_eq_ok)

variable {cs mid rest : List Char} {fuel : Nat}

/-- What is made of a value leaves the rest of the text as it was. -/
theorem read_of_map {α β : Type} {x : Except ReadError (α × List Char)} {f : α → β} {b : β}
    (h : (x >>= fun p => .ok (f p.1, p.2)) = .ok (b, rest)) : ∃ a, x = .ok (a, rest) := by
  obtain ⟨⟨a, behind⟩, hx, hb⟩ := bind_eq_ok h
  obtain ⟨-, rfl⟩ := Prod.mk.inj (Except.ok.inj hb)
  exact ⟨a, hx⟩

theorem eq_append_of_readWord {word : List Char} (h : readWord word cs = .ok rest) :
    cs = word ++ rest := by
  induction word generalizing cs with
  | nil => exact Except.ok.inj h
  | cons w word ih =>
    cases cs with
    | nil => cases h
    | cons c cs =>
      rw [readWord] at h
      split at h
      next hc => rw [hc, ih h, List.cons_append]
      · cases h

theorem skipSpace_of_readColon (h : readColon cs = .ok mid) : skipSpace cs = ':' :: mid := by
  unfold readColon at h
  split at h
  · cases h
  next heq =>
    cases h
    exact heq
  · cases h

/-! ### Lists and objects -/

section Parts

variable {σ : Type} {s s' : σ}
variable {item : σ → List Char → Except ReadError (σ × List Char)}
variable {member : σ → String → List Char → Except ReadError (σ × List Char)}

theorem spells_of_foldItems
    (hitem : ∀ s s' cs rest, item s cs = .ok (s', rest) → ∃ d, Spells (.value d) cs rest)
    (h : foldItems item fuel s cs = .ok (s', rest)) : ∃ ds, Spells (.moreItems ds) cs rest := by
  induction fuel generalizing s cs with
  | zero => cases h
  | succ fuel ih =>
    unfold foldItems at h
    split at h
    · cases h
    next hclosing =>
      obtain ⟨-, rfl⟩ := Prod.mk.inj (Except.ok.inj h)
      exact ⟨[], Spells.moreItems_nil_iff.mpr hclosing⟩
    next hcomma =>
      split at h
      · cases h
      · cases h
      · obtain ⟨⟨s₁, behind⟩, hread, hmore⟩ := bind_eq_ok h
        obtain ⟨d, value⟩ := hitem _ _ _ _ hread
        obtain ⟨ds, more⟩ := ih hmore
        exact ⟨d :: ds, Spells.moreItems_cons_iff.mpr ⟨_, hcomma, .item value.of_front more⟩⟩
    · cases h

/-- A list that is read is spelled. -/
theorem spells_of_readList
    (hitem : ∀ s s' cs rest, item s cs = .ok (s', rest) → ∃ d, Spells (.value d) cs rest)
    (h : readList item s cs = .ok (s', rest)) : ∃ ds, Spells (.items ds) cs rest := by
  unfold readList at h
  split at h
  · cases h
  next hclosing =>
    obtain ⟨-, rfl⟩ := Prod.mk.inj (Except.ok.inj h)
    exact ⟨[], Spells.items_nil_iff.mpr hclosing⟩
  · obtain ⟨⟨s₁, behind⟩, hread, hmore⟩ := bind_eq_ok h
    obtain ⟨d, value⟩ := hitem _ _ _ _ hread
    obtain ⟨ds, more⟩ := spells_of_foldItems hitem hmore
    exact ⟨d :: ds, .item value.of_front more⟩

theorem spells_of_readMember
    (hmember : ∀ s s' name cs rest, member s name cs = .ok (s', rest) →
      ∃ d, Spells (.named d) cs rest)
    (h : readMember member s cs = .ok (s', mid)) :
    ∃ m, ∀ ms rest, Spells (.moreMembers ms) mid rest →
      Spells (.members (m :: ms)) ('"' :: cs) rest := by
  obtain ⟨⟨name, behind⟩, hread, hvalue⟩ := bind_eq_ok h
  obtain ⟨ps, letters⟩ := letters_of_readString hread
  obtain ⟨d, value⟩ := hmember _ _ _ _ _ hvalue
  exact ⟨(textOf? ps, d), fun ms rest more => .member letters value more⟩

theorem spells_of_foldMembers
    (hmember : ∀ s s' name cs rest, member s name cs = .ok (s', rest) →
      ∃ d, Spells (.named d) cs rest)
    (h : foldMembers member fuel s cs = .ok (s', rest)) :
    ∃ ms, Spells (.moreMembers ms) cs rest := by
  induction fuel generalizing s cs with
  | zero => cases h
  | succ fuel ih =>
    unfold foldMembers at h
    split at h
    · cases h
    next hclosing =>
      obtain ⟨-, rfl⟩ := Prod.mk.inj (Except.ok.inj h)
      exact ⟨[], Spells.moreMembers_nil_iff.mpr hclosing⟩
    next hcomma =>
      split at h
      · cases h
      next hquote =>
        obtain ⟨⟨s₁, behind⟩, hread, hmore⟩ := bind_eq_ok h
        obtain ⟨m, hm⟩ := spells_of_readMember hmember hread
        obtain ⟨ms, more⟩ := ih hmore
        have next := Spells.of_front (hquote ▸ hm ms rest more)
        exact ⟨m :: ms, Spells.moreMembers_cons_iff.mpr ⟨_, hcomma, next⟩⟩
      · cases h
      · cases h
    · cases h

/-- An object that is read is spelled. -/
theorem spells_of_readObject
    (hmember : ∀ s s' name cs rest, member s name cs = .ok (s', rest) →
      ∃ d, Spells (.named d) cs rest)
    (h : readObject member s cs = .ok (s', rest)) : ∃ ms, Spells (.members ms) cs rest := by
  unfold readObject at h
  split at h
  · cases h
  next hclosing =>
    obtain ⟨-, rfl⟩ := Prod.mk.inj (Except.ok.inj h)
    exact ⟨[], Spells.members_nil_iff.mpr hclosing⟩
  next hquote =>
    obtain ⟨⟨s₁, behind⟩, hread, hmore⟩ := bind_eq_ok h
    obtain ⟨m, hm⟩ := spells_of_readMember hmember hread
    obtain ⟨ms, more⟩ := spells_of_foldMembers hmember hmore
    exact ⟨m :: ms, Spells.of_front (hquote ▸ hm ms rest more)⟩
  · cases h

end Parts

/-! ### Values -/

theorem spells_of_number (h : ∃ numeral, Numeral numeral ∧ cs = numeral ++ rest) :
    ∃ d, Spells (.value d) cs rest := by
  obtain ⟨numeral, ok, rfl⟩ := h
  exact ⟨_, .number ok⟩

theorem spells_of_negative (h : ∃ numeral, Numeral numeral ∧ cs = numeral ++ rest) :
    ∃ d, Spells (.value d) ('-' :: cs) rest := by
  obtain ⟨numeral, ok, rfl⟩ := h
  exact ⟨_, .negative ok⟩

/-- A value that is read is spelled. -/
theorem spells_of_readValue {levels : Nat} {v : Value} (h : readValue levels cs = .ok (v, rest)) :
    ∃ d, Spells (.value d) cs rest := by
  suffices hfront : ∃ d, Spells (.value d) (skipSpace cs) rest from
    hfront.imp fun d value => value.of_front
  induction levels using Nat.strongRecOn generalizing cs v rest with
  | ind levels ih =>
    rw [readValue.eq_def] at h
    split at h
    · cases h
    next hfront =>
      obtain ⟨behind, hword, hv⟩ := bind_eq_ok h
      obtain ⟨-, rfl⟩ := Prod.mk.inj (Except.ok.inj hv)
      rw [hfront, eq_append_of_readWord hword]
      exact ⟨_, .wordNull⟩
    next hfront =>
      obtain ⟨behind, hword, hv⟩ := bind_eq_ok h
      obtain ⟨-, rfl⟩ := Prod.mk.inj (Except.ok.inj hv)
      rw [hfront, eq_append_of_readWord hword]
      exact ⟨_, .wordTrue⟩
    next hfront =>
      obtain ⟨behind, hword, hv⟩ := bind_eq_ok h
      obtain ⟨-, rfl⟩ := Prod.mk.inj (Except.ok.inj hv)
      rw [hfront, eq_append_of_readWord hword]
      exact ⟨_, .wordFalse⟩
    next hfront =>
      obtain ⟨n, hread⟩ := read_of_map (f := Value.number) h
      rw [hfront]
      exact spells_of_negative (numeral_of_readNumber hread)
    next hfront =>
      obtain ⟨s, hread⟩ := read_of_map (f := Value.text) h
      obtain ⟨ps, letters⟩ := letters_of_readString hread
      rw [hfront]
      exact ⟨_, .text letters⟩
    next hfront =>
      split at h
      · cases h
      next levels =>
        obtain ⟨vs, hread⟩ := read_of_map (f := fun vs : List Value => Value.array vs.reverse) h
        obtain ⟨ds, items⟩ : ∃ ds, Spells (.items ds) _ rest := by
          refine spells_of_readList (fun vs vs' cs rest hitem => ?_) hread
          obtain ⟨v, hvalue⟩ := read_of_map (f := fun v => v :: vs) hitem
          obtain ⟨d, value⟩ := ih levels (Nat.lt_succ_self _) hvalue
          exact ⟨d, value.of_front⟩
        rw [hfront]
        exact ⟨_, .array items⟩
    next hfront =>
      split at h
      · cases h
      next levels =>
        obtain ⟨values, hread⟩ := read_of_map (f := Value.object) h
        obtain ⟨ms, members⟩ : ∃ ms, Spells (.members ms) _ rest := by
          refine spells_of_readObject (fun values values' name cs rest hmember => ?_) hread
          obtain ⟨mid, hcolon, hmember⟩ := bind_eq_ok hmember
          obtain ⟨v, hvalue⟩ := read_of_map (f := put values name) hmember
          obtain ⟨d, value⟩ := ih levels (Nat.lt_succ_self _) hvalue
          exact ⟨d, Spells.named_iff.mpr ⟨_, skipSpace_of_readColon hcolon, value.of_front⟩⟩
        rw [hfront]
        exact ⟨_, .object members⟩
    next hfront =>
      split at h
      · obtain ⟨n, hread⟩ := read_of_map (f := Value.number) h
        rw [hfront]
        exact spells_of_number (numeral_of_readNumber hread)
      · cases h

/-! ### Values that nobody keeps -/

section Skipping

variable {bracket : Bracket} {brackets : List Bracket} {d : Doc}

/-- A text begins with what an open bracket holds from an item or a member on. -/
def SpellsInside : Bracket → List Char → List Char → Prop
  | .list, cs, rest => ∃ d ds, Spells (.items (d :: ds)) cs rest
  | .object, cs, rest => ∃ m ms, Spells (.members (m :: ms)) cs rest

/-- A text begins with what an open bracket holds behind an item or a member. -/
def SpellsOut : Bracket → List Char → List Char → Prop
  | .list, cs, rest => ∃ ds, Spells (.moreItems ds) cs rest
  | .object, cs, rest => ∃ ms, Spells (.moreMembers ms) cs rest

/-- A text begins with what closes the open brackets, innermost first. -/
def Closes : List Bracket → List Char → List Char → Prop
  | [], cs, rest => cs = rest
  | bracket :: outer, cs, rest => ∃ mid, SpellsOut bracket cs mid ∧ Closes outer mid rest

theorem spellsOut_closing (h : skipSpace cs = bracket.closing :: rest) :
    SpellsOut bracket cs rest := by
  cases bracket with
  | list => exact ⟨[], Spells.moreItems_nil_iff.mpr h⟩
  | object => exact ⟨[], Spells.moreMembers_nil_iff.mpr h⟩

theorem spellsOut_comma (h : skipSpace cs = ',' :: mid) (hinside : SpellsInside bracket mid rest) :
    SpellsOut bracket cs rest := by
  cases bracket with
  | list =>
    obtain ⟨d, ds, items⟩ := hinside
    exact ⟨d :: ds, Spells.moreItems_cons_iff.mpr ⟨mid, h, items⟩⟩
  | object =>
    obtain ⟨m, ms, members⟩ := hinside
    exact ⟨m :: ms, Spells.moreMembers_cons_iff.mpr ⟨mid, h, members⟩⟩

theorem spellsInside_of_skipToValue {behind : List Char} (h : skipToValue bracket cs = .ok mid)
    (value : Spells (.value d) mid behind) (hout : SpellsOut bracket behind rest) :
    SpellsInside bracket cs rest := by
  cases bracket with
  | list =>
    obtain rfl : cs = mid := Except.ok.inj h
    obtain ⟨ds, more⟩ := hout
    exact ⟨d, ds, .item value more⟩
  | object =>
    obtain ⟨ms, more⟩ := hout
    unfold skipToValue skipName at h
    dsimp only at h
    split at h
    · cases h
    next hquote =>
      obtain ⟨named, hskip, hcolon⟩ := bind_eq_ok h
      obtain ⟨ps, letters⟩ := letters_of_skipString hskip
      have hnamed : Spells (.named d) named behind :=
        Spells.named_iff.mpr ⟨mid, skipSpace_of_readColon hcolon, value⟩
      have members := Spells.member letters hnamed more
      exact ⟨_, ms, Spells.of_front (hquote ▸ members)⟩
    · cases h

theorem SpellsInside.of_front (h : SpellsInside bracket (skipSpace cs) rest) :
    SpellsInside bracket cs rest := by
  cases bracket with
  | list =>
    obtain ⟨d, ds, items⟩ := h
    exact ⟨d, ds, items.of_front⟩
  | object =>
    obtain ⟨m, ms, members⟩ := h
    exact ⟨m, ms, members.of_front⟩

/-- What a bracket that opens here spells, once it is passed over. -/
theorem spells_of_inside (h : SpellsInside bracket cs rest) :
    ∃ d, Spells (.value d) (bracket.opening :: cs) rest := by
  cases bracket with
  | list =>
    obtain ⟨d, ds, items⟩ := h
    exact ⟨_, .array items⟩
  | object =>
    obtain ⟨m, ms, members⟩ := h
    exact ⟨_, .object members⟩

theorem spells_of_closing (h : skipSpace cs = bracket.closing :: rest) :
    ∃ d, Spells (.value d) (bracket.opening :: cs) rest := by
  cases bracket with
  | list => exact ⟨_, .array (Spells.items_nil_iff.mpr h)⟩
  | object => exact ⟨_, .object (Spells.members_nil_iff.mpr h)⟩

/-! Each of the three loops passes over what is spelled, if the others do with less fuel. -/

/-- What is passed over from a value on is the value, and what closes the brackets. -/
def IntoSpells (fuel : Nat) : Prop :=
  ∀ {brackets cs rest}, skipInto fuel brackets cs = .ok rest →
    ∃ d mid, Spells (.value d) cs mid ∧ Closes brackets mid rest

/-- What is passed over behind an opening bracket. -/
def FirstSpells (fuel : Nat) : Prop :=
  ∀ {bracket brackets cs rest}, skipFirst fuel bracket brackets cs = .ok rest →
    ∃ d mid, Spells (.value d) (bracket.opening :: cs) mid ∧ Closes brackets mid rest

/-- What is passed over behind a value is what closes the brackets. -/
def OutSpells (fuel : Nat) : Prop :=
  ∀ {brackets cs rest}, skipOut fuel brackets cs = .ok rest → Closes brackets cs rest

variable {fuel : Nat}

/-- From an item or a member of an open bracket on. -/
theorem IntoSpells.inside (h : IntoSpells fuel) (hvalue : skipToValue bracket cs = .ok mid)
    (hskip : skipInto fuel (bracket :: brackets) mid = .ok rest) :
    ∃ out, SpellsInside bracket cs out ∧ Closes brackets out rest := by
  obtain ⟨d, behind, value, out, hout, hcloses⟩ := h hskip
  exact ⟨out, spellsInside_of_skipToValue hvalue value hout, hcloses⟩

theorem intoSpells_succ (hfirst : FirstSpells fuel) (hout : OutSpells fuel) :
    IntoSpells (fuel + 1) := by
  intro brackets cs rest h
  suffices hfront : ∃ d mid, Spells (.value d) (skipSpace cs) mid ∧ Closes brackets mid rest by
    obtain ⟨d, mid, value, hcloses⟩ := hfront
    exact ⟨d, mid, value.of_front, hcloses⟩
  rw [skipInto.eq_def] at h
  dsimp only at h
  split at h
  · cases h
  next hfront =>
    obtain ⟨mid, hword, hcloses⟩ := bind_eq_ok h
    rw [hfront, eq_append_of_readWord hword]
    exact ⟨_, mid, .wordNull, hout hcloses⟩
  next hfront =>
    obtain ⟨mid, hword, hcloses⟩ := bind_eq_ok h
    rw [hfront, eq_append_of_readWord hword]
    exact ⟨_, mid, .wordTrue, hout hcloses⟩
  next hfront =>
    obtain ⟨mid, hword, hcloses⟩ := bind_eq_ok h
    rw [hfront, eq_append_of_readWord hword]
    exact ⟨_, mid, .wordFalse, hout hcloses⟩
  next hfront =>
    obtain ⟨mid, hskip, hcloses⟩ := bind_eq_ok h
    obtain ⟨d, value⟩ := spells_of_negative (numeral_of_skipNumber hskip)
    exact ⟨d, mid, hfront ▸ value, hout hcloses⟩
  next hfront =>
    obtain ⟨mid, hskip, hcloses⟩ := bind_eq_ok h
    obtain ⟨ps, letters⟩ := letters_of_skipString hskip
    rw [hfront]
    exact ⟨_, mid, .text letters, hout hcloses⟩
  next hfront =>
    rw [hfront]
    exact hfirst h
  next hfront =>
    rw [hfront]
    exact hfirst h
  next hfront =>
    split at h
    · obtain ⟨mid, hskip, hcloses⟩ := bind_eq_ok h
      obtain ⟨d, value⟩ := spells_of_number (numeral_of_skipNumber hskip)
      exact ⟨d, mid, hfront ▸ value, hout hcloses⟩
    · cases h

theorem firstSpells_succ (hinto : IntoSpells fuel) (hout : OutSpells fuel) :
    FirstSpells (fuel + 1) := by
  intro bracket brackets cs rest h
  rw [skipFirst.eq_def] at h
  dsimp only at h
  split at h
  · cases h
  next hfront =>
    split at h
    next hc =>
      obtain ⟨d, value⟩ := spells_of_closing (hfront.trans (by rw [hc]))
      exact ⟨d, _, value, hout h⟩
    · obtain ⟨mid, hvalue, hskip⟩ := bind_eq_ok h
      obtain ⟨out, hinside, hcloses⟩ := hinto.inside hvalue hskip
      obtain ⟨d, value⟩ := spells_of_inside (hfront ▸ hinside).of_front
      exact ⟨d, out, value, hcloses⟩

theorem outSpells_succ (hinto : IntoSpells fuel) (hout : OutSpells fuel) :
    OutSpells (fuel + 1) := by
  intro brackets cs rest h
  cases brackets with
  | nil => simpa [skipOut, Closes] using h
  | cons bracket outer =>
    rw [skipOut.eq_def] at h
    dsimp only at h
    split at h
    · cases h
    next hfront =>
      split at h
      next hc =>
        obtain ⟨mid, hvalue, hskip⟩ := bind_eq_ok h
        obtain ⟨out, hinside, hcloses⟩ := hinto.inside hvalue hskip
        exact ⟨out, spellsOut_comma (hfront.trans (by rw [hc])) hinside, hcloses⟩
      · split at h
        next hc => exact ⟨_, spellsOut_closing (hfront.trans (by rw [hc])), hout h⟩
        · cases h

theorem spells_of_skip (fuel : Nat) :
    IntoSpells fuel ∧ FirstSpells fuel ∧ OutSpells fuel := by
  induction fuel with
  | zero =>
    refine ⟨fun h => ?_, fun h => ?_, fun {brackets cs rest} h => ?_⟩
    · simp [skipInto] at h
    · simp [skipFirst] at h
    · cases brackets with
      | nil => simpa [skipOut, Closes] using h
      | cons bracket outer => simp [skipOut] at h
  | succ fuel ih =>
    obtain ⟨hinto, hfirst, hout⟩ := ih
    exact ⟨intoSpells_succ hfirst hout, firstSpells_succ hinto hout, outSpells_succ hinto hout⟩

/-- A value that is passed over is spelled. -/
theorem spells_of_skipValue (h : skipValue cs = .ok rest) : ∃ d, Spells (.value d) cs rest := by
  obtain ⟨d, mid, value, hcloses⟩ := (spells_of_skip _).1 h
  obtain rfl : mid = rest := hcloses
  exact ⟨d, value⟩

end Skipping

end DatabaseResource.Json
