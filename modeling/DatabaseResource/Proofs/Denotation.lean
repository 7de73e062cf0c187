import DatabaseResource.Proofs.Acceptance
import DatabaseResource.Proofs.Spelling

/-!
# What an event denotes

Every event that is read as a request begins with a document, and the request is what the document
says (`says_of_readDocument`): each field by the values of the members with its name, or, in the
list form, by the value at its place.
-/

namespace DatabaseResource

open Json (Doc Spells Reads)

/-- The values that a document gives a field: by name in an object, by place in a list. -/
def Json.Doc.given (doc : Doc) (f : Request.Field) : List Doc :=
  match doc with
  | .object ms => (ms.filter (·.1 == some f.name)).map Prod.snd
  | .array ds => (ds[Request.Field.all.idxOf f]?).toList
  | _ => []

namespace Request

open Config (bind_eq_ok)

variable {d d' : Draft} {f : Field} {cs mid rest : List Char}

/-! ### What is read is spelled -/

theorem spells_of_readText {expected s : String} (h : readText expected cs = .ok (s, rest)) :
    ∃ v, Spells (.value v) cs rest := by
  unfold readText at h
  split at h
  next hquote =>
    obtain ⟨ps, letters⟩ := Json.letters_of_readString h
    have text := Spells.text letters
    exact ⟨_, Spells.of_front (hquote ▸ text)⟩
  · obtain ⟨e, he⟩ := refuse_error (α := String × List Char) expected (Json.skipSpace cs)
    rw [he] at h
    cases h

theorem spells_of_readUrl {url : Url} (h : readUrl cs = .ok (url, rest)) :
    ∃ v, Spells (.value v) cs rest := by
  obtain ⟨⟨s, behind⟩, htext, hurl⟩ := bind_eq_ok h
  dsimp only at hurl
  split at hurl
  · cases hurl
    exact spells_of_readText htext
  · cases hurl

theorem spells_of_readOptional {α : Type}
    {item : List Char → Except Json.ReadError (α × List Char)} {kept : Option α}
    (hitem : ∀ cs a rest, item cs = .ok (a, rest) → ∃ v, Spells (.value v) cs rest)
    (h : readOptional item cs = .ok (kept, rest)) : ∃ v, Spells (.value v) cs rest := by
  unfold readOptional at h
  split at h
  next hnull =>
    obtain ⟨behind, hword, hkept⟩ := bind_eq_ok h
    obtain ⟨-, rfl⟩ := Prod.mk.inj (Except.ok.inj hkept)
    rw [Json.eq_append_of_readWord hword] at hnull
    exact ⟨.null, Spells.of_front (hnull ▸ .wordNull)⟩
  · obtain ⟨a, hread⟩ := Json.read_of_map (f := fun a : α => some a) h
    obtain ⟨v, value⟩ := hitem _ _ _ hread
    exact ⟨v, value.of_front⟩

theorem spells_of_readField (h : d.readField f cs = .ok (d', rest)) :
    ∃ v, Spells (.value v) cs rest := by
  cases f with
  | requestType | requestId | stackId | logicalResourceId | resourceType =>
    obtain ⟨⟨s, behind⟩, htext, hkept⟩ := bind_eq_ok h
    cases hkept
    exact spells_of_readText htext
  | responseUrl =>
    obtain ⟨⟨url, behind⟩, hurl, hkept⟩ := bind_eq_ok h
    cases hkept
    exact spells_of_readUrl hurl
  | physicalResourceId | serviceToken =>
    obtain ⟨⟨s, behind⟩, htext, hkept⟩ := bind_eq_ok h
    cases hkept
    exact spells_of_readOptional (fun _ _ _ => spells_of_readText) htext
  | resourceProperties =>
    obtain ⟨⟨v, behind⟩, hvalue, hkept⟩ := bind_eq_ok h
    cases hkept
    exact Json.spells_of_readValue hvalue
  | oldResourceProperties =>
    obtain ⟨⟨v, behind⟩, hvalue, hkept⟩ := bind_eq_ok h
    cases hkept
    exact spells_of_readOptional (fun _ _ _ => Json.spells_of_readValue) hvalue

theorem spells_of_readMember {name : String} (h : readMember d name cs = .ok (d', rest)) :
    ∃ v, Spells (.named v) cs rest := by
  unfold readMember at h
  split at h
  · obtain ⟨mid, hcolon, hvalue⟩ := bind_eq_ok h
    obtain ⟨behind, hskip, hkept⟩ := bind_eq_ok hvalue
    cases hkept
    obtain ⟨v, value⟩ := Json.spells_of_skipValue hskip
    exact ⟨v, Spells.named_iff.mpr ⟨mid, Json.skipSpace_of_readColon hcolon, value⟩⟩
  · split at h
    · cases h
    · obtain ⟨mid, hcolon, hvalue⟩ := bind_eq_ok h
      obtain ⟨v, value⟩ := spells_of_readField hvalue
      exact ⟨v, Spells.named_iff.mpr ⟨mid, Json.skipSpace_of_readColon hcolon, value⟩⟩

/-! ### Objects -/

/-- Members of which something is heard have names. -/
theorem names_of_foldlM {σ : Type} {step : σ → String → Doc → Option σ} {s s' : σ}
    {ms : List (Option String × Doc)} (h : ms.foldlM (Json.withName step) s = some s') :
    ∃ members : List (String × Doc), ms = members.map fun m => (some m.1, m.2) := by
  induction ms generalizing s with
  | nil => exact ⟨[], rfl⟩
  | cons m ms ih =>
    obtain ⟨name?, v⟩ := m
    rw [List.foldlM_cons, Option.bind_eq_bind, Option.bind_eq_some_iff] at h
    obtain ⟨s₁, hstep, hmore⟩ := h
    obtain ⟨members, rfl⟩ := ih hmore
    obtain ⟨name, rfl, -⟩ := Option.bind_eq_some_iff.mp hstep
    exact ⟨(name, v) :: members, rfl⟩

/-- The members of an object give a field the values that they say of it. -/
theorem given_object (members : List (String × Doc)) :
    (Doc.object (members.map fun m => (some m.1, m.2))).given = said members := by
  funext f
  simp only [Doc.given, said, List.filter_map, List.map_map]
  rfl

/-! ### Lists -/

theorem finish_eq_ok {r : Request} (h : readDocument.finish d mid = .ok (r, rest)) :
    d.toRequest? = some r ∧ mid = rest := by
  unfold readDocument.finish at h
  split at h
  next hr =>
    cases h
    exact ⟨hr, rfl⟩
  · cases h

theorem skipSpace_of_readListEnd (h : readListEnd cs = .ok rest) :
    Json.skipSpace cs = ']' :: rest := by
  unfold readListEnd at h
  split at h
  · cases h
  next heq =>
    cases h
    exact heq
  · split at h <;> cases h
  · cases h

/-- What is left of a list of which so many values have been read. -/
def leftOf (count : Nat) (ds : List Doc) : Json.Part :=
  if count = 0 then .items ds else .moreItems ds

theorem spells_leftOf_nil_iff {count : Nat} :
    Spells (leftOf count []) cs rest ↔ Json.skipSpace cs = ']' :: rest := by
  unfold leftOf
  split
  · exact Spells.items_nil_iff
  · exact Spells.moreItems_nil_iff

/-- The list is at its end, or the next field is read, from where its value begins. -/
theorem readPositions_cons {count : Nat} {fields : List Field}
    (h : readPositions d count (f :: fields) cs = .ok (d', mid)) :
    (∃ behind, Json.skipSpace cs = ']' :: behind ∧ d' = d ∧ mid = ']' :: behind) ∨
    ∃ text d₁ behind, d.readField f text = .ok (d₁, behind) ∧
      readPositions d₁ (count + 1) fields behind = .ok (d', mid) ∧
      ∀ v ds, Spells (.items (v :: ds)) text rest → Spells (leftOf count (v :: ds)) cs rest := by
  unfold readPositions at h
  dsimp only at h
  split at h
  · cases h
  next hclosing =>
    split at h
    · cases h
    · cases h
      exact .inl ⟨_, hclosing, rfl, rfl⟩
  next hfront =>
    split at h
    next hcount =>
      obtain ⟨⟨d₁, behind⟩, hread, hmore⟩ := bind_eq_ok h
      refine .inr ⟨_, d₁, behind, hread, hmore, fun v ds items => ?_⟩
      rw [← hfront] at items
      simpa [leftOf, hcount] using items.of_front
    next hcount =>
      split at h
      next hcomma =>
        split at h
        · cases h
        · cases h
        · obtain ⟨⟨d₁, behind⟩, hread, hmore⟩ := bind_eq_ok h
          refine .inr ⟨_, d₁, behind, hread, hmore, fun v ds items => ?_⟩
          have more : Spells (.moreItems (v :: ds)) cs rest :=
            Spells.moreItems_cons_iff.mpr ⟨_, hcomma ▸ hfront, items.of_front⟩
          simpa [leftOf, hcount] using more
      · cases h

/-- The values of the list form: what is read of the fields that are left, up to the end of the
list, spells values that the fields keep, one after another. -/
theorem spells_of_readPositions {count : Nat} {fields : List Field}
    (h : readPositions d count fields cs = .ok (d', mid)) (hend : readListEnd mid = .ok rest) :
    ∃ ds : List Doc, Spells (leftOf count ds) cs rest ∧
      (fields.zip ds).foldlM (fun d p => (p.1.keep? p.2).map (d.set p.1)) d = some d' := by
  have hclosing := skipSpace_of_readListEnd hend
  induction fields generalizing d count cs with
  | nil =>
    cases h
    exact ⟨[], spells_leftOf_nil_iff.mpr hclosing, rfl⟩
  | cons f fields ih =>
    rcases readPositions_cons h with
      ⟨behind, hfront, rfl, rfl⟩ | ⟨text, d₁, behind, hread, hmore, hleft⟩
    · rw [Json.skipSpace_cons (by decide)] at hclosing
      exact ⟨[], spells_leftOf_nil_iff.mpr (hfront.trans hclosing), rfl⟩
    · obtain ⟨ds, more, hfold⟩ := ih hmore
      obtain ⟨v, value⟩ := spells_of_readField hread
      have more : Spells (.moreItems ds) behind rest := more
      have hkept := readField_of_spells d f value more.stops_moreItems
      refine ⟨v :: ds, hleft v ds (.item value more), ?_⟩
      rw [List.zip_cons_cons, List.foldlM_cons, hkept.eq_some hread]
      exact hfold

/-- What fields come to that are given values by their places. -/
theorem get_of_positions {fields : List Field} {ds : List Doc} (hnodup : fields.Nodup)
    (hempty : ∀ f ∈ fields, d.get f = none)
    (h : (fields.zip ds).foldlM (fun d p => (p.1.keep? p.2).map (d.set p.1)) d = some d') :
    (∀ f ∈ fields, f.collect? none (ds[fields.idxOf f]?).toList = some (d'.get f)) ∧
      ∀ f, f ∉ fields → d'.get f = d.get f := by
  induction fields generalizing d ds with
  | nil =>
    cases h
    exact ⟨fun f hf => absurd hf List.not_mem_nil, fun f _ => rfl⟩
  | cons f fields ih =>
    obtain ⟨hf, hnodup⟩ := List.nodup_cons.mp hnodup
    cases ds with
    | nil =>
      cases h
      refine ⟨fun g hg => ?_, fun g _ => rfl⟩
      rw [hempty g hg]
      rfl
    | cons v ds =>
      rw [List.zip_cons_cons, List.foldlM_cons, Option.bind_eq_bind, Option.bind_eq_some_iff] at h
      obtain ⟨d₁, hkept, hfold⟩ := h
      obtain ⟨k, hk, rfl⟩ := Option.map_eq_some_iff.mp hkept
      have hrest : ∀ g ∈ fields, (d.set f k).get g = none := by
        intro g hg
        have hne : f ≠ g := fun heq => hf (heq ▸ hg)
        rw [Draft.get_set_of_ne d hne, hempty g (List.mem_cons_of_mem f hg)]
      obtain ⟨hin, hout⟩ := ih hnodup hrest hfold
      refine ⟨fun g hg => ?_, fun g hg => ?_⟩
      · rcases List.mem_cons.mp hg with rfl | hg
        · have hself : d'.get g = some k := by rw [hout g hf, Draft.get_set_self]
          simp [hself, Field.collect?, hk]
        · have hne : f ≠ g := fun heq => hf (heq ▸ hg)
          have hplace : (f :: fields).idxOf g = fields.idxOf g + 1 := by
            rw [List.idxOf_cons, beq_false_of_ne hne, cond_false]
          rw [hplace, List.getElem?_cons_succ]
          exact hin g hg
      · obtain ⟨hne, hg⟩ := not_or.mp (mt List.mem_cons.mpr hg)
        rw [hout g hg, Draft.get_set_of_ne d (Ne.symm hne)]

/-! ### Documents -/

/-- An event that is read begins with a document, and the request says what the document gives each
field. -/
theorem says_of_readDocument {r : Request} (h : readDocument cs = .ok (r, rest)) :
    ∃ doc : Doc, Spells (.value doc) cs rest ∧ Says doc.given r := by
  have hread := h
  unfold readDocument at h
  split at h
  · cases h
  next hfront =>
    obtain ⟨⟨d, mid⟩, hpositions, h⟩ := bind_eq_ok h
    obtain ⟨behind, hend, h⟩ := bind_eq_ok h
    obtain ⟨hr, rfl⟩ := finish_eq_ok h
    obtain ⟨ds, items, hfold⟩ := spells_of_readPositions hpositions hend
    have items : Spells (.items ds) _ _ := items
    have array := Spells.array items
    refine ⟨.array ds, Spells.of_front (hfront ▸ array), ?_⟩
    obtain ⟨hfields, -⟩ := get_of_positions (by decide) (fun f _ => Draft.get_empty f) hfold
    exact says_of_draft (fun f => hfields f f.mem_all) hr
  next hfront =>
    obtain ⟨⟨d, mid⟩, hmembers, h⟩ := bind_eq_ok h
    obtain ⟨hr, rfl⟩ := finish_eq_ok h
    obtain ⟨ms, members⟩ :=
      Json.spells_of_readObject (fun _ _ _ _ _ => spells_of_readMember) hmembers
    have object := Spells.of_front (hfront ▸ Spells.object members)
    have hvalue := (readDocument_of_object object).eq_some hread
    obtain ⟨d', hfold, hr'⟩ := Option.bind_eq_some_iff.mp hvalue
    obtain ⟨members, rfl⟩ := names_of_foldlM hfold
    refine ⟨_, object, ?_⟩
    rw [given_object]
    rw [List.foldlM_map] at hfold
    have hsaid := foldlM_hear?_eq_some_iff.mp hfold
    simp only [Draft.get_empty] at hsaid
    exact says_of_draft hsaid hr'
  · obtain ⟨e, he⟩ := refuse_error (α := Request × List Char) documentName _
    rw [he] at h
    cases h

end Request

end DatabaseResource
