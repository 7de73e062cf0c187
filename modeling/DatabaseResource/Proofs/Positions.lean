import DatabaseResource.Proofs.Denotation

/-!
# The list form

A request may also be a list of values at the places of its fields. What a draft comes to by such
values is `hearPlaces?`: each field hears the value at its place, the list may end where no required
field is left, and there is no place behind the last field. Where the places allow it, this is what
the draft hears of the object that gives the values to the fields by their names
(`read_list_iff_read_object`).
-/

namespace DatabaseResource

open Json (Doc Spells Reads Denotes)

/-- A list is written as its items, in their order. -/
theorem Json.writes_array (items : List (Doc × List Char)) (h : ∀ v ∈ items, Writes v.2 v.1) :
    Writes ('[' :: withCommas (items.map Prod.snd) ++ [']']) (.array (items.map Prod.fst)) := by
  have hitems (rest : List Char) :
      Spells (.items (items.map Prod.fst)) (withCommas (items.map Prod.snd) ++ ']' :: rest)
        rest := by
    induction items with
    | nil => exact .noItem
    | cons v items ih =>
      obtain ⟨hv, hitems⟩ := List.forall_mem_cons.mp h
      cases items with
      | nil => exact .item (hv _) .lastItem
      | cons v' items =>
        have hcommas : withCommas ((v :: v' :: items).map Prod.snd) ++ ']' :: rest
            = v.2 ++ ',' :: (withCommas ((v' :: items).map Prod.snd) ++ ']' :: rest) := by
          simp [withCommas]
        rw [hcommas]
        exact .item (hv _) (.nextItem (ih hitems))
  intro rest
  have htext : '[' :: withCommas (items.map Prod.snd) ++ [']'] ++ rest
      = '[' :: (withCommas (items.map Prod.snd) ++ ']' :: rest) := by
    simp
  rw [htext]
  exact .array (hitems rest)

namespace Request

variable {d d' : Draft} {f : Field} {fields : List Field} {v : Doc} {ds : List Doc} {count : Nat}
  {cs rest : List Char}

/-- What a draft comes to by values at the places of the fields that are left. -/
def hearPlaces? (d : Draft) : List Field → List Doc → Option Draft
  | [], [] => some d
  | [], _ :: _ => none
  | f :: _, [] => if f.required then none else some d
  | f :: fields, v :: ds => (f.keep? v).bind fun k => hearPlaces? (d.set f k) fields ds

/-! ### Reading by places -/

/-- Takes up the values of the list form and the closing bracket behind them. -/
def readPlaces (d : Draft) (count : Nat) (fields : List Field) (cs : List Char) :
    Except Json.ReadError (Draft × List Char) := do
  let (d, cs) ← readPositions d count fields cs
  let cs ← readListEnd cs
  .ok (d, cs)

theorem readListEnd_of_closing (h : Json.skipSpace cs = ']' :: rest) :
    readListEnd cs = .ok rest := by
  simp [readListEnd, h]

theorem readListEnd_of_value (h : Spells (leftOf count (v :: ds)) cs rest) :
    ∃ e, readListEnd cs = .error e := by
  cases hend : readListEnd cs with
  | error e => exact ⟨e, rfl⟩
  | ok behind =>
    have hclosing := skipSpace_of_readListEnd hend
    unfold leftOf at h
    split at h
    · obtain ⟨mid, first, -⟩ := Spells.items_cons_iff.mp h
      obtain ⟨c, text, hfront, hc, -⟩ := first.exists_front
      rw [hclosing] at hfront
      exact absurd (List.cons.inj hfront).1.symm hc
    · obtain ⟨mid, hcomma, -⟩ := Spells.moreItems_cons_iff.mp h
      rw [hclosing] at hcomma
      cases hcomma

/-- Where the list ends, no field is read. -/
theorem readPlaces_of_closing (h : Json.skipSpace cs = ']' :: rest) :
    Reads (readPlaces d count (f :: fields) cs) (hearPlaces? d (f :: fields) []) rest := by
  unfold readPlaces readPositions hearPlaces?
  rw [h]
  by_cases hf : f.required = true
  · simp only [hf, if_true]
    exact .error _ rest
  · simp only [hf]
    exact .ok d rest

/-- Where a value is next, the field is read from where it begins. -/
theorem readPositions_of_value (d : Draft) (f : Field) (fields : List Field)
    (h : Spells (leftOf count (v :: ds)) cs rest) :
    ∃ text, Spells (.items (v :: ds)) text rest ∧
      readPositions d count (f :: fields) cs = (do
        let (d, cs) ← d.readField f text
        readPositions d (count + 1) fields cs) := by
  unfold leftOf at h
  split at h
  next hcount =>
    refine ⟨_, h.front, ?_⟩
    obtain ⟨mid, first, -⟩ := Spells.items_cons_iff.mp h
    obtain ⟨c, text, hfront, hc, -⟩ := first.exists_front
    rw [readPositions, hfront]
    split
    next heq => cases heq
    next heq => exact absurd (List.cons.inj heq).1 hc
    next heq =>
      cases heq
      rw [if_pos hcount]
  next hcount =>
    obtain ⟨mid, hcomma, items⟩ := Spells.moreItems_cons_iff.mp h
    refine ⟨_, items.front, ?_⟩
    obtain ⟨_, first, -⟩ := Spells.items_cons_iff.mp items
    obtain ⟨c, text, hfront, hc, -⟩ := first.exists_front
    rw [readPositions, hcomma]
    split
    next heq => cases heq
    next heq => cases heq
    next heq =>
      cases heq
      rw [if_neg hcount, if_pos rfl, hfront]
      split
      next heq => cases heq
      next heq => exact absurd (List.cons.inj heq).1 hc
      · rfl

/-- What is left of a list is read as what the fields that are left hear at their places. -/
theorem readPlaces_of_spells (d : Draft) (count : Nat) (fields : List Field)
    (h : Spells (leftOf count ds) cs rest) :
    Reads (readPlaces d count fields cs) (hearPlaces? d fields ds) rest := by
  induction fields generalizing d count ds cs with
  | nil =>
    unfold readPlaces
    cases ds with
    | nil =>
      have hend := readListEnd_of_closing (spells_leftOf_nil_iff.mp h)
      simp only [readPositions, bind, Except.bind, hend]
      exact .ok d rest
    | cons v ds =>
      obtain ⟨e, hend⟩ := readListEnd_of_value h
      simp only [readPositions, bind, Except.bind, hend]
      exact .error e rest
  | cons f fields ih =>
    cases ds with
    | nil => exact readPlaces_of_closing (spells_leftOf_nil_iff.mp h)
    | cons v ds =>
      obtain ⟨text, items, hread⟩ := readPositions_of_value d f fields h
      obtain ⟨mid, value, more⟩ := Spells.items_cons_iff.mp items
      have hnext : readPlaces d count (f :: fields) cs = (do
          let (d, cs) ← d.readField f text
          readPlaces d (count + 1) fields cs) := by
        unfold readPlaces
        rw [hread, bind_assoc]
      have hfield := readField_of_spells d f value more.stops_moreItems
      have hheard : hearPlaces? d (f :: fields) (v :: ds)
          = ((f.keep? v).map (d.set f)).bind fun d => hearPlaces? d fields ds := by
        rw [hearPlaces?, Option.bind_map]
        rfl
      rw [hnext, hheard]
      exact hfield.bind fun d' _ => ih d' (count + 1) more

/-- The request that a draft says is what a document ends with. -/
theorem finish_reads (d : Draft) (rest : List Char) :
    Reads (readDocument.finish d rest) d.toRequest? rest := by
  unfold readDocument.finish
  cases d.toRequest? with
  | none => exact .error _ rest
  | some r => exact .ok r rest

theorem readDocument_of_bracket {mid : List Char} (h : Json.skipSpace cs = '[' :: mid) :
    readDocument cs = (do
      let (d, cs) ← readPlaces {} 0 Field.all mid
      readDocument.finish d cs) := by
  simp only [readDocument, readPlaces, h, bind_assoc]
  rfl

/-- A list is read as what the draft hears at its places. -/
theorem readDocument_of_array (h : Spells (.value (.array ds)) cs rest) :
    Reads (readDocument cs) ((hearPlaces? {} Field.all ds).bind Draft.toRequest?) rest := by
  have hfront := h.front
  generalize htext : Json.skipSpace cs = text at hfront
  cases hfront with
  | space hspace => exact absurd htext (Json.skipSpace_ne_cons hspace)
  | array items =>
    have hplaces : Reads (readPlaces {} 0 Field.all _) (hearPlaces? {} Field.all ds) rest :=
      readPlaces_of_spells {} 0 Field.all items
    rw [readDocument_of_bracket htext]
    exact hplaces.bind fun d _ => finish_reads d rest

/-! ### Places and names -/

/-- Places are heard where there are as many fields and no required one is left, each by its own
field. -/
theorem hearPlaces?_eq_some_iff : hearPlaces? d fields ds = some d' ↔
    ds.length ≤ fields.length ∧ (∀ f ∈ fields[ds.length]?, f.required = false) ∧
      (fields.zip ds).foldlM (fun d p => (p.1.keep? p.2).map (d.set p.1)) d = some d' := by
  induction fields generalizing d ds with
  | nil => cases ds <;> simp [hearPlaces?]
  | cons f fields ih =>
    cases ds with
    | nil => cases hf : f.required <;> simp [hearPlaces?, hf]
    | cons v ds =>
      rw [hearPlaces?, List.zip_cons_cons, List.foldlM_cons]
      cases f.keep? v with
      | none => simp
      | some k => simpa using ih

/-- Fields that hear nothing else hear the same by their names as at their places. -/
theorem foldlM_hear?_names (d : Draft) (ds : List Doc) (hnodup : fields.Nodup)
    (hempty : ∀ f ∈ fields, d.get f = none) :
    ((fields.map Field.name).zip ds).foldlM (fun d m => d.hear? m.1 m.2) d
      = (fields.zip ds).foldlM (fun d p => (p.1.keep? p.2).map (d.set p.1)) d := by
  induction fields generalizing d ds with
  | nil => rfl
  | cons f fields ih =>
    obtain ⟨hf, hnodup⟩ := List.nodup_cons.mp hnodup
    cases ds with
    | nil => rfl
    | cons v ds =>
      rw [List.map_cons, List.zip_cons_cons, List.zip_cons_cons, List.foldlM_cons,
        List.foldlM_cons, Draft.hear?_name, Draft.say?_eq, hempty f List.mem_cons_self]
      dsimp only
      cases f.keep? v with
      | none => rfl
      | some k =>
        have hrest : ∀ g ∈ fields, (d.set f k).get g = none := by
          intro g hg
          have hne : f ≠ g := fun heq => hf (heq ▸ hg)
          rw [Draft.get_set_of_ne d hne, hempty g (List.mem_cons_of_mem f hg)]
        exact ih (d.set f k) ds hnodup hrest

/-- There are ten places, and the required fields have the first five. -/
theorem places_iff (n : Nat) :
    (n ≤ Field.all.length ∧ ∀ f ∈ Field.all[n]?, f.required = false) ↔ 5 ≤ n ∧ n ≤ 10 := by
  have hplaces : ∀ n ≤ 10, (∀ f ∈ Field.all[n]?, f.required = false) ↔ 5 ≤ n := by decide
  constructor
  · intro ⟨hten, hleft⟩
    exact ⟨(hplaces n hten).mp hleft, hten⟩
  · intro ⟨hfive, hten⟩
    exact ⟨hten, (hplaces n hten).mpr hfive⟩

/-- **The list form agrees with the object form.** A list is read as a request exactly if it has
five to ten values and the object is that gives them, in their order, to the first names; and both
are read as the same request. -/
theorem read_list_iff_read_object (values : List Doc) (listText objectText : String)
    (hlist : Denotes listText (.array values))
    (hobject : Denotes objectText (.object
      ((["RequestType", "RequestId", "ResponseURL", "StackId", "LogicalResourceId", "ResourceType",
        "PhysicalResourceId", "ServiceToken", "ResourceProperties",
        "OldResourceProperties"].zip values).map fun m => (some m.1, m.2)))) :
    ((∃ r, Request.read listText = .ok r) ↔
      (5 ≤ values.length ∧ values.length ≤ 10) ∧ ∃ r, Request.read objectText = .ok r) ∧
    ∀ r, Request.read listText = .ok r ↔
      (5 ≤ values.length ∧ values.length ≤ 10) ∧ Request.read objectText = .ok r := by
  have hsame (r : Request) : Request.read listText = .ok r ↔
      (5 ≤ values.length ∧ values.length ≤ 10) ∧ Request.read objectText = .ok r := by
    obtain ⟨rest, hspells, hrest⟩ := hlist
    have hread : (Request.read listText).toOption
        = (hearPlaces? {} Field.all values).bind Draft.toRequest? :=
      (readDocument_of_array hspells).at_end hrest
    have hnames := foldlM_hear?_names {} values (by decide : Field.all.Nodup)
      fun f _ => Draft.get_empty f
    rw [← toOption_eq_some_iff, ← toOption_eq_some_iff, hread, toOption_read hobject,
      Option.bind_eq_some_iff, Option.bind_eq_some_iff]
    simp only [hearPlaces?_eq_some_iff, ← and_assoc, places_iff]
    rw [← hnames]
    simp only [and_assoc, exists_and_left]
    rfl
  refine ⟨?_, hsame⟩
  simp only [hsame, exists_and_left]

/-! ### A request in the list form -/

/-- The values of a request to create something. -/
def createValues : List Doc := createMembers.map fun m => .text (some m.2)

def createListText : String :=
  String.ofList ('[' :: Json.withCommas (createMembers.map fun m => Json.writeString m.2) ++ [']'])

theorem createListText_denotes : Denotes createListText (.array createValues) := by
  have hwritten : ∀ v ∈ createMembers.map fun m => (Doc.text (some m.2), Json.writeString m.2),
      Json.Writes v.2 v.1 := by
    intro v hv
    obtain ⟨m, -, rfl⟩ := List.mem_map.mp hv
    exact Json.writes_string m.2
  have hlist := (Json.writes_array _ hwritten).denotes
  simpa [createListText, createValues, Function.comp_def] using hlist

/-- The list of a create is read, and as what its object is read. -/
theorem read_createListText :
    ∃ r, Request.read createListText = .ok r ∧ Request.read createText = .ok r := by
  obtain ⟨haccepted, hsame⟩ := read_list_iff_read_object createValues createListText createText
    createListText_denotes createText_denotes
  obtain ⟨r, hsays⟩ := createMembers_suit.exists_request
  have hobject := (read_eq_ok_iff createText_denotes).mpr hsays
  have hlength : 5 ≤ createValues.length ∧ createValues.length ≤ 10 := by decide
  exact ⟨r, (hsame r).mpr ⟨hlength, hobject⟩, hobject⟩

end Request

end DatabaseResource
