import DatabaseResource.Request.Reader
import DatabaseResource.Proofs.Skipping

/-!
# What a document says of each field

A request document is read field by field. `Field.keep?` is what a field keeps of a value, and a
field is read as that (`readField_of_spells`). Over all members of an object the fields do not mind
each other: each comes to what its own values come to, one after another
(`foldlM_hear?_eq_some_iff`).
-/

namespace DatabaseResource

namespace Json.Doc

/-- The string that a document is. -/
def text? : Doc → Option String
  | text s => s
  | _ => none

/-- What is kept of a document, where `null` stands for none. -/
def orNull? {α : Type} (keep : Doc → Option α) : Doc → Option (Option α)
  | null => some none
  | v => (keep v).map some

theorem text?_eq_some_iff {v : Doc} {s : String} : v.text? = some s ↔ v = .text (some s) := by
  cases v <;> simp [text?]

theorem orNull?_eq_some_iff {α : Type} {keep : Doc → Option α} {v : Doc} {k : Option α} :
    v.orNull? keep = some k ↔
      v = .null ∧ k = none ∨ v ≠ .null ∧ ∃ a, keep v = some a ∧ k = some a := by
  cases v with
  | null => simp [orNull?, eq_comm]
  | _ => simp only [orNull?, Option.map_eq_some_iff]; simp [eq_comm]

end Json.Doc

namespace Request

open Json (Doc Spells Stops Reads)

/-! ### Fields of drafts -/

/-- What a request keeps of a field. -/
def Field.Kept : Field → Type
  | requestType => RequestType
  | responseUrl => Url
  | requestId | stackId | logicalResourceId | resourceType => String
  | physicalResourceId | serviceToken => Option String
  | resourceProperties => Json.Value
  | oldResourceProperties => Option Json.Value

namespace Draft

variable {f g : Field}

def get (d : Draft) : (f : Field) → Option f.Kept
  | .requestType => d.requestType
  | .requestId => d.requestId
  | .responseUrl => d.responseUrl
  | .stackId => d.stackId
  | .logicalResourceId => d.logicalResourceId
  | .resourceType => d.resourceType
  | .physicalResourceId => d.physicalResourceId
  | .serviceToken => d.serviceToken
  | .resourceProperties => d.resourceProperties
  | .oldResourceProperties => d.oldResourceProperties

def set (d : Draft) : (f : Field) → f.Kept → Draft
  | .requestType, k => { d with requestType := some k }
  | .requestId, k => { d with requestId := some k }
  | .responseUrl, k => { d with responseUrl := some k }
  | .stackId, k => { d with stackId := some k }
  | .logicalResourceId, k => { d with logicalResourceId := some k }
  | .resourceType, k => { d with resourceType := some k }
  | .physicalResourceId, k => { d with physicalResourceId := some k }
  | .serviceToken, k => { d with serviceToken := some k }
  | .resourceProperties, k => { d with resourceProperties := some k }
  | .oldResourceProperties, k => { d with oldResourceProperties := some k }

@[simp] theorem get_set_self (d : Draft) (k : f.Kept) : (d.set f k).get f = some k := by
  cases f <;> rfl

theorem get_set_of_ne (d : Draft) (h : f ≠ g) (k : f.Kept) : (d.set f k).get g = d.get g := by
  cases f <;> cases g <;> first | rfl | exact absurd rfl h

theorem has_eq_isSome (d : Draft) (f : Field) : d.has f = (d.get f).isSome := by
  cases f <;> rfl

@[simp] theorem get_empty (f : Field) : ({} : Draft).get f = none := by
  cases f <;> rfl

/-- The draft with given fields. -/
def ofFields (fields : (f : Field) → Option f.Kept) : Draft where
  requestType := fields .requestType
  requestId := fields .requestId
  responseUrl := fields .responseUrl
  stackId := fields .stackId
  logicalResourceId := fields .logicalResourceId
  resourceType := fields .resourceType
  physicalResourceId := fields .physicalResourceId
  serviceToken := fields .serviceToken
  resourceProperties := fields .resourceProperties
  oldResourceProperties := fields .oldResourceProperties

@[simp] theorem get_ofFields (fields : (f : Field) → Option f.Kept) (f : Field) :
    (ofFields fields).get f = fields f := by
  cases f <;> rfl

theorem ext_get {d d' : Draft} (h : ∀ f, d.get f = d'.get f) : d = d' := by
  cases d
  cases d'
  simp only [mk.injEq]
  exact ⟨h .requestType, h .requestId, h .responseUrl, h .stackId, h .logicalResourceId,
    h .resourceType, h .physicalResourceId, h .serviceToken, h .resourceProperties,
    h .oldResourceProperties⟩

end Draft

/-! ### What fields keep of values -/

/-- What a field keeps of a value; `none` if the value does not suit it. -/
def Field.keep? : (f : Field) → Doc → Option f.Kept
  | requestType, v => v.text?.map .ofText
  | requestId, v => v.text?
  | responseUrl, v => v.text?.bind fun s => (Url.read s).toOption
  | stackId, v => v.text?
  | logicalResourceId, v => v.text?
  | resourceType, v => v.text?
  | physicalResourceId, v => v.orNull? Doc.text?
  | serviceToken, v => v.orNull? Doc.text?
  | resourceProperties, v => v.valueIn? Draft.levels
  | oldResourceProperties, v => v.orNull? (Doc.valueIn? Draft.levels)

section Reading

variable {v : Doc} {cs rest : List Char}

theorem refuse_error {α : Type} (expected : String) (cs : List Char) :
    ∃ e, (refuse expected cs : Except Json.ReadError α) = .error e := by
  unfold refuse
  cases readFound cs with
  | error e => exact ⟨e, rfl⟩
  | ok found => exact ⟨_, rfl⟩

/-- A string is read as itself, and anything else is refused. -/
theorem readText_of_spells (expected : String) (h : Spells (.value v) cs rest) :
    Reads (readText expected cs) v.text? rest := by
  have hrefused {cs : List Char} :
      Reads (refuse expected cs : Except Json.ReadError (String × List Char)) none rest := by
    obtain ⟨e, he⟩ := refuse_error (α := String × List Char) expected cs
    rw [he]
    exact .error e rest
  have hfront := h.front
  unfold readText
  generalize htext : Json.skipSpace cs = text at hfront
  cases hfront with
  | space hspace => exact absurd htext (Json.skipSpace_ne_cons hspace)
  | text letters => exact Json.readString_of_letters letters
  | number ok =>
    obtain ⟨c, cs, rfl, hc⟩ := ok.exists_eq_cons
    have hquote : c ≠ '"' := Json.ne_of_isDigit hc (by decide)
    split
    next heq => exact absurd (List.cons.inj heq).1 hquote
    · exact hrefused
  | _ => exact hrefused

theorem readUrl_of_spells (h : Spells (.value v) cs rest) :
    Reads (readUrl cs) (v.text?.bind fun s => (Url.read s).toOption) rest := by
  refine (readText_of_spells _ h).bind fun s _ => ?_
  dsimp only
  cases Url.read s with
  | ok url => exact .ok url rest
  | error flaw => exact .error _ rest

/-- `null` is read as none, and anything else as an item. -/
theorem readOptional_of_spells {α : Type} {item : List Char → Except Json.ReadError (α × List Char)}
    {keep : Doc → Option α}
    (hitem : ∀ {cs}, Spells (.value v) cs rest → Reads (item cs) (keep v) rest)
    (h : Spells (.value v) cs rest) : Reads (readOptional item cs) (v.orNull? keep) rest := by
  have hfront := h.front
  have hread := hitem hfront
  unfold readOptional
  generalize htext : Json.skipSpace cs = text at hfront hread
  cases hfront with
  | space hspace => exact absurd htext (Json.skipSpace_ne_cons hspace)
  | wordNull => exact .ok none rest
  | number ok =>
    obtain ⟨c, cs, rfl, hc⟩ := ok.exists_eq_cons
    have hnull : c ≠ 'n' := Json.ne_of_isDigit hc (by decide)
    split
    next heq => exact absurd (List.cons.inj heq).1 hnull
    · exact hread.map some
  | _ => exact hread.map some

/-- A field is read as what it keeps of its value. -/
theorem readField_of_spells (d : Draft) (f : Field) (h : Spells (.value v) cs rest)
    (hrest : Stops rest) : Reads (d.readField f cs) ((f.keep? v).map (d.set f)) rest := by
  have htext : Reads (readText "a string" cs) v.text? rest := readText_of_spells _ h
  have hoptional : Reads (readOptional (readText "a string") cs) (v.orNull? Doc.text?) rest :=
    readOptional_of_spells (readText_of_spells _) h
  cases f with
  | requestType =>
    have hkept : (Field.keep? .requestType v).map (d.set .requestType)
        = v.text?.map fun s => { d with requestType := some (.ofText s) } := by
      have hkeep : Field.keep? .requestType v = v.text?.map RequestType.ofText := rfl
      rw [hkeep]
      cases v.text? <;> rfl
    rw [hkept]
    exact htext.map fun s => { d with requestType := some (.ofText s) }
  | requestId => exact htext.map (d.set .requestId)
  | responseUrl => exact (readUrl_of_spells h).map (d.set .responseUrl)
  | stackId => exact htext.map (d.set .stackId)
  | logicalResourceId => exact htext.map (d.set .logicalResourceId)
  | resourceType => exact htext.map (d.set .resourceType)
  | physicalResourceId => exact hoptional.map (d.set .physicalResourceId)
  | serviceToken => exact hoptional.map (d.set .serviceToken)
  | resourceProperties =>
    exact (Json.readValue_of_spells h hrest).map (d.set .resourceProperties)
  | oldResourceProperties =>
    have hread : Reads (readOptional (Json.readValue Draft.levels) cs)
        (v.orNull? (Doc.valueIn? Draft.levels)) rest :=
      readOptional_of_spells (fun h => Json.readValue_of_spells h hrest) h
    exact hread.map (d.set .oldResourceProperties)

end Reading

/-! ### Members -/

namespace Draft

/-- What the draft says when the document says a field. -/
def say? (d : Draft) (f : Field) (v : Doc) : Option Draft :=
  if d.has f then none else (f.keep? v).map (d.set f)

/-- What the draft says when the document has one more member. -/
def hear? (d : Draft) (name : String) (v : Doc) : Option Draft :=
  match Field.ofName? name with
  | none => some d
  | some f => d.say? f v

end Draft

/-- A member is read as what the draft hears. -/
theorem memberReads_hear? : Json.MemberReads readMember Draft.hear? := by
  intro d name v cs rest named hrest
  obtain ⟨mid, hcolon, value⟩ := Json.Spells.named_iff.mp named
  unfold readMember Draft.hear?
  rw [Json.readColon_of_skipSpace hcolon]
  cases Field.ofName? name with
  | none =>
    have hskip := Json.skipValue_of_spells value hrest
    simp only [bind, Except.bind, hskip]
    exact .ok d rest
  | some f =>
    dsimp only
    unfold Draft.say?
    by_cases hd : d.has f
    · simp only [if_pos hd]
      exact .error _ rest
    · simp only [if_neg hd]
      exact readField_of_spells d f value hrest

/-- The values that a document's members give a field. -/
def said (members : List (String × Doc)) (f : Field) : List Doc :=
  (members.filter (·.1 == f.name)).map Prod.snd

theorem Field.ofName?_eq_some_iff {name : String} {f : Field} :
    Field.ofName? name = some f ↔ name = f.name := by
  unfold Field.ofName?
  constructor
  · intro h
    have hname := List.find?_some h
    exact (beq_iff_eq.mp hname).symm
  · rintro rfl
    have hfind : ∃ g, Field.all.find? (·.name == f.name) = some g := by
      rw [← Option.isSome_iff_exists, List.find?_isSome]
      exact ⟨f, f.mem_all, by simp⟩
    obtain ⟨g, hg⟩ := hfind
    have hname := List.find?_some hg
    obtain rfl : g = f := Field.name_injective (beq_iff_eq.mp hname)
    exact hg

/-- What a field comes to when its values are said one after another. -/
def Field.collect? (f : Field) (before : Option f.Kept) : List Doc → Option (Option f.Kept)
  | [] => some before
  | v :: vs =>
    match before with
    | some _ => none
    | none => (f.keep? v).bind fun k => f.collect? (some k) vs

/-- Nothing is said of a field, or one value is that it keeps. -/
theorem Field.collect?_none_eq_some_iff {f : Field} {vs : List Doc} {after : Option f.Kept} :
    f.collect? none vs = some after ↔
      vs = [] ∧ after = none ∨ ∃ v k, vs = [v] ∧ f.keep? v = some k ∧ after = some k := by
  rcases vs with _ | ⟨v, _ | ⟨v', vs⟩⟩
  · simp [collect?, eq_comm]
  · cases hkeep : f.keep? v with
    | none => simp [collect?, hkeep]
    | some k => simp [collect?, hkeep, eq_comm]
  · cases hkeep : f.keep? v with
    | none => simp [collect?, hkeep]
    | some k => simp [collect?, hkeep]

section Members

variable {members : List (String × Doc)} {d d' : Draft} {f g : Field} {name : String} {v : Doc}

theorem Draft.hear?_of_unknown (d : Draft) (h : Field.ofName? name = none) (v : Doc) :
    d.hear? name v = some d := by
  simp only [hear?, h]

theorem Draft.hear?_name (d : Draft) (f : Field) (v : Doc) : d.hear? f.name v = d.say? f v := by
  simp only [hear?, Field.ofName?_eq_some_iff.mpr rfl]

theorem Draft.say?_eq (d : Draft) (f : Field) (v : Doc) : d.say? f v =
    match d.get f with
    | some _ => none
    | none => (f.keep? v).map (d.set f) := by
  unfold say?
  rw [has_eq_isSome]
  cases d.get f <;> rfl

theorem said_cons_of_unknown (h : Field.ofName? name = none) :
    said ((name, v) :: members) f = said members f := by
  have hne : name ≠ f.name := by
    rintro rfl
    rw [Field.ofName?_eq_some_iff.mpr rfl] at h
    cases h
  simp [said, hne]

theorem said_cons_self : said ((f.name, v) :: members) f = v :: said members f := by
  simp [said]

theorem said_cons_of_ne (h : f ≠ g) : said ((f.name, v) :: members) g = said members g := by
  have hne : f.name ≠ g.name := fun heq => h (Field.name_injective heq)
  simp [said, hne]

/-- Over all members each field comes to what its own values come to. -/
theorem foldlM_hear?_eq_some_iff :
    members.foldlM (fun d m => d.hear? m.1 m.2) d = some d' ↔
      ∀ f, f.collect? (d.get f) (said members f) = some (d'.get f) := by
  induction members generalizing d with
  | nil =>
    simp only [List.foldlM_nil, said, List.filter_nil, List.map_nil, Field.collect?]
    constructor
    · rintro ⟨⟩ f
      rfl
    · intro h
      exact congrArg some (Draft.ext_get fun f => Option.some.inj (h f))
  | cons m members ih =>
    obtain ⟨name, v⟩ := m
    rw [List.foldlM_cons]
    cases hname : Field.ofName? name with
    | none =>
      simp only [Draft.hear?_of_unknown d hname, said_cons_of_unknown hname]
      exact ih
    | some f =>
      obtain rfl := Field.ofName?_eq_some_iff.mp hname
      rw [Draft.hear?_name, Draft.say?_eq]
      cases hget : d.get f with
      | some k =>
        refine ⟨fun h => ?_, fun h => ?_⟩
        · cases h
        · have hf := h f
          rw [said_cons_self, hget] at hf
          cases hf
      | none =>
        cases hkeep : f.keep? v with
        | none =>
          refine ⟨fun h => ?_, fun h => ?_⟩
          · cases h
          · have hf := h f
            rw [said_cons_self, hget, Field.collect?, hkeep] at hf
            cases hf
        | some k =>
          refine Iff.trans ih (forall_congr' fun g => ?_)
          by_cases h : f = g
          · subst h
            rw [Draft.get_set_self, said_cons_self, hget, Field.collect?, hkeep]
            rfl
          · rw [Draft.get_set_of_ne d h, said_cons_of_ne h]

end Members

/-! ### Objects -/

/-- An object is read as what the draft hears of its members. -/
theorem readDocument_of_object {ms : List (Option String × Doc)} {cs rest : List Char}
    (h : Spells (.value (.object ms)) cs rest) :
    Reads (readDocument cs)
      ((ms.foldlM (Json.withName Draft.hear?) {}).bind Draft.toRequest?) rest := by
  have hfront := h.front
  unfold readDocument
  generalize htext : Json.skipSpace cs = text at hfront
  cases hfront with
  | space hspace => exact absurd htext (Json.skipSpace_ne_cons hspace)
  | object members =>
    refine (Json.readObject_of_spells memberReads_hear? members {}).bind fun d _ => ?_
    unfold readDocument.finish
    dsimp only
    cases d.toRequest? with
    | none => exact .error _ rest
    | some r => exact .ok r rest

/-- The whole text of an object, whose names are strings. -/
theorem toOption_read {members : List (String × Doc)} {text : String}
    (h : Json.Denotes text (.object (members.map fun m => (some m.1, m.2)))) :
    (Request.read text).toOption
      = (members.foldlM (fun d m => Draft.hear? d m.1 m.2) {}).bind Draft.toRequest? := by
  obtain ⟨rest, hspells, hrest⟩ := h
  have hnames : (members.map fun m => (some m.1, m.2)).foldlM (Json.withName Draft.hear?) {}
      = members.foldlM (fun d m => Draft.hear? d m.1 m.2) {} := List.foldlM_map
  rw [← hnames]
  exact (readDocument_of_object hspells).at_end hrest

end Request

end DatabaseResource
