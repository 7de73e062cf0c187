import DatabaseResource.Proofs.Denotation
import DatabaseResource.Proofs.Receipt
import DatabaseResource.Proofs.Unambiguous

/-!
# The document that is put

The document of a response denotes the object with the response's entries, in their order, and is
read back as their values (`Response.denotes_body_iff`, `Response.read_body`). Whatever calls a
delivery makes, those that put something put that document (`Outlet.deliver_puts`). The ids in it
are the strings that the event denotes (`delivered_document`).
-/

namespace DatabaseResource

open Json (Doc Spells Writes Denotes)

/-! ### What is put -/

theorem mem_calls {events : List Event} {c : Http.Call} :
    c ∈ calls events ↔ Event.exchange (.call c) ∈ events := by
  simp only [calls, exchanges, List.mem_filterMap]
  constructor
  · rintro ⟨x, ⟨e, he, hx⟩, hc⟩
    cases e <;> cases hx
    cases x <;> cases hc
    exact he
  · intro h
    exact ⟨.call c, ⟨_, h, rfl⟩, rfl⟩

namespace Http

open Activity

variable {web : Web} {origin : Url} {n : Nat} {call : Call} {m : Moment} {document : String}

/-- A call that carries the document, or only asks for one, does so wherever it is sent. -/
theorem Attempted.puts_or_asks {run : Run (Except Error Nat)}
    (h : Attempted web origin n call m run) (hcall : call.Puts document ∨ call.Asks) :
    ∀ c ∈ calls (eventsOf run.steps), c.Puts document ∨ c.Asks := by
  induction h with
  | lost _ noCall => simp [noCall]
  | @redirected n call m a b status location next run _ follows _ ih =>
    have hnext : next.Puts document ∨ next.Asks := by
      rcases hcall with hputs | hasks
      · have hredirected := follows.puts_or_asks hputs
        split at hredirected
        · exact .inr hredirected
        · exact .inl hredirected
      · exact .inr (follows.asks hasks)
    intro c hc
    rw [Run.prepend_steps, eventsOf_append, eventsOf_callSteps] at hc
    have hc : c = call ∨ c ∈ calls (eventsOf run.steps) := by simpa [Exchange.call?] using hc
    rcases hc with rfl | hc
    · exact hcall
    · exact ih hnext c hc
  | _ => simpa [Exchange.call?] using hcall

end Http

namespace Outlet

open Sender

variable (o : Outlet) (url : Url) (m : Moment)

theorem trySteps_puts_or_asks (body : String) (i : Nat) :
    ∀ c ∈ calls (eventsOf (o.trySteps url body m i)), c.Puts body ∨ c.Asks := by
  unfold trySteps
  rw [deliverOnce_apply]
  split
  · exact (Http.attempt_attempted ..).puts_or_asks (.inl (.deliver url body))
  · simp

/-- Every call of a delivery that puts something puts the response's document. -/
theorem deliver_puts (response : Response) :
    ∀ c ∈ calls (eventsOf (o.deliver url response m).steps),
      c.method = .put → c.body = some response.body := by
  obtain ⟨k, -, hrun⟩ := o.deliver_eq_tries url m response
  have hcalls : ∀ c ∈ calls (eventsOf (o.deliver url response m).steps),
      c.Puts response.body ∨ c.Asks := by
    intro c hc
    rw [mem_calls, hrun, eventsOf_append, List.mem_append, eventsOf_flatMap, List.mem_flatMap] at hc
    rcases hc with ⟨i, -, hc⟩ | hc
    · rw [roundSteps, eventsOf_append, List.mem_append] at hc
      rcases hc with hc | hc
      · exact o.trySteps_puts_or_asks url m response.body i c (mem_calls.mpr hc)
      · cases h : o.tryOutcome url response.body m i <;> simp [h, pauseSteps] at hc
    · exact o.trySteps_puts_or_asks url m response.body k c (mem_calls.mpr hc)
  intro c hc hput
  rcases hcalls c hc with hputs | hasks
  · exact hputs.2
  · rw [hasks.1] at hput
    cases hput

end Outlet

/-! ### What a document denotes -/

/-- What a member of a response's document is. -/
inductive Entry where
  | text (s : String)
  | bool (b : Bool)
  | texts (members : List (String × String))

namespace Entry

def doc : Entry → Doc
  | text s => .text (some s)
  | bool b => .bool b
  | texts members => .object (members.map fun m => (some m.1, .text (some m.2)))

def value : Entry → Json.Value
  | text s => .text s
  | bool b => .bool b
  | texts members => .object (members.map fun m => (m.1, .text m.2))

def written : Entry → List Char
  | text s => Json.writeString s
  | bool b => Json.writeValue (.bool b)
  | texts members =>
    Json.writeObject (members.map fun m => Json.writeMember m.1 (Json.writeString m.2))

theorem writes (e : Entry) : Writes e.written e.doc := by
  cases e with
  | text s => exact Json.writes_string s
  | bool b => exact Json.writes_bool b
  | texts members => exact Json.writes_strings members

/-- Strings whose names differ are read back as they are. -/
theorem valueIn?_doc {levels : Nat} (e : Entry)
    (hnames : ∀ members, e = texts members → (members.map Prod.fst).Nodup) :
    e.doc.valueIn? (levels + 1) = some e.value := by
  cases e with
  | text s => rw [doc, Doc.valueIn?]; rfl
  | bool b => rw [doc, Doc.valueIn?]; rfl
  | texts members =>
    have htexts : ∀ m ∈ members.map fun m => (m.1, Doc.text (some m.2), Json.Value.text m.2),
        Doc.valueIn? levels m.2.1 = some m.2.2 := by
      intro m hm
      obtain ⟨m, -, rfl⟩ := List.mem_map.mp hm
      rw [Doc.valueIn?]
      rfl
    have hobject := Json.valueIn?_object_of_nodup htexts
      (by simpa [Function.comp_def] using hnames members rfl)
    simpa [doc, value, Function.comp_def] using hobject

end Entry

namespace Response

/-- The members of a response's document, with the data in some order. -/
def entries (response : Response) (data : List (String × String)) : List (String × Entry) :=
  [("Status", .text response.status.text)]
    ++ response.reason.toList.map (fun reason => ("Reason", .text reason))
    ++ [("PhysicalResourceId", .text response.physicalResourceId),
      ("StackId", .text response.stackId), ("RequestId", .text response.requestId),
      ("LogicalResourceId", .text response.logicalResourceId), ("NoEcho", .bool response.noEcho),
      ("Data", .texts data)]

end Response

/-- What a request is answered with, and the data in the answer. -/
inductive ResponseTo (r : Request) : Response → List (String × String) → Prop where
  | success (physicalResourceId : String) {data : List (String × String)}
      (names : (data.map Prod.fst).Nodup) : ResponseTo r (.success r physicalResourceId data) data
  | failed (reason : String) : ResponseTo r (.failed r reason) []

namespace Response

variable {r : Request} {response : Response} {data : List (String × String)}

/-- The data in the order of their names. -/
def sorted (data : List (String × String)) : List (String × String) :=
  data.mergeSort fun a b => a.1 ≤ b.1

theorem members_eq_entries (response : Response) :
    response.members = (response.entries (sorted response.data)).map
      fun e => Json.writeMember e.1 e.2.written := by
  unfold members entries
  cases response.reason <;> rfl

theorem names_of_entries (response : Response) (data : List (String × String)) :
    ((response.entries data).map Prod.fst).Nodup := by
  unfold entries
  cases response.reason <;> simp

/-- The document of a response denotes its entries, in their order. -/
theorem body_denotes (response : Response) : Denotes response.body
    (.object ((response.entries (sorted response.data)).map fun e => (some e.1, e.2.doc))) := by
  have hentries : ∀ m ∈ (response.entries (sorted response.data)).map
      fun e => (e.1, e.2.doc, e.2.written), Writes m.2.2 m.2.1 := by
    intro m hm
    obtain ⟨e, -, rfl⟩ := List.mem_map.mp hm
    exact e.2.writes
  have hdenotes := (Json.writes_object hentries).denotes
  simpa [body, members_eq_entries, Function.comp_def] using hdenotes

/-- It denotes nothing else. -/
theorem denotes_body_iff (response : Response) (doc : Doc) : Denotes response.body doc ↔
    doc = .object ((response.entries (sorted response.data)).map fun e => (some e.1, e.2.doc)) := by
  constructor
  · exact fun h => h.unique response.body_denotes
  · rintro rfl
    exact response.body_denotes

theorem sorted_perm (data : List (String × String)) : (sorted data).Perm data :=
  List.mergeSort_perm _ _

/-- The only texts among the entries are the data. -/
theorem eq_of_texts_mem_entries {name : String} {members : List (String × String)}
    (h : (name, .texts members) ∈ response.entries data) : members = data := by
  unfold entries at h
  cases response.reason <;> simp_all

/-- The document is read back as the values of the entries. -/
theorem read_body (hnames : (response.data.map Prod.fst).Nodup) : Json.read response.body
    = .ok (.object ((response.entries (sorted response.data)).map fun e => (e.1, e.2.value))) := by
  have hsorted : ((sorted response.data).map Prod.fst).Nodup :=
    ((sorted_perm response.data).map Prod.fst).nodup_iff.mpr hnames
  have hvalues : ∀ m ∈ (response.entries (sorted response.data)).map
      fun e => (e.1, e.2.doc, e.2.value), Doc.valueIn? (125 + 1) m.2.1 = some m.2.2 := by
    intro m hm
    obtain ⟨⟨name, entry⟩, he, rfl⟩ := List.mem_map.mp hm
    refine entry.valueIn?_doc fun members htexts => ?_
    subst htexts
    rwa [eq_of_texts_mem_entries he]
  have hobject := Json.valueIn?_object_of_nodup hvalues
    (by simpa [Function.comp_def] using response.names_of_entries (sorted response.data))
  have hread := Json.toOption_read_of_denotes response.body_denotes
  simp only [List.map_map, Function.comp_def] at hobject
  rw [Json.maxLevels, hobject] at hread
  exact Request.toOption_eq_some_iff.mp hread

end Response

/-- A document that gives a field a value is the only one that a text begins with. -/
theorem spells_iff_of_given {cs rest : List Char} {doc value : Doc} {f : Request.Field}
    (h : Spells (.value doc) cs rest) (hgiven : doc.given f = [value]) (doc' : Doc)
    (rest' : List Char) : Spells (.value doc') cs rest' ↔ doc' = doc ∧ rest' = rest := by
  constructor
  · intro h'
    have hclosed : ¬ (Json.Part.value doc).Open := by
      intro hopen
      cases doc with
      | number n => cases hgiven
      | _ => exact hopen
    obtain ⟨hdoc, hrest⟩ := h.alone h' rfl (absurd · hclosed)
    exact ⟨(Json.Part.value.inj hdoc).symm, hrest.symm⟩
  · rintro ⟨rfl, rfl⟩
    exact h

/-- **The document that answers an event.** Whatever a request that is read from an event is
answered with, what is put is the document of the response. It denotes one thing, the object that
has each entry of the response once, in their order, with the data that are given, and it is read
back as their values; a reason is there exactly for a failure. Its ids are the strings that the
event denotes, which begins with a single document. -/
theorem delivered_document (event : String) (r : Request) (rest : List Char)
    (hread : Request.readDocument event.toList = .ok (r, rest)) (response : Response)
    (data : List (String × String)) (hresponse : ResponseTo r response data) (o : Outlet)
    (m : Moment) :
    (∀ c ∈ calls (eventsOf (o.deliver r.responseUrl response m).steps),
      c.method = .put → c.body = some response.body) ∧
    (∃ ordered : List (String × String), ordered.Perm data ∧
      (∀ doc, Denotes response.body doc ↔
        doc = .object ((response.entries ordered).map fun e => (some e.1, e.2.doc))) ∧
      Json.read response.body
        = .ok (.object ((response.entries ordered).map fun e => (e.1, e.2.value)))) ∧
    (response.reason.isSome ↔ response.status = .failed) ∧ response.noEcho = false ∧
    ∃ doc : Doc,
      (∀ doc' rest', Spells (.value doc') event.toList rest' ↔ doc' = doc ∧ rest' = rest) ∧
      doc.given .stackId = [.text (some response.stackId)] ∧
      doc.given .requestId = [.text (some response.requestId)] ∧
      doc.given .logicalResourceId = [.text (some response.logicalResourceId)] := by
  obtain ⟨doc, hspells, hmeaning⟩ := Request.says_of_readDocument hread
  have hdata : response.data = data ∧ (data.map Prod.fst).Nodup := by
    cases hresponse with
    | success _ names => exact ⟨rfl, names⟩
    | failed => exact ⟨rfl, .nil⟩
  obtain ⟨rfl, hnames⟩ := hdata
  have hids : response.stackId = r.stackId ∧ response.requestId = r.requestId ∧
      response.logicalResourceId = r.logicalResourceId := by
    cases hresponse <;> exact ⟨rfl, rfl, rfl⟩
  refine ⟨o.deliver_puts r.responseUrl m response,
    ⟨_, Response.sorted_perm _, response.denotes_body_iff, Response.read_body hnames⟩, ?_, ?_,
    doc, spells_iff_of_given hspells hmeaning.stackId, ?_, ?_, ?_⟩
  · cases hresponse <;> simp [Response.success, Response.failed]
  · cases hresponse <;> rfl
  · rw [hids.1]
    exact hmeaning.stackId
  · rw [hids.2.1]
    exact hmeaning.requestId
  · rw [hids.2.2]
    exact hmeaning.logicalResourceId

/-- An event whose request id is written with escapes for a quotation mark, a letter, and a
character that takes a surrogate pair. -/
def escapedEvent : String :=
  "\x7b\"RequestType\":\"Create\",\"RequestId\":\"\\\"\\u0041\\ud83d\\ude00\",\"ResponseURL\":"
    ++ "\"https://[::1]/\",\"StackId\":\"stack\",\"LogicalResourceId\":\"Database\"\x7d"

/-- The request id that the event denotes is in the document of the answer. -/
theorem escapedEvent_answered :
    ∃ r rest, Request.readDocument escapedEvent.toList = .ok (r, rest) ∧
      ∃ ordered, Json.read (Response.failed r "reason").body
        = .ok (.object (((Response.failed r "reason").entries ordered).map
            fun e => (e.1, e.2.value))) ∧
        ((Response.failed r "reason").entries ordered)[4]? = some ("RequestId", .text "\"A😀") := by
  have hread : (Request.readDocument escapedEvent.toList).toOption.map (fun p => p.1.requestId)
      = some "\"A😀" := by decide +kernel
  obtain ⟨⟨r, rest⟩, hdocument, hid⟩ := Option.map_eq_some_iff.mp hread
  have hdocument := Request.toOption_eq_some_iff.mp hdocument
  obtain ⟨-, ⟨ordered, -, -, hbody⟩, -⟩ := delivered_document escapedEvent r rest hdocument _ []
    (.failed "reason") Outlet.movingOutlet ⟨⟨0⟩, []⟩
  refine ⟨r, rest, hdocument, ordered, hbody, ?_⟩
  have hid : r.requestId = "\"A😀" := hid
  simp [Response.entries, Response.failed, hid]

end DatabaseResource
