import DatabaseResource.Proofs.Document
import DatabaseResource.Proofs.Loading
import DatabaseResource.Proofs.Secrecy
import DatabaseResource.Proofs.Uniqueness

/-!
# The id of a resource

A resource has the id that the first document about it gives: the name of the database if it was
made, and the id that the stack knew otherwise. All that follows is asked of the resource by that id
and answered with it (`id_is_kept`), whatever becomes of the handling.
-/

namespace DatabaseResource

open Activity
open Json (Doc Denotes)

/-! ### Ids that are not empty -/

namespace Request

variable {r : Request} {id : String}

theorem knownId_of_given (hgiven : r.physicalResourceId = some id) (hid : id ≠ "") :
    r.knownId = id := by
  have hfull : id.isEmpty = false := by simpa using hid
  simp [knownId, hgiven, hfull]

theorem knownId_ne_empty (hlogical : r.logicalResourceId ≠ "") : r.knownId ≠ "" := by
  unfold knownId
  cases r.physicalResourceId with
  | none => exact hlogical
  | some id =>
    by_cases hid : id = ""
    · simpa [hid] using hlogical
    · simp [hid]

end Request

/-- A configuration that loads has a name that shows something. -/
theorem Config.name_ne_empty {env : Environment} {config : Config}
    (h : Config.ofEnvironment env = .ok config) : config.name ≠ "" := by
  obtain ⟨c, hc, -⟩ := (ofSettings_eq_ok_iff.mp h).nameVisible
  intro hname
  rw [hname] at hc
  exact List.not_mem_nil hc

/-! ### The id in a response -/

/-- An id that a request may be answered with: the one that is known, and for a create one that is
not empty. -/
inductive Request.MayGet (r : Request) : String → Prop where
  | known : MayGet r r.knownId
  | made {id : String} (create : r.requestType = .create) (id_ne : id ≠ "") : MayGet r id

/-- Whatever comes of the phase, the response has such an id. -/
theorem Concludes.mayGet {env : Environment} {start : Moment} {p : DatabaseProvisioner}
    (hp : (DatabaseProvisioner.ofEnvironment env start).result = some p) {r : Request}
    {server : Database.Server} {files : Files} {phaseEnd : Instant} {m : Moment}
    {said : List Log.Entry} {response : Response}
    (h : Concludes r phaseEnd m.now (dispatch r (p.provision server files) m) said response) :
    r.MayGet response.physicalResourceId := by
  have hconclusion := id h
  cases h with
  | failed | timedOut => exact .known
  | answered result =>
    cases htype : r.requestType with
    | update | delete =>
      obtain rfl : Response.acknowledged r = response := by simpa [dispatch, htype] using result
      exact .known
    | other text => simp [dispatch, htype] at result
    | create =>
      cases hconfig : Config.ofEnvironment env with
      | error e =>
        rw [DatabaseProvisioner.ofEnvironment_refused hconfig] at hp
        cases hp
        simp [dispatch, htype, answerCreate, DatabaseProvisioner.provision] at result
      | ok config =>
        rw [DatabaseProvisioner.ofEnvironment_result hconfig] at hp
        cases hp
        rcases hconclusion.of_create htype with ⟨rfl, -⟩ | ⟨⟨reason, rfl⟩, -⟩
        · exact .made htype (Config.name_ne_empty hconfig)
        · exact .known

/-- Handling a request composes one response, with such an id. -/
theorem handle_composes_mayGet {env : Environment} {start : Moment} {p : DatabaseProvisioner}
    (hp : (DatabaseProvisioner.ofEnvironment env start).result = some p) (r : Request)
    (deadline : Instant) (server : Database.Server) (files : Files) (o : Outlet) (m : Moment) :
    ∃ response,
      compositions (eventsOf (handle r deadline (p.provision server files) o m).steps)
        = [response] ∧
      r.MayGet response.physicalResourceId := by
  obtain ⟨phaseEnd, said, response, front, back, hconcludes, hevents, -, hfront, -, hback⟩ :=
    handle_events r deadline o m
      (p.provision_emits (P := fun e => e.composed? = none) server files (fun _ => rfl)
        fun _ => rfl)
  refine ⟨response, ?_, hconcludes.mayGet hp⟩
  rw [hevents, compositions_append, hfront, compositions_cons_composed, hback, List.nil_append]

/-! ### The id in a document -/

/-- A document is one object, which gives the resource one id. -/
def GivesId (document id : String) : Prop :=
  ∃ members, (∀ doc, Denotes document doc ↔ doc = .object members) ∧
    members.filter (fun m => m.1 = some "PhysicalResourceId")
      = [(some "PhysicalResourceId", .text (some id))]

theorem Response.body_givesId (response : Response) :
    GivesId response.body response.physicalResourceId := by
  refine ⟨_, response.denotes_body_iff, ?_⟩
  unfold entries
  cases response.reason <;> rfl

theorem GivesId.unique {document id id' : String} (h : GivesId document id)
    (h' : GivesId document id') : id = id' := by
  obtain ⟨members, hdenotes, hid⟩ := h
  obtain ⟨members', hdenotes', hid'⟩ := h'
  have hsame : members = members' :=
    Doc.object.inj ((hdenotes' _).mp ((hdenotes _).mpr rfl))
  rw [hsame, hid'] at hid
  simpa using hid.symm

/-! ### What happens to a resource -/

/-- A request, and a document that it is answered with. -/
structure Episode where
  request : Request
  document : String

namespace Episode

/-- A process answers the request with the document, whatever environment it has loaded, and
whatever becomes of the request in the world around it. -/
def Happens (e : Episode) : Prop :=
  ∃ (env : Environment) (start : Moment) (p : DatabaseProvisioner) (server : Database.Server)
    (files : Files) (o : Outlet) (deadline : Instant) (m : Moment),
    (DatabaseProvisioner.ofEnvironment env start).result = some p ∧
    e.document ∈ (compositions (eventsOf
      (handle e.request deadline (p.provision server files) o m).steps)).map Response.body

/-- What is asked of a resource that there is, by the id in the document before. -/
structure Follows (e e' : Episode) : Prop where
  later : e'.request.requestType ≠ .create
  id : ∃ id, GivesId e.document id ∧ e'.request.physicalResourceId = some id

variable {e e' : Episode} {id : String}

theorem Happens.givesId (h : e.Happens) : ∃ id, GivesId e.document id ∧ e.request.MayGet id := by
  obtain ⟨env, start, p, server, files, o, deadline, m, hp, hdocument⟩ := h
  obtain ⟨response, hcomposed, hid⟩ :=
    handle_composes_mayGet hp e.request deadline server files o m
  rw [hcomposed, List.map_singleton, List.mem_singleton] at hdocument
  exact ⟨_, hdocument ▸ response.body_givesId, hid⟩

/-- What follows keeps the id. -/
theorem Follows.givesId (h : e.Follows e') (hhappens : e'.Happens) (hid : GivesId e.document id)
    (hne : id ≠ "") : GivesId e'.document id := by
  obtain ⟨given, hgiven, hrequest⟩ := h.id
  obtain ⟨id', hid', hmay⟩ := hhappens.givesId
  rw [← hid.unique hgiven] at hrequest
  cases hmay with
  | known => rwa [Request.knownId_of_given hrequest hne] at hid'
  | made create => exact (h.later create).elim

/-- All that follows keeps the id. -/
theorem givesId_of_isChain {later : List Episode} (hchain : List.IsChain Follows (e :: later))
    (hhappens : ∀ e' ∈ later, e'.Happens) (hid : GivesId e.document id) (hne : id ≠ "") :
    ∀ e' ∈ e :: later, GivesId e'.document id := by
  induction later generalizing e with
  | nil =>
    intro e' he'
    rwa [List.mem_singleton.mp he']
  | cons next later ih =>
    obtain ⟨hfollows, hrest⟩ := List.isChain_cons_cons.mp hchain
    have hnext := hfollows.givesId (hhappens next List.mem_cons_self) hid hne
    intro e' he'
    rcases List.mem_cons.mp he' with rfl | he'
    · exact hid
    · exact ih hrest (fun x hx => hhappens x (List.mem_cons_of_mem next hx)) hnext e' he'

end Episode

/-- **A resource keeps its id.** Something is asked of a resource with a logical id, and then
updates, deletes and what is none of the known types, each by the id in the document before. Then
all documents give the same id, which is not empty. -/
theorem id_is_kept (first : Episode) (later : List Episode)
    (hlogical : first.request.logicalResourceId ≠ "")
    (hhappens : ∀ e ∈ first :: later, e.Happens)
    (hfollows : List.IsChain Episode.Follows (first :: later)) :
    ∃ id, id ≠ "" ∧ ∀ e ∈ first :: later, GivesId e.document id := by
  obtain ⟨id, hid, hmay⟩ := (hhappens first List.mem_cons_self).givesId
  have hne : id ≠ "" := by
    cases hmay with
    | known => exact Request.knownId_ne_empty hlogical
    | made _ id_ne => exact id_ne
  exact ⟨id, hne, Episode.givesId_of_isChain hfollows
    (fun e he => hhappens e (List.mem_cons_of_mem first he)) hid hne⟩

/-- A database `app` is made for the resource `Database`, and something unknown is asked of it
before it is deleted: all that follows is answered with the name of the database. -/
theorem app_keeps_its_id :
    let asked (requestType : RequestType) (id : Option String) : Request :=
      { (default : Request) with requestType, logicalResourceId := "Database",
                                 physicalResourceId := id }
    let create := asked .create none
    let unknown := asked (.other "Move") (some "app")
    let delete := asked .delete (some "app")
    let first : Episode := ⟨create, (Response.success create "app" [("DatabaseName", "app")]).body⟩
    let later : List Episode :=
      [⟨unknown, (Response.failed unknown "Unsupported request type: Move").body⟩,
        ⟨delete, (Response.acknowledged delete).body⟩]
    (∀ e ∈ first :: later, e.Happens) ∧ List.IsChain Episode.Follows (first :: later) ∧
      ∃ id, id ≠ "" ∧ ∀ e ∈ first :: later, GivesId e.document id := by
  intro asked create unknown delete first later
  let p : DatabaseProvisioner := .ready (.ofConfig appConfig)
  let files : Files := ⟨fun _ _ => .ok [], fun _ _ => some 0⟩
  let outlet : Outlet := ⟨.standard, .unreachable, fun _ => 0⟩
  have happens (r : Request) (response : Response)
      (h : compositions (eventsOf (handle r ⟨2000000000⟩ (p.provision welcoming files) outlet
        ⟨⟨0⟩, []⟩).steps) = [response]) : Episode.Happens ⟨r, response.body⟩ := by
    refine ⟨appEnvironment, ⟨⟨0⟩, []⟩, p, welcoming, files, outlet, ⟨2000000000⟩, ⟨⟨0⟩, []⟩,
      by decide +kernel, ?_⟩
    rw [h]
    exact List.mem_singleton_self _
  have hhappens : ∀ e ∈ first :: later, e.Happens := by
    intro e he
    simp only [first, later, List.mem_cons, List.not_mem_nil, or_false] at he
    rcases he with rfl | rfl | rfl
    · exact happens _ _ (by decide +kernel)
    · exact happens _ _ (by decide +kernel)
    · exact happens _ _ (by decide +kernel)
  have hfollows : List.IsChain Episode.Follows (first :: later) := by
    refine .cons_cons ⟨nofun, "app", Response.body_givesId _, rfl⟩ ?_
    refine .cons_cons ⟨nofun, "app", Response.body_givesId _, rfl⟩ ?_
    exact .singleton _
  exact ⟨hhappens, hfollows, id_is_kept first later (by decide) hhappens hfollows⟩

end DatabaseResource
