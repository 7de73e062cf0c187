import DatabaseResource.Proofs.History

/-!
# At most one initialisation

A database server that keeps its databases (`Database.KeepsDatabases`) completes the statement that
makes one only where it was not there before. So among all the handlings of any number of processes
there is at most one that sends a script or succeeds (`initialised_at_most_once`).
-/

namespace DatabaseResource

open Activity

/-! ### Servers that keep their databases -/

namespace Database

/-- What does not take a database away: what is no query, the statement that makes some database,
and any query over a connection to the database itself. -/
def Harmless (name : String) (past : List Traffic) : Traffic → Prop
  | .query text =>
    (∃ other, Config.isPlainIdentifier other = true ∧ text = "CREATE DATABASE " ++ other) ∨
      (startups past).getLast?.map Prod.snd = some name
  | _ => True

/-- A server whose databases are known behind any traffic. It completes the statement that makes a
database only where there was none, and there is one then; to the statement for a database that is
there it answers an error, or hangs up. What is harmless to a database leaves it there. All else is
open: whether a statement that does not complete makes a database, when it does, and what else is
answered. -/
structure KeepsDatabases (server : Server) (databases : List Traffic → String → Prop) : Prop where
  made {past : List Traffic} {name : String} (plain : Config.isPlainIdentifier name = true)
    (settles : Settles (server.reply (past ++ [.query ("CREATE DATABASE " ++ name)]))) :
    ¬ databases past name ∧ databases (past ++ [.query ("CREATE DATABASE " ++ name)]) name
  kept {past : List Traffic} {t : Traffic} {name : String} (there : databases past name)
    (harmless : Harmless name past t) : databases (past ++ [t]) name

/-- All of some traffic is harmless where it is sent. -/
def AllHarmless (name : String) : List Traffic → List Traffic → Prop
  | _, [] => True
  | past, t :: more => Harmless name past t ∧ AllHarmless name (past ++ [t]) more

variable {server : Server} {databases : List Traffic → String → Prop} {name : String}
  {past more rest : List Traffic}

theorem allHarmless_append :
    AllHarmless name past (more ++ rest)
      ↔ AllHarmless name past more ∧ AllHarmless name (past ++ more) rest := by
  induction more generalizing past with
  | nil => simp [AllHarmless]
  | cons t more ih => simp [AllHarmless, ih, and_assoc]

theorem AllHarmless.of_isPrefix (h : AllHarmless name past more) (hrest : rest <+: more) :
    AllHarmless name past rest := by
  obtain ⟨back, rfl⟩ := hrest
  exact (allHarmless_append.mp h).1

/-- Statements that make databases are harmless wherever they are sent. -/
theorem allHarmless_of_queries (h : ∀ text ∈ queries more, ∃ other,
      Config.isPlainIdentifier other = true ∧ text = "CREATE DATABASE " ++ other) :
    AllHarmless name past more := by
  induction more generalizing past with
  | nil => trivial
  | cons t more ih =>
    have hmore : queries [t] ++ queries more = queries (t :: more) := (queries_append [t] more).symm
    refine ⟨?_, ih fun text htext => h text (hmore ▸ List.mem_append_right _ htext)⟩
    cases t with
    | query text => exact .inl (h text (hmore ▸ List.mem_append_left _ (List.mem_singleton_self _)))
    | _ => trivial

/-- A conversation over a connection to a database is harmless to it. -/
theorem Converses.allHarmless {target : Target} {text : String}
    (h : Converses target text more) (hname : target.database = name) :
    AllHarmless name past more := by
  obtain ⟨opening, hopens, hbegins⟩ := h
  obtain ⟨hstartups, hqueries, -⟩ := hopens.sent_says
  have hwhole : AllHarmless name past (opening ++ [.query text, .terminate]) := by
    refine allHarmless_append.mpr ⟨allHarmless_of_queries (by simp [hqueries]), .inr ?_, trivial,
      trivial⟩
    rw [startups_append, hstartups, List.getLast?_concat, ← hname]
    rfl
  cases hbegins with
  | speaking beginning => exact hwhole.of_isPrefix beginning
  | hungUp beginning =>
    exact allHarmless_append.mpr ⟨hwhole.of_isPrefix beginning, trivial, trivial⟩

namespace KeepsDatabases

variable (hserver : KeepsDatabases server databases)

include hserver

theorem kept_append (hthere : databases past name) (hmore : AllHarmless name past more) :
    databases (past ++ more) name := by
  induction more generalizing past with
  | nil => simpa using hthere
  | cons t more ih => simpa using ih (hserver.kept hthere hmore.1) hmore.2

/-- A statement that is served makes a database that was not there before. -/
theorem made_by_serves {target : Target} {sent : List Traffic} {time : Nat}
    (hplain : Config.isPlainIdentifier name = true)
    (h : Serves server target ("CREATE DATABASE " ++ name) past sent time) :
    ¬ databases past name ∧ databases (past ++ sent) name := by
  obtain @⟨opening, _, _, _, _, _, hestablished, ⟨-, hsettles⟩, ⟨⟩⟩ := h
  obtain ⟨habsent, hthere⟩ := hserver.made hplain hsettles
  have hopening : AllHarmless name past opening :=
    allHarmless_of_queries (by simp [hestablished.sent_says.2])
  refine ⟨fun hbefore => habsent (hserver.kept_append hbefore hopening), ?_⟩
  have hclosing (past : List Traffic) : AllHarmless name past [.terminate] := ⟨trivial, trivial⟩
  simpa using hserver.kept_append hthere (hclosing _)

end KeepsDatabases

end Database

/-! ### What a handling sends -/

theorem compositions_around {front back : List Event} (response : Response)
    (hfront : compositions front = []) (hback : compositions back = []) :
    compositions (front ++ .composed response :: back) = [response] := by
  rw [compositions_append, hfront, compositions_cons_composed, hback, List.nil_append]

theorem Answered.compositions_length_le {p : DatabaseProvisioner} {world : World} {i : Invocation}
    {m : Moment} {run : Run (Except InvocationError Unit)} (h : Answered p world i m run) :
    (compositions (eventsOf run.steps)).length ≤ 1 := by
  cases h with
  | unread _ events | late _ events => simp [events]
  | composed _ _ events _ front_compositions _ back_compositions =>
    simp [events, compositions_around _ front_compositions back_compositions]

section Dispatch

variable {r : Request} {m : Moment}

theorem dispatch_steps_of_ne_create (hcreate : r.requestType ≠ .create)
    (provisioner : Provisioner) : (dispatch r provisioner m).steps = [] := by
  unfold dispatch
  cases htype : r.requestType with
  | create => exact (hcreate htype).elim
  | _ => rfl

theorem traffic_dispatch_create (hcreate : r.requestType = .create) (provisioner : Provisioner) :
    traffic (eventsOf (dispatch r provisioner m).steps)
      = traffic (eventsOf (provisioner (m.after [.event .provisioning])).steps) := by
  simp only [dispatch, hcreate, answerCreate, emit_bind_apply, Run.prepend_steps]
  rw [bind_steps_of_nil _ fun result m => by cases result <;> rfl]
  simp

/-- What a dispatch sends to the server is what a bootstrap does, or nothing. -/
theorem dispatch_bootstraps (b : Bootstrapper) (server : Database.Server) (files : Files) :
    ∃ first second, traffic (eventsOf (dispatch r (b.provision server files) m).steps)
        = first ++ second ∧
      Bootstraps server files b (traffic m.events) m.now first second := by
  by_cases hcreate : r.requestType = .create
  · obtain ⟨first, second, hsent, hbootstraps, -⟩ := @Bootstrapper.bootstrap_sends server
      files b (m.after [.event .provisioning])
    refine ⟨first, second, ?_, by simpa using hbootstraps⟩
    rw [traffic_dispatch_create hcreate, Bootstrapper.provision,
      bind_steps_of_nil _ fun result m => by cases result <;> rfl, hsent]
  · refine ⟨[], [], by rw [dispatch_steps_of_ne_create hcreate]; rfl, .making ?_⟩
    exact ⟨_, .mk (.inl rfl) (.inl rfl), .speaking List.nil_prefix⟩

end Dispatch

namespace Handling

/-- Whether the invocation asks for a create. -/
def isCreate (x : Handling) : Bool :=
  match Request.readDocument x.invocation.event.toList with
  | .ok (r, _) => r.requestType = .create
  | .error _ => false

/-- The queries that are sent behind the first one. -/
def scripts (x : Handling) : List String := (Database.queries x.sent).drop 1

/-- The successes that are composed for a create. -/
def successes (x : Handling) : List Response :=
  if x.isCreate then (compositions x.events).filter (·.status = .success) else []

theorem mem_successes_iff {x : Handling} {response : Response} :
    response ∈ x.successes
      ↔ x.isCreate = true ∧ response ∈ compositions x.events ∧ response.status = .success := by
  cases hcreate : x.isCreate <;> simp [successes, hcreate]

/-- What has composed its one response has sent all that it sends. -/
theorem sent_of_composed {x : Handling} {front back : List Event} {response : Response}
    (hpart : x.events <+: front ++ .composed response :: back)
    (hcomposed : compositions x.events ≠ []) (hfront : compositions front = [])
    (hback : traffic back = []) : x.sent = traffic front := by
  rcases List.prefix_or_prefix_of_prefix hpart (List.prefix_append front _) with hp | ⟨said, hsaid⟩
  · have hnone : compositions x.events <+: compositions front := hp.filterMap _
    exact (hcomposed (List.prefix_nil.mp (hfront ▸ hnone))).elim
  · rw [← hsaid] at hpart
    have hrest : traffic said <+: traffic back :=
      ((List.prefix_append_right_inj front).mp hpart).filterMap _
    have hquiet : traffic said = [] := List.prefix_nil.mp (hback ▸ hrest)
    rw [sent, ← hsaid, traffic_append, hquiet, List.append_nil]

namespace Arises

variable {p : DatabaseProvisioner} {b : Bootstrapper} {server : Database.Server} {x : Handling}

/-- A handling is a beginning of an answer, and the whole of one where it has come to an end. -/
theorem exists_answered (h : x.Arises p server) :
    ∃ world run, world.server = server ∧ Answered p world x.invocation x.begun run ∧
      x.events <+: eventsOf run.steps ∧
      ∀ result, x.result = some result →
        x.events = eventsOf run.steps ∧ run.result = some result := by
  obtain ⟨world, stop, hserver, hevents, hresult⟩ := h
  refine ⟨world, _, hserver, answer_answered .., hevents ▸ cutAt_events_isPrefix .., ?_⟩
  intro result hx
  rcases cutAt_cases (answer p world x.invocation) stop x.begun with ⟨a, hr, -, hcut⟩ | ⟨-, hcut⟩
  · rw [hevents, hcut]
    rw [hcut, hx] at hresult
    exact ⟨rfl, hr.trans hresult.symm⟩
  · rw [hcut, hx] at hresult
    cases hresult

/-- What is sent of a handling is a beginning of what its dispatch sends. -/
theorem sent_isPrefix (h : x.Arises p server) :
    x.sent = [] ∨ ∃ (r : Request) (rest : List Char) (files : Files),
      Request.readDocument x.invocation.event.toList = .ok (r, rest) ∧
      x.sent <+: traffic (eventsOf (dispatch r (p.provision server files) x.begun).steps) := by
  obtain ⟨world, run, rfl, hanswered, hpart, -⟩ := h.exists_answered
  have hsent : x.sent <+: traffic (eventsOf run.steps) := hpart.filterMap _
  cases hanswered with
  | unread _ events | late _ events =>
    rw [events] at hsent
    exact .inl (List.prefix_nil.mp hsent)
  | @composed r rest phaseEnd _ response front back read _ events front_traffic _ back_traffic =>
    refine .inr ⟨r, rest, world.files, read, hsent.trans ?_⟩
    have hback : traffic (.composed response :: back) = [] := back_traffic
    rw [events, traffic_append, front_traffic, hback, List.append_nil]
    exact (cutAt_events_isPrefix ..).filterMap _

theorem isCreate_iff {r : Request} {rest : List Char}
    (hread : Request.readDocument x.invocation.event.toList = .ok (r, rest)) :
    x.isCreate = true ↔ r.requestType = .create := by
  simp [isCreate, hread]

/-- Nothing but a create sends anything to the server. -/
theorem sent_of_not_isCreate (h : x.Arises p server) (hcreate : x.isCreate = false) :
    x.sent = [] := by
  rcases h.sent_isPrefix with hsent | ⟨r, rest, files, hread, hsent⟩
  · exact hsent
  · have hne : r.requestType ≠ .create := by simpa [isCreate, hread] using hcreate
    rw [dispatch_steps_of_ne_create hne] at hsent
    exact List.prefix_nil.mp hsent

/-- Without a configuration nothing is sent. -/
theorem sent_of_unconfigured {reason : String} (h : x.Arises (.unconfigured reason) server) :
    x.sent = [] := by
  rcases h.sent_isPrefix with hsent | ⟨r, rest, files, -, hsent⟩
  · exact hsent
  · by_cases hcreate : r.requestType = .create
    · rw [traffic_dispatch_create hcreate] at hsent
      exact List.prefix_nil.mp hsent
    · rw [dispatch_steps_of_ne_create hcreate] at hsent
      exact List.prefix_nil.mp hsent

/-- With a configuration what is sent is a beginning of a bootstrap. -/
theorem bootstraps (h : x.Arises (.ready b) server) :
    ∃ files first second, x.sent = first ++ second ∧
      Bootstraps server files b (traffic x.begun.events) x.begun.now first second := by
  rcases h.sent_isPrefix with hsent | ⟨r, rest, files, -, hsent⟩
  · exact ⟨⟨fun _ _ => .ok [], fun _ _ => none⟩, [], [], hsent,
      .making ⟨_, .mk (.inl rfl) (.inl rfl), .speaking List.nil_prefix⟩⟩
  · obtain ⟨first, second, hwhole, hbootstraps⟩ :=
      dispatch_bootstraps (r := r) (m := x.begun) b server files
    rw [DatabaseProvisioner.provision, hwhole] at hsent
    exact ⟨files, hbootstraps.of_isPrefix hsent⟩

/-- At most one response is composed. -/
theorem compositions_length_le (h : x.Arises p server) : (compositions x.events).length ≤ 1 := by
  obtain ⟨world, run, -, hanswered, hpart, -⟩ := h.exists_answered
  exact Nat.le_trans (hpart.filterMap Event.composed?).length_le hanswered.compositions_length_le

theorem successes_length_le (h : x.Arises p server) : x.successes.length ≤ 1 := by
  unfold successes
  split
  · exact Nat.le_trans (List.length_filter_le ..) h.compositions_length_le
  · exact Nat.zero_le 1

/-- A create that succeeds has initialised the database. -/
theorem initialises_of_mem_successes {composed : Response} (h : x.Arises p server)
    (hcomposed : composed ∈ x.successes) :
    ∃ b files time, p = .ready b ∧
      Initialises server files b (traffic x.begun.events) x.begun.now x.sent time := by
  obtain ⟨hcreate, hcomposed, hsuccess⟩ := mem_successes_iff.mp hcomposed
  obtain ⟨world, run, rfl, hanswered, hpart, -⟩ := h.exists_answered
  have hsaid := hpart.filterMap Event.composed?
  cases hanswered with
  | unread _ events | late _ events =>
    rw [events] at hsaid
    cases hsaid.subset hcomposed
  | @composed r rest phaseEnd said response front back read concludes events front_traffic
      front_compositions back_traffic back_compositions =>
    have hwhole := compositions_around response front_compositions back_compositions
    rw [events] at hsaid hpart
    obtain rfl : composed = response := List.mem_singleton.mp (hwhole ▸ hsaid.subset hcomposed)
    have hsent := (sent_of_composed hpart (List.ne_nil_of_mem hcomposed) front_compositions
      back_traffic).trans front_traffic
    have htype := (isCreate_iff read).mp hcreate
    cases p with
    | ready b =>
      rcases concludes.of_create htype with ⟨-, time, hinitialises, -⟩ | ⟨⟨reason, rfl⟩, -⟩
      · exact ⟨b, world.files, time, rfl, hsent ▸ hinitialises⟩
      · cases hsuccess
    | unconfigured reason =>
      cases concludes with
      | answered result =>
        simp [dispatch, htype, answerCreate, DatabaseProvisioner.provision] at result
      | failed | timedOut => cases hsuccess

/-- A create that is answered, by a deadline that there is, has composed a response. -/
theorem composes (h : x.Arises p server) (hcreate : x.isCreate = true)
    {result : Except InvocationError Unit} (hresult : x.result = some result)
    (hlate : result ≠ .error .noSuchInstant) : compositions x.events ≠ [] := by
  obtain ⟨world, run, rfl, hanswered, -, hwhole⟩ := h.exists_answered
  obtain ⟨hevents, hrun⟩ := hwhole result hresult
  cases hanswered with
  | unread read => simp [isCreate, read] at hcreate
  | late late =>
    rw [hrun] at late
    exact (hlate (Option.some.inj late)).elim
  | composed _ _ events =>
    rw [hevents, events]
    simp

end Arises

end Handling

/-! ### One handling, and many -/

namespace Bootstraps

variable {server : Database.Server} {databases : List Database.Traffic → String → Prop}
  {files : Files} {b : Bootstrapper} {past first second : List Database.Traffic} {start : Instant}

theorem allHarmless (h : Bootstraps server files b past start first second)
    (hplain : Config.isPlainIdentifier b.config.name = true) :
    Database.AllHarmless b.config.name past (first ++ second) := by
  obtain ⟨script, hsecond, -⟩ := h.exists_script
  refine Database.allHarmless_append.mpr ⟨?_, hsecond.allHarmless rfl⟩
  refine Database.allHarmless_of_queries fun text htext => ⟨b.config.name, hplain, ?_⟩
  exact List.mem_singleton.mp (h.first_converses.queries_isPrefix.subset htext)

/-- A script is sent only behind the statement that has made the database. -/
theorem made_of_script (h : Bootstraps server files b past start first second)
    (hserver : Database.KeepsDatabases server databases)
    (hplain : Config.isPlainIdentifier b.config.name = true)
    (hscript : (Database.queries (first ++ second)).drop 1 ≠ []) :
    ¬ databases past b.config.name ∧ databases (past ++ (first ++ second)) b.config.name := by
  obtain ⟨script, hsecond, -, hserved⟩ := h.exists_script
  have hfilling : second ≠ [] := by
    rintro rfl
    have hlength := h.first_converses.queries_isPrefix.length_le
    rw [List.append_nil, ne_eq, List.drop_eq_nil_iff] at hscript
    exact hscript hlength
  obtain ⟨t, time, hserves, -⟩ := hserved hfilling
  obtain ⟨habsent, hthere⟩ := hserver.made_by_serves hplain hserves
  refine ⟨habsent, ?_⟩
  rw [← List.append_assoc]
  exact hserver.kept_append hthere (hsecond.allHarmless rfl)

end Bootstraps

/-- The configuration, if one is loaded, is for a database of this name. -/
def DatabaseProvisioner.Named (p : DatabaseProvisioner) (name : String) : Prop :=
  ∀ b, p = .ready b → b.config.name = name

namespace Handling.Arises

variable {p : DatabaseProvisioner} {name : String} {server : Database.Server}
  {databases : List Database.Traffic → String → Prop} {x : Handling}

/-- The queries of a handling are the statement and a script, or fewer. -/
theorem queries_isPrefix (h : x.Arises p server) (hp : p.Named name) :
    ∃ script, Database.queries x.sent <+: ["CREATE DATABASE " ++ name, script] := by
  cases p with
  | unconfigured reason => exact ⟨"", by rw [h.sent_of_unconfigured]; exact List.nil_prefix⟩
  | ready b =>
    obtain ⟨files, first, second, hsent, hbootstraps⟩ := h.bootstraps
    obtain ⟨script, -, hqueries, -⟩ := hbootstraps.exists_script
    obtain rfl := hp b rfl
    exact ⟨script, hsent ▸ hqueries⟩

theorem scripts_length_le (h : x.Arises p server) (hp : p.Named name) : x.scripts.length ≤ 1 := by
  obtain ⟨script, hqueries⟩ := h.queries_isPrefix hp
  simpa [scripts] using hqueries.length_le

theorem allHarmless (h : x.Arises p server) (hp : p.Named name)
    (hplain : Config.isPlainIdentifier name = true) :
    Database.AllHarmless name (traffic x.begun.events) x.sent := by
  cases p with
  | unconfigured reason =>
    rw [h.sent_of_unconfigured]
    trivial
  | ready b =>
    obtain ⟨files, first, second, hsent, hbootstraps⟩ := h.bootstraps
    obtain rfl := hp b rfl
    exact hsent ▸ hbootstraps.allHarmless hplain

/-- **A handling that sends a script has made the database.** It was not there when the handling
began. -/
theorem made_of_scripts (h : x.Arises p server) (hp : p.Named name)
    (hplain : Config.isPlainIdentifier name = true)
    (hserver : Database.KeepsDatabases server databases) (hscripts : x.scripts ≠ []) :
    ¬ databases (traffic x.begun.events) name ∧
      databases (traffic x.begun.events ++ x.sent) name := by
  cases p with
  | unconfigured reason =>
    rw [scripts, h.sent_of_unconfigured] at hscripts
    exact (hscripts rfl).elim
  | ready b =>
    obtain ⟨files, first, second, hsent, hbootstraps⟩ := h.bootstraps
    obtain rfl := hp b rfl
    rw [scripts, hsent] at hscripts
    exact hsent ▸ hbootstraps.made_of_script hserver hplain hscripts

/-- A create that succeeds has sent a script. -/
theorem scripts_of_mem_successes {composed : Response} (h : x.Arises p server)
    (hcomposed : composed ∈ x.successes) : x.scripts ≠ [] := by
  obtain ⟨b, files, time, -, hinitialises⟩ := h.initialises_of_mem_successes hcomposed
  obtain ⟨-, script, hqueries⟩ := hinitialises.sent_says
  simp [scripts, hqueries]

end Handling.Arises

namespace Consecutive

variable {p : DatabaseProvisioner} {name : String} {server : Database.Server}
  {databases : List Database.Traffic → String → Prop} {past : List Database.Traffic}
  {hs : List Handling} (hp : p.Named name) (hplain : Config.isPlainIdentifier name = true)

include hp hplain

theorem allHarmless (h : Consecutive (Handling.Arises p server) past hs) :
    Database.AllHarmless name past (hs.flatMap Handling.sent) := by
  induction h with
  | nil => trivial
  | cons holds begun _ ih =>
    exact Database.allHarmless_append.mpr ⟨begun ▸ holds.allHarmless hp hplain, ih⟩

/-- What only a handling that makes the database does, and once, happens at most once, and not at
all where the database is there. -/
theorem flatMap_length_le_one (hserver : Database.KeepsDatabases server databases) {γ : Type}
    {f : Handling → List γ} (h : Consecutive (Handling.Arises p server) past hs)
    (honce : ∀ x : Handling, x.Arises p server → (f x).length ≤ 1)
    (hmakes : ∀ x : Handling, x.Arises p server → f x ≠ [] → x.scripts ≠ []) :
    (hs.flatMap f).length ≤ 1 ∧ (databases past name → hs.flatMap f = []) := by
  induction h with
  | nil => simp
  | @cons past x hs holds begun rest ih =>
    subst begun
    rw [List.flatMap_cons, List.length_append]
    by_cases hf : f x = []
    · rw [hf]
      refine ⟨by simpa using ih.1, fun hthere => ?_⟩
      exact ih.2 (hserver.kept_append hthere (holds.allHarmless hp hplain))
    · obtain ⟨habsent, hthere⟩ := holds.made_of_scripts hp hplain hserver (hmakes x holds hf)
      rw [ih.2 hthere]
      exact ⟨honce x holds, (absurd · habsent)⟩

end Consecutive

theorem DatabaseProvisioner.ofEnvironment_named {env : Environment} {name : String} {m : Moment}
    {p : DatabaseProvisioner} (hname : Settings.LastGiven env .name name)
    (hp : (DatabaseProvisioner.ofEnvironment env m).result = some p) : p.Named name := by
  rintro b rfl
  cases hconfig : Config.ofEnvironment env with
  | error e =>
    simp [DatabaseProvisioner.ofEnvironment, hconfig, map_apply] at hp
  | ok config =>
    obtain rfl : b = .ofConfig config := by
      rw [DatabaseProvisioner.ofEnvironment_result hconfig] at hp
      cases hp
      rfl
    have hgiven := Config.name_of_ofSettings hconfig
    rw [Settings.ofEnvironment_eq_some_iff.mpr hname] at hgiven
    exact (Option.some.inj hgiven).symm

/-- **At most one initialisation.** Processes are given, one after the other and each gone at any
instant, in an environment whose name is a plain identifier, and a server that keeps its databases.
What they do is told by their handlings. Over all of them at most one script is sent, and none where
the database was there at the start; at most one create is answered with a success. A database that
is there stays. A create that begins where the database is there sends no script, and what it is
answered with is a failure; one that sends a script or succeeds has made the database itself. All
queries are the statement and a script, and nothing but a create sends any. -/
theorem initialised_at_most_once {env : Environment} {name : String} {server : Database.Server}
    {databases : List Database.Traffic → String → Prop}
    (hname : Settings.LastGiven env .name name) (hplain : Config.isPlainIdentifier name = true)
    (hserver : Database.KeepsDatabases server databases) (processes : List Process) (m : Moment) :
    let run := serveAll env server processes m
    let handled := history env server processes m
    let past := traffic m.events
    let sent := traffic (eventsOf run.steps)
    handled.flatMap Handling.sent = sent ∧
    handled.flatMap (fun x => compositions x.events) = compositions (eventsOf run.steps) ∧
    (handled.flatMap Handling.scripts).length ≤ 1 ∧
    (databases past name → handled.flatMap Handling.scripts = []) ∧
    (handled.flatMap Handling.successes).length ≤ 1 ∧
    (∀ seen more, seen ++ more <+: sent → databases (past ++ seen) name →
      databases (past ++ (seen ++ more)) name) ∧
    ∀ front x back, handled = front ++ x :: back →
      let before := past ++ front.flatMap Handling.sent
      traffic x.begun.events = before ∧
      (∃ script, Database.queries x.sent <+: ["CREATE DATABASE " ++ name, script]) ∧
      (x.isCreate = false → x.sent = []) ∧
      (x.scripts ≠ [] ∨ x.successes ≠ [] →
        ¬ databases before name ∧ databases (before ++ x.sent) name) ∧
      (x.isCreate = true → databases before name →
        x.scripts = [] ∧ (∀ response ∈ compositions x.events, response.status = .failed) ∧
        ∀ result, x.result = some result → result ≠ .error .noSuchInstant →
          compositions x.events ≠ []) := by
  obtain ⟨entries, p, hstart, hresult⟩ := startUp_apply env
  have hp := DatabaseProvisioner.ofEnvironment_named hname (hresult m)
  have hconsecutive := history_consecutive hstart server processes m
  have hscript (x : Handling) (hx : x.Arises p server) (hsuccess : x.successes ≠ []) :
      x.scripts ≠ [] := by
    obtain ⟨response, hresponse⟩ := List.exists_mem_of_ne_nil _ hsuccess
    exact hx.scripts_of_mem_successes hresponse
  have hscripts := hconsecutive.flatMap_length_le_one hp hplain hserver (f := Handling.scripts)
    (fun x hx => hx.scripts_length_le hp) fun _ _ => id
  have hsuccesses := hconsecutive.flatMap_length_le_one hp hplain hserver (f := Handling.successes)
    (fun x hx => hx.successes_length_le) hscript
  have hsent : (history env server processes m).flatMap Handling.sent
      = traffic (eventsOf (serveAll env server processes m).steps) :=
    history_events hstart (fun _ _ => rfl) server processes m
  refine ⟨hsent, history_events hstart (fun _ _ => rfl) server processes m, hscripts.1,
    hscripts.2, hsuccesses.1, fun seen more hmore hthere => ?_, fun front x back hhandled => ?_⟩
  · have hwhole := hconsecutive.allHarmless hp hplain
    rw [hsent] at hwhole
    rw [← List.append_assoc]
    exact hserver.kept_append hthere
      (Database.allHarmless_append.mp (hwhole.of_isPrefix hmore)).2
  · rw [hhandled] at hconsecutive
    obtain ⟨harises, hbegun, -⟩ := hconsecutive.split
    have hmade : x.scripts ≠ [] ∨ x.successes ≠ [] →
        ¬ databases (traffic x.begun.events) name ∧
          databases (traffic x.begun.events ++ x.sent) name :=
      fun h => harises.made_of_scripts hp hplain hserver (h.elim id (hscript x harises))
    rw [hbegun] at hmade
    refine ⟨hbegun, harises.queries_isPrefix hp, harises.sent_of_not_isCreate, hmade,
      fun hcreate hthere => ⟨?_, fun response hresponse => ?_,
        fun result => harises.composes hcreate⟩⟩
    · exact Decidable.byContradiction fun hsome => (hmade (.inl hsome)).1 hthere
    · cases hstatus : response.status with
      | failed => rfl
      | success =>
        refine absurd hthere (hmade (.inr ?_)).1
        exact List.ne_nil_of_mem (Handling.mem_successes_iff.mpr ⟨hcreate, hresponse, hstatus⟩)

/-- A server that lets everybody in, and completes a query only where it was not sent before. -/
def keeping : Database.Server :=
  { welcoming with
    reply := fun past => match past.getLast? with
      | some t => if t ∈ past.dropLast then [.error ⟨some "42P04", "it is there"⟩, .ready]
        else [.ready]
      | none => [.ready] }

theorem keeping_keepsDatabases : Database.KeepsDatabases keeping fun past name =>
    .query ("CREATE DATABASE " ++ name) ∈ past where
  made {past name} _ settles := by
    refine ⟨fun hthere => ?_, by simp⟩
    obtain ⟨front, rest, hreply, hquiet⟩ := settles
    simp only [keeping, List.getLast?_concat, List.dropLast_concat, hthere, if_true] at hreply
    cases front with
    | nil => cases hreply
    | cons answer front =>
      obtain ⟨rfl, -⟩ := List.cons.inj hreply
      exact hquiet _ (List.mem_cons_self ..) trivial
  kept there _ := List.mem_append_left _ there

/-- Two processes that are both asked to create send one script between them. -/
theorem app_initialised_at_most_once :
    let create := "[\"Create\",\"r\",\"https://host/\",\"s\",\"l\",\"t\",null,\"x\",null,null]"
    let process : Process :=
      ⟨0, ⟨.standard, .unreachable, fun _ => 0⟩, ⟨fun _ _ => .ok [], fun _ _ => some 0⟩,
        fun _ => .after .zero, [⟨"1", 4000, create⟩], ⟨60000000000⟩⟩
    Settings.LastGiven appEnvironment .name "app" ∧ Config.isPlainIdentifier "app" = true ∧
    ((history appEnvironment keeping [process, process] ⟨⟨0⟩, []⟩).flatMap
      Handling.scripts).length ≤ 1 := by
  have hname : Settings.LastGiven appEnvironment .name "app" :=
    Settings.ofEnvironment_eq_some_iff.mp (by decide +kernel)
  have hplain : Config.isPlainIdentifier "app" = true := by decide
  exact ⟨hname, hplain,
    (initialised_at_most_once hname hplain keeping_keepsDatabases _ _).2.2.1⟩

end DatabaseResource
