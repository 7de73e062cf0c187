import DatabaseResource.Proofs.Phase
import DatabaseResource.Proofs.Session
import DatabaseResource.Proofs.Settings

/-!
# Initialised databases

What the database server and the script file have to do for a database to be made and filled
(`Initialises`). A create succeeds exactly if they do it in time
(`create_succeeds_iff_initialises`).
-/

namespace DatabaseResource

open Activity

/-! ### What is sent -/

namespace Database

variable {server : Server} {target : Target} {mode : SslMode} {text : String}
  {past sent : List Traffic} {time : Nat}

@[simp] theorem startups_append (a b : List Traffic) :
    startups (a ++ b) = startups a ++ startups b :=
  List.filterMap_append

@[simp] theorem queries_append (a b : List Traffic) :
    queries (a ++ b) = queries a ++ queries b :=
  List.filterMap_append

theorem Negotiates.sent_says (h : Negotiates server mode past sent time) :
    startups sent = [] ∧ queries sent = [] := by
  cases h <;> exact ⟨rfl, rfl⟩

theorem Admits.sent_says (h : Admits server target past sent time) :
    startups sent = [(target.username, target.database)] ∧ queries sent = [] := by
  cases h <;> exact ⟨rfl, rfl⟩

theorem Establishes.sent_says (h : Establishes server target past sent time) :
    startups sent = [(target.username, target.database)] ∧ queries sent = [] := by
  obtain ⟨-, -, hnegotiated, hadmitted⟩ := h
  obtain ⟨hstartups, hqueries⟩ := hnegotiated.sent_says
  obtain ⟨hstartups', hqueries'⟩ := hadmitted.sent_says
  rw [startups_append, startups_append, queries_append, queries_append, hstartups, hqueries,
    hstartups', hqueries']
  exact ⟨rfl, rfl⟩

/-- A query that is served is the only one, over the only connection. -/
theorem Serves.sent_says (h : Serves server target text past sent time) :
    startups sent = [(target.username, target.database)] ∧ queries sent = [text] := by
  obtain ⟨hestablished, ⟨⟩, ⟨⟩⟩ := h
  obtain ⟨hstartups, hqueries⟩ := hestablished.sent_says
  rw [startups_append, startups_append, queries_append, queries_append, hstartups, hqueries]
  exact ⟨rfl, rfl⟩

theorem Admits.time_pos (h : Admits server target past sent time) : 0 < time := by
  cases h <;> omega

theorem Serves.time_pos (h : Serves server target text past sent time) : 0 < time := by
  obtain ⟨⟨-, -, -, hadmitted⟩, -, -⟩ := h
  have := hadmitted.time_pos
  omega

end Database

/-! ### What the server and the script file have to do -/

/-- A file is read as text. -/
inductive Loads (files : Files) (path : String) (start : Instant) : String → Nat → Prop where
  | mk {text time bytes} (latency : files.latency start path = some time)
      (content : files.content start path = .ok bytes) (utf8 : Text.ofUtf8? bytes = some text) :
      Loads files path start text time

/-- A database is made, its script is read, and the script runs in it. -/
inductive Initialises (server : Database.Server) (files : Files) (b : Bootstrapper)
    (past : List Database.Traffic) (start : Instant) : List Database.Traffic → Nat → Prop where
  | mk {s t script time s' t'}
      (made : Database.Serves server b.config.adminTarget b.statement past s t)
      (loaded : Loads files b.scriptPath (start.advance t) script time)
      (filled : Database.Serves server b.config.ownTarget script (past ++ s) s' t') :
      Initialises server files b past start (s ++ s') (t + (time + t'))

variable {server : Database.Server} {files : Files} {b : Bootstrapper} {m : Moment}
  {start : Instant} {past sent : List Database.Traffic} {time : Nat}

/-- An initialisation waits for the network. -/
theorem Initialises.time_pos (h : Initialises server files b past start sent time) : 0 < time := by
  obtain ⟨hmade, -, -⟩ := h
  have := hmade.time_pos
  omega

theorem Initialises.sent_says (h : Initialises server files b past start sent time) :
    Database.startups sent
      = [(b.config.user, Config.adminDatabase), (b.config.user, b.config.name)] ∧
    ∃ script, Database.queries sent = [b.statement, script] := by
  obtain @⟨_, _, script, _, _, _, hmade, -, hfilled⟩ := h
  obtain ⟨hstartups, hqueries⟩ := hmade.sent_says
  obtain ⟨hstartups', hqueries'⟩ := hfilled.sent_says
  rw [Database.startups_append, Database.queries_append, hstartups, hqueries, hstartups', hqueries']
  exact ⟨rfl, script, rfl⟩

/-! ### The parts do well exactly then -/

namespace Bootstrapper

theorem createDatabase_ends_iff (hm : traffic m.events = past) :
    (b.createDatabase server m).Ends (.ok ()) sent time
      ↔ Database.Serves server b.config.adminTarget b.statement past sent time :=
  (bind_ok_ends_iff (by simp) (by simp)).trans (Database.runQuery_ends_iff hm)

theorem runScript_ends_iff (hm : traffic m.events = past) {script : String} :
    (b.runScript server script m).Ends (.ok ()) sent time
      ↔ Database.Serves server b.config.ownTarget script past sent time :=
  (bind_ok_ends_iff (by simp) (by simp)).trans (Database.runQuery_ends_iff hm)

theorem readScript_ends_iff {text : String} :
    (b.readScript files m).Ends (.ok text) sent time
      ↔ sent = [] ∧ Loads files b.scriptPath m.now text time := by
  unfold readScript
  rw [now_bind_apply]
  constructor
  · intro h
    cases hlatency : files.latency m.now b.scriptPath with
    | none => simp [hlatency] at h
    | some n =>
      cases hcontent : files.content m.now b.scriptPath with
      | error e => simp [hlatency, hcontent] at h
      | ok bytes =>
        cases hutf8 : Text.ofUtf8? bytes with
        | none => simp [hlatency, hcontent, hutf8] at h
        | some text' =>
          obtain ⟨rfl, rfl, rfl⟩ : text' = text ∧ [] = sent ∧ n = time := by
            simpa [hlatency, hcontent, hutf8] using h
          exact ⟨rfl, .mk hlatency hcontent hutf8⟩
  · rintro ⟨rfl, hlatency, hcontent, hutf8⟩
    simp [hlatency, hcontent, hutf8]

theorem bootstrap_ends_iff (hm : traffic m.events = past) :
    (b.bootstrap server files m).Ends (.ok ()) sent time
      ↔ Initialises server files b past m.now sent time := by
  unfold bootstrap
  constructor
  · intro hrun
    obtain ⟨⟨⟩, s, t, _, _, m₁, hcreate, hpast₁, hnow₁, hrun₁, rfl, rfl⟩ :=
      ends_of_bind_ok hrun (by simp)
    obtain ⟨script, s', t', _, _, m₂, hread, hpast₂, -, hrun₂, rfl, rfl⟩ :=
      ends_of_bind_ok hrun₁ (by simp)
    obtain ⟨rfl, hloaded⟩ := readScript_ends_iff.mp hread
    rw [hm] at hpast₁
    rw [hpast₁, List.append_nil] at hpast₂
    rw [hnow₁] at hloaded
    exact .mk ((createDatabase_ends_iff hm).mp hcreate) hloaded
      ((runScript_ends_iff hpast₂).mp hrun₂)
  · rintro ⟨hmade, hloaded, hfilled⟩
    refine bind_ends ((createDatabase_ends_iff hm).mpr hmade) fun m₁ hpast₁ hnow₁ => ?_
    rw [← hnow₁] at hloaded
    refine bind_ends (readScript_ends_iff.mpr ⟨rfl, hloaded⟩) fun m₂ hpast₂ _ => ?_
    rw [hpast₁, hm, List.append_nil] at hpast₂
    exact (runScript_ends_iff hpast₂).mpr hfilled

theorem provision_ends_iff (hm : traffic m.events = past) {provided : Provisioned} :
    (b.provision server files m).Ends (.ok provided) sent time
      ↔ provided = .ofDatabase b.config.name ∧
        Initialises server files b past m.now sent time := by
  unfold provision
  constructor
  · intro hrun
    obtain ⟨⟨⟩, s, t, s', t', m', hbootstrap, -, -, hlast, rfl, rfl⟩ :=
      ends_of_bind_ok hrun (by simp)
    obtain ⟨rfl, rfl, rfl⟩ : .ofDatabase b.config.name = provided ∧ [] = s' ∧ 0 = t' := by
      simpa using hlast
    exact ⟨rfl, by simpa using (bootstrap_ends_iff hm).mp hbootstrap⟩
  · rintro ⟨rfl, h⟩
    exact bind_ends_at_once ((bootstrap_ends_iff hm).mpr h) fun m' => by simp

/-- Making and filling a database makes nothing happen but traffic with the server and logs. -/
theorem provision_emits {P : Event → Prop} (ht : ∀ t, P (.traffic t))
    (hl : ∀ entry, P (.log none entry)) : Emits P (b.provision server files) := by
  have hcreate : Emits P (b.createDatabase server) := by
    refine (Database.runQuery_emits ht _ _).bind fun result => ?_
    split
    · exact .pure _
    · exact (Emits.log (hl _)).bind fun _ => .pure _
  have hread : Emits P (b.readScript files) := by
    refine Emits.now.bind fun start => ?_
    split
    · exact .never
    · refine (Emits.sleep _).bind fun _ => ?_
      split
      · exact .pure _
      · split <;> exact .pure _
  have hrun (script : String) : Emits P (b.runScript server script) := by
    refine (Database.runQuery_emits ht _ _).bind fun result => ?_
    split
    · exact .pure _
    · exact (Emits.log (hl _)).bind fun _ => .pure _
  have hbootstrap : Emits P (b.bootstrap server files) := by
    refine hcreate.bind fun created => ?_
    split
    · exact .pure _
    · refine hread.bind fun script => ?_
      split
      · exact .pure _
      · exact hrun _
  refine hbootstrap.bind fun result => ?_
  split <;> exact .pure _

end Bootstrapper

variable {r : Request}

/-- A create goes well exactly if the database is initialised. -/
theorem dispatch_ends_iff (hm : traffic m.events = past) (hcreate : r.requestType = .create)
    {response : Response} :
    (dispatch r (b.provision server files) m).Ends (.ok response) sent time
      ↔ response = .success r b.config.name [("DatabaseName", b.config.name)] ∧
        Initialises server files b past m.now sent time := by
  simp only [dispatch, hcreate, answerCreate, emit_bind_apply, Run.ends_prepend]
  constructor
  · rintro ⟨_, _, hrun, rfl, rfl⟩
    obtain ⟨provided, s, t, s', t', m', hprovision, -, -, hlast, rfl, rfl⟩ :=
      ends_of_bind_ok hrun (by simp)
    obtain ⟨rfl, h⟩ := (Bootstrapper.provision_ends_iff (by simpa using hm)).mp hprovision
    obtain ⟨rfl, rfl, rfl⟩ : _ = response ∧ [] = s' ∧ 0 = t' := by simpa using hlast
    exact ⟨rfl, by simpa using h⟩
  · rintro ⟨rfl, h⟩
    refine ⟨sent, time, bind_ends_at_once ((Bootstrapper.provision_ends_iff (by simpa using hm)).mpr
      ⟨rfl, by simpa using h⟩) fun m' => by simp; rfl, by simp, by simp⟩

/-- The provisioner that an environment gives whose configuration loads. -/
theorem DatabaseProvisioner.ofEnvironment_result {env : Environment} {config : Config}
    (h : Config.ofEnvironment env = .ok config) (start : Moment) :
    (DatabaseProvisioner.ofEnvironment env start).result = some (.ready (.ofConfig config)) := by
  unfold DatabaseProvisioner.ofEnvironment
  rw [h]
  by_cases hplain : Config.isPlainIdentifier config.name = true <;>
    simp [hplain, map_apply]

/-- The database is initialised from a moment on and by a deadline. -/
def InitialisedBy (server : Database.Server) (files : Files) (b : Bootstrapper) (m : Moment)
    (deadline : Instant) (sent : List Database.Traffic) : Prop :=
  ∃ time, Initialises server files b (traffic m.events) m.now sent time ∧
    m.now.nanos + time ≤ deadline.nanos

/-- A create ends with a success where the database is initialised in time, and otherwise with a
failure. -/
theorem Concludes.of_create {phaseEnd : Instant} {said : List Log.Entry} {response : Response}
    (hcreate : r.requestType = .create)
    (h : Concludes r phaseEnd m.now (dispatch r (b.provision server files) m) said response) :
    (response = .success r b.config.name [("DatabaseName", b.config.name)] ∧
      InitialisedBy server files b m phaseEnd
        (traffic (eventsOf ((dispatch r (b.provision server files)).cutAt phaseEnd m).steps))) ∨
    ((∃ reason, response = .failed r reason) ∧
      ∀ sent, ¬ InitialisedBy server files b m phaseEnd sent) := by
  cases h with
  | answered result done =>
    obtain ⟨rfl, hinit⟩ := (dispatch_ends_iff rfl hcreate).mp ⟨result, rfl, rfl⟩
    rw [cutAt_of_doneBy result done]
    refine .inl ⟨rfl, _, hinit, ?_⟩
    rcases done with hw | hle
    · exact absurd (elapsed_of_not_waits hw) (Nat.ne_of_gt hinit.time_pos)
    · exact hle
  | failed result done =>
    refine .inr ⟨⟨_, rfl⟩, ?_⟩
    rintro sent ⟨time, hinit, -⟩
    have hends := (dispatch_ends_iff rfl hcreate).mpr ⟨rfl, hinit⟩
    cases result.symm.trans hends.result_eq
  | timedOut late =>
    refine .inr ⟨⟨_, rfl⟩, ?_⟩
    rintro sent ⟨time, hinit, htime⟩
    have hends := (dispatch_ends_iff rfl hcreate).mpr ⟨rfl, hinit⟩
    rcases late with hnone | hlate
    · cases hnone.symm.trans hends.result_eq
    · exact hlate (.inr (by rw [hends.time_eq]; exact htime))

/-- **A create succeeds exactly if the database is initialised.** With the provisioner that an
environment gives whose configuration loads, one response to a create is composed and reported. It
is a success if and only if the phase's budget suffices for the server and the script file to do
all that an initialisation takes; then its id and its data are the name as the environment gives it,
which is also the one that is made and connected to. Otherwise it is a failure without data. -/
theorem create_succeeds_iff_initialised {env : Environment} {config : Config} {r : Request}
    (hconfig : Config.ofEnvironment env = .ok config) (hcreate : r.requestType = .create)
    (server : Database.Server) (files : Files) (o : Outlet) (deadline : Instant)
    (start m : Moment) :
    ∃ (phase : List Step) (response : Response),
      let provisioner := DatabaseProvisioner.ready (.ofConfig config)
      let run := handle r deadline (provisioner.provision server files) o m
      let front := phase ++ [.event (.composed response)]
      let sent := traffic (eventsOf phase)
      (DatabaseProvisioner.ofEnvironment env start).result = some provisioner ∧
      Settings.LastGiven env .name config.name ∧
      run = (report r deadline o response (m.after front)).prepend front ∧
      compositions (eventsOf run.steps) = [response] ∧
      (response.status = .success ↔
        ∃ sent, InitialisedBy server files (.ofConfig config) m (phaseDeadline deadline m.now)
          sent) ∧
      (response.status = .success →
        response.physicalResourceId = config.name ∧
        response.data = [("DatabaseName", config.name)] ∧
        Database.startups sent = [(config.user, "postgres"), (config.user, config.name)] ∧
        ∃ script, Database.queries sent = ["CREATE DATABASE " ++ config.name, script]) ∧
      (response.status ≠ .success → response.status = .failed ∧ response.data = []) := by
  obtain ⟨said, response, hphase, hconcludes⟩ :=
    respond_apply r deadline ((Bootstrapper.ofConfig config).provision server files) m
  refine ⟨_, response, DatabaseProvisioner.ofEnvironment_result hconfig start,
    Settings.ofEnvironment_eq_some_iff.mp (Config.name_of_ofSettings hconfig),
    handle_of_respond hphase, ?_, ?_⟩
  · have hquiet : Emits (fun e => e.composed? = none)
        (dispatch r ((Bootstrapper.ofConfig config).provision server files)) :=
      dispatch_emits rfl (Bootstrapper.provision_emits (fun _ => rfl) fun _ => rfl)
    rw [DatabaseProvisioner.provision, compositions_handle hphase, eventsOf_append,
      compositions_append, compositions_eq_nil (hquiet.cutAt _ m), eventsOf_logSteps,
      compositions_logs]
    rfl
  · rw [eventsOf_append, traffic_append, eventsOf_logSteps, traffic_logs, List.append_nil]
    rcases hconcludes.of_create hcreate with ⟨rfl, hinit⟩ | ⟨⟨reason, rfl⟩, hnot⟩
    · obtain ⟨time, hinitialises, -⟩ := id hinit
      exact ⟨⟨fun _ => ⟨_, hinit⟩, fun _ => rfl⟩, fun _ => ⟨rfl, rfl, hinitialises.sent_says⟩,
        fun h => (h rfl).elim⟩
    · have hfailed : (Response.failed r reason).status ≠ .success := by simp [Response.failed]
      refine ⟨⟨fun h => (hfailed h).elim, ?_⟩, fun h => (hfailed h).elim, fun _ => ⟨rfl, rfl⟩⟩
      rintro ⟨sent, h⟩
      exact (hnot sent h).elim

/-- The environment of a stack with a database `app`. -/
def appEnvironment : Environment :=
  [("CLAY_DATABASE_USER", "admin"), ("CLAY_DATABASE_PASSWORD", ""), ("CLAY_DATABASE_HOST", "db"),
    ("CLAY_DATABASE_HOST_PORT", "5432"), ("CLAY_DATABASE_NAME", "app"),
    ("CLAY_DATABASE_SSL_MODE", "disable")].map fun (name, value) =>
    (name.toUTF8.toList, value.toUTF8.toList)

def appConfig : Config := ⟨"admin", "", "db", 5432, "app", .disable⟩

/-- A server that lets everybody in, and has nothing against any query. -/
def welcoming : Database.Server :=
  { Database.Server.unreachable (fun _ => .networkUnreachable) with refusal := fun _ _ => none }

theorem welcoming_serves (target : Target) (hmode : target.sslMode = .disable) (text : String)
    (past : List Database.Traffic) :
    Database.Serves welcoming target text past
      [.dialled target.host target.port, .connected, .startup target.username target.database,
        .query text, .terminate] 2 :=
  .mk (.mk (n := 0) rfl rfl (.unasked (by rw [hmode]; rfl)) (.atOnce (n := 0) rfl rfl))
    (.mk (n := 0) rfl ⟨[], [], rfl, nofun⟩) (.mk (n := 0) rfl rfl)

/-- With such a server and an empty script, a create succeeds. -/
theorem app_create_succeeds :
    ∃ response : Response,
      compositions (eventsOf (handle
        { (default : Request) with requestType := .create } ⟨2000000000⟩
        ((Bootstrapper.ofConfig appConfig).provision welcoming
          ⟨fun _ _ => .ok [], fun _ _ => some 0⟩)
        ⟨.standard, .unreachable, fun _ => 0⟩ ⟨⟨0⟩, []⟩).steps) = [response] ∧
      response.status = .success ∧ response.data = [("DatabaseName", "app")] := by
  have hconfig : Config.ofEnvironment appEnvironment = .ok appConfig := by
    have h : (Config.ofEnvironment appEnvironment).toOption = some appConfig := by decide +kernel
    cases hc : Config.ofEnvironment appEnvironment with
    | error e => rw [hc] at h; cases h
    | ok config => rw [hc] at h; cases h; rfl
  obtain ⟨phase, response, -, -, -, hcomposed, hstatus, hsuccess, -⟩ :=
    create_succeeds_iff_initialised (r := { (default : Request) with requestType := .create })
      hconfig rfl welcoming ⟨fun _ _ => .ok [], fun _ _ => some 0⟩
      ⟨.standard, .unreachable, fun _ => 0⟩ ⟨2000000000⟩ ⟨⟨0⟩, []⟩ ⟨⟨0⟩, []⟩
  have hempty : Text.ofUtf8? [] = some "" := by decide
  have hok : response.status = .success := by
    refine hstatus.mpr ⟨_, _, .mk (welcoming_serves _ rfl _ _) (.mk rfl rfl hempty)
      (welcoming_serves _ rfl _ _), ?_⟩
    decide
  exact ⟨response, hcomposed, hok, (hsuccess hok).2.1⟩

end DatabaseResource
