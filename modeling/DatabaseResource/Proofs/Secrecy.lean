import DatabaseResource.Proofs.Comparison
import DatabaseResource.Proofs.Initialisation
import DatabaseResource.Service

/-!
# The password's secrecy

Two processes whose environments are equal but for the password are compared, in a world whose
server does not care what password it is sent. Events are looked at without what a password says
(`Event.redacted`); all that a process does agrees then (`serve_agree`), so that the password is
found in nothing but the logins (`password_reaches_only_logins`).
-/

namespace DatabaseResource

open Activity

/-- An event without what a password says. -/
def Event.redacted : Event → Event
  | traffic t => traffic t.redacted
  | e => e

variable {m m' : Moment} {steps steps' : List Step}

/-! ### What an event without passwords shows -/

theorem traffic_redacted (events : List Event) :
    traffic (events.map Event.redacted) = (traffic events).map Database.Traffic.redacted := by
  have hview : Event.traffic? ∘ Event.redacted
      = fun e => (Event.traffic? e).map Database.Traffic.redacted :=
    funext fun e => by cases e <;> rfl
  rw [traffic, traffic, List.filterMap_map, List.map_filterMap, hview]

theorem exchanges_redacted (events : List Event) :
    exchanges (events.map Event.redacted) = exchanges events := by
  have hview : Event.exchange? ∘ Event.redacted = Event.exchange? :=
    funext fun e => by cases e <;> rfl
  rw [exchanges, exchanges, List.filterMap_map, hview]

theorem logged_redacted (events : List Event) :
    logged (events.map Event.redacted) = logged events := by
  have hview : Event.log? ∘ Event.redacted = Event.log? := funext fun e => by cases e <;> rfl
  rw [logged, logged, List.filterMap_map, hview]

theorem compositions_redacted (events : List Event) :
    compositions (events.map Event.redacted) = compositions events := by
  have hview : Event.composed? ∘ Event.redacted = Event.composed? :=
    funext fun e => by cases e <;> rfl
  rw [compositions, compositions, List.filterMap_map, hview]

theorem redacted_within {e e' : Event} (context : Log.Context) (h : e.redacted = e'.redacted) :
    (e.within context).redacted = (e'.within context).redacted := by
  cases e with
  | traffic t =>
    cases e' with
    | traffic t' => exact h
    | _ => cases h
  | _ =>
    cases e' <;> cases h
    rfl

theorem Moment.Alike.exchanges_eq (h : m.Alike Event.redacted m') :
    exchanges m.events = exchanges m'.events := by
  rw [← exchanges_redacted, h.events_eq, exchanges_redacted]

theorem shows_redacted : Database.Shows Event.redacted Database.Traffic.redacted Eq where
  sameTraffic h := by
    rw [Database.SameTraffic, ← traffic_redacted, h.events_eq, traffic_redacted]
  view_traffic h := congrArg Event.traffic h
  view_rows h name := by rw [h]

/-- A server that treats every password alike answers alike to traffic without passwords. -/
theorem Database.Server.IgnoresPassword.alike {server : Database.Server}
    (h : server.IgnoresPassword) : server.Alike Traffic.redacted Eq server where
  approach hpast _ _ ht := ((h _ _ hpast).1 _ _ ht.same).1
  refusal hpast _ _ ht := ((h _ _ hpast).1 _ _ ht.same).2
  ssl hpast := (h _ _ hpast).2.1
  login hpast := (h _ _ hpast).2.2.1
  verdict hpast := (h _ _ hpast).2.2.2.1
  closing hpast := (h _ _ hpast).2.2.2.2.2.1
  parting hpast := (h _ _ hpast).2.2.2.2.2.2.1
  latency hpast := (h _ _ hpast).2.2.2.2.2.2.2
  staysOpen hpast := by rw [(h _ _ hpast).2.2.2.2.1]
  outcome hpast := by
    rw [(h _ _ hpast).2.2.2.2.1]
    exact .refl (fun _ => rfl) _

/-! ### Environments that are equal but for the password -/

/-- A variable gives the password: behind the common start its name is this word, in any case. -/
def IsPasswordVariable (name : List UInt8) : Prop :=
  ∃ suffix : String, Text.ofUtf8? name = some ("CLAY_DATABASE_" ++ suffix) ∧
    suffix.toList.map Char.toLower = "password".toList

/-- Environments are equal but for the texts of variables that give the password. -/
inductive SameButPassword : Environment → Environment → Prop where
  | nil : SameButPassword [] []
  | same (entry : List UInt8 × List UInt8) {env env'} (rest : SameButPassword env env') :
      SameButPassword (entry :: env) (entry :: env')
  | password {name value value' : List UInt8} {text text' : String} {env env'}
      (password : IsPasswordVariable name) (utf8 : Text.ofUtf8? value = some text)
      (utf8' : Text.ofUtf8? value' = some text') (rest : SameButPassword env env') :
      SameButPassword ((name, value) :: env) ((name, value') :: env')

theorem IsPasswordVariable.ofVariable? {name value : List UInt8} {text : String}
    (h : IsPasswordVariable name) (hvalue : Text.ofUtf8? value = some text) :
    Settings.ofVariable? (name, value) = some (.password, text) := by
  obtain ⟨suffix, hname, hsuffix⟩ := h
  have hsetting : Setting.ofVariable? ("CLAY_DATABASE_" ++ suffix) = some .password := by
    have hstart : ("CLAY_DATABASE_" ++ suffix).toList
        = Setting.variableStart.toList ++ suffix.toList := String.toList_append
    have hlength : Setting.variableStart.length = Setting.variableStart.toList.length := rfl
    rw [Setting.ofVariable?, hstart,
      if_pos (List.isPrefixOf_iff_prefix.mpr (List.prefix_append ..)), hlength, List.drop_left,
      hsuffix]
    rfl
  simp [Settings.ofVariable?, hname, hvalue, hsetting]

/-! ### Settings that are equal but for the password -/

/-- Settings are equal but for the password, which both or neither give. -/
structure Settings.Alike (settings settings' : Settings) : Prop where
  same {s : Setting} (h : s ≠ .password) : settings s = settings' s
  given : (settings .password).isSome = (settings' .password).isSome

/-- Configurations are equal but for the password. -/
def Config.Alike (config config' : Config) : Prop :=
  { config with password := "" } = { config' with password := "" }

namespace SameButPassword

variable {env env' : Environment}

/-- A setting that is found from some text on, variable by variable. -/
private def found (s : Setting) (env : Environment) (before : Option String) : Option String :=
  (env.filterMap Settings.ofVariable?).foldl
    (fun found (t, value) => if t = s then some value else found) before

theorem found_eq (h : SameButPassword env env') {s : Setting} (hs : s ≠ .password)
    (before : Option String) : found s env before = found s env' before := by
  induction h generalizing before with
  | nil => rfl
  | same entry _ ih =>
    cases hentry : Settings.ofVariable? entry with
    | none => simpa [found, hentry] using ih before
    | some given => simpa [found, hentry] using ih _
  | password password utf8 utf8' _ ih =>
    simpa [found, password.ofVariable? utf8, password.ofVariable? utf8', hs.symm] using ih before

theorem found_isSome (h : SameButPassword env env') {before before' : Option String}
    (hbefore : before.isSome = before'.isSome) :
    (found .password env before).isSome = (found .password env' before').isSome := by
  induction h generalizing before before' with
  | nil => exact hbefore
  | same entry _ ih =>
    cases hentry : Settings.ofVariable? entry with
    | none => simpa [found, hentry] using ih hbefore
    | some given =>
      have hnext : (if given.1 = .password then some given.2 else before).isSome
          = (if given.1 = .password then some given.2 else before').isSome := by
        split
        · rfl
        · exact hbefore
      simpa [found, hentry] using ih hnext
  | @password _ _ _ text text' _ _ password utf8 utf8' _ ih =>
    simpa [found, password.ofVariable? utf8, password.ofVariable? utf8'] using
      @ih (some text) (some text') rfl

theorem settings (h : SameButPassword env env') :
    (Settings.ofEnvironment env).Alike (Settings.ofEnvironment env') where
  same hs := h.found_eq hs none
  given := h.found_isSome rfl

end SameButPassword

namespace Config

variable {settings settings' : Settings}

theorem require_eq (h : settings.Alike settings') {s : Setting} (hs : s ≠ .password) :
    require settings s = require settings' s := by
  rw [require, require, h.same hs]

theorem require_password (h : settings.Alike settings') :
    SameOutcome (fun _ _ => True) (require settings .password) (require settings' .password) := by
  have hgiven := h.given
  unfold require
  cases hs : settings .password with
  | none =>
    cases hs' : settings' .password with
    | none => exact .error _
    | some text' => simp [hs, hs'] at hgiven
  | some text =>
    cases hs' : settings' .password with
    | none => simp [hs, hs'] at hgiven
    | some text' => exact .ok trivial

/-- Settings that are equal but for the password give such configurations, or the same error. -/
theorem ofSettings_alike (h : settings.Alike settings') :
    SameOutcome Config.Alike (ofSettings settings) (ofSettings settings') := by
  unfold ofSettings
  rw [require_eq h (s := .user) nofun, require_eq h (s := .host) nofun,
    require_eq h (s := .hostPort) nofun, require_eq h (s := .name) nofun,
    h.same (s := .sslMode) nofun]
  refine .bind_same _ fun user => (require_password h).bind fun password password' _ =>
    .bind_same _ fun host => .bind_same _ fun port => .bind_same _ fun name =>
    .bind_same _ fun _ => .bind_same _ fun _ => .bind_same _ fun _ => ?_
  cases port? (Text.trim port.toList) with
  | none => exact .error _
  | some hostPort =>
    cases mode (settings' .sslMode) with
    | error e => exact .error _
    | ok sslMode => exact .ok rfl

theorem Alike.describe_eq {config config' : Config} (h : config.Alike config') :
    config.describe = config'.describe := by
  rw [← config.describe_password "", h, config'.describe_password]

end Config

/-! ### Provisioners that are equal but for the password -/

/-- Provisioners are equal but for the password. -/
inductive DatabaseProvisioner.Alike : DatabaseProvisioner → DatabaseProvisioner → Prop where
  | ready {b b' : Bootstrapper} (h : b.Alike Database.Traffic.redacted b') :
      Alike (.ready b) (.ready b')
  | unconfigured (reason : String) : Alike (.unconfigured reason) (.unconfigured reason)

theorem Config.Alike.bootstrapper {config config' : Config} (h : config.Alike config') :
    (Bootstrapper.ofConfig config).Alike Database.Traffic.redacted (.ofConfig config') where
  config := h
  password := rfl
  scriptPath := rfl

theorem Config.Alike.exists_password {config config' : Config} (h : config.Alike config') :
    ∃ password, config' = { config with password } := by
  refine ⟨config'.password, ?_⟩
  cases config
  cases config'
  simpa [Config.Alike, eq_comm] using h

/-- Environments that are equal but for the password load alike. -/
theorem DatabaseProvisioner.ofEnvironment_agree {env env' : Environment}
    (h : SameButPassword env env') :
    Agree Event.redacted DatabaseProvisioner.Alike (ofEnvironment env) (ofEnvironment env') := by
  have hconfig : SameOutcome Config.Alike (Config.ofEnvironment env) (Config.ofEnvironment env') :=
    Config.ofSettings_alike h.settings
  unfold ofEnvironment
  generalize Config.ofEnvironment env = loaded at hconfig ⊢
  generalize Config.ofEnvironment env' = loaded' at hconfig ⊢
  cases hconfig with
  | error e =>
    exact (Agree.log rfl).bind fun _ _ _ => .pure (.unconfigured _)
  | @ok config config' hc =>
    obtain ⟨password, rfl⟩ := hc.exists_password
    have hready := DatabaseProvisioner.Alike.ready hc.bootstrapper
    dsimp only
    split
    · exact (Agree.log rfl).bind fun _ _ _ => (Agree.log rfl).bind fun _ _ _ => .pure hready
    · exact (Agree.log rfl).bind fun _ _ _ => .pure hready

theorem DatabaseProvisioner.ofEnvironment_refused {env : Environment} {e : Config.Error}
    (h : Config.ofEnvironment env = .error e) (m : Moment) :
    (ofEnvironment env m).result = some (.unconfigured (Fault.ofConfigError e).message) := by
  unfold ofEnvironment
  rw [h]
  rfl

theorem DatabaseProvisioner.Alike.provision_agree {p p' : DatabaseProvisioner} (h : p.Alike p')
    {server : Database.Server} (hserver : server.IgnoresPassword) (files : Files) :
    Agree Event.redacted Eq (p.provision server files) (p'.provision server files) := by
  cases h with
  | ready hb => exact Bootstrapper.provision_agree shows_redacted hserver.alike hb files
  | unconfigured reason => exact .pure rfl

/-! ### Endpoints -/

namespace Http

variable {web : Web}

theorem sleepUntil_agree (t : Instant) :
    Agree Event.redacted Eq (sleepUntil t) (sleepUntil t) := by
  refine Agree.now.bind ?_
  rintro now _ rfl
  exact .sleep _

theorem ask_agree (deadline : Instant) (call : Call) :
    Agree Event.redacted Eq (ask web deadline call) (ask web deadline call) := by
  have hnone {t : Instant} : Agree Event.redacted Eq
      (do sleepUntil t; return (none : Option (Nat × Option String)))
      (do sleepUntil t; return none) :=
    (sleepUntil_agree t).bind fun _ _ _ => .pure rfl
  unfold ask
  refine (Agree.emit rfl).bind fun _ _ _ => Agree.moment.bind fun m m' hm => ?_
  dsimp only
  rw [hm.exchanges_eq, hm.now_eq]
  split
  · exact hnone
  · exact hnone
  · exact (sleepUntil_agree _).bind fun _ _ _ => (Agree.emit rfl).bind fun _ _ _ =>
      (Agree.sleep 1).bind fun _ _ _ => .pure rfl
  · refine (sleepUntil_agree _).bind fun _ _ _ => (Agree.emit rfl).bind fun _ _ _ => ?_
    split
    · exact hnone
    · exact hnone
    · exact hnone
    · exact (sleepUntil_agree _).bind fun _ _ _ => .pure rfl

theorem settle_agree (origin : Url) (call : Call) (answer : Option (Nat × Option String))
    {follow : Option (Call → Activity (Except Error Nat))}
    (h : ∀ f ∈ follow, ∀ next, Agree Event.redacted Eq (f next) (f next)) :
    Agree Event.redacted Eq (settle origin call follow answer)
      (settle origin call follow answer) := by
  unfold settle
  split
  · exact .pure rfl
  · split
    · exact .pure rfl
    · split
      · exact .pure rfl
      · exact .pure rfl
      · split
        · exact .pure rfl
        · exact h _ rfl _

theorem attempt_agree (deadline : Instant) (origin : Url) (redirects : Nat) (call : Call) :
    Agree Event.redacted Eq (attempt web deadline origin redirects call)
      (attempt web deadline origin redirects call) := by
  induction redirects generalizing call with
  | zero =>
    refine (ask_agree deadline call).bind ?_
    rintro answer _ rfl
    exact settle_agree origin call answer nofun
  | succ redirects ih =>
    refine (ask_agree deadline call).bind ?_
    rintro answer _ rfl
    refine settle_agree origin call answer ?_
    rintro f ⟨⟩ next
    exact ih next

end Http

namespace Sender

variable {web : Http.Web}

theorem deliverOnce_agree (url : Url) (body : String) :
    Agree Event.redacted Eq (deliverOnce web url body) (deliverOnce web url body) := by
  unfold deliverOnce
  split
  · exact .pure rfl
  refine Agree.now.bind ?_
  rintro start _ rfl
  refine (Http.attempt_agree _ _ _ _).bind ?_
  rintro answer _ rfl
  split <;> exact .pure rfl

theorem deliverFrom_agree (s : Sender) (extra : List Http.Exchange → Nat) (url : Url)
    (body : String) (k left : Nat) :
    Agree Event.redacted Eq (s.deliverFrom web extra url body k left)
      (s.deliverFrom web extra url body k left) := by
  induction left generalizing k with
  | zero =>
    unfold deliverFrom
    refine (deliverOnce_agree url body).bind ?_
    rintro outcome _ rfl
    split <;> exact .pure rfl
  | succ left ih =>
    unfold deliverFrom
    refine (deliverOnce_agree url body).bind ?_
    rintro outcome _ rfl
    split
    · exact .pure rfl
    · dsimp only
      split
      · refine Agree.moment.bind fun m m' hm => ?_
        rw [hm.exchanges_eq]
        exact (Agree.log rfl).bind fun _ _ _ => (Agree.timer _).bind fun _ _ _ => ih _
      · exact .pure rfl

end Sender

/-! ### Processes -/

section Processes

variable {provisioner provisioner' : Provisioner}

theorem dispatch_agree (r : Request) (h : Agree Event.redacted Eq provisioner provisioner') :
    Agree Event.redacted Eq (dispatch r provisioner) (dispatch r provisioner') := by
  unfold dispatch
  split
  · refine (Agree.emit rfl).bind fun _ _ _ => h.bind ?_
    rintro outcome _ rfl
    split <;> exact .pure rfl
  all_goals exact .pure rfl

theorem respond_agree (r : Request) (deadline : Instant)
    (h : Agree Event.redacted Eq provisioner provisioner') :
    Agree Event.redacted Eq (respond r deadline provisioner) (respond r deadline provisioner') := by
  refine Agree.now.bind ?_
  rintro start _ rfl
  refine ((dispatch_agree r h).cutAt _).bind fun answer answer' hanswer => ?_
  cases hanswer with
  | none => exact (Agree.log rfl).bind fun _ _ _ => .pure rfl
  | @some answer answer' heq =>
    subst heq
    cases answer with
    | ok response => exact .pure rfl
    | error fault => exact (Agree.log rfl).bind fun _ _ _ => .pure rfl

theorem report_agree (r : Request) (deadline : Instant) (o : Outlet) (response : Response) :
    Agree Event.redacted Eq (report r deadline o response) (report r deadline o response) := by
  have hdeliver : Agree Event.redacted Eq (o.deliver r.responseUrl response)
      (o.deliver r.responseUrl response) := Sender.deliverFrom_agree _ _ _ _ _ _
  refine (hdeliver.cutAt deadline).bind fun result result' hresult => ?_
  cases hresult with
  | none => exact .pure rfl
  | @some result result' heq =>
    subst heq
    cases result with
    | error fault => exact .pure rfl
    | ok => exact (Agree.log rfl).bind fun _ _ _ => .pure rfl

theorem handle_agree (r : Request) (deadline : Instant) (o : Outlet)
    (h : Agree Event.redacted Eq provisioner provisioner') :
    Agree Event.redacted Eq (handle r deadline provisioner o)
      (handle r deadline provisioner' o) := by
  refine (respond_agree r deadline h).bind ?_
  rintro response _ rfl
  exact (Agree.emit rfl).bind fun _ _ _ => report_agree r deadline o response

end Processes

variable {p p' : DatabaseProvisioner} {world : World}

theorem answer_agree (hp : p.Alike p') (hserver : world.server.IgnoresPassword) (i : Invocation) :
    Agree Event.redacted Eq (answer p world i) (answer p' world i) := by
  unfold answer
  split
  · exact .pure rfl
  refine Agree.now.bind ?_
  rintro start _ rfl
  split
  · exact .pure rfl
  refine ((handle_agree _ _ _ (hp.provision_agree hserver world.files)).within _
    fun _ _ => redacted_within _).bind ?_
  rintro result _ rfl
  split <;> exact .pure rfl

theorem answerAll_agree (hp : p.Alike p') (hserver : world.server.IgnoresPassword)
    (invocations : List Invocation) :
    Agree Event.redacted Eq (answerAll p world invocations) (answerAll p' world invocations) := by
  induction invocations with
  | nil => exact .pure rfl
  | cons i rest ih =>
    refine (answer_agree hp hserver i).bind ?_
    rintro answered _ rfl
    refine ih.bind ?_
    rintro others _ rfl
    exact .pure rfl

/-- Processes whose environments are equal but for the password agree. -/
theorem serve_agree {env env' : Environment} (henv : SameButPassword env env')
    (hserver : world.server.IgnoresPassword) (invocations : List Invocation) :
    Agree Event.redacted Eq (serve env world invocations) (serve env' world invocations) := by
  refine (DatabaseProvisioner.ofEnvironment_agree henv).bind fun p p' hp => ?_
  exact (Agree.log rfl).bind fun _ _ _ => answerAll_agree hp hserver invocations

/-- **The password reaches nothing but the logins.** Two environments that are equal but for the
password load alike: with the same error, or with configurations that are equal but for it, and are
described alike. In a world whose server does not care what password it is sent, the processes then
log the same when they load and later on, compose the same responses, send the same calls to the
same endpoints, and answer the invocations alike, at the same times. What the database server sees
is the same but for what the password messages say. -/
theorem password_reaches_only_logins {env env' : Environment} {world : World}
    (henv : SameButPassword env env') (hserver : world.server.IgnoresPassword)
    (invocations : List Invocation) (m : Moment) :
    let loading := DatabaseProvisioner.ofEnvironment env m
    let loading' := DatabaseProvisioner.ofEnvironment env' m
    let run := serve env world invocations m
    let run' := serve env' world invocations m
    ((∃ e, Config.ofEnvironment env = .error e ∧ Config.ofEnvironment env' = .error e ∧
        let refused := DatabaseProvisioner.unconfigured (Fault.ofConfigError e).message
        loading.result = some refused ∧ loading'.result = some refused) ∨
      ∃ config config', Config.ofEnvironment env = .ok config ∧
        Config.ofEnvironment env' = .ok config' ∧
        { config with password := "" } = { config' with password := "" } ∧
        config.describe = config'.describe) ∧
    logged (eventsOf loading.steps) = logged (eventsOf loading'.steps) ∧
    logged (eventsOf run.steps) = logged (eventsOf run'.steps) ∧
    exchanges (eventsOf run.steps) = exchanges (eventsOf run'.steps) ∧
    compositions (eventsOf run.steps) = compositions (eventsOf run'.steps) ∧
    (traffic (eventsOf run.steps)).map Database.Traffic.redacted
      = (traffic (eventsOf run'.steps)).map Database.Traffic.redacted ∧
    run.result = run'.result ∧
    SameLook Event.redacted run.steps run'.steps := by
  have hloading := DatabaseProvisioner.ofEnvironment_agree henv m m ⟨rfl, rfl⟩
  have hrun := serve_agree henv hserver invocations m m ⟨rfl, rfl⟩
  have hevents := hrun.steps_eq.eventsOf_eq
  refine ⟨?_, ?_, ?_, ?_, ?_, ?_, ?_, hrun.steps_eq⟩
  · rcases (Config.ofSettings_alike henv.settings).exists_eq with
      ⟨e, he, he'⟩ | ⟨config, config', hc, hc', halike⟩
    · exact .inl ⟨e, he, he', DatabaseProvisioner.ofEnvironment_refused he m,
        DatabaseProvisioner.ofEnvironment_refused he' m⟩
    · exact .inr ⟨config, config', hc, hc', halike, halike.describe_eq⟩
  · rw [← logged_redacted, hloading.steps_eq.eventsOf_eq, logged_redacted]
  · rw [← logged_redacted, hevents, logged_redacted]
  · rw [← exchanges_redacted, hevents, exchanges_redacted]
  · rw [← compositions_redacted, hevents, compositions_redacted]
  · rw [← traffic_redacted, hevents, traffic_redacted]
  · rcases hrun.result_cases with ⟨hr, hr'⟩ | ⟨a, a', hr, hr', rfl⟩
    · rw [hr, hr']
    · rw [hr, hr']

/-- A server that asks for the password, and takes any. -/
def asking : Database.Server :=
  { welcoming with
    login := fun _ => .passwordWanted }

theorem asking_ignoresPassword : asking.IgnoresPassword :=
  fun _ _ _ => ⟨fun _ _ _ => ⟨rfl, rfl⟩, rfl, rfl, rfl, rfl, rfl, rfl, rfl⟩

/-- The environment of that stack with a variable of its own. -/
def environmentWith (name value : String) : Environment :=
  [("CLAY_DATABASE_USER", "admin"), (name, value), ("CLAY_DATABASE_HOST", "db"),
    ("CLAY_DATABASE_HOST_PORT", "5432"), ("CLAY_DATABASE_NAME", "app"),
    ("CLAY_DATABASE_SSL_MODE", "disable")].map fun (name, value) =>
    (name.toUTF8.toList, value.toUTF8.toList)

/-- With such a server, a process does the same with either of two passwords. -/
theorem app_password_is_kept :
    let world : World := ⟨⟨.standard, .unreachable, fun _ => 0⟩, asking,
      ⟨fun _ _ => .ok [], fun _ _ => some 0⟩, fun _ => .after .zero⟩
    let env := environmentWith "CLAY_DATABASE_PassWord" "one"
    let env' := environmentWith "CLAY_DATABASE_PassWord" "two"
    let create := "[\"Create\",\"r\",\"https://host/\",\"s\",\"l\",\"t\",null,\"x\",null,null]"
    let invocations : List Invocation := [⟨"1", 4000, create⟩]
    (Config.ofEnvironment env).toOption.map Config.password = some "one" ∧
    (Config.ofEnvironment env').toOption.map Config.password = some "two" ∧
    (serve env world invocations ⟨⟨0⟩, []⟩).result
      = (serve env' world invocations ⟨⟨0⟩, []⟩).result := by
  have henv : SameButPassword (environmentWith "CLAY_DATABASE_PassWord" "one")
      (environmentWith "CLAY_DATABASE_PassWord" "two") :=
    .same _ (.password ⟨"PassWord", by decide +kernel, by decide +kernel⟩
      (show Text.ofUtf8? "one".toUTF8.toList = some "one" by decide +kernel)
      (show Text.ofUtf8? "two".toUTF8.toList = some "two" by decide +kernel)
      (.same _ (.same _ (.same _ (.same _ .nil)))))
  refine ⟨by decide +kernel, by decide +kernel, ?_⟩
  exact (password_reaches_only_logins henv asking_ignoresPassword _ _).2.2.2.2.2.2.1

end DatabaseResource
