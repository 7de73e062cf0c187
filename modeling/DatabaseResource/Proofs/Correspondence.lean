import DatabaseResource.Proofs.Session
import DatabaseResource.Lifecycle

/-!
# The same run from two moments

Moments correspond for a purpose: because they tell the same of what matters to it. Where the same
steps lead on from corresponding moments, others that correspond are reached
(`Moment.Correspondence`), and so activities that have the same run from corresponding moments
(`Activity.SameFrom`) still have it when they are put together. A bootstrap is built like that from
what it asks the database server and the files, and has the same run where these answer the same
(`Bootstrapper.bootstrap_sameFrom`).
-/

namespace DatabaseResource

/-- Which moments correspond. The same steps lead on to corresponding ones. -/
structure Moment.Correspondence where
  rel : Moment → Moment → Prop
  after : ∀ {m m' : Moment}, rel m m' → ∀ steps, rel (m.after steps) (m'.after steps)

variable {c : Moment.Correspondence} {α β : Type}

namespace Activity

/-- From corresponding moments, activities have the same run. -/
def SameFrom (c : Moment.Correspondence) (x x' : Activity α) : Prop :=
  ∀ m m', c.rel m m' → x m = x' m'

namespace SameFrom

protected theorem pure (a : α) : SameFrom c (pure a : Activity α) (pure a) := fun _ _ _ => rfl

protected theorem bind {x x' : Activity α} {f f' : α → Activity β} (hx : SameFrom c x x')
    (hf : ∀ a, SameFrom c (f a) (f' a)) : SameFrom c (x >>= f) (x' >>= f') := by
  intro m m' hm
  have hrun := hx m m' hm
  cases hr : (x' m').result with
  | none => rw [bind_apply_of_none hr, bind_apply_of_none (by rw [hrun, hr]), hrun]
  | some a =>
    rw [bind_apply_of_some hr, bind_apply_of_some (by rw [hrun, hr]), hrun,
      hf a _ _ (c.after hm _)]

theorem emit (e : Event) : SameFrom c (emit e) (emit e) := fun _ _ _ => rfl

theorem log (entry : Log.Entry) : SameFrom c (log entry) (log entry) := emit _

theorem sleep (n : Nat) : SameFrom c (sleep n) (sleep n) := fun _ _ _ => rfl

theorem timer (n : Nat) : SameFrom c (timer n) (timer n) := fun _ _ _ => rfl

theorem never : SameFrom c (never : Activity α) never := fun _ _ _ => rfl

/-- What goes on by the moment goes on alike, if it does so for moments that correspond. -/
theorem moment_bind {f f' : Moment → Activity α}
    (hf : ∀ m m', c.rel m m' → SameFrom c (f m) (f' m')) :
    SameFrom c (moment >>= f) (moment >>= f') := by
  intro m m' hm
  rw [moment_bind_apply, moment_bind_apply]
  exact hf m m' hm m m' hm

theorem now_bind {f f' : Instant → Activity α}
    (hf : ∀ m m', c.rel m m' → SameFrom c (f m.now) (f' m'.now)) :
    SameFrom c (now >>= f) (now >>= f') := by
  intro m m' hm
  rw [now_bind_apply, now_bind_apply]
  exact hf m m' hm m m' hm

end SameFrom

end Activity

open Activity

/-! ### Sessions -/

namespace Database

/-- Servers answer the same at corresponding moments. -/
structure Server.SameFrom (c : Moment.Correspondence) (server server' : Server) : Prop where
  approach {m m'} (h : c.rel m m') (target : Target) :
    server.approach (traffic m.events) target = server'.approach (traffic m'.events) target
  refusal {m m'} (h : c.rel m m') (target : Target) :
    server.refusal (traffic m.events) target = server'.refusal (traffic m'.events) target
  ssl {m m'} (h : c.rel m m') : server.ssl (traffic m.events) = server'.ssl (traffic m'.events)
  login {m m'} (h : c.rel m m') :
    server.login (traffic m.events) = server'.login (traffic m'.events)
  verdict {m m'} (h : c.rel m m') :
    server.verdict (traffic m.events) = server'.verdict (traffic m'.events)
  reply {m m'} (h : c.rel m m') :
    server.reply (traffic m.events) = server'.reply (traffic m'.events)
  closing {m m'} (h : c.rel m m') :
    server.closing (traffic m.events) = server'.closing (traffic m'.events)
  parting {m m'} (h : c.rel m m') :
    server.parting (traffic m.events) = server'.parting (traffic m'.events)
  latency {m m'} (h : c.rel m m') :
    server.latency (traffic m.events) = server'.latency (traffic m'.events)

theorem send_sameFrom (t : Traffic) : SameFrom c (send t) (send t) := .emit _

theorem seen_bind_sameFrom {f f' : List Traffic → Activity α}
    (hf : ∀ m m', c.rel m m' → SameFrom c (f (traffic m.events)) (f' (traffic m'.events))) :
    SameFrom c (seen >>= f) (seen >>= f') := by
  unfold seen
  rw [bind_assoc, bind_assoc]
  refine .moment_bind fun m m' hm => ?_
  rw [pure_bind, pure_bind]
  exact hf m m' hm

theorem closedByServer_sameFrom : SameFrom c closedByServer closedByServer :=
  (send_sameFrom _).bind fun _ => .pure _

theorem enter_sameFrom (admission : Admission) :
    SameFrom c (enter admission) (enter admission) := by
  cases admission with
  | closed => exact closedByServer_sameFrom.bind fun _ => .pure _
  | welcome | refused | other => exact .pure _

section Servers

variable {server server' : Server} (hserver : server.SameFrom c server')

include hserver

/-- What was seen when the answer began to be awaited is what goes on. -/
theorem awaitAnswer_bind_sameFrom {f f' : List Traffic → Activity α}
    (hf : ∀ m m', c.rel m m' → SameFrom c (f (traffic m.events)) (f' (traffic m'.events))) :
    SameFrom c (awaitAnswer server >>= f) (awaitAnswer server' >>= f') := by
  unfold awaitAnswer
  rw [bind_assoc, bind_assoc]
  refine seen_bind_sameFrom fun m m' hm => ?_
  rw [hserver.latency hm]
  cases server'.latency (traffic m'.events) with
  | none => exact fun _ _ _ => rfl
  | some n =>
    dsimp only
    rw [bind_assoc, bind_assoc]
    refine (SameFrom.sleep _).bind fun _ => ?_
    rw [pure_bind, pure_bind]
    exact hf m m' hm

theorem approach_sameFrom (target : Target) :
    SameFrom c (approach server target) (approach server' target) := by
  refine (send_sameFrom _).bind fun _ => seen_bind_sameFrom fun m m' hm => ?_
  rw [hserver.approach hm, hserver.refusal hm]
  cases server'.approach (traffic m'.events) target with
  | none => exact .never
  | some n => exact (SameFrom.sleep _).bind fun _ => .pure _

theorem negotiate_sameFrom (mode : SslMode) :
    SameFrom c (negotiate server mode) (negotiate server' mode) := by
  unfold negotiate
  split
  · exact .pure _
  · refine (send_sameFrom _).bind fun _ => awaitAnswer_bind_sameFrom hserver fun m m' hm => ?_
    rw [hserver.ssl hm]
    cases server'.ssl (traffic m'.events) with
    | closed => exact (send_sameFrom _).bind fun _ => .pure _
    | _ => exact .pure _

theorem logIn_sameFrom (target : Target) :
    SameFrom c (logIn server target) (logIn server' target) := by
  refine (send_sameFrom _).bind fun _ => awaitAnswer_bind_sameFrom hserver fun m m' hm => ?_
  rw [hserver.login hm]
  cases server'.login (traffic m'.events) with
  | settled admission => exact enter_sameFrom admission
  | passwordWanted =>
    refine (send_sameFrom _).bind fun _ => awaitAnswer_bind_sameFrom hserver fun m m' hm => ?_
    rw [hserver.verdict hm]
    exact enter_sameFrom _

theorem connect_sameFrom (target : Target) :
    SameFrom c (connect server target) (connect server' target) := by
  refine (approach_sameFrom hserver target).bind fun refusal => ?_
  cases refusal with
  | some e => exact .pure _
  | none =>
    refine (send_sameFrom _).bind fun _ => (negotiate_sameFrom hserver _).bind fun result => ?_
    cases result with
    | error e => exact .pure _
    | ok => exact logIn_sameFrom hserver target

theorem execute_sameFrom (text : String) :
    SameFrom c (execute server text) (execute server' text) := by
  refine (send_sameFrom _).bind fun _ => awaitAnswer_bind_sameFrom hserver fun m m' hm => ?_
  dsimp only
  rw [hserver.reply hm]
  cases staysOpen (server'.reply (traffic m'.events)) with
  | true => exact .pure _
  | false => exact (send_sameFrom _).bind fun _ => .pure _

theorem close_sameFrom (isOpen : Bool) :
    SameFrom c (close server isOpen) (close server' isOpen) := by
  have hend : SameFrom c (close server false) (close server' false) := by
    refine seen_bind_sameFrom fun m m' hm => ?_
    rw [hserver.parting hm, hserver.closing hm]
    cases server'.parting (traffic m'.events) with
    | none => exact .never
    | some n =>
      refine (SameFrom.sleep _).bind fun _ => ?_
      cases server'.closing (traffic m'.events) <;> exact .pure _
  cases isOpen with
  | false => exact hend
  | true => exact (send_sameFrom _).bind fun _ => hend

theorem runQuery_sameFrom {φ : Type} (target : Target) (text : String) (other fault : Error → φ) :
    SameFrom c (runQuery server target text other fault)
      (runQuery server' target text other fault) := by
  refine (connect_sameFrom hserver target).bind fun connected => ?_
  cases connected with
  | error e => exact .pure _
  | ok =>
    refine (execute_sameFrom hserver text).bind fun (result, isOpen) => ?_
    refine (close_sameFrom hserver isOpen).bind fun closed => ?_
    cases result with
    | error e => exact .pure _
    | ok rows => cases closed <;> exact .pure _

end Servers

end Database

/-! ### Bootstraps -/

/-- The same file is found at corresponding moments. -/
def Files.SameFrom (c : Moment.Correspondence) (path : String) (files files' : Files) : Prop :=
  ∀ m m', c.rel m m' → files.content m.now path = files'.content m'.now path ∧
    files.latency m.now path = files'.latency m'.now path

namespace Bootstrapper

variable (b : Bootstrapper) {server server' : Database.Server} {files files' : Files}

theorem createDatabase_sameFrom (hserver : server.SameFrom c server') :
    SameFrom c (b.createDatabase server) (b.createDatabase server') := by
  refine (Database.runQuery_sameFrom hserver _ _ _ _).bind fun result => ?_
  cases result with
  | error f => exact .pure _
  | ok rows => exact (SameFrom.log _).bind fun _ => .pure _

theorem runScript_sameFrom (hserver : server.SameFrom c server') (script : String) :
    SameFrom c (b.runScript server script) (b.runScript server' script) := by
  refine (Database.runQuery_sameFrom hserver _ _ _ _).bind fun result => ?_
  cases result with
  | error f => exact .pure _
  | ok rows => exact (SameFrom.log _).bind fun _ => .pure _

theorem readScript_sameFrom (hfiles : files.SameFrom c b.scriptPath files') :
    SameFrom c (b.readScript files) (b.readScript files') := by
  refine .now_bind fun m m' hm => ?_
  obtain ⟨hcontent, hlatency⟩ := hfiles m m' hm
  rw [hcontent, hlatency]
  cases files'.latency m'.now b.scriptPath with
  | none => exact .never
  | some n =>
    refine (SameFrom.sleep n).bind fun _ => ?_
    cases files'.content m'.now b.scriptPath with
    | error e => exact .pure _
    | ok bytes =>
      dsimp only
      cases Text.ofUtf8? bytes <;> exact .pure _

theorem bootstrap_sameFrom (hserver : server.SameFrom c server')
    (hfiles : files.SameFrom c b.scriptPath files') :
    SameFrom c (b.bootstrap server files) (b.bootstrap server' files') := by
  refine (b.createDatabase_sameFrom hserver).bind fun created => ?_
  cases created with
  | error f => exact .pure _
  | ok =>
    refine (b.readScript_sameFrom hfiles).bind fun loaded => ?_
    cases loaded with
    | error f => exact .pure _
    | ok script => exact b.runScript_sameFrom hserver script

end Bootstrapper

theorem DatabaseProvisioner.provision_sameFrom {p : DatabaseProvisioner}
    {server server' : Database.Server} {files files' : Files} (hserver : server.SameFrom c server')
    (hfiles : ∀ b, p = .ready b → files.SameFrom c b.scriptPath files') :
    SameFrom c (p.provision server files) (p.provision server' files') := by
  cases p with
  | unconfigured reason => exact .pure _
  | ready b =>
    refine (b.bootstrap_sameFrom hserver (hfiles b rfl)).bind fun result => ?_
    cases result <;> exact .pure _

theorem dispatch_sameFrom (r : Request) {provisioner provisioner' : Provisioner}
    (h : SameFrom c provisioner provisioner') :
    SameFrom c (dispatch r provisioner) (dispatch r provisioner') := by
  unfold dispatch
  cases r.requestType with
  | create =>
    refine (SameFrom.emit _).bind fun _ => h.bind fun result => ?_
    cases result <;> exact .pure _
  | _ => exact .pure _

end DatabaseResource
