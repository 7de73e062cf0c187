import Mathlib.Data.List.Forall2
import DatabaseResource.Proofs.Secrecy
import DatabaseResource.Proofs.Tracking
import DatabaseResource.Proofs.Uniqueness

/-!
# Requests that leave the database alone

A process answers its invocations one after the other (`served`). Only a create that has a
configuration reaches the database server; whatever else a process is asked in between leaves no
trace there, and without a configuration nothing is sent at all (`only_creates_reach_database`).
-/

namespace DatabaseResource

open Activity

/-! ### Invocations that are all answered -/

/-- The handlings of invocations that are answered one after the other. -/
def answers (p : DatabaseProvisioner) (world : World) : List Invocation → Moment → List Handling
  | [], _ => []
  | i :: rest, m =>
    let run := answer p world i m
    ⟨i, m, eventsOf run.steps, run.result⟩ :: answers p world rest (m.after run.steps)

/-- The handlings of a process that starts at a moment and serves all its invocations. -/
def served (env : Environment) (world : World) (invocations : List Invocation) (m : Moment) :
    List Handling :=
  match (startUp env m).result with
  | none => []
  | some p => answers p world invocations (m.after (startUp env m).steps)

theorem handle_ends (r : Request) (deadline : Instant) (provisioner : Provisioner) (o : Outlet)
    (m : Moment) : ∃ result, (handle r deadline provisioner o m).result = some result := by
  obtain ⟨said, response, hphase, -⟩ := respond_apply r deadline provisioner m
  rw [handle_of_respond hphase]
  obtain ⟨closing, result, hreport, -⟩ := report_apply r deadline o response _
  exact ⟨result, by rw [hreport]; rfl⟩

theorem answer_ends (p : DatabaseProvisioner) (world : World) (i : Invocation) (m : Moment) :
    ∃ result, (answer p world i m).result = some result := by
  unfold answer
  cases Request.readDocument i.event.toList with
  | error error => exact ⟨_, rfl⟩
  | ok read =>
    dsimp only [handleInvocation]
    rw [now_bind_apply]
    cases m.now.after? (remaining i.deadlineMillis (world.wall m.now)) with
    | none => exact ⟨_, rfl⟩
    | some deadline =>
      obtain ⟨result, hresult⟩ := handle_ends read.1 deadline
        (p.provision world.server world.files) world.outlet m
      dsimp only
      rw [bind_apply_of_some (show (within _ _ m).result = some result from hresult)]
      cases result <;> exact ⟨_, rfl⟩

/-- The database server sees of handling a request what it sees of the dispatch by the end of the
phase. -/
theorem traffic_handle (r : Request) (deadline : Instant) (provisioner : Provisioner) (o : Outlet)
    (m : Moment) :
    traffic (eventsOf (handle r deadline provisioner o m).steps)
      = traffic (eventsOf
          ((dispatch r provisioner).cutAt (phaseDeadline deadline m.now) m).steps) := by
  obtain ⟨said, response, hphase, -⟩ := respond_apply r deadline provisioner m
  rw [handle_of_respond hphase, Run.prepend_steps, eventsOf_append, traffic_append, traffic_report]
  simp [show traffic [Event.composed response] = [] from rfl]

theorem traffic_handleInvocation (id : String) (deadlineMillis : Nat) (r : Request)
    (provisioner : Provisioner) (world : World) {m : Moment} {deadline : Instant}
    (hdeadline : m.now.after? (remaining deadlineMillis (world.wall m.now)) = some deadline) :
    traffic (eventsOf (handleInvocation id deadlineMillis r provisioner world m).steps)
      = traffic (eventsOf
          ((dispatch r provisioner).cutAt (phaseDeadline deadline m.now) m).steps) := by
  unfold handleInvocation
  rw [now_bind_apply, hdeadline]
  dsimp only
  rw [bind_steps_of_nil m fun result m => by cases result <;> rfl, eventsOf_within,
    traffic_within, traffic_handle]

theorem traffic_handleInvocation_of_none (id : String) (deadlineMillis : Nat) (r : Request)
    (provisioner : Provisioner) (world : World) {m : Moment}
    (hdeadline : m.now.after? (remaining deadlineMillis (world.wall m.now)) = none) :
    traffic (eventsOf (handleInvocation id deadlineMillis r provisioner world m).steps) = [] := by
  unfold handleInvocation
  rw [now_bind_apply, hdeadline]
  rfl

namespace Handling

/-- The time that a handling has until its deadline; `none` if there is no such instant. -/
def timeLeft? (world : World) (x : Handling) : Option Nat :=
  let left := remaining x.invocation.deadlineMillis (world.wall x.begun.now)
  (x.begun.now.after? left).map fun _ => left.toNanos

/-- A handling is a whole answer to its invocation, begun when the clock can show the time. -/
structure Completes (p : DatabaseProvisioner) (world : World) (x : Handling) : Prop where
  events_eq : x.events = eventsOf (answer p world x.invocation x.begun).steps
  result_eq : x.result = (answer p world x.invocation x.begun).result
  shown : -Instant.reach ≤ x.begun.now.nanos

variable {p : DatabaseProvisioner} {world world' : World} {x x' : Handling}

theorem Completes.arises (h : x.Completes p world) : x.Arises p world.server := by
  obtain ⟨result, hresult⟩ := answer_ends p world x.invocation x.begun
  let stop := x.begun.now.advance (elapsed (answer p world x.invocation x.begun).steps)
  have hcut : (answer p world x.invocation).cutAt stop x.begun
      = ⟨(answer p world x.invocation x.begun).steps, some (some result)⟩ :=
    cutAt_of_doneBy hresult (.inr (Int.le_refl _))
  refine ⟨world, stop, rfl, ?_, ?_⟩
  · rw [hcut, h.events_eq]
  · rw [hcut, h.result_eq, hresult]
    rfl

/-- The phase has the time until the deadline, less a second. -/
theorem phase_left {now : Instant} {left : Span} {deadline : Instant}
    (hshown : -Instant.reach ≤ now.nanos) (hdeadline : now.after? left = some deadline) :
    max 0 ((phaseDeadline deadline now).nanos - now.nanos)
      = max 0 ((left.toNanos : Int) - 1000000000) := by
  simp only [Instant.after?] at hdeadline
  split at hdeadline
  next hexists =>
    cases hdeadline
    rw [phaseDeadline_nanos]
    by_cases hphase : Instant.Exists (now.nanos + left.toNanos - 1000000000)
    · rw [if_pos hphase]
      dsimp only
      omega
    · -- There is no such instant only if less than a second is left.
      rw [if_neg hphase]
      simp only [Instant.Exists] at hexists hphase
      omega
  next => cases hdeadline

/-- Handlings of the same event with the same time left send the same, if the server has seen the
same before and the script is found alike. -/
theorem Completes.sent_eq (h : x.Completes p world) (h' : x'.Completes p world')
    (hserver : world.server = world'.server)
    (hevent : x.invocation.event = x'.invocation.event)
    (hleft : x.timeLeft? world = x'.timeLeft? world')
    (hscript : p.ScriptFound world.files world'.files x.begun.now x'.begun.now)
    (hpast : traffic x.begun.events = traffic x'.begun.events) : x.sent = x'.sent := by
  rw [sent, sent, h.events_eq, h'.events_eq]
  unfold answer
  rw [hevent]
  cases Request.readDocument x'.invocation.event.toList with
  | error error => rfl
  | ok read =>
    obtain ⟨r, rest⟩ := read
    simp only [timeLeft?] at hleft
    cases hdeadline : x.begun.now.after?
        (remaining x.invocation.deadlineMillis (world.wall x.begun.now)) with
    | none =>
      have hdeadline' : x'.begun.now.after?
          (remaining x'.invocation.deadlineMillis (world'.wall x'.begun.now)) = none := by
        simpa [hdeadline] using hleft.symm
      dsimp only
      rw [traffic_handleInvocation_of_none _ _ _ _ _ hdeadline,
        traffic_handleInvocation_of_none _ _ _ _ _ hdeadline']
    | some deadline =>
      rw [hdeadline, Option.map_some] at hleft
      obtain ⟨deadline', hdeadline', hsame⟩ := Option.map_eq_some_iff.mp hleft.symm
      have hrun : dispatch r (p.provision world.server world.files) x.begun
          = dispatch r (p.provision world'.server world'.files) x'.begun := by
        rw [hserver]
        refine dispatch_tracks r (p.provision_tracks world'.server hscript) _ _ ⟨hpast, 0, ?_, ?_⟩
        · simp
        · simp
      dsimp only
      rw [traffic_handleInvocation _ _ _ _ _ hdeadline,
        traffic_handleInvocation _ _ _ _ _ hdeadline']
      rw [cutAt_eq_of_left hrun]
      rw [phase_left h.shown hdeadline, phase_left h'.shown hdeadline', hsame]

/-- What a dispatch comes to at once is what is composed. -/
theorem Completes.compositions_eq {r : Request} {rest : List Char} {said : List Log.Entry}
    {response : Response} (h : x.Completes p world)
    (hread : Request.readDocument x.invocation.event.toList = .ok (r, rest))
    (hatOnce : AnsweredAtOnce r (p.provision world.server world.files) said response)
    (hlate : x.result ≠ some (.error .noSuchInstant)) : compositions x.events = [response] := by
  have hanswered := answer_answered p world x.invocation x.begun
  rw [h.result_eq] at hlate
  rw [h.events_eq]
  cases hanswered with
  | unread read => cases hread.symm.trans read
  | late late => exact (hlate late).elim
  | composed read concludes events _ front_compositions _ back_compositions =>
    cases hread.symm.trans read
    obtain ⟨answer, hquiet, hresult, hunique⟩ := hatOnce.dispatch_apply x.begun
    obtain ⟨-, rfl⟩ := hunique _ _ (concludes.of_not_waits hquiet hresult)
    rw [events, compositions_around _ front_compositions back_compositions]

end Handling

section Answers

variable (p : DatabaseProvisioner) (world : World)

theorem answers_invocations (invocations : List Invocation) (m : Moment) :
    (answers p world invocations m).map Handling.invocation = invocations := by
  induction invocations generalizing m with
  | nil => rfl
  | cons i rest ih => simp [answers, ih]

/-- The handlings are all that happens. -/
theorem answers_events (invocations : List Invocation) (m : Moment) :
    (answers p world invocations m).flatMap Handling.events
      = eventsOf (answerAll p world invocations m).steps := by
  induction invocations generalizing m with
  | nil => rfl
  | cons i rest ih =>
    obtain ⟨result, hresult⟩ := answer_ends p world i m
    unfold answers answerAll
    rw [bind_apply_of_some hresult, bind_steps_of_nil _ fun _ _ => rfl]
    simp [ih]

/-- Every handling is a whole answer, and begins where the one before has left off. -/
theorem answers_consecutive (invocations : List Invocation) (m : Moment)
    (hshown : -Instant.reach ≤ m.now.nanos) :
    Consecutive (Handling.Completes p world) (traffic m.events)
      (answers p world invocations m) := by
  induction invocations generalizing m with
  | nil => exact .nil _
  | cons i rest ih =>
    refine .cons ⟨rfl, rfl, hshown⟩ rfl ?_
    have hrest := ih (m.after (answer p world i m).steps) (by
      rw [Moment.after_now, Instant.advance_nanos]
      omega)
    simpa [Handling.sent] using hrest

end Answers

namespace Consecutive

variable {P Q : Handling → Prop} {past past' : List Database.Traffic} {hs hs' : List Handling}

theorem forall_mem (h : Consecutive P past hs) : ∀ x ∈ hs, P x := by
  induction h with
  | nil =>
    intro x hx
    exact (List.not_mem_nil hx).elim
  | cons holds _ _ ih =>
    intro x hx
    rcases List.mem_cons.mp hx with rfl | hx
    · exact holds
    · exact ih x hx

/-- Handlings that send nothing may be left out. -/
theorem filter {keep : Handling → Bool} (h : Consecutive P past hs)
    (hquiet : ∀ x, P x → keep x = false → x.sent = []) :
    Consecutive P past (hs.filter keep) ∧
      (hs.filter keep).flatMap Handling.sent = hs.flatMap Handling.sent := by
  induction h with
  | nil past => exact ⟨.nil past, rfl⟩
  | @cons past x hs holds begun _ ih =>
    cases hkeep : keep x with
    | true =>
      rw [List.filter_cons_of_pos hkeep, List.flatMap_cons, List.flatMap_cons, ih.2]
      exact ⟨.cons holds begun ih.1, rfl⟩
    | false =>
      have hsent := hquiet x holds hkeep
      rw [hsent, List.append_nil] at ih
      rw [List.filter_cons_of_neg (by simp [hkeep]), List.flatMap_cons, hsent, List.nil_append]
      exact ih

/-- Handlings send the same one by one, if each two that correspond do so behind the same
traffic. -/
theorem forall₂_sent {R : Handling → Handling → Prop} (h : Consecutive P past hs)
    (h' : Consecutive Q past hs') (hrel : List.Forall₂ R hs hs')
    (hsame : ∀ x x', P x → Q x' → R x x' → traffic x.begun.events = traffic x'.begun.events →
      x.sent = x'.sent) : hs.map Handling.sent = hs'.map Handling.sent := by
  induction hrel generalizing past with
  | nil => rfl
  | cons hxx _ ih =>
    cases h with
    | cons holds begun rest =>
      cases h' with
      | cons holds' begun' rest' =>
        have hsent := hsame _ _ holds holds' hxx (begun.trans begun'.symm)
        rw [← hsent] at rest'
        rw [List.map_cons, List.map_cons, hsent, ih rest rest']

end Consecutive

/-! ### How often the server is dialled -/

namespace Database

/-- How often a connection is asked for. -/
def dials (sent : List Traffic) : Nat := sent.countP (· matches .dialled ..)

@[simp] theorem dials_append (a b : List Traffic) : dials (a ++ b) = dials a + dials b :=
  List.countP_append

theorem Opens.dials_eq {target : Target} {opening : List Traffic} (h : Opens target opening) :
    dials opening = 1 := by
  obtain ⟨rfl | rfl, rfl | rfl⟩ := h <;> rfl

theorem Converses.dials_le {target : Target} {text : String} {sent : List Traffic}
    (h : Converses target text sent) : dials sent ≤ 1 := by
  obtain ⟨opening, hopens, hbegins⟩ := h
  have hwhole : dials (opening ++ [.query text, .terminate]) = 1 := by
    rw [dials_append, hopens.dials_eq]
    rfl
  cases hbegins with
  | speaking beginning => exact hwhole ▸ beginning.sublist.countP_le
  | hungUp beginning =>
    rw [dials_append]
    exact hwhole ▸ beginning.sublist.countP_le

end Database

theorem Bootstraps.dials_le {server : Database.Server} {files : Files} {b : Bootstrapper}
    {past first second : List Database.Traffic} {start : Instant}
    (h : Bootstraps server files b past start first second) :
    Database.dials (first ++ second) ≤ 2 := by
  obtain ⟨script, hsecond, -⟩ := h.exists_script
  have hfirst := h.first_converses.dials_le
  have hsecond := hsecond.dials_le
  rw [Database.dials_append]
  omega

/-! ### Many runs -/

/-- Handlings answer the same event with the same time left, and the script is found alike from
where they begin. -/
structure Handling.Keeps (world world' : World) (x x' : Handling) : Prop where
  event_eq : x.invocation.event = x'.invocation.event
  timeLeft_eq : x.timeLeft? world = x'.timeLeft? world'
  script : world.files.Found world'.files Bootstrapper.standardScript x.begun.now x'.begun.now

/-- Requests say the same but for their properties. -/
def Request.SameButProperties (r r' : Request) : Prop :=
  { r with resourceProperties := .null, oldResourceProperties := none }
    = { r' with resourceProperties := .null, oldResourceProperties := none }

theorem Request.SameButProperties.acknowledged_eq {r r' : Request} (h : r.SameButProperties r') :
    Response.acknowledged r = Response.acknowledged r' := by
  obtain ⟨⟩ := r
  obtain ⟨⟩ := r'
  simp only [SameButProperties, Request.mk.injEq] at h
  obtain ⟨-, rfl, -, rfl, rfl, -, rfl, -⟩ := h
  rfl

theorem Request.SameButProperties.requestType_eq {r r' : Request} (h : r.SameButProperties r') :
    r.requestType = r'.requestType := (Request.mk.inj h).1

/-- Requests for which there is nothing to do. -/
def Request.IsIdle (r : Request) : Prop := r.requestType = .update ∨ r.requestType = .delete

theorem Request.IsIdle.answeredAtOnce {r : Request} (h : r.IsIdle) (provisioner : Provisioner) :
    AnsweredAtOnce r provisioner [] (.acknowledged r) :=
  h.elim .update .delete

theorem Fault.unconfigured_message (reason : String) :
    (Fault.unconfigured reason).message = "Database configuration unavailable: " ++ reason := rfl

/-- What a process starts with: a configuration for the script beside it, or the reason why there
is none. -/
theorem startUp_provisioner (env : Environment) :
    ∃ entries p, (∀ m, startUp env m = ⟨logSteps entries, some p⟩) ∧
      ((∃ config, Config.ofEnvironment env = .ok config ∧ p = .ready (.ofConfig config)) ∨
        ∃ e, Config.ofEnvironment env = .error e ∧
          p = .unconfigured (Fault.ofConfigError e).message) := by
  obtain ⟨entries, p, hstart, hresult⟩ := startUp_apply env
  refine ⟨entries, p, hstart, ?_⟩
  have hp := hresult default
  cases hconfig : Config.ofEnvironment env with
  | error e =>
    rw [DatabaseProvisioner.ofEnvironment_refused hconfig] at hp
    exact .inr ⟨e, rfl, (Option.some.inj hp).symm⟩
  | ok config =>
    rw [DatabaseProvisioner.ofEnvironment_result hconfig] at hp
    exact .inl ⟨config, rfl, (Option.some.inj hp).symm⟩

section Served

variable {env : Environment} {entries : List Log.Entry} {p : DatabaseProvisioner}
  (hstart : ∀ m, startUp env m = ⟨logSteps entries, some p⟩)

include hstart

theorem served_eq (world : World) (invocations : List Invocation) (m : Moment) :
    served env world invocations m
      = answers p world invocations (m.after (logSteps entries)) := by
  simp only [served, hstart]

/-- All that can be seen of a process but logs is in its handlings. -/
theorem served_events {γ : Type} {view : Event → Option γ}
    (hview : ∀ context entry, view (.log context entry) = none) (world : World)
    (invocations : List Invocation) (m : Moment) :
    (served env world invocations m).flatMap (fun x => x.events.filterMap view)
      = (eventsOf (serve env world invocations m).steps).filterMap view := by
  have hlogs : (eventsOf (logSteps entries)).filterMap view = [] := by
    simp [List.filterMap_map, hview]
  rw [served_eq hstart, serve_eq_startUp, bind_of_apply_eq (hstart m), Run.prepend_steps,
    eventsOf_append, List.filterMap_append, hlogs, List.nil_append, ← answers_events,
    List.filterMap_flatMap]

theorem served_consecutive (world : World) (invocations : List Invocation) {m : Moment}
    (hshown : -Instant.reach ≤ m.now.nanos) :
    Consecutive (Handling.Completes p world) (traffic m.events)
      (served env world invocations m) := by
  rw [served_eq hstart]
  have h := answers_consecutive p world invocations (m.after (logSteps entries))
    (by simpa using hshown)
  simpa using h

/-- Processes whose creates are the same one by one, and keep their time left, send the same. -/
theorem served_sent_eq (hp : ∀ b, p = .ready b → b.scriptPath = Bootstrapper.standardScript)
    {world world' : World} {invocations invocations' : List Invocation} {m m' : Moment}
    (hshown : -Instant.reach ≤ m.now.nanos) (hshown' : -Instant.reach ≤ m'.now.nanos)
    (hserver : world.server = world'.server) (hpast : traffic m.events = traffic m'.events)
    (hkeeps : List.Forall₂ (Handling.Keeps world world')
      ((served env world invocations m).filter Handling.isCreate)
      ((served env world' invocations' m').filter Handling.isCreate)) :
    ((served env world invocations m).filter Handling.isCreate).map Handling.sent
        = ((served env world' invocations' m').filter Handling.isCreate).map Handling.sent ∧
      traffic (eventsOf (serve env world invocations m).steps)
        = traffic (eventsOf (serve env world' invocations' m').steps) := by
  have hquiet (world : World) (x : Handling) (hx : x.Completes p world)
      (hcreate : x.isCreate = false) : x.sent = [] :=
    hx.arises.sent_of_not_isCreate hcreate
  obtain ⟨hcreates, hall⟩ := (served_consecutive hstart world invocations hshown).filter
    (hquiet world)
  obtain ⟨hcreates', hall'⟩ := (served_consecutive hstart world' invocations' hshown').filter
    (hquiet world')
  rw [← hpast] at hcreates'
  have hsame := hcreates.forall₂_sent hcreates' hkeeps fun x x' hx hx' hk hbefore => by
    refine hx.sent_eq hx' hserver hk.event_eq hk.timeLeft_eq ?_ hbefore
    intro b hb
    rw [hp b hb]
    exact hk.script
  have hsent : (served env world invocations m).flatMap Handling.sent
      = traffic (eventsOf (serve env world invocations m).steps) :=
    served_events hstart (fun _ _ => rfl) world invocations m
  have hsent' : (served env world' invocations' m').flatMap Handling.sent
      = traffic (eventsOf (serve env world' invocations' m').steps) :=
    served_events hstart (fun _ _ => rfl) world' invocations' m'
  refine ⟨hsame, ?_⟩
  rw [← hsent, ← hsent', ← hall, ← hall', List.flatMap_def, List.flatMap_def, hsame]

/-- What is composed for a request with nothing to do, in any process. -/
theorem served_compositions_of_isIdle {world : World} {invocations : List Invocation} {m : Moment}
    (hshown : -Instant.reach ≤ m.now.nanos) {x : Handling} (hx : x ∈ served env world invocations m)
    {r : Request} {rest : List Char}
    (hread : Request.readDocument x.invocation.event.toList = .ok (r, rest)) (hidle : r.IsIdle)
    (hlate : x.result ≠ some (.error .noSuchInstant)) :
    compositions x.events = [.acknowledged r] := by
  have hcompletes := (served_consecutive hstart world invocations hshown).forall_mem x hx
  exact hcompletes.compositions_eq hread (hidle.answeredAtOnce _) hlate

end Served

namespace Handling

variable {env : Environment} {server : Database.Server} {p : DatabaseProvisioner} {x : Handling}

/-- What sends anything is a create with a configuration, and it opens two connections at most. -/
theorem Arises.connections_le (h : x.Arises p server) :
    x.sent.count .connected ≤ 2 ∧ Database.dials x.sent ≤ 2 := by
  cases p with
  | unconfigured reason =>
    rw [h.sent_of_unconfigured]
    exact ⟨Nat.zero_le 2, Nat.zero_le 2⟩
  | ready b =>
    obtain ⟨files, first, second, hsent, hbootstraps⟩ := h.bootstraps
    rw [hsent]
    exact ⟨hbootstraps.connections_le.1, hbootstraps.dials_le⟩

end Handling

/-- **Only creates reach the database.** A process serves any invocations in any environment. What
the server sees of it is in its handlings, and a handling that sends anything is a create with a
configuration; it asks for two connections at most. A process whose creates are the same, one by
one, and keep the time that is left to them sends the same, create by create, whatever else it is
asked in between. An update or a delete is acknowledged, and what is said of it depends neither on
the configuration nor on the properties. Without a configuration nothing is sent, and every create
is answered with a failure that says why there is none. -/
theorem only_creates_reach_database (env : Environment) (world : World)
    (invocations : List Invocation) {m : Moment} (hshown : -Instant.reach ≤ m.now.nanos) :
    let handled := served env world invocations m
    let run := serve env world invocations m
    handled.map Handling.invocation = invocations ∧
    handled.flatMap Handling.sent = traffic (eventsOf run.steps) ∧
    handled.flatMap (fun x => compositions x.events) = compositions (eventsOf run.steps) ∧
    (∀ x ∈ handled, x.sent ≠ [] →
      x.isCreate = true ∧ ∃ config, Config.ofEnvironment env = .ok config) ∧
    (∀ x ∈ handled, x.sent.count .connected ≤ 2 ∧ Database.dials x.sent ≤ 2) ∧
    (∀ (world' : World) (invocations' : List Invocation) (m' : Moment),
      -Instant.reach ≤ m'.now.nanos → world.server = world'.server →
      traffic m.events = traffic m'.events →
      List.Forall₂ (Handling.Keeps world world') (handled.filter Handling.isCreate)
        ((served env world' invocations' m').filter Handling.isCreate) →
      (handled.filter Handling.isCreate).map Handling.sent
          = ((served env world' invocations' m').filter Handling.isCreate).map Handling.sent ∧
        traffic (eventsOf run.steps)
          = traffic (eventsOf (serve env world' invocations' m').steps)) ∧
    (∀ e, Config.ofEnvironment env = .error e →
      traffic (eventsOf run.steps) = [] ∧
      ∀ x ∈ handled, x.isCreate = true → x.result ≠ some (.error .noSuchInstant) →
        ∃ response, compositions x.events = [response] ∧ response.status = .failed ∧
          response.reason = some (Response.truncated
            ("Database configuration unavailable: " ++ (Fault.ofConfigError e).message))) ∧
    ∀ x ∈ handled, ∀ r rest,
      Request.readDocument x.invocation.event.toList = .ok (r, rest) → r.IsIdle →
      x.result ≠ some (.error .noSuchInstant) →
      compositions x.events = [.acknowledged r] ∧
      (Response.acknowledged r).status = .success ∧
      ∀ (env' : Environment) (world' : World) (invocations' : List Invocation) (m' : Moment),
        -Instant.reach ≤ m'.now.nanos → ∀ x' ∈ served env' world' invocations' m', ∀ r' rest',
          Request.readDocument x'.invocation.event.toList = .ok (r', rest') →
          r.SameButProperties r' → x'.result ≠ some (.error .noSuchInstant) →
          compositions x'.events = compositions x.events := by
  obtain ⟨entries, p, hstart, hp⟩ := startUp_provisioner env
  have hconsecutive := served_consecutive hstart world invocations hshown
  have hcompletes := hconsecutive.forall_mem
  have hinvocations : (served env world invocations m).map Handling.invocation = invocations := by
    rw [served_eq hstart, answers_invocations]
  have hsent : (served env world invocations m).flatMap Handling.sent
      = traffic (eventsOf (serve env world invocations m).steps) :=
    served_events hstart (fun _ _ => rfl) world invocations m
  refine ⟨hinvocations, hsent, served_events hstart (fun _ _ => rfl) world invocations m, ?_, ?_,
    ?_, ?_, ?_⟩
  · intro x hx hsome
    have harises := (hcompletes x hx).arises
    refine ⟨?_, ?_⟩
    · rw [← Bool.not_eq_false]
      exact fun hcreate => hsome (harises.sent_of_not_isCreate hcreate)
    · rcases hp with ⟨config, hconfig, -⟩ | ⟨e, -, rfl⟩
      · exact ⟨config, hconfig⟩
      · exact (hsome harises.sent_of_unconfigured).elim
  · intro x hx
    exact (hcompletes x hx).arises.connections_le
  · intro world' invocations' m' hshown' hserver hpast hkeeps
    refine served_sent_eq hstart ?_ hshown hshown' hserver hpast hkeeps
    rintro b rfl
    rcases hp with ⟨config, -, hready⟩ | ⟨e, -, hready⟩
    · cases hready
      rfl
    · cases hready
  · intro e he
    obtain rfl : p = .unconfigured (Fault.ofConfigError e).message := by
      rcases hp with ⟨config, hconfig, -⟩ | ⟨e', he', hready⟩
      · cases he.symm.trans hconfig
      · cases he.symm.trans he'
        exact hready
    refine ⟨?_, ?_⟩
    · rw [← hsent, List.flatMap_eq_nil_iff]
      exact fun x hx => (hcompletes x hx).arises.sent_of_unconfigured
    · intro x hx hcreate hlate
      cases hread : Request.readDocument x.invocation.event.toList with
      | error error => simp [Handling.isCreate, hread] at hcreate
      | ok read =>
        have htype := (Handling.Arises.isCreate_iff hread).mp hcreate
        have hcomposed := (hcompletes x hx).compositions_eq hread (.unconfigured htype rfl) hlate
        refine ⟨_, hcomposed, rfl, ?_⟩
        rw [Response.failed, Fault.unconfigured_message]
  · intro x hx r rest hread hidle hlate
    have hcomposed := served_compositions_of_isIdle hstart hshown hx hread hidle hlate
    refine ⟨hcomposed, rfl, ?_⟩
    intro env' world' invocations' m' hshown' x' hx' r' rest' hread' hsame hlate'
    obtain ⟨entries', p', hstart', -⟩ := startUp_provisioner env'
    have hidle' : r'.IsIdle := by rwa [Request.IsIdle, hsame.requestType_eq] at hidle
    rw [served_compositions_of_isIdle hstart' hshown' hx' hread' hidle' hlate', hcomposed,
      hsame.acknowledged_eq]

/-- An update before a create leaves no trace: the create alone, begun at the same time, sends the
same. -/
theorem app_update_leaves_no_trace :
    let update : Invocation :=
      ⟨"1", 4000, "[\"Update\",\"r\",\"https://[::1]/\",\"s\",\"l\",\"t\",null,\"x\",null,null]"⟩
    let create : Invocation :=
      ⟨"2", 4000, "[\"Create\",\"r\",\"https://[::1]/\",\"s\",\"l\",\"t\",null,\"x\",null,null]"⟩
    let world : World := ⟨⟨.standard, .unreachable, fun _ => 0⟩, welcoming,
      ⟨fun _ _ => .ok [], fun _ _ => some 0⟩, fun _ => .after .zero⟩
    ∃ m' : Moment, -Instant.reach ≤ m'.now.nanos ∧
      traffic (eventsOf (serve appEnvironment world [update, create] ⟨⟨0⟩, []⟩).steps)
        = traffic (eventsOf (serve appEnvironment world [create] m').steps) := by
  intro update create world
  obtain ⟨entries, p, hstart, -⟩ := startUp_provisioner appEnvironment
  let begun : Moment := Moment.after ⟨⟨0⟩, []⟩ (logSteps entries)
  let m' : Moment := ⟨(begun.after (answer p world update begun).steps).now, []⟩
  have hshown : -(Instant.reach : Int) ≤ 0 := by omega
  have hshown' : -(Instant.reach : Int) ≤ m'.now.nanos := by
    simp only [m', begun, Moment.after_now, Instant.advance_nanos]
    omega
  refine ⟨m', hshown', ?_⟩
  have hcreate (m events result) : Handling.isCreate ⟨create, m, events, result⟩ = true := by
    show Handling.isCreate ⟨create, default, [], none⟩ = true
    decide +kernel
  have hupdate (m events result) : Handling.isCreate ⟨update, m, events, result⟩ = false := by
    show Handling.isCreate ⟨update, default, [], none⟩ = false
    decide +kernel
  obtain ⟨-, -, -, -, -, hkeeping, -⟩ :=
    only_creates_reach_database appEnvironment world [update, create] (m := ⟨⟨0⟩, []⟩) hshown
  refine (hkeeping world [create] m' hshown' rfl rfl ?_).2
  have hnow : (begun.after (answer p world update begun).steps).now
      = (m'.after (logSteps entries)).now := by
    simp [m']
  rw [served_eq hstart, served_eq hstart]
  simp only [answers, hcreate, hupdate, List.filter]
  refine .cons ⟨rfl, ?_, ?_⟩ .nil
  · simp only [Handling.timeLeft?]
    rw [← hnow]
  · dsimp only
    rw [← hnow]
    exact fun n => ⟨rfl, rfl⟩

end DatabaseResource
