import DatabaseResource.Proofs.Transcript
import DatabaseResource.Service

/-!
# Processes one after the other

A process serves its invocations until it is gone, in the middle of one perhaps, and others follow
on it (`serveAll`). What happens is told by its handlings (`history`): for each invocation the
moment at which it was taken up, and what happened from there on until it was answered or the
process was gone. All that the database server sees of the processes is in their handlings
(`history_events`), each of which goes on where the one before it has left off
(`history_consecutive`).
-/

namespace DatabaseResource

/-- A step with a context for what it logs. -/
def Step.within (context : Log.Context) : Step → Step
  | .event e => .event (e.within context)
  | s => s

theorem eventsOf_map_within (context : Log.Context) (steps : List Step) :
    eventsOf (steps.map (Step.within context)) = (eventsOf steps).map (Event.within context) := by
  induction steps with
  | nil => rfl
  | cons s steps ih => cases s <;> simp [Step.within, ih]

namespace Activity

variable {α β : Type}

/-- Steps in front that are not cut are kept, and what is behind them is cut from there on. -/
theorem cutSteps_append_of_not_cut {deadline start : Instant} {a : List Step} (b : List Step)
    (h : (cutSteps deadline start a).2 = false) :
    cutSteps deadline start (a ++ b)
      = (a ++ (cutSteps deadline (start.advance (elapsed a)) b).1,
          (cutSteps deadline (start.advance (elapsed a)) b).2) := by
  induction a generalizing start with
  | nil => simp
  | cons s a ih =>
    cases s with
    | event e => simp [cutSteps, ih (by simpa [cutSteps] using h)]
    | wait n =>
      simp only [cutSteps, List.cons_append] at h ⊢
      split at h
      next hle => simp [hle, ih h, Instant.advance_advance]
      next => cases h

/-- What follows on something is cut where that is over, and does not begin where it is cut. -/
theorem cutAt_bind (x : Activity α) (f : α → Activity β) (deadline : Instant) :
    (x >>= f).cutAt deadline = x.cutAt deadline >>= fun
      | some a => (f a).cutAt deadline
      | none => pure none := by
  funext m
  rcases cutAt_cases x deadline m with ⟨a, hr, hd, hcut⟩ | ⟨hlate, hcut⟩
  · have hkept := (cut_eq_false_iff deadline m.now (x m).steps).mpr hd
    rw [bind_of_apply_eq hcut]
    simp only [cutAt, bind_apply_of_some hr, cutSteps_append_of_not_cut _ hkept, Moment.after_now,
      elapsed_append, Instant.advance_nanos]
    by_cases hrest : (cutSteps deadline (m.now.advance (elapsed (x m).steps))
        (f a (m.after (x m).steps)).steps).2 = true
    · simp [hrest]
    · cases (f a (m.after (x m).steps)).result <;> simp [hrest, Int.add_assoc]
  · rw [bind_of_apply_eq hcut]
    by_cases hkept : (cutSteps deadline m.now (x m).steps).2 = true
    · rcases bind_cases x f m with ⟨-, hrun⟩ | ⟨a, -, hrun⟩
      · simp [cutAt, hrun, hkept]
      · simp [cutAt, hrun, hkept, cutSteps_append_of_cut _ hkept]
    · have hr : (x m).result = none :=
        hlate.resolve_right fun h => h ((cut_eq_false_iff ..).mp (by simpa using hkept))
      simp [cutAt, bind_apply_of_none hr, hr, hkept]

/-- What is cut at a deadline ends, given up perhaps. -/
theorem cutAt_ends (x : Activity α) (deadline : Instant) (m : Moment) :
    ∃ answered, x.cutAt deadline m = ⟨(x.cutAt deadline m).steps, some answered⟩ := by
  rcases cutAt_cases x deadline m with ⟨a, -, -, hcut⟩ | ⟨-, hcut⟩
  · exact ⟨some a, by rw [hcut]⟩
  · exact ⟨none, hcut⟩

/-- What goes on at once adds no steps. -/
theorem bind_steps_of_nil {x : Activity α} {f : α → Activity β} (m : Moment)
    (hf : ∀ a m, (f a m).steps = []) : ((x >>= f) m).steps = (x m).steps := by
  rcases bind_cases x f m with ⟨-, hrun⟩ | ⟨a, -, hrun⟩
  · rw [hrun]
  · rw [hrun, Run.prepend_steps, hf, List.append_nil]

theorem within_apply (context : Log.Context) (x : Activity α) (m : Moment) :
    x.within context m = ⟨(x m).steps.map (Step.within context), (x m).result⟩ := rfl

theorem eventsOf_within (context : Log.Context) (x : Activity α) (m : Moment) :
    eventsOf (x.within context m).steps = (eventsOf (x m).steps).map (Event.within context) := by
  rw [within_apply, eventsOf_map_within]

end Activity

open Activity

/-! ### Processes and handlings -/

/-- A process: how long it is until it starts, the world around it but for the database server, the
invocations that it gets, and the instant at which it is gone at the latest. -/
structure Process where
  pause : Nat
  outlet : Outlet
  files : Files
  wall : Instant → WallTime
  invocations : List Invocation
  stop : Instant

def Process.world (p : Process) (server : Database.Server) : World :=
  ⟨p.outlet, server, p.files, p.wall⟩

@[simp] theorem Process.world_server (p : Process) (server : Database.Server) :
    (p.world server).server = server := rfl

/-- Processes in the same environment, one after the other. -/
def serveAll (env : Environment) (server : Database.Server) : List Process → Activity Unit
  | [] => return ()
  | p :: rest => do
    sleep p.pause
    let _ ← (serve env (p.world server) p.invocations).cutAt p.stop
    serveAll env server rest

/-- An invocation, the moment at which it is taken up, what happens until it is answered or its
process is gone, and the answer. -/
structure Handling where
  invocation : Invocation
  begun : Moment
  events : List Event
  result : Option (Except InvocationError Unit)

/-- What the database server sees of a handling. -/
def Handling.sent (h : Handling) : List Database.Traffic := traffic h.events

/-- The handlings of invocations until an instant. The last one may have been broken off. -/
def handlings (p : DatabaseProvisioner) (world : World) (stop : Instant) :
    List Invocation → Moment → List Handling
  | [], _ => []
  | i :: rest, m =>
    let run := (answer p world i).cutAt stop m
    ⟨i, m, eventsOf run.steps, run.result.join⟩ ::
      match run.result.join with
      | none => []
      | some _ => handlings p world stop rest (m.after run.steps)

/-- Loads the configuration, and is ready. -/
def startUp (env : Environment) : Activity DatabaseProvisioner := do
  let p ← DatabaseProvisioner.ofEnvironment env
  log .ready
  return p

/-- The handlings of a process that starts at a moment. -/
def Process.handlings (p : Process) (env : Environment) (server : Database.Server) (m : Moment) :
    List Handling :=
  match (startUp env m).result with
  | none => []
  | some provisioner => DatabaseResource.handlings provisioner (p.world server) p.stop p.invocations
      (m.after (startUp env m).steps)

/-- The handlings of processes one after the other. -/
def history (env : Environment) (server : Database.Server) : List Process → Moment → List Handling
  | [], _ => []
  | p :: rest, m =>
    let begun := m.after (waitSteps p.pause)
    p.handlings env server begun ++ history env server rest
      (begun.after ((serve env (p.world server) p.invocations).cutAt p.stop begun).steps)

/-! ### The handlings tell all -/

theorem serve_eq_startUp (env : Environment) (world : World) (invocations : List Invocation) :
    serve env world invocations = startUp env >>= fun p => answerAll p world invocations := by
  simp [serve, startUp]

/-- Loading the configuration only logs something, and comes to the same at any moment. -/
theorem startUp_apply (env : Environment) :
    ∃ entries p, (∀ m, startUp env m = ⟨logSteps entries, some p⟩) ∧
      ∀ m, (DatabaseProvisioner.ofEnvironment env m).result = some p := by
  unfold startUp DatabaseProvisioner.ofEnvironment
  cases Config.ofEnvironment env with
  | error e =>
    exact ⟨[.notConfigured (.ofConfigError e), .ready], _, fun _ => rfl, fun _ => rfl⟩
  | ok config =>
    by_cases hplain : Config.isPlainIdentifier config.name = true
    · simp only [hplain, Bool.not_true, Bool.false_eq_true, if_false]
      exact ⟨[.configured config.user config.host config.hostPort config.name config.sslMode,
        .ready], _, fun _ => rfl, fun _ => rfl⟩
    · simp only [hplain, Bool.not_false, if_true]
      exact ⟨[.nameNotPlain config.name,
        .configured config.user config.host config.hostPort config.name config.sslMode, .ready], _,
        fun _ => rfl, fun _ => rfl⟩

theorem eventsOf_map_cutAt {α β : Type} (f : α → β) (x : Activity α) (deadline : Instant)
    (m : Moment) :
    eventsOf ((f <$> x).cutAt deadline m).steps = eventsOf (x.cutAt deadline m).steps := by
  rw [cutAt_events, cutAt_events, map_apply]

/-- The handlings of invocations are all that happens. -/
theorem handlings_events (p : DatabaseProvisioner) (world : World) (stop : Instant)
    (invocations : List Invocation) (m : Moment) :
    (handlings p world stop invocations m).flatMap Handling.events
      = eventsOf ((answerAll p world invocations).cutAt stop m).steps := by
  induction invocations generalizing m with
  | nil => rfl
  | cons i rest ih =>
    unfold answerAll handlings
    rw [cutAt_bind]
    obtain ⟨answered, hcut⟩ := cutAt_ends (answer p world i) stop m
    generalize ((answer p world i).cutAt stop m).steps = steps at hcut
    rw [bind_of_apply_eq hcut]
    simp only [hcut, Option.join_some]
    cases answered with
    | none => simp
    | some a => simp [bind_pure_comp, eventsOf_map_cutAt, ← ih]

/-- A handling by what an environment gives. -/
def Handling.Arises (p : DatabaseProvisioner) (server : Database.Server) (h : Handling) : Prop :=
  ∃ (world : World) (stop : Instant), world.server = server ∧
    let run := (answer p world h.invocation).cutAt stop h.begun
    h.events = eventsOf run.steps ∧ h.result = run.result.join

/-- Handlings of which each begins where the one before has left off, behind some traffic. -/
inductive Consecutive (P : Handling → Prop) : List Database.Traffic → List Handling → Prop where
  | nil (past : List Database.Traffic) : Consecutive P past []
  | cons {past h hs} (holds : P h) (begun : traffic h.begun.events = past)
      (rest : Consecutive P (past ++ h.sent) hs) : Consecutive P past (h :: hs)

namespace Consecutive

variable {P : Handling → Prop} {past : List Database.Traffic} {hs hs' : List Handling}

theorem append (h : Consecutive P past hs)
    (h' : Consecutive P (past ++ hs.flatMap Handling.sent) hs') :
    Consecutive P past (hs ++ hs') := by
  induction h with
  | nil past => simpa using h'
  | cons holds begun _ ih => exact .cons holds begun (ih (by simpa [List.append_assoc] using h'))

/-- What is in the middle begins where all before it has left off. -/
theorem split {front back : List Handling} {x : Handling}
    (h : Consecutive P past (front ++ x :: back)) :
    P x ∧ traffic x.begun.events = past ++ front.flatMap Handling.sent ∧
      Consecutive P (past ++ front.flatMap Handling.sent ++ x.sent) back := by
  induction front generalizing past with
  | nil =>
    cases h with
    | cons holds begun rest => exact ⟨holds, by simpa using begun, by simpa using rest⟩
  | cons y front ih =>
    cases h with
    | cons holds begun rest => simpa [List.append_assoc] using ih rest

end Consecutive

theorem handlings_consecutive (p : DatabaseProvisioner) (world : World) (stop : Instant)
    (invocations : List Invocation) (m : Moment) :
    Consecutive (Handling.Arises p world.server) (traffic m.events)
      (handlings p world stop invocations m) := by
  induction invocations generalizing m with
  | nil => exact .nil _
  | cons i rest ih =>
    unfold handlings
    refine .cons ⟨world, stop, rfl, rfl, rfl⟩ rfl ?_
    split
    · exact .nil _
    · simpa [Handling.sent] using ih (m.after ((answer p world i).cutAt stop m).steps)

section History

variable {env : Environment} {entries : List Log.Entry} {p : DatabaseProvisioner}
  (hstart : ∀ m, startUp env m = ⟨logSteps entries, some p⟩)

include hstart

/-- A process that is gone at an instant has started, and served its invocations until then. -/
theorem serve_cutAt_apply (world : World) (invocations : List Invocation) (stop : Instant)
    (m : Moment) :
    (serve env world invocations).cutAt stop m
      = ((answerAll p world invocations).cutAt stop (m.after (logSteps entries))).prepend
          (logSteps entries) := by
  have hquiet : waits (logSteps entries) = false := by simp [logSteps, waits]
  have hcut : (startUp env).cutAt stop m = ⟨logSteps entries, some (some p)⟩ := by
    rw [cutAt_of_doneBy (congrArg Run.result (hstart m)) (.inl (by rw [hstart]; exact hquiet)),
      hstart]
  rw [serve_eq_startUp, cutAt_bind, bind_of_apply_eq hcut]

theorem process_handlings_eq (process : Process) (server : Database.Server) (m : Moment) :
    process.handlings env server m = handlings p (process.world server) process.stop
      process.invocations (m.after (logSteps entries)) := by
  simp only [Process.handlings, hstart]

/-- All that can be seen of processes but logs is in their handlings. -/
theorem history_events {γ : Type} {view : Event → Option γ}
    (hview : ∀ context entry, view (.log context entry) = none) (server : Database.Server)
    (processes : List Process) (m : Moment) :
    (history env server processes m).flatMap (fun h => h.events.filterMap view)
      = (eventsOf (serveAll env server processes m).steps).filterMap view := by
  have hlogs : (eventsOf (logSteps entries)).filterMap view = [] := by
    simp [List.filterMap_map, hview]
  induction processes generalizing m with
  | nil => rfl
  | cons process rest ih =>
    unfold history serveAll
    obtain ⟨answered, hserve⟩ : ∃ answered, (serve env (process.world server)
        process.invocations).cutAt process.stop (m.after (waitSteps process.pause))
          = ⟨_, some answered⟩ := cutAt_ends ..
    rw [sleep_bind_apply, bind_of_apply_eq hserve]
    simp only [process_handlings_eq hstart, serve_cutAt_apply hstart, Run.prepend_steps,
      eventsOf_append, eventsOf_waitSteps, List.nil_append, List.flatMap_append,
      List.filterMap_append, hlogs, ← handlings_events, List.filterMap_flatMap, ih]

/-- The handlings of processes begin where the ones before have left off. -/
theorem history_consecutive (server : Database.Server) (processes : List Process) (m : Moment) :
    Consecutive (Handling.Arises p server) (traffic m.events) (history env server processes m) := by
  induction processes generalizing m with
  | nil => exact .nil _
  | cons process rest ih =>
    unfold history
    simp only [process_handlings_eq hstart]
    have hown := handlings_consecutive p (process.world server) process.stop process.invocations
      ((m.after (waitSteps process.pause)).after (logSteps entries))
    have hsent (m : Moment) : (handlings p (process.world server) process.stop process.invocations
        m).flatMap Handling.sent = traffic (eventsOf ((answerAll p (process.world server)
          process.invocations).cutAt process.stop m).steps) := by
      rw [← handlings_events, traffic, List.filterMap_flatMap]
      rfl
    refine .append (by simpa using hown) ?_
    rw [hsent]
    simpa [serve_cutAt_apply hstart, List.append_assoc] using ih ((m.after
      (waitSteps process.pause)).after ((serve env (process.world server)
        process.invocations).cutAt process.stop (m.after (waitSteps process.pause))).steps)

end History

/-! ### What an answer consists of -/

/-- What comes of an answer: nothing where there is no request or no such deadline, or a request is
dispatched, and the response to it is composed and delivered. -/
inductive Answered (p : DatabaseProvisioner) (world : World) (i : Invocation) (m : Moment)
    (run : Run (Except InvocationError Unit)) : Prop where
  | unread {error} (read : Request.readDocument i.event.toList = .error error)
      (events : eventsOf run.steps = [])
  | late (result : run.result = some (.error .noSuchInstant)) (events : eventsOf run.steps = [])
  | composed {r rest phaseEnd said response front back}
      (read : Request.readDocument i.event.toList = .ok (r, rest))
      (concludes : Concludes r phaseEnd m.now
        (dispatch r (p.provision world.server world.files) m) said response)
      (events : eventsOf run.steps = front ++ .composed response :: back)
      (front_traffic : traffic front = traffic (eventsOf
        ((dispatch r (p.provision world.server world.files)).cutAt phaseEnd m).steps))
      (front_compositions : compositions front = [])
      (back_traffic : traffic back = []) (back_compositions : compositions back = [])

/-- What can be seen without the log is seen in any context. -/
theorem filterMap_within {γ : Type} {view : Event → Option γ}
    (hview : ∀ context entry, view (.log context entry) = none) (context : Log.Context)
    (events : List Event) :
    (events.map (Event.within context)).filterMap view = events.filterMap view := by
  have hsame : view ∘ Event.within context = view :=
    funext fun e => by cases e with
      | log context' entry => cases context' <;> simp [Event.within, hview]
      | _ => rfl
  rw [List.filterMap_map, hsame]

theorem traffic_within (context : Log.Context) (events : List Event) :
    traffic (events.map (Event.within context)) = traffic events :=
  filterMap_within (fun _ _ => rfl) context events

theorem compositions_within (context : Log.Context) (events : List Event) :
    compositions (events.map (Event.within context)) = compositions events :=
  filterMap_within (fun _ _ => rfl) context events

theorem exchanges_within (context : Log.Context) (events : List Event) :
    exchanges (events.map (Event.within context)) = exchanges events :=
  filterMap_within (fun _ _ => rfl) context events

theorem traffic_report (r : Request) (deadline : Instant) (o : Outlet) (response : Response)
    (m : Moment) : traffic (eventsOf (report r deadline o response m).steps) = [] := by
  obtain ⟨closing, result, hrun, -⟩ := report_apply r deadline o response m
  rw [hrun, eventsOf_append, traffic_append, eventsOf_logSteps, traffic_logs, List.append_nil]
  apply List.filterMap_eq_nil_iff.mpr
  intro e he
  rcases (o.deliver_emits r.responseUrl response).cutAt deadline m e he with
    ⟨x, rfl⟩ | ⟨fault, pause, rfl⟩
  · rfl
  · rfl

theorem DatabaseProvisioner.provision_emits {P : Event → Prop} (p : DatabaseProvisioner)
    (server : Database.Server) (files : Files) (ht : ∀ t, P (.traffic t))
    (hl : ∀ entry, P (.log none entry)) : Emits P (p.provision server files) := by
  cases p with
  | ready b => exact b.provision_emits ht hl
  | unconfigured reason => exact .pure _

/-- The events of handling a request: those of the phase, the composed response, and its
delivery. -/
theorem handle_events (r : Request) (deadline : Instant) {provisioner : Provisioner} (o : Outlet)
    (m : Moment) (hquiet : Emits (fun e => e.composed? = none) provisioner) :
    ∃ phaseEnd said response front back,
      Concludes r phaseEnd m.now (dispatch r provisioner m) said response ∧
      eventsOf (handle r deadline provisioner o m).steps = front ++ .composed response :: back ∧
      traffic front = traffic (eventsOf ((dispatch r provisioner).cutAt phaseEnd m).steps) ∧
      compositions front = [] ∧ traffic back = [] ∧ compositions back = [] := by
  obtain ⟨said, response, hphase, hconcludes⟩ := respond_apply r deadline provisioner m
  generalize hsteps : ((dispatch r provisioner).cutAt (phaseDeadline deadline m.now) m).steps
    ++ logSteps said = phase at hphase
  refine ⟨_, said, response, eventsOf phase, eventsOf (report r deadline o response
    (m.after (phase ++ [.event (.composed response)]))).steps, hconcludes, ?_, ?_, ?_,
    traffic_report .., compositions_report ..⟩
  · rw [handle_of_respond hphase, Run.prepend_steps, eventsOf_append, eventsOf_append,
      List.append_assoc]
    rfl
  · rw [← hsteps, eventsOf_append, traffic_append, eventsOf_logSteps, traffic_logs,
      List.append_nil]
  · rw [← hsteps, eventsOf_append, compositions_append, eventsOf_logSteps, compositions_logs,
      List.append_nil]
    exact compositions_eq_nil ((dispatch_emits (P := fun e => e.composed? = none) rfl hquiet).cutAt
      _ m)

theorem answer_answered (p : DatabaseProvisioner) (world : World) (i : Invocation) (m : Moment) :
    Answered p world i m (answer p world i m) := by
  unfold answer
  cases hread : Request.readDocument i.event.toList with
  | error error => exact .unread hread rfl
  | ok read =>
    obtain ⟨r, rest⟩ := read
    dsimp only [handleInvocation]
    rw [now_bind_apply]
    cases m.now.after? (remaining i.deadlineMillis (world.wall m.now)) with
    | none => exact .late rfl rfl
    | some deadline =>
      obtain ⟨phaseEnd, said, response, front, back, hconcludes, hevents, hfront, hfront', hback,
        hback'⟩ := handle_events r deadline world.outlet m
          (p.provision_emits world.server world.files (fun _ => rfl) fun _ => rfl)
      let context : Log.Context := ⟨i.id, r.requestType.text, r.logicalResourceId⟩
      refine .composed hread hconcludes ?_ ((traffic_within context front).trans hfront)
        ((compositions_within context front).trans hfront')
        ((traffic_within context back).trans hback)
        ((compositions_within context back).trans hback')
      dsimp only
      rw [bind_steps_of_nil m fun result m => by cases result <;> rfl, eventsOf_within, hevents,
        List.map_append]
      rfl

end DatabaseResource
