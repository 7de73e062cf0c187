import DatabaseResource.Proofs.Idle

/-!
# Invocations on their own

A process keeps nothing from one invocation to the next. What is left of the world behind some
events (`World.behind`), with what chance has in store for its pauses, is all that an invocation
meets of what has been before it, and so each one is answered as it would be by a process that is
started for it alone (`invocations_are_independent`).
-/

namespace DatabaseResource

/-! ### What is left behind some events -/

/-- What is left of a server behind some traffic. -/
def Database.Server.behind (past : List Database.Traffic) (server : Database.Server) :
    Database.Server where
  approach more target := server.approach (past ++ more) target
  refusal more target := server.refusal (past ++ more) target
  ssl more := server.ssl (past ++ more)
  login more := server.login (past ++ more)
  verdict more := server.verdict (past ++ more)
  reply more := server.reply (past ++ more)
  closing more := server.closing (past ++ more)
  parting more := server.parting (past ++ more)
  latency more := server.latency (past ++ more)

/-- What is left of the web behind some exchanges. -/
def Http.Web.behind (past : List Http.Exchange) (web : Http.Web) : Http.Web where
  connect more url := web.connect (past ++ more) url
  approach more url := web.approach (past ++ more) url
  react more call := web.react (past ++ more) call
  latency more call := web.latency (past ++ more) call

/-- What is left of the ways to endpoints behind some events, and of what chance has in store. -/
def Outlet.behind (past : List Event) (o : Outlet) : Outlet :=
  { o with
    web := o.web.behind (exchanges past)
    extra := fun more => o.extra (exchanges past ++ more) }

/-- What is left of the world behind some events. -/
def World.behind (past : List Event) (world : World) : World :=
  { world with outlet := world.outlet.behind past, server := world.server.behind (traffic past) }

variable {α : Type} {past : List Event}

/-- A moment behind some events corresponds to the same moment without them. -/
def Moment.resuming (past : List Event) : Moment.Correspondence where
  rel m m' := m = ⟨m'.now, past ++ m'.events⟩
  after := by
    rintro m m' rfl steps
    simp [Moment.after]

namespace Activity

/-- An activity does behind some events what another one does where nothing was before. -/
abbrev Resumes (past : List Event) (x x' : Activity α) : Prop :=
  SameFrom (Moment.resuming past) x x'

namespace Resumes

variable {x x' : Activity α} (hx : Resumes past x x')

include hx

theorem cutAt (deadline : Instant) : Resumes past (x.cutAt deadline) (x'.cutAt deadline) := by
  rintro _ m rfl
  simp only [Activity.cutAt, hx _ m rfl, Moment.after_now]

theorem within (context : Log.Context) : Resumes past (x.within context) (x'.within context) := by
  intro m m' hm
  simp only [Activity.within, hx m m' hm]

end Resumes

end Activity

open Activity

theorem Database.Server.sameFrom_behind (server : Server) :
    server.SameFrom (Moment.resuming past) (server.behind (traffic past)) := by
  constructor <;> rintro _ m rfl <;> simp [Server.behind]

theorem Files.sameFrom_resuming (files : Files) (path : String) :
    files.SameFrom (Moment.resuming past) path files := by
  rintro _ m rfl
  exact ⟨rfl, rfl⟩

/-! ### Endpoints -/

namespace Http

variable (web : Web) (deadline : Instant) (call : Call)

section Behind

variable (past more : List Exchange)

theorem Web.approach_behind (url : Url) :
    (web.behind past).approach more url = web.approach (past ++ more) url := rfl

theorem Web.latency_behind :
    (web.behind past).latency more call = web.latency (past ++ more) call := rfl

theorem Web.connectBy_behind (now there : Instant) (url : Url) :
    (web.behind past).connectBy deadline now there more url
      = web.connectBy deadline now there (past ++ more) url := rfl

theorem Web.reactBy_behind (ready : Instant) :
    (web.behind past).reactBy deadline ready more call
      = web.reactBy deadline ready (past ++ more) call := rfl

end Behind

theorem sleepUntil_resumes (t : Instant) : Resumes past (sleepUntil t) (sleepUntil t) := by
  refine .now_bind ?_
  rintro _ m rfl
  exact .sleep _

theorem ask_resumes :
    Resumes past (ask web deadline call) (ask (web.behind (exchanges past)) deadline call) := by
  have hnone {t : Instant} : Resumes past
      (do sleepUntil t; return (none : Option (Nat × Option String)))
      (do sleepUntil t; return none) := (sleepUntil_resumes t).bind fun _ => .pure _
  unfold ask
  refine (SameFrom.emit _).bind fun _ => .moment_bind ?_
  rintro _ m rfl
  dsimp only
  rw [exchanges_append]
  simp only [Web.connectBy_behind, Web.approach_behind, Web.reactBy_behind, Web.latency_behind]
  split
  · exact hnone
  · exact hnone
  · exact (sleepUntil_resumes _).bind fun _ => (SameFrom.emit _).bind fun _ =>
      (SameFrom.sleep 1).bind fun _ => .pure _
  · refine (sleepUntil_resumes _).bind fun _ => (SameFrom.emit _).bind fun _ => ?_
    split
    · exact hnone
    · exact hnone
    · exact hnone
    · exact (sleepUntil_resumes _).bind fun _ => .pure _

theorem settle_resumes (origin : Url) (answer : Option (Nat × Option String))
    {follow follow' : Option (Call → Activity (Except Error Nat))}
    (h : Option.Rel (fun f f' => ∀ next, Resumes past (f next) (f' next)) follow follow') :
    Resumes past (settle origin call follow answer) (settle origin call follow' answer) := by
  unfold settle
  split
  · exact .pure _
  · split
    · exact .pure _
    · cases readPlace _ with
      | error flaw => exact .pure _
      | ok url =>
        cases h with
        | none => exact .pure _
        | some h =>
          dsimp only
          split
          · exact .pure _
          · exact h _

theorem attempt_resumes (origin : Url) (redirects : Nat) :
    Resumes past (attempt web deadline origin redirects call)
      (attempt (web.behind (exchanges past)) deadline origin redirects call) := by
  induction redirects generalizing call with
  | zero =>
    exact (ask_resumes web deadline call).bind fun answer =>
      settle_resumes call origin answer .none
  | succ redirects ih =>
    exact (ask_resumes web deadline call).bind fun answer =>
      settle_resumes call origin answer (.some ih)

end Http

namespace Sender

theorem deliverOnce_resumes (web : Http.Web) (url : Url) (body : String) :
    Resumes past (deliverOnce web url body)
      (deliverOnce (web.behind (exchanges past)) url body) := by
  unfold deliverOnce
  split
  · exact .pure _
  refine .now_bind ?_
  rintro _ m rfl
  refine (Http.attempt_resumes _ _ _ _ _).bind fun answer => ?_
  split <;> exact .pure _

theorem deliverFrom_resumes (s : Sender) (web : Http.Web) (extra : List Http.Exchange → Nat)
    (url : Url) (body : String) (k left : Nat) :
    Resumes past (s.deliverFrom web extra url body k left)
      (s.deliverFrom (web.behind (exchanges past)) (fun more => extra (exchanges past ++ more)) url
        body k left) := by
  induction left generalizing k with
  | zero =>
    unfold deliverFrom
    refine (deliverOnce_resumes web url body).bind fun outcome => ?_
    split <;> exact .pure _
  | succ left ih =>
    unfold deliverFrom
    refine (deliverOnce_resumes web url body).bind fun outcome => ?_
    split
    · exact .pure _
    · dsimp only
      split
      · refine .moment_bind ?_
        rintro _ m rfl
        rw [exchanges_append]
        exact (SameFrom.log _).bind fun _ => (SameFrom.timer _).bind fun _ => ih _
      · exact .pure _

end Sender

/-! ### Processes -/

theorem respond_resumes (r : Request) (deadline : Instant) {provisioner provisioner' : Provisioner}
    (h : Resumes past provisioner provisioner') :
    Resumes past (respond r deadline provisioner) (respond r deadline provisioner') := by
  refine .now_bind ?_
  rintro _ m rfl
  refine (Resumes.cutAt (dispatch_sameFrom r h) _).bind fun answered => ?_
  split
  · exact .pure _
  · exact (SameFrom.log _).bind fun _ => .pure _
  · exact (SameFrom.log _).bind fun _ => .pure _

theorem report_resumes (r : Request) (deadline : Instant) (o : Outlet) (response : Response) :
    Resumes past (report r deadline o response) (report r deadline (o.behind past) response) := by
  have hdeliver : Resumes past (o.deliver r.responseUrl response)
      ((o.behind past).deliver r.responseUrl response) := Sender.deliverFrom_resumes _ _ _ _ _ _ _
  refine (hdeliver.cutAt deadline).bind fun delivered => ?_
  split
  · exact .pure _
  · exact .pure _
  · exact (SameFrom.log _).bind fun _ => .pure _

theorem handle_resumes (r : Request) (deadline : Instant) {provisioner provisioner' : Provisioner}
    (h : Resumes past provisioner provisioner') (o : Outlet) :
    Resumes past (handle r deadline provisioner o)
      (handle r deadline provisioner' (o.behind past)) :=
  (respond_resumes r deadline h).bind fun response =>
    (SameFrom.emit _).bind fun _ => report_resumes r deadline o response

/-- Behind some events, an invocation is answered as it is where nothing was before. -/
theorem answer_resumes (p : DatabaseProvisioner) (world : World) (i : Invocation) :
    Resumes past (answer p world i) (answer p (world.behind past) i) := by
  unfold answer
  split
  · exact .pure _
  refine .now_bind ?_
  rintro _ m rfl
  dsimp only [World.behind]
  split
  · exact .pure _
  have hprovision : Resumes past (p.provision world.server world.files)
      (p.provision (world.server.behind (traffic past)) world.files) :=
    p.provision_sameFrom world.server.sameFrom_behind fun b _ =>
      world.files.sameFrom_resuming b.scriptPath
  refine (Resumes.within (handle_resumes _ _ hprovision _) _).bind fun result => ?_
  split <;> exact .pure _

/-- What has left no trace at endpoints and the database server leaves the world as it is. -/
theorem World.behind_of_quiet (hexchanges : exchanges past = []) (htraffic : traffic past = [])
    (world : World) : world.behind past = world := by
  simp only [World.behind, Outlet.behind, hexchanges, htraffic]
  rfl

/-! ### What comes of an invocation -/

/-- The invocation asks for a request to be handled by an instant. -/
def Invocation.Asks (i : Invocation) (world : World) (start : Instant) (r : Request)
    (deadline : Instant) : Prop :=
  (∃ rest, Request.readDocument i.event.toList = .ok (r, rest)) ∧
    start.after? (remaining i.deadlineMillis (world.wall start)) = some deadline

/-- The invocation's event is no request. -/
def Invocation.Unreadable (i : Invocation) (e : Json.ReadError) : Prop :=
  Request.readDocument i.event.toList = .error e

section Answer

variable (p : DatabaseProvisioner) {world : World} {i : Invocation} {m : Moment} {r : Request}
  {deadline : Instant}

theorem answer_of_unreadable {e : Json.ReadError} (h : i.Unreadable e) :
    answer p world i m = ⟨[], some (.error (.unreadable e i.event))⟩ := by
  unfold answer
  rw [h]
  rfl

theorem answer_of_asks (h : i.Asks world m.now r deadline) {outcome : Except Fault Unit}
    (hrun : (handle r deadline (p.provision world.server world.files) world.outlet m).result
      = some outcome) :
    (answer p world i m).result = some (outcome.mapError .fault) := by
  obtain ⟨⟨rest, hread⟩, hdeadline⟩ := h
  unfold answer
  rw [hread]
  dsimp only [handleInvocation]
  rw [now_bind_apply, hdeadline]
  dsimp only
  rw [bind_apply_of_some (show (within _ _ m).result = some outcome from hrun)]
  cases outcome <;> rfl

theorem answer_cases (p : DatabaseProvisioner) (world : World) (i : Invocation) (m : Moment) :
    (∃ e, i.Unreadable e) ∨ (answer p world i m).result = some (.error .noSuchInstant) ∨
      ∃ r deadline, i.Asks world m.now r deadline := by
  unfold Invocation.Unreadable Invocation.Asks answer
  cases Request.readDocument i.event.toList with
  | error e => exact .inl ⟨e, rfl⟩
  | ok read =>
    cases hdeadline : m.now.after? (remaining i.deadlineMillis (world.wall m.now)) with
    | none =>
      refine .inr (.inl ?_)
      dsimp only [handleInvocation]
      rw [now_bind_apply, hdeadline]
      rfl
    | some deadline => exact .inr (.inr ⟨read.1, deadline, ⟨read.2, rfl⟩, rfl⟩)

end Answer

/-- A deadline in milliseconds of 64 bits is one that the clock can show, unless it has come half of
its way. -/
theorem exists_deadline {deadlineMillis : Nat} {start : Instant}
    (hmillis : deadlineMillis < 1 <<< 64) (hshown : -Instant.reach ≤ start.nanos)
    (hhalf : 2 * start.nanos < Instant.reach)
    (now : WallTime) : ∃ deadline, start.after? (remaining deadlineMillis now) = some deadline := by
  have hleft := toNanos_remaining_eq deadlineMillis now
  have hreach : Instant.reach = 9223372036854775808000000000 := rfl
  have hbits : (1 <<< 64 : Nat) = 18446744073709551616 := rfl
  have hexists : Instant.Exists (start.nanos + (remaining deadlineMillis now).toNanos) := by
    unfold Instant.Exists
    omega
  exact ⟨_, if_pos hexists⟩

namespace Handling

/-- What an invocation is answered with. It is a success exactly if its request is handled well, and
an error with the text of what it fails with otherwise. Nothing happens where there is no request,
and one that there is gets handled, as long as the clock can show its deadline. -/
structure Settled (p : DatabaseProvisioner) (world : World) (x : Handling) : Prop where
  success_iff : x.result = some (.ok ()) ↔
    ∃ r deadline, x.invocation.Asks world x.begun.now r deadline ∧
      (handle r deadline (p.provision world.server world.files) world.outlet x.begun).result
        = some (.ok ())
  failure {r deadline fault} (asks : x.invocation.Asks world x.begun.now r deadline)
    (fails : (handle r deadline (p.provision world.server world.files) world.outlet
      x.begun).result = some (.error fault)) :
    ∃ error, x.result = some (.error error) ∧ error.message = fault.message
  unreadable {e} (unreadable : x.invocation.Unreadable e) :
    x.result = some (.error (.unreadable e x.invocation.event)) ∧ x.events = []
  asks {r rest} (read : Request.readDocument x.invocation.event.toList = .ok (r, rest))
    (millis : x.invocation.deadlineMillis < 1 <<< 64) (shown : -Instant.reach ≤ x.begun.now.nanos)
    (half : 2 * x.begun.now.nanos < Instant.reach) :
    ∃ deadline, x.invocation.Asks world x.begun.now r deadline

variable {p : DatabaseProvisioner} {world : World} {x : Handling}

theorem settled_of_answer
    (hevents : x.events = eventsOf (answer p world x.invocation x.begun).steps)
    (hresult : x.result = (answer p world x.invocation x.begun).result) : x.Settled p world where
  success_iff := by
    constructor
    · intro hok
      rw [hresult] at hok
      rcases answer_cases p world x.invocation x.begun with
        ⟨e, hunreadable⟩ | hlate | ⟨r, deadline, hasks⟩
      · rw [answer_of_unreadable p hunreadable] at hok
        cases hok
      · rw [hlate] at hok
        cases hok
      · obtain ⟨outcome, hrun⟩ := handle_ends r deadline (p.provision world.server world.files)
          world.outlet x.begun
        rw [answer_of_asks p hasks hrun] at hok
        cases outcome with
        | error fault => cases hok
        | ok => exact ⟨r, deadline, hasks, hrun⟩
    · rintro ⟨r, deadline, hasks, hrun⟩
      rw [hresult, answer_of_asks p hasks hrun]
      rfl
  failure asks fails := by
    refine ⟨.fault _, ?_, rfl⟩
    rw [hresult, answer_of_asks p asks fails]
    rfl
  unreadable h := by
    rw [hresult, hevents, answer_of_unreadable p h]
    exact ⟨rfl, rfl⟩
  asks read millis shown half := by
    obtain ⟨deadline, hdeadline⟩ := exists_deadline millis shown half (world.wall x.begun.now)
    exact ⟨deadline, ⟨_, read⟩, hdeadline⟩

end Handling

/-! ### Processes that answer all their invocations -/

section Answers

variable (p : DatabaseProvisioner) (world : World)

/-- Every handling is a whole answer. -/
theorem eq_of_mem_answers {invocations : List Invocation} {m : Moment} {x : Handling}
    (h : x ∈ answers p world invocations m) :
    x.events = eventsOf (answer p world x.invocation x.begun).steps ∧
      x.result = (answer p world x.invocation x.begun).result := by
  induction invocations generalizing m with
  | nil => cases h
  | cons i rest ih =>
    rcases List.mem_cons.mp h with rfl | h
    · exact ⟨rfl, rfl⟩
    · exact ih h

theorem answerAll_cons_steps (i : Invocation) (rest : List Invocation) (m : Moment) :
    (answerAll p world (i :: rest) m).steps = (answer p world i m).steps
      ++ (answerAll p world rest (m.after (answer p world i m).steps)).steps := by
  obtain ⟨result, hresult⟩ := answer_ends p world i m
  rw [answerAll, bind_apply_of_some hresult, bind_steps_of_nil _ fun _ _ => rfl]

/-- All invocations are answered, in their order. -/
theorem answerAll_result (invocations : List Invocation) (m : Moment) :
    ∃ results, (answerAll p world invocations m).result = some results ∧
      (answers p world invocations m).map Handling.result = results.map some := by
  induction invocations generalizing m with
  | nil => exact ⟨[], rfl, rfl⟩
  | cons i rest ih =>
    obtain ⟨result, hresult⟩ := answer_ends p world i m
    obtain ⟨results, hrest, hresults⟩ := ih (m.after (answer p world i m).steps)
    refine ⟨result :: results, ?_, ?_⟩
    · rw [answerAll, bind_apply_of_some hresult, bind_apply_of_some hrest]
      rfl
    · simp [answers, hresult, hresults]

/-- A handling begins when the invocations before it are answered. -/
theorem begun_of_answers {invocations : List Invocation} {m : Moment} {front back : List Handling}
    {x : Handling} (h : answers p world invocations m = front ++ x :: back) :
    x.begun = m.after (answerAll p world (front.map Handling.invocation) m).steps := by
  induction invocations generalizing m front with
  | nil => exact (List.append_ne_nil_of_right_ne_nil front (List.cons_ne_nil x back) h.symm).elim
  | cons i rest ih =>
    cases front with
    | nil =>
      obtain ⟨rfl, -⟩ := List.cons.inj h
      exact (Moment.after_nil m).symm
    | cons y front =>
      obtain ⟨rfl, hrest⟩ := List.cons.inj h
      rw [ih hrest, List.map_cons, answerAll_cons_steps, Moment.after_append]

variable {keep : Invocation → Bool} {invocations : List Invocation}

/-- Events that are no requests may be left out. -/
theorem answers_filter (m : Moment)
    (hkeep : ∀ i ∈ invocations, keep i = false → ∃ e, i.Unreadable e) :
    answers p world (invocations.filter keep) m
        = (answers p world invocations m).filter (fun x => keep x.invocation) ∧
      (answerAll p world (invocations.filter keep) m).steps
        = (answerAll p world invocations m).steps := by
  induction invocations generalizing m with
  | nil => exact ⟨rfl, rfl⟩
  | cons i rest ih =>
    have hrest (m : Moment) := ih m fun j hj => hkeep j (List.mem_cons_of_mem i hj)
    cases hi : keep i with
    | true =>
      rw [List.filter_cons_of_pos hi, answerAll_cons_steps, answerAll_cons_steps, (hrest _).2]
      simp [answers, hi, (hrest _).1]
    | false =>
      obtain ⟨e, hunreadable⟩ := hkeep i List.mem_cons_self hi
      have hquiet : answer p world i m = _ := answer_of_unreadable p hunreadable
      rw [List.filter_cons_of_neg (by simp [hi]), answerAll_cons_steps, (hrest m).1, (hrest m).2]
      simp [answers, hi, hquiet]

end Answers

section Start

variable {env : Environment} {entries : List Log.Entry} {p : DatabaseProvisioner}
  (hstart : ∀ m, startUp env m = ⟨logSteps entries, some p⟩)

include hstart

/-- A process starts, and answers its invocations from then on. -/
theorem serve_apply (world : World) (invocations : List Invocation) (m : Moment) :
    serve env world invocations m
      = (answerAll p world invocations (m.after (logSteps entries))).prepend
          (logSteps entries) := by
  rw [serve_eq_startUp, bind_of_apply_eq (hstart m)]

/-- A process that is started for an invocation in what is left of the world answers it as it was
answered there. -/
theorem serve_alone (world : World) (i : Invocation) (m : Moment) :
    ∃ result, (answer p world i m).result = some result ∧
      serve env (world.behind m.events) [i] ⟨m.now, []⟩
        = ⟨logSteps entries ++ (answer p world i m).steps, some [result]⟩ := by
  let logs : List Event := entries.map (.log none ·)
  have hstarted : Moment.after ⟨m.now, []⟩ (logSteps entries) = ⟨m.now, logs⟩ := by
    simp [Moment.after, logs]
  have hresumes (past : List Event) (world : World) :
      answer p world i ⟨m.now, past⟩ = answer p (world.behind past) i ⟨m.now, []⟩ :=
    answer_resumes p world i _ _ (by simp [Moment.resuming])
  have hsame : answer p world i m = answer p (world.behind m.events) i ⟨m.now, logs⟩ :=
    calc answer p world i m
      _ = answer p (world.behind m.events) i ⟨m.now, []⟩ := hresumes m.events world
      _ = answer p ((world.behind m.events).behind logs) i ⟨m.now, []⟩ := by
        rw [World.behind_of_quiet (exchanges_logs entries) (traffic_logs entries)]
      _ = answer p (world.behind m.events) i ⟨m.now, logs⟩ := (hresumes logs _).symm
  obtain ⟨result, hresult⟩ := answer_ends p world i m
  refine ⟨result, hresult, ?_⟩
  rw [hsame] at hresult ⊢
  rw [serve_apply hstart, hstarted, answerAll, bind_apply_of_some hresult]
  simp [answerAll]

end Start

/-- **Invocations are independent.** A process that has started answers all its invocations, each
once and in their order, and nothing else happens. An answer is a success exactly if the request is
handled well, and an error with the text of what went wrong otherwise; an event that is no request
is answered with an error, and nothing happens. Each invocation is taken up when those before it
have been answered. A process that is started for it alone at that time, in what is left of the
world, answers it in the same way, and the same happens behind the start. So it changes nothing for
the others if events that are no requests are left out. -/
theorem invocations_are_independent (env : Environment) (world : World)
    (invocations : List Invocation) (m : Moment) :
    ∃ (entries : List Log.Entry) (p : DatabaseProvisioner)
      (results : List (Except InvocationError Unit)),
      let run := serve env world invocations m
      let handled := served env world invocations m
      (∀ start, startUp env start = ⟨logSteps entries, some p⟩) ∧
      run.result = some results ∧ handled.map Handling.result = results.map some ∧
      handled.map Handling.invocation = invocations ∧
      eventsOf run.steps = entries.map (.log none ·) ++ handled.flatMap Handling.events ∧
      (∀ x ∈ handled, x.Settled p world) ∧
      (∀ front x back, handled = front ++ x :: back →
        x.begun = m.after (serve env world (front.map Handling.invocation) m).steps) ∧
      (∀ x ∈ handled,
        let alone := serve env (world.behind x.begun.events) [x.invocation] ⟨x.begun.now, []⟩
        alone.result = x.result.map ([·]) ∧
        eventsOf alone.steps = entries.map (.log none ·) ++ x.events) ∧
      ∀ keep : Invocation → Bool, (∀ i ∈ invocations, keep i = false → ∃ e, i.Unreadable e) →
        served env world (invocations.filter keep) m
            = handled.filter (fun x => keep x.invocation) ∧
          (serve env world (invocations.filter keep) m).steps = run.steps := by
  obtain ⟨entries, p, hstart, -⟩ := startUp_provisioner env
  obtain ⟨results, hresults, hhandled⟩ :=
    answerAll_result p world invocations (m.after (logSteps entries))
  refine ⟨entries, p, results, hstart, ?_⟩
  simp only [served_eq hstart]
  refine ⟨?_, hhandled, answers_invocations .., ?_, fun x hx => ?_, fun front x back h => ?_,
    fun x hx => ?_, fun keep hkeep => ?_⟩
  · rw [serve_apply hstart, Run.prepend_result, hresults]
  · rw [serve_apply hstart, Run.prepend_steps, eventsOf_append, eventsOf_logSteps, answers_events]
  · obtain ⟨hevents, hresult⟩ := eq_of_mem_answers p world hx
    exact Handling.settled_of_answer hevents hresult
  · rw [begun_of_answers p world h, serve_apply hstart, Run.prepend_steps, Moment.after_append]
  · obtain ⟨hevents, hresult⟩ := eq_of_mem_answers p world hx
    obtain ⟨result, hanswer, halone⟩ := serve_alone hstart world x.invocation x.begun
    rw [halone, hresult, hanswer, hevents]
    exact ⟨rfl, by rw [eventsOf_append, eventsOf_logSteps]⟩
  · obtain ⟨hfilter, hsteps⟩ := answers_filter p world (m.after (logSteps entries)) hkeep
    rw [serve_apply hstart, serve_apply hstart, Run.prepend_steps, Run.prepend_steps, hsteps]
    exact ⟨hfilter, rfl⟩

/-- An event that breaks off changes nothing for the update behind it. -/
theorem broken_event_is_left_out :
    let broken : Invocation := ⟨"1", 4000, "\x7b\"RequestType\":"⟩
    let update : Invocation :=
      ⟨"2", 4000, "[\"Update\",\"r\",\"https://[::1]/\",\"s\",\"l\",\"t\",null,\"x\",null,null]"⟩
    let world : World := ⟨⟨.standard, .unreachable, fun _ => 0⟩, welcoming,
      ⟨fun _ _ => .ok [], fun _ _ => some 0⟩, fun _ => .after .zero⟩
    (∃ e, broken.Unreadable e) ∧
      (serve appEnvironment world [update] ⟨⟨0⟩, []⟩).steps
        = (serve appEnvironment world [broken, update] ⟨⟨0⟩, []⟩).steps := by
  intro broken update world
  have hbroken : ∃ e, broken.Unreadable e := by
    have hnone : (Request.readDocument broken.event.toList).toOption.isNone = true := by
      decide +kernel
    unfold Invocation.Unreadable
    cases hread : Request.readDocument broken.event.toList with
    | error e => exact ⟨e, rfl⟩
    | ok read =>
      rw [hread] at hnone
      cases hnone
  obtain ⟨-, -, -, -, -, -, -, -, -, -, -, hleft⟩ :=
    invocations_are_independent appEnvironment world [broken, update] ⟨⟨0⟩, []⟩
  refine ⟨hbroken, (hleft (fun i => i.id = "2") ?_).2⟩
  intro i hi hid
  rcases List.mem_cons.mp hi with rfl | hi
  · exact hbroken
  · obtain rfl := List.mem_singleton.mp hi
    cases hid

end DatabaseResource
