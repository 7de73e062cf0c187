import DatabaseResource.Proofs.Document
import DatabaseResource.Proofs.Progress

/-!
# The log tells what was sent

What is logged while a request is handled is of four kinds, in this order: what of a bootstrap is
over, that the phase has failed, which tries are repeated, and that the response is delivered
(`Journal`). Each is there exactly if what it tells has happened (`Journal.Tells`,
`log_tells_what_was_sent`). A repeated try is told as soon as it has failed, whether or not there is
time left for the next one (`Outlet.loggedBy_tries`).
-/

namespace DatabaseResource

open Activity Outlet

/-! ### What is logged by a deadline -/

theorem DoneBy.append_iff {deadline start : Instant} {a : List Step}
    (h : DoneBy deadline start a) (b : List Step) :
    DoneBy deadline start (a ++ b) ↔ DoneBy deadline (start.advance (elapsed a)) b := by
  have hkept := (cut_eq_false_iff deadline start a).mpr h
  unfold DoneBy
  rw [← cut_eq_false_iff, ← cut_eq_false_iff, cutSteps_append_of_not_cut b hkept]

/-- What is logged of steps that are cut at a deadline. -/
def loggedBy (deadline start : Instant) (steps : List Step) :
    List (Option Log.Context × Log.Entry) :=
  logged (eventsOf (cutSteps deadline start steps).1)

section

variable {deadline start : Instant} {a : List Step}

theorem loggedBy_append_of_doneBy (h : DoneBy deadline start a) (b : List Step) :
    loggedBy deadline start (a ++ b)
      = logged (eventsOf a) ++ loggedBy deadline (start.advance (elapsed a)) b := by
  have hkept := (cut_eq_false_iff deadline start a).mpr h
  simp [loggedBy, cutSteps_append_of_not_cut b hkept]

theorem loggedBy_append_of_late (h : ¬ DoneBy deadline start a) (b : List Step) :
    loggedBy deadline start (a ++ b) = loggedBy deadline start a := by
  have hcut : (cutSteps deadline start a).2 = true := by
    rw [← Bool.not_eq_false]
    exact fun hkept => h ((cut_eq_false_iff deadline start a).mp hkept)
  rw [loggedBy, cutSteps_append_of_cut b hcut, loggedBy]

/-- Of what logs nothing, nothing is logged by a deadline. -/
theorem loggedBy_of_quiet (h : logged (eventsOf a) = []) : loggedBy deadline start a = [] := by
  have hprefix := (cut_events_isPrefix deadline start a).filterMap Event.log?
  rw [loggedBy, logged]
  rw [logged] at h
  rwa [h, List.prefix_nil] at hprefix

/-- An entry in front of a wait is logged, however long the wait is. -/
theorem loggedBy_pause (entry : Log.Entry) (n : Nat) :
    loggedBy deadline start [.event (.log none entry), .wait n] = [(none, entry)] := by
  simp only [loggedBy, cutSteps]
  split <;> simp

end

namespace Outlet

variable (o : Outlet) (url : Url) (body : String) (m : Moment)

/-- The steps from try `i` on to the end of the `n`-th try behind it, if all before are repeated. -/
def triesSteps (i n : Nat) : List Step :=
  (List.range' i n).flatMap (o.roundSteps url body m) ++ o.trySteps url body m (i + n)

@[simp] theorem triesSteps_zero (i : Nat) :
    o.triesSteps url body m i 0 = o.trySteps url body m i := rfl

theorem triesSteps_succ (i n : Nat) :
    o.triesSteps url body m i (n + 1)
      = o.roundSteps url body m i ++ o.triesSteps url body m (i + 1) n := by
  simp [triesSteps, List.range'_succ, Nat.add_assoc, Nat.add_comm 1 n]

variable {o url body m} {deadline : Instant}

theorem doneBy_trySteps {start : Instant} {i n : Nat}
    (h : DoneBy deadline start (o.triesSteps url body m i n)) :
    DoneBy deadline start (o.trySteps url body m i) := by
  cases n with
  | zero => exact h
  | succ n =>
    rw [triesSteps_succ] at h
    exact h.of_append.of_append

/-- A failure is logged for each try that is over by the deadline, but for the last one. -/
theorem loggedBy_tries {fault : Nat → Fault} (deadline : Instant) (n i : Nat)
    (hfault : ∀ j < i + n, i ≤ j → o.tryOutcome url body m j = .error (fault j)) :
    ∃ w ≤ n,
      loggedBy deadline (o.tryMoment url body m i).now (o.triesSteps url body m i n)
        = (List.range' i w).map (fun j =>
            (none, .deliveryRepeated (fault j) (.ofNanos (o.pauseBehind url body m j)))) ∧
      ∀ j < n, j < w
        ↔ DoneBy deadline (o.tryMoment url body m i).now (o.triesSteps url body m i j) := by
  induction n generalizing i with
  | zero => exact ⟨0, Nat.le_refl 0, loggedBy_of_quiet (o.logged_trySteps ..), nofun⟩
  | succ n ih =>
    have hfirst := hfault i (by omega) (Nat.le_refl i)
    have hround := o.roundSteps_of_error url body m hfirst
    by_cases htry : DoneBy deadline (o.tryMoment url body m i).now (o.trySteps url body m i)
    · by_cases hpause : DoneBy deadline (o.tryMoment url body m i).now (o.roundSteps url body m i)
      · obtain ⟨w, hw, hlogged, hdone⟩ := ih (i + 1) fun j hj hij => hfault j (by omega) (by omega)
        rw [tryMoment_succ, Moment.after_now] at hlogged hdone
        refine ⟨w + 1, Nat.succ_le_succ hw, ?_, ?_⟩
        · rw [triesSteps_succ, loggedBy_append_of_doneBy hpause, hlogged,
            logged_roundSteps o url body m i hfirst, List.range'_succ]
          rfl
        · intro j hj
          cases j with
          | zero => simpa using htry
          | succ j =>
            rw [triesSteps_succ, hpause.append_iff, ← hdone j (by omega)]
            omega
      · -- The deadline falls into the pause: the try has failed, and is not repeated.
        refine ⟨1, by omega, ?_, ?_⟩
        · rw [triesSteps_succ, loggedBy_append_of_late hpause, hround,
            loggedBy_append_of_doneBy htry, loggedBy_pause, logged_trySteps]
          rfl
        · intro j hj
          cases j with
          | zero => simpa using htry
          | succ j =>
            rw [triesSteps_succ]
            refine iff_of_false (by omega) fun h => hpause h.of_append
    · refine ⟨0, Nat.zero_le _, ?_, ?_⟩
      · rw [triesSteps_succ, hround, List.append_assoc, loggedBy_append_of_late htry,
          loggedBy_of_quiet (o.logged_trySteps ..)]
        rfl
      · intro j hj
        exact iff_of_false (by omega) fun h => htry (doneBy_trySteps h)

variable (o url body m) in
/-- Try `i` of a delivery has failed by a deadline, is worth repeating, and a retry is left. -/
structure FailsBy (deadline : Instant) (i : Nat) (fault : Fault) : Prop where
  left : i < o.sender.maxRetries
  repeated : ∀ j < i, Retryable (o.tryOutcome url body m j)
  done : DoneBy deadline m.now (o.triesSteps url body m 0 i)
  outcome : o.tryOutcome url body m i = .error fault
  retryable : Retryable (.error fault)

/-- What an outcome that may be better next time has failed with. -/
def faultOf : Except Fault Unit → Fault
  | .error fault => fault
  | .ok () => .responseDeadline

theorem Retryable.eq_error {outcome : Except Fault Unit} (h : Retryable outcome) :
    outcome = .error (faultOf outcome) := by
  cases outcome with
  | ok => exact h.elim
  | error fault => rfl

/-- What may be repeated, with a retry left, is not the last try. -/
theorem IsLastTry.lt {outcome : Nat → Except Fault Unit} {limit k i : Nat}
    (h : IsLastTry outcome limit k) (hleft : i < limit)
    (hrepeated : ∀ j ≤ i, Retryable (outcome j)) : i < k := by
  apply Nat.lt_of_not_le
  intro hki
  rcases h.final with rfl | hfinal
  · exact Nat.not_lt_of_le hki hleft
  · exact hfinal (hrepeated k hki)

/-- What is logged of a delivery by a deadline: the tries that have failed by then and are worth
repeating, in their order. -/
theorem logged_delivery (o : Outlet) (url : Url) (response : Response) (m : Moment)
    (deadline : Instant) :
    ∃ repeats : List Log.Entry,
      logged (eventsOf ((o.deliver url response).cutAt deadline m).steps)
        = repeats.map (none, ·) ∧
      (∀ e ∈ repeats, e.level = .warn) ∧
      ∀ i entry, repeats[i]? = some entry
        ↔ ∃ fault,
          entry = .deliveryRepeated fault (.ofNanos (o.pauseBehind url response.body m i)) ∧
          o.FailsBy url response.body m deadline i fault := by
  obtain ⟨k, hlast, hrun⟩ := o.deliver_eq_tries url m response
  have hfault : ∀ j < k, o.tryOutcome url response.body m j
      = .error (faultOf (o.tryOutcome url response.body m j)) :=
    fun j hj => (hlast.repeated j hj).eq_error
  obtain ⟨w, hw, hlogged, hdone⟩ := loggedBy_tries deadline k 0
    fun j hj _ => hfault j (by omega)
  refine ⟨(List.range w).map fun j =>
    .deliveryRepeated (faultOf (o.tryOutcome url response.body m j))
      (.ofNanos (o.pauseBehind url response.body m j)), ?_, ?_, ?_⟩
  · rw [cutAt_events, hrun]
    simpa [loggedBy, triesSteps, tryMoment, List.range_eq_range', Function.comp_def] using hlogged
  · intro e he
    obtain ⟨j, -, rfl⟩ := List.mem_map.mp he
    rfl
  · intro i entry
    constructor
    · intro h
      obtain ⟨j, hj, rfl⟩ := Option.map_eq_some_iff.mp (List.getElem?_map ▸ h)
      obtain ⟨hi, rfl⟩ := List.getElem?_eq_some_iff.mp hj
      rw [List.length_range] at hi
      rw [List.getElem_range]
      have hik : i < k := by omega
      refine ⟨_, rfl, Nat.lt_of_lt_of_le hik hlast.le, fun j hj => hlast.repeated j (by omega),
        (hdone i hik).mp hi, hfault i hik, ?_⟩
      rw [← hfault i hik]
      exact hlast.repeated i hik
    · intro h
      obtain ⟨fault, hentry, hfails⟩ := h
      have hik : i < k := by
        refine hlast.lt hfails.left fun j hj => ?_
        rcases Nat.lt_or_eq_of_le hj with hj | rfl
        · exact hfails.repeated j hj
        · exact hfails.outcome ▸ hfails.retryable
      have hi : i < w := (hdone i hik).mpr hfails.done
      rw [List.getElem?_map, List.getElem?_range hi, Option.map_some, hfails.outcome, hentry]
      rfl

/-- A delivery that succeeds has put its document. -/
theorem deliver_has_put (o : Outlet) (url : Url) (response : Response) (m : Moment)
    (h : (o.deliver url response m).result = some (.ok ())) :
    Http.Call.deliver url response.body
      ∈ calls (eventsOf (o.deliver url response m).steps) := by
  obtain ⟨k, -, hrun⟩ := o.deliver_eq_tries url m response
  rw [hrun] at h ⊢
  obtain ⟨last, status, -, -, htrail⟩ :=
    o.trySteps_trail url response.body m k (by simpa using h)
  have hput : .call (.deliver url response.body)
      ∈ exchanges (eventsOf (o.trySteps url response.body m k)) := htrail.first_mem
  rw [eventsOf_append, calls_append]
  exact List.mem_append_right _ (List.mem_filterMap.mpr ⟨_, hput, rfl⟩)

end Outlet

/-! ### What a log tells -/

/-- What is logged of a failure: an error with the text that the response gives as its reason. Of a
success nothing is logged. -/
inductive TellsFailure (response : Response) : List Log.Entry → Prop where
  | success (status : response.status = .success) : TellsFailure response []
  | failed {entry text} (status : response.status = .failed) (level : entry.level = .error)
      (fields : entry.fields = [("error", .text text)])
      (reason : response.reason = some (Response.truncated text)) : TellsFailure response [entry]

/-- What is logged of the end: that the response is delivered, if it is. -/
inductive TellsEnd {ε : Type} (response : Response) (result : Option (Except ε Unit)) :
    List Log.Entry → Prop where
  | delivered (ok : result = some (.ok ())) :
      TellsEnd response result [.delivered response.status response.physicalResourceId]
  | failed {error} (failed : result = some (.error error)) : TellsEnd response result []

/-- The entries of a level among what is logged. -/
def loggedAt (level : Log.Level) (steps : List Step) : List (Option Log.Context × Log.Entry) :=
  (logged (eventsOf steps)).filter fun entry => entry.2.level = level

/-- The members of a response's document that a log has something to do with. -/
structure Response.Says (response : Response) (members : List (Option String × Json.Doc)) :
    Prop where
  status : ∀ value, (some "Status", value) ∈ members ↔ value = .text (some response.status.text)
  reason : ∀ value, (some "Reason", value) ∈ members
    ↔ ∃ reason, response.reason = some reason ∧ value = .text (some reason)
  physicalResourceId : ∀ value, (some "PhysicalResourceId", value) ∈ members
    ↔ value = .text (some response.physicalResourceId)

/-- What handling a request consists of: the response, the steps before it is composed and behind
that, the moment at which its delivery begins, and what is logged, by what it tells. -/
structure Journal where
  response : Response
  phase : List Step
  delivery : List Step
  begun : Moment
  progress : List Log.Entry
  failure : List Log.Entry
  repeats : List Log.Entry
  closing : List Log.Entry

/-- The log of a run tells what has happened in it. -/
structure Journal.Tells {ε : Type} (j : Journal) (context : Option Log.Context) (r : Request)
    (o : Outlet) (deadline : Instant) (m : Moment) (run : Run (Except ε Unit)) : Prop where
  steps : run.steps = j.phase ++ .event (.composed j.response) :: j.delivery
  phase_logged : logged (eventsOf j.phase) = (j.progress ++ j.failure).map (context, ·)
  phase_unsent : exchanges (eventsOf j.phase) = []
  errors : loggedAt .error run.steps = j.failure.map (context, ·)
  failure : TellsFailure j.response j.failure
  begun_now : j.begun.now = m.now.advance (elapsed j.phase)
  begun_exchanges : exchanges j.begun.events = exchanges m.events
  delivery_logged : logged (eventsOf j.delivery) = (j.repeats ++ j.closing).map (context, ·)
  warnings : loggedAt .warn run.steps = j.repeats.map (context, ·)
  repeats : ∀ i entry, j.repeats[i]? = some entry
    ↔ ∃ fault, entry = .deliveryRepeated fault
        (.ofNanos (o.pauseBehind r.responseUrl j.response.body j.begun i)) ∧
      o.FailsBy r.responseUrl j.response.body j.begun deadline i fault
  closing : TellsEnd j.response run.result j.closing
  closing_last : ∃ sent, j.delivery = sent ++ j.closing.map fun e => .event (.log context e)
  puts : ∀ c ∈ calls (eventsOf j.delivery), c.method = .put → c.body = some j.response.body
  has_put : j.closing ≠ [] →
    Http.Call.deliver r.responseUrl j.response.body ∈ calls (eventsOf j.delivery)
  document : ∃ members, (∀ doc, Json.Denotes j.response.body doc ↔ doc = .object members) ∧
    j.response.Says members

theorem Response.says (response : Response) (data : List (String × String)) :
    response.Says ((response.entries data).map fun e => (some e.1, e.2.doc)) := by
  unfold entries
  cases hreason : response.reason <;> constructor <;> simp [Entry.doc, hreason, eq_comm]

theorem dispatch_status {r : Request} {provisioner : Provisioner} {m : Moment}
    {response : Response} (h : (dispatch r provisioner m).result = some (.ok response)) :
    response.status = .success := by
  cases htype : r.requestType with
  | create =>
    rw [dispatch_of_create htype, answerCreate_apply] at h
    obtain ⟨outcome, -, houtcome⟩ := Option.map_eq_some_iff.mp h
    cases outcome with
    | error => cases houtcome
    | ok provided =>
      cases houtcome
      rfl
  | update | delete =>
    have hanswer : Response.acknowledged r = response := by simpa [dispatch, htype] using h
    exact hanswer ▸ rfl
  | other => simp [dispatch, htype] at h

theorem Concludes.tellsFailure {r : Request} {phaseEnd start : Instant} {provisioner : Provisioner}
    {m : Moment} {said : List Log.Entry} {response : Response}
    (h : Concludes r phaseEnd start (dispatch r provisioner m) said response) :
    TellsFailure response said := by
  cases h with
  | answered result => exact .success (dispatch_status result)
  | failed | timedOut => exact .failed rfl rfl rfl rfl

theorem Reported.tellsEnd {response : Response} {deadline start : Instant}
    {run : Run (Except Fault Unit)} {closing : List Log.Entry} {result : Except Fault Unit}
    (h : Reported response deadline start run closing result) :
    TellsEnd response (some result) closing := by
  cases h with
  | delivered => exact .delivered rfl
  | failed | cut => exact .failed rfl

theorem TellsFailure.level {response : Response} {failure : List Log.Entry}
    (h : TellsFailure response failure) : ∀ e ∈ failure, e.level = .error := by
  cases h with
  | success => exact List.forall_mem_nil _
  | failed _ level => exact List.forall_mem_singleton.mpr level

theorem TellsEnd.level {ε : Type} {response : Response} {result : Option (Except ε Unit)}
    {closing : List Log.Entry} (h : TellsEnd response result closing) :
    ∀ e ∈ closing, e.level = .info := by
  cases h <;> simp [Log.Entry.level]

/-- Of entries that are all of a level, those of a level are all or none. -/
theorem filter_level {level : Log.Level} {entries : List Log.Entry}
    (h : ∀ e ∈ entries, e.level = level) (context : Option Log.Context) (level' : Log.Level) :
    (entries.map (context, ·)).filter (fun entry => entry.2.level = level')
      = if level = level' then entries.map (context, ·) else [] := by
  split
  next hlevel => simpa [← hlevel] using h
  next hlevel =>
    rw [List.filter_eq_nil_iff]
    intro entry hentry
    obtain ⟨e, he, rfl⟩ := List.mem_map.mp hentry
    simpa [h e he] using hlevel

/-- Of what is logged in parts of one level each, the errors are a part, and so are the warnings. -/
theorem loggedAt_of_parts {steps : List Step} {progress failure repeats closing : List Log.Entry}
    (h : logged (eventsOf steps) = (progress ++ failure ++ (repeats ++ closing)).map (none, ·))
    (hprogress : ∀ e ∈ progress, e.level = .info) (hfailure : ∀ e ∈ failure, e.level = .error)
    (hrepeats : ∀ e ∈ repeats, e.level = .warn) (hclosing : ∀ e ∈ closing, e.level = .info) :
    loggedAt .error steps = failure.map (none, ·) ∧
      loggedAt .warn steps = repeats.map (none, ·) := by
  simp [loggedAt, h, filter_level hprogress, filter_level hfailure, filter_level hrepeats,
    filter_level hclosing]

/-- What is said to be delivered has been put. -/
theorem Reported.has_put {url : Url} {response : Response} {deadline : Instant} {o : Outlet}
    {m : Moment} {closing : List Log.Entry} {result : Except Fault Unit}
    (h : Reported response deadline m.now (o.deliver url response m) closing result)
    (hclosing : closing ≠ []) : Http.Call.deliver url response.body
      ∈ calls (eventsOf ((o.deliver url response).cutAt deadline m).steps) := by
  cases h with
  | delivered result done =>
    rw [cutAt_of_doneBy result done]
    exact o.deliver_has_put url response m result
  | failed | cut => exact (hclosing rfl).elim

/-- The log of handling a request tells what has happened, where the provisioner does not use the
network and logs its progress. -/
theorem handle_tells {r : Request} {deadline : Instant} {provisioner : Provisioner} (o : Outlet)
    {m : Moment} {progress : List Log.Entry} (hunsent : Emits (·.exchange? = none) provisioner)
    (hlogged : logged (eventsOf ((dispatch r provisioner).cutAt (phaseDeadline deadline m.now)
      m).steps) = progress.map (none, ·)) (hlevel : ∀ e ∈ progress, e.level = .info) :
    ∃ j : Journal, j.progress = progress ∧
      j.Tells none r o deadline m (handle r deadline provisioner o m) := by
  obtain ⟨said, response, hphase, hconcludes⟩ := respond_apply r deadline provisioner m
  generalize hanswering : ((dispatch r provisioner).cutAt (phaseDeadline deadline m.now) m).steps
    = answering at hphase hlogged
  have hquiet : exchanges (eventsOf answering) = [] := by
    rw [← hanswering]
    exact List.filterMap_eq_nil_iff.mpr ((dispatch_emits (P := (·.exchange? = none)) rfl
      hunsent).cutAt _ m)
  have hhandle := handle_of_respond (o := o) hphase
  generalize hbegun : m.after (answering ++ logSteps said ++ [.event (.composed response)])
    = begun at hhandle
  obtain ⟨closing, result, hreport, hreported⟩ := report_apply r deadline o response begun
  obtain ⟨repeats, hrepeats, hwarn, hiff⟩ := logged_delivery o r.responseUrl response begun deadline
  have hcalls := o.deliver_puts r.responseUrl begun response
  have hkept := cutAt_events_isPrefix (o.deliver r.responseUrl response) deadline begun
  have hfailure := hconcludes.tellsFailure
  have hend := hreported.tellsEnd
  have hput := hreported.has_put
  generalize ((o.deliver r.responseUrl response).cutAt deadline begun).steps = sent
    at hreport hrepeats hkept hput
  rw [hhandle, hreport, Run.prepend_mk, List.append_assoc]
  have hlog : logged (eventsOf (answering ++ logSteps said
      ++ ([.event (.composed response)] ++ (sent ++ logSteps closing))))
        = (progress ++ said ++ (repeats ++ closing)).map (none, ·) := by
    simp [hlogged, hrepeats, logged_logs]
  obtain ⟨herrors, hwarnings⟩ :=
    loggedAt_of_parts hlog hlevel hfailure.level hwarn hend.level
  refine ⟨⟨response, answering ++ logSteps said, sent ++ logSteps closing, begun, progress, said,
    repeats, closing⟩, rfl,
    { steps := rfl, phase_logged := ?_, phase_unsent := ?_, errors := herrors,
      failure := hfailure, begun_now := ?_, begun_exchanges := ?_, delivery_logged := ?_,
      warnings := hwarnings, repeats := hiff, closing := hend, closing_last := ⟨sent, rfl⟩,
      puts := ?_, has_put := ?_, document := ⟨_, response.denotes_body_iff, response.says _⟩ }⟩
  · simp [hlogged, logged_logs]
  · simp [hquiet, exchanges_logs]
  · simp [← hbegun]
  · simp [← hbegun, hquiet, exchanges_logs]
  · simp [hrepeats, logged_logs]
  · intro c hc
    rw [eventsOf_append, calls_append, eventsOf_logSteps, calls_logs, List.append_nil] at hc
    exact hcalls c (mem_calls.mpr (hkept.subset (mem_calls.mp hc)))
  · intro hclosing
    rw [eventsOf_append, calls_append]
    exact List.mem_append_left _ (hput hclosing)

/-! ### The log of an invocation -/

section

variable (context : Log.Context) (steps : List Step)

theorem elapsed_map_within : elapsed (steps.map (Step.within context)) = elapsed steps := by
  induction steps with
  | nil => rfl
  | cons s steps ih => cases s <;> simp [Step.within, ih]

theorem exchanges_map_within :
    exchanges (eventsOf (steps.map (Step.within context))) = exchanges (eventsOf steps) := by
  rw [eventsOf_map_within, exchanges_within]

/-- What is logged without a context is logged in the one that is there. -/
theorem logged_map_within :
    logged (eventsOf (steps.map (Step.within context)))
      = (logged (eventsOf steps)).map fun entry => (some (entry.1.getD context), entry.2) := by
  have hview : Event.log? ∘ Event.within context
      = fun e => e.log?.map fun entry => (some (entry.1.getD context), entry.2) :=
    funext fun e => by cases e with
      | log context' => cases context' <;> rfl
      | _ => rfl
  rw [eventsOf_map_within, logged, List.filterMap_map, hview, ← List.map_filterMap, logged]

variable {steps} {entries : List Log.Entry}

theorem logged_within (h : logged (eventsOf steps) = entries.map (none, ·)) :
    logged (eventsOf (steps.map (Step.within context))) = entries.map (some context, ·) := by
  simp [logged_map_within, h]

theorem loggedAt_within {level : Log.Level} (h : loggedAt level steps = entries.map (none, ·)) :
    loggedAt level (steps.map (Step.within context)) = entries.map (some context, ·) := by
  rw [loggedAt] at h
  simp [loggedAt, logged_map_within, List.filter_map, Function.comp_def, h]

end

/-- The journal of the same run in a context. -/
def Journal.within (context : Log.Context) (j : Journal) : Journal :=
  { j with
    phase := j.phase.map (Step.within context)
    delivery := j.delivery.map (Step.within context) }

theorem TellsEnd.mapError {ε φ : Type} {response : Response} {result : Option (Except ε Unit)}
    {closing : List Log.Entry} (h : TellsEnd response result closing) (f : ε → φ) :
    TellsEnd response (result.map (Except.mapError f)) closing := by
  cases h with
  | delivered ok =>
    rw [ok]
    exact .delivered rfl
  | failed failed =>
    rw [failed]
    exact .failed rfl

namespace Journal.Tells

variable {ε φ : Type} {j : Journal} {r : Request} {o : Outlet} {deadline : Instant} {m : Moment}

theorem within {run : Run (Except ε Unit)} (h : j.Tells none r o deadline m run)
    (context : Log.Context) :
    (j.within context).Tells (some context) r o deadline m
      ⟨run.steps.map (Step.within context), run.result⟩ where
  steps := by
    rw [h.steps, List.map_append]
    rfl
  phase_logged := logged_within context h.phase_logged
  phase_unsent := (exchanges_map_within context j.phase).trans h.phase_unsent
  errors := loggedAt_within context h.errors
  failure := h.failure
  begun_now := by
    rw [Journal.within, elapsed_map_within]
    exact h.begun_now
  begun_exchanges := h.begun_exchanges
  delivery_logged := logged_within context h.delivery_logged
  warnings := loggedAt_within context h.warnings
  repeats := h.repeats
  closing := h.closing
  closing_last := by
    obtain ⟨sent, hsent⟩ := h.closing_last
    refine ⟨sent.map (Step.within context), ?_⟩
    simp [Journal.within, hsent, Step.within, Event.within]
  puts := by
    rw [Journal.within, calls, exchanges_map_within]
    exact h.puts
  has_put := by
    rw [Journal.within, calls, exchanges_map_within]
    exact h.has_put
  document := h.document

/-- What a failure is said to be does not matter. -/
theorem mapError {context : Option Log.Context} {x : Activity (Except ε Unit)}
    (h : j.Tells context r o deadline m (x m)) (f : ε → φ) :
    j.Tells context r o deadline m ((Except.mapError f <$> x) m) := by
  rw [map_apply]
  exact { h with closing := h.closing.mapError f }

end Journal.Tells

theorem handleInvocation_of_after {id : String} {deadlineMillis : Nat} {world : World}
    {m : Moment} {deadline : Instant}
    (hdeadline : m.now.after? (remaining deadlineMillis (world.wall m.now)) = some deadline)
    (r : Request) (provisioner : Provisioner) :
    handleInvocation id deadlineMillis r provisioner world m
      = (Except.mapError InvocationError.fault <$>
          (handle r deadline provisioner world.outlet).within
            ⟨id, r.requestType.text, r.logicalResourceId⟩) m := by
  unfold handleInvocation
  rw [now_bind_apply, hdeadline, map_eq_pure_bind]
  refine congrFun (bind_congr fun result => ?_) m
  cases result <;> rfl

/-- What is logged of an invocation tells what has happened, where the provisioner does not use the
network and logs its progress. -/
theorem handleInvocation_tells {id : String} {deadlineMillis : Nat} {r : Request} {world : World}
    {m : Moment} {deadline : Instant} {provisioner : Provisioner} {progress : List Log.Entry}
    (hdeadline : m.now.after? (remaining deadlineMillis (world.wall m.now)) = some deadline)
    (hunsent : Emits (·.exchange? = none) provisioner)
    (hlogged : logged (eventsOf ((dispatch r provisioner).cutAt (phaseDeadline deadline m.now)
      m).steps) = progress.map (none, ·)) (hlevel : ∀ e ∈ progress, e.level = .info) :
    ∃ j : Journal, j.progress = progress ∧
      j.Tells (some ⟨id, r.requestType.text, r.logicalResourceId⟩) r world.outlet deadline m
        (handleInvocation id deadlineMillis r provisioner world m) := by
  obtain ⟨j, hprogress, htells⟩ := handle_tells world.outlet hunsent hlogged hlevel
  refine ⟨j.within ⟨id, r.requestType.text, r.logicalResourceId⟩, hprogress, ?_⟩
  rw [handleInvocation_of_after hdeadline]
  apply Journal.Tells.mapError
  rw [within_apply]
  exact htells.within _

/-- Progress is told as information. -/
theorem PhaseProgress.level {server : Database.Server} {files : Files} {p : DatabaseProvisioner}
    {r : Request} {m : Moment} {phaseEnd : Instant} {progress : List Log.Entry}
    (h : PhaseProgress server files p r m phaseEnd progress) :
    ∀ e ∈ progress, e.level = .info := by
  cases h with
  | nothing => exact List.forall_mem_nil _
  | bootstrap _ _ progress => cases progress <;> simp [Log.Entry.level]

/-- **The log tells what was sent.** Where its deadline is an instant, an invocation composes one
response behind a phase, and delivers it. An error is logged exactly if the response is a failure,
at the end of the phase; the reason is its text, truncated. Behind the response a warning is logged
for each try that has failed by the deadline, is worth repeating and has a retry left, and for no
other, in their order. That the response is delivered is logged exactly if handling succeeds, as the
last thing, with the status and the id that are in the document; what is put is this document. Of
the phase, what is logged besides is what its bootstrap has done by the end: that the database was
made, and that its script has run. A provisioner that logs nothing adds nothing to it. All is logged
in the context of the invocation. -/
theorem log_tells_what_was_sent (id : String) (deadlineMillis : Nat) (r : Request) (world : World)
    (m : Moment) :
    let context : Log.Context := ⟨id, r.requestType.text, r.logicalResourceId⟩
    let run := fun provisioner => handleInvocation id deadlineMillis r provisioner world m
    match m.now.after? (remaining deadlineMillis (world.wall m.now)) with
    | none => ∀ provisioner, run provisioner = ⟨[], some (.error .noSuchInstant)⟩
    | some deadline =>
      (∀ p : DatabaseProvisioner, ∃ j : Journal,
        PhaseProgress world.server world.files p r m (phaseDeadline deadline m.now) j.progress ∧
        j.Tells (some context) r world.outlet deadline m
          (run (p.provision world.server world.files))) ∧
      ∀ provisioner, Emits Silent provisioner → Emits (·.exchange? = none) provisioner →
        ∃ j : Journal, j.progress = [] ∧
          j.Tells (some context) r world.outlet deadline m (run provisioner) := by
  dsimp only
  cases hdeadline : m.now.after? (remaining deadlineMillis (world.wall m.now)) with
  | none =>
    intro provisioner
    unfold handleInvocation
    rw [now_bind_apply, hdeadline]
    rfl
  | some deadline =>
    constructor
    · intro p
      obtain ⟨progress, hprogress, hlogged⟩ :=
        dispatch_progress p world.server world.files r (phaseDeadline deadline m.now) m
      obtain ⟨j, rfl, htells⟩ := handleInvocation_tells hdeadline
        (p.provision_emits world.server world.files (fun _ => rfl) fun _ => rfl) hlogged
        hprogress.level
      exact ⟨j, hprogress, htells⟩
    · intro provisioner hsilent hunsent
      have hquiet : Emits Silent (dispatch r provisioner) := dispatch_emits rfl hsilent
      exact handleInvocation_tells hdeadline hunsent
        ((hquiet.cutAt (phaseDeadline deadline m.now)).logged_eq_nil m) (List.forall_mem_nil _)

end DatabaseResource
