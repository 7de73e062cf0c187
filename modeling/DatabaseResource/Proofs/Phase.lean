import DatabaseResource.Proofs.Delivery

/-!
# One response to every request

Handling a request is a phase, one response, and one delivery of it (`handle_of_respond`). What the
phase ends with is `Concludes`: the dispatch's own answer or failure if it is done by the end of
the phase, and a timeout otherwise. What the delivery ends with is `Reported`.
-/

namespace DatabaseResource

open Activity

/-- Log entries as steps. -/
def logSteps (entries : List Log.Entry) : List Step := entries.map fun e => .event (.log none e)

@[simp] theorem eventsOf_logSteps (entries : List Log.Entry) :
    eventsOf (logSteps entries) = entries.map (.log none ·) := by
  induction entries with
  | nil => rfl
  | cons e entries ih => simpa [logSteps] using ih

@[simp] theorem elapsed_logSteps (entries : List Log.Entry) : elapsed (logSteps entries) = 0 := by
  induction entries with
  | nil => rfl
  | cons e entries ih => simpa [logSteps] using ih

@[simp] theorem compositions_logs (entries : List Log.Entry) :
    compositions (entries.map (.log none ·)) = [] :=
  compositions_eq_nil (by simp [Event.composed?])

/-! ### The phase -/

/-- What a phase ends with: what is logged about it, and the response. -/
inductive Concludes (r : Request) (phaseEnd start : Instant) (run : Run (Except Fault Response)) :
    List Log.Entry → Response → Prop where
  | answered {response} (result : run.result = some (.ok response))
      (done : DoneBy phaseEnd start run.steps) : Concludes r phaseEnd start run [] response
  | failed {fault} (result : run.result = some (.error fault))
      (done : DoneBy phaseEnd start run.steps) :
      Concludes r phaseEnd start run [.phaseFailed fault] (.failed r fault.message)
  /-- The budget is what lies between the start and the end of the phase, or nothing. -/
  | timedOut {budget : Span} (late : run.result = none ∨ ¬ DoneBy phaseEnd start run.steps)
      (budget_eq : (budget.toNanos : Int) = max 0 (phaseEnd.nanos - start.nanos)) :
      Concludes r phaseEnd start run [.phaseTimedOut (.timeout budget)]
        (.failed r (Fault.timeout budget).message)

theorem toNanos_spanUntil (start deadline : Instant) :
    ((start.spanUntil deadline).toNanos : Int) = max 0 (deadline.nanos - start.nanos) := by
  rw [Instant.spanUntil, Span.toNanos_ofNanos]
  omega

theorem respond_apply (r : Request) (deadline : Instant) (provisioner : Provisioner) (m : Moment) :
    ∃ said response,
      respond r deadline provisioner m
        = ⟨((dispatch r provisioner).cutAt (phaseDeadline deadline m.now) m).steps
            ++ logSteps said, some response⟩ ∧
      Concludes r (phaseDeadline deadline m.now) m.now (dispatch r provisioner m) said
        response := by
  unfold respond
  rw [now_bind_apply]
  rcases cutAt_cases (dispatch r provisioner) (phaseDeadline deadline m.now) m with
    ⟨answer, hresult, hdone, hcut⟩ | ⟨hlate, hcut⟩
  · rw [bind_of_apply_eq hcut, hcut]
    cases answer with
    | ok response => exact ⟨[], response, by simp [logSteps], .answered hresult hdone⟩
    | error fault =>
      exact ⟨_, _, by simp [logSteps, -bind_pure_comp], .failed hresult hdone⟩
  · rw [bind_of_apply_eq hcut]
    exact ⟨_, _, by simp [logSteps, -bind_pure_comp], .timedOut hlate (toNanos_spanUntil ..)⟩

/-- The phase ends a second before the deadline, or at once where there is no such instant. -/
theorem phaseDeadline_nanos (deadline now : Instant) :
    (phaseDeadline deadline now).nanos
      = if Instant.Exists (deadline.nanos - 1000000000) then deadline.nanos - 1000000000
        else now.nanos := by
  have hmargin : (deadlineMargin.toNanos : Int) = 1000000000 := rfl
  simp only [phaseDeadline, Instant.before?, hmargin]
  split <;> rfl

theorem dispatch_emits {P : Event → Prop} {r : Request} {provisioner : Provisioner}
    (hp : P .provisioning) (h : Emits P provisioner) : Emits P (dispatch r provisioner) := by
  unfold dispatch
  split
  · refine (Emits.emit hp).bind fun _ => h.bind fun outcome => ?_
    cases outcome <;> exact .pure _
  all_goals exact .pure _

/-- The answer to a create from what the provisioner gives. -/
def answerFrom (r : Request) : Except Fault Provisioned → Except Fault Response
  | .ok provided => .ok (.success r provided.physicalResourceId provided.data)
  | .error fault => .error fault

theorem dispatch_of_create {r : Request} (hcreate : r.requestType = .create)
    (provisioner : Provisioner) : dispatch r provisioner = answerCreate r provisioner := by
  unfold dispatch
  rw [hcreate]

theorem answerCreate_apply (r : Request) (provisioner : Provisioner) (m : Moment) :
    answerCreate r provisioner m
      = ⟨.event .provisioning :: (provisioner (m.after [.event .provisioning])).steps,
          (provisioner (m.after [.event .provisioning])).result.map (answerFrom r)⟩ := by
  unfold answerCreate
  rw [emit_bind_apply, bind_apply]
  cases (provisioner (m.after [.event .provisioning])).result with
  | none => rfl
  | some outcome => cases outcome <;> simp [answerFrom]

/-! ### The delivery -/

/-- What a report ends with, by the delivery that is not cut: what is logged about it, and what
comes of it. -/
inductive Reported (response : Response) (deadline start : Instant)
    (run : Run (Except Fault Unit)) : List Log.Entry → Except Fault Unit → Prop where
  | delivered (result : run.result = some (.ok ())) (done : DoneBy deadline start run.steps) :
      Reported response deadline start run
        [.delivered response.status response.physicalResourceId] (.ok ())
  | failed {fault} (result : run.result = some (.error fault))
      (done : DoneBy deadline start run.steps) :
      Reported response deadline start run [] (.error fault)
  | cut (late : ¬ DoneBy deadline start run.steps) :
      Reported response deadline start run [] (.error .responseDeadline)

theorem report_apply (r : Request) (deadline : Instant) (o : Outlet) (response : Response)
    (m : Moment) :
    ∃ closing result,
      report r deadline o response m
        = ⟨((o.deliver r.responseUrl response).cutAt deadline m).steps ++ logSteps closing,
            some result⟩ ∧
      Reported response deadline m.now (o.deliver r.responseUrl response m) closing result := by
  unfold report
  obtain ⟨k, -, hrun⟩ := o.deliver_eq_tries r.responseUrl m response
  rcases cutAt_cases (o.deliver r.responseUrl response) deadline m with
    ⟨result, hresult, hdone, hcut⟩ | ⟨hlate, hcut⟩
  · rw [bind_of_apply_eq hcut, hcut]
    cases result with
    | ok => exact ⟨_, _, by simp [logSteps, -bind_pure_comp], .delivered hresult hdone⟩
    | error fault => exact ⟨_, _, by simp [logSteps], .failed hresult hdone⟩
  · rw [bind_of_apply_eq hcut]
    refine ⟨_, _, by simp [logSteps], .cut (hlate.resolve_left ?_)⟩
    rw [hrun]
    nofun

theorem compositions_delivery (o : Outlet) (url : Url) (response : Response) (deadline : Instant)
    (m : Moment) :
    compositions (eventsOf ((o.deliver url response).cutAt deadline m).steps) = [] := by
  apply compositions_eq_nil
  intro e he
  rcases (o.deliver_emits url response).cutAt deadline m e he with ⟨x, rfl⟩ | ⟨fault, pause, rfl⟩
    <;> rfl

/-! ### The whole -/

/-- Handling is the phase, the composition of the response, and its report. -/
theorem handle_of_respond {r : Request} {deadline : Instant} {provisioner : Provisioner}
    {o : Outlet} {m : Moment} {phase : List Step} {response : Response}
    (h : respond r deadline provisioner m = ⟨phase, some response⟩) :
    handle r deadline provisioner o m
      = (report r deadline o response (m.after (phase ++ [.event (.composed response)]))).prepend
          (phase ++ [.event (.composed response)]) := by
  unfold handle
  rw [bind_of_apply_eq h, emit_bind_apply, Run.prepend_prepend, ← Moment.after_append]

theorem compositions_report (r : Request) (deadline : Instant) (o : Outlet) (response : Response)
    (m : Moment) : compositions (eventsOf (report r deadline o response m).steps) = [] := by
  obtain ⟨closing, result, hrun, -⟩ := report_apply r deadline o response m
  simp [hrun, compositions_delivery]

/-- One response is composed behind the phase. -/
theorem compositions_handle {r : Request} {deadline : Instant} {provisioner : Provisioner}
    {o : Outlet} {m : Moment} {phase : List Step} {response : Response}
    (h : respond r deadline provisioner m = ⟨phase, some response⟩) :
    compositions (eventsOf (handle r deadline provisioner o m).steps)
      = compositions (eventsOf phase) ++ [response] := by
  rw [handle_of_respond h]
  simp [compositions_report]

/-- Requests that are answered at once, with what is logged about it and the response. -/
inductive AnsweredAtOnce (r : Request) (provisioner : Provisioner) :
    List Log.Entry → Response → Prop where
  | update (type : r.requestType = .update) : AnsweredAtOnce r provisioner [] (.acknowledged r)
  | delete (type : r.requestType = .delete) : AnsweredAtOnce r provisioner [] (.acknowledged r)
  | other {text} (type : r.requestType = .other text) :
      AnsweredAtOnce r provisioner [.phaseFailed (.unsupportedRequestType text)]
        (.failed r (Fault.unsupportedRequestType text).message)
  | unconfigured {reason server files} (type : r.requestType = .create)
      (provisioner_eq : provisioner
        = (DatabaseProvisioner.unconfigured reason).provision server files) :
      AnsweredAtOnce r provisioner [.phaseFailed (.unconfigured reason)]
        (.failed r (Fault.unconfigured reason).message)

/-- What a dispatch that does not wait comes to is what the phase ends with. -/
inductive Answers (r : Request) : Except Fault Response → List Log.Entry → Response → Prop where
  | ok {response} : Answers r (.ok response) [] response
  | error {fault} : Answers r (.error fault) [.phaseFailed fault] (.failed r fault.message)

theorem Concludes.of_not_waits {r : Request} {phaseEnd start : Instant}
    {run : Run (Except Fault Response)} {said : List Log.Entry} {response : Response}
    (h : Concludes r phaseEnd start run said response) (hw : waits run.steps = false)
    {answer : Except Fault Response} (hr : run.result = some answer) :
    Answers r answer said response := by
  cases h with
  | answered result =>
    cases hr.symm.trans result
    exact .ok
  | failed result =>
    cases hr.symm.trans result
    exact .error
  | timedOut late =>
    rcases late with hnone | hlate
    · cases hr.symm.trans hnone
    · exact (hlate (.inl hw)).elim

theorem Answers.not_timedOut {r : Request} {answer : Except Fault Response}
    {said : List Log.Entry} {response : Response} (h : Answers r answer said response)
    (fault : Fault) : .phaseTimedOut fault ∉ said := by
  cases h <;> simp

theorem AnsweredAtOnce.dispatch_apply {r : Request} {provisioner : Provisioner}
    {said : List Log.Entry} {response : Response}
    (h : AnsweredAtOnce r provisioner said response) (m : Moment) :
    ∃ answer, waits (dispatch r provisioner m).steps = false ∧
      (dispatch r provisioner m).result = some answer ∧
      ∀ said' response', Answers r answer said' response' →
        said' = said ∧ response' = response := by
  cases h with
  | update type | delete type =>
    refine ⟨.ok (.acknowledged r), by simp [dispatch, type], by simp [dispatch, type], ?_⟩
    rintro _ _ ⟨⟩
    exact ⟨rfl, rfl⟩
  | @other text type =>
    refine ⟨.error (.unsupportedRequestType text), by simp [dispatch, type],
      by simp [dispatch, type], ?_⟩
    rintro _ _ ⟨⟩
    exact ⟨rfl, rfl⟩
  | @unconfigured reason _ _ type provisioner_eq =>
    have hrun : dispatch r provisioner m
        = ⟨[.event .provisioning], some (.error (.unconfigured reason))⟩ := by
      simp [dispatch, type, answerCreate, provisioner_eq, DatabaseProvisioner.provision]
    rw [hrun]
    refine ⟨_, rfl, rfl, ?_⟩
    rintro _ _ ⟨⟩
    exact ⟨rfl, rfl⟩

/-- **One response to every request.** Handling composes one response behind a phase, and hands it
to one delivery. The phase ends a second before the deadline, or at once where there is no such
instant; what the dispatch has come to by then is the response, and a timeout with the phase's
budget otherwise. The response is there no later than the phase may end or begins. What does not
wait is never late. -/
theorem handle_composes_one_response (r : Request) (deadline : Instant) (provisioner : Provisioner)
    (o : Outlet) (m : Moment) :
    ∃ (phaseEnd : Instant) (said closing : List Log.Entry) (response : Response),
      let answering := (dispatch r provisioner).cutAt phaseEnd m
      let composed := answering.steps ++ logSteps said ++ [.event (.composed response)]
      let delivery := (o.deliver r.responseUrl response).cutAt deadline (m.after composed)
      let steps := (handle r deadline provisioner o m).steps
      phaseEnd.nanos = (if Instant.Exists (deadline.nanos - 1000000000)
        then deadline.nanos - 1000000000 else m.now.nanos) ∧
      Concludes r phaseEnd m.now (dispatch r provisioner m) said response ∧
      steps = composed ++ delivery.steps ++ logSteps closing ∧
      compositions (eventsOf steps) = compositions (eventsOf answering.steps) ++ [response] ∧
      (Emits (·.composed? = none) provisioner → compositions (eventsOf steps) = [response]) ∧
      m.now.nanos + elapsed composed ≤ max m.now.nanos (deadline.nanos - 1000000000) ∧
      (waits (dispatch r provisioner m).steps = false → (dispatch r provisioner m).result ≠ none →
        ∀ fault, .phaseTimedOut fault ∉ said) ∧
      ∀ said' response', AnsweredAtOnce r provisioner said' response' →
        said = said' ∧ response = response' := by
  obtain ⟨said, response, hphase, hconcludes⟩ := respond_apply r deadline provisioner m
  have hrun := handle_of_respond (o := o) hphase
  obtain ⟨closing, result, hreport, -⟩ := report_apply r deadline o response
    (m.after (((dispatch r provisioner).cutAt (phaseDeadline deadline m.now) m).steps
      ++ logSteps said ++ [.event (.composed response)]))
  rw [hreport, Run.prepend_mk] at hrun
  have hnanos := phaseDeadline_nanos deadline m.now
  have hcompositions : compositions (eventsOf (handle r deadline provisioner o m).steps)
      = compositions (eventsOf
          ((dispatch r provisioner).cutAt (phaseDeadline deadline m.now) m).steps)
        ++ [response] := by
    rw [compositions_handle hphase]
    simp
  refine ⟨_, said, closing, response, hnanos, hconcludes, ?_, hcompositions, ?_, ?_, ?_, ?_⟩
  · rw [hrun]
    simp
  · intro hquiet
    rw [hcompositions, compositions_eq_nil, List.nil_append]
    exact (dispatch_emits (P := fun e => e.composed? = none) rfl hquiet).cutAt _ m
  · have hcut := elapsed_cutAt_le (dispatch r provisioner) (phaseDeadline deadline m.now) m
    simp only [elapsed_append, elapsed_logSteps, elapsed_cons_event, elapsed_nil, Nat.add_zero]
    refine Int.le_trans hcut ?_
    rw [hnanos]
    split <;> omega
  · intro hw hended fault
    obtain ⟨answer, hr⟩ := Option.ne_none_iff_exists'.mp hended
    exact (hconcludes.of_not_waits hw hr).not_timedOut fault
  · intro said' response' hatOnce
    obtain ⟨answer, hw, hr, hunique⟩ := hatOnce.dispatch_apply m
    exact hunique _ _ (hconcludes.of_not_waits hw hr)

end DatabaseResource
