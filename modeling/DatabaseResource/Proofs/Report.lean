import DatabaseResource.Proofs.Phase

/-!
# Delivery by a deadline

What is reported by a deadline is the delivery that is not cut, up to there: the same where that one
is done in time, and otherwise a failure with a beginning of its requests, among them no retry that
would start behind the deadline (`handle_delivers_by_deadline`).
-/

namespace DatabaseResource

open Activity Outlet

namespace Outlet

variable (o : Outlet) (url : Url) (m : Moment) (response : Response)

/-! ### The deliveries that a deadline leaves nothing of -/

theorem verdict_ne_responseDeadline (answer : Except Http.Error Nat) :
    verdict answer ≠ .error .responseDeadline := by
  cases answer with
  | error => simp [verdict]
  | ok status =>
    simp only [verdict]
    split <;> simp

/-- No delivery comes to what a deadline gives up with. -/
theorem deliver_ne_responseDeadline :
    (o.deliver url response m).result ≠ some (.error .responseDeadline) := by
  obtain ⟨k, -, hrun⟩ := o.deliver_eq_tries url m response
  obtain ⟨answer, -, houtcome⟩ := o.tryAnswer url response.body m k
  rw [hrun, houtcome]
  exact fun h => verdict_ne_responseDeadline answer (Option.some.inj h)

variable (body : String)

/-- A try begins when the rounds before it are over. -/
theorem tryMoment_eq_after (i : Nat) :
    o.tryMoment url body m i = m.after ((List.range i).flatMap (o.roundSteps url body m)) := by
  induction i with
  | zero => simp [tryMoment]
  | succ i ih => rw [tryMoment_succ, ih, ← Moment.after_append, List.range_succ]; simp

variable {o url m body} {k i : Nat} {deadline : Instant}

/-- There is a pause before every retry. -/
theorem waits_rounds (hlast : IsLastTry (o.tryOutcome url body m) o.sender.maxRetries k)
    (hi : 0 < i) (hik : i ≤ k) :
    waits ((List.range i).flatMap (o.roundSteps url body m)) = true := by
  obtain ⟨i, rfl⟩ := Nat.exists_eq_succ_of_ne_zero (Nat.ne_of_gt hi)
  have hretry := hlast.repeated 0 (Nat.lt_of_lt_of_le hi hik)
  have hround : waits (o.roundSteps url body m 0) = true := by
    cases h : o.tryOutcome url body m 0 with
    | ok => simp [h, Retryable] at hretry
    | error fault => simp [roundSteps, h, pauseSteps]
  rw [List.range_succ_eq_map, List.flatMap_cons, waits_append, hround, Bool.true_or]

/-- A retry that would start behind the deadline is late, with all that is before it. -/
theorem not_doneBy_rounds (hlast : IsLastTry (o.tryOutcome url body m) o.sender.maxRetries k)
    (hi : 0 < i) (hik : i ≤ k) (hlate : deadline.nanos < (o.tryMoment url body m i).now.nanos) :
    ¬ DoneBy deadline m.now ((List.range i).flatMap (o.roundSteps url body m)) := by
  rw [tryMoment_eq_after, Moment.after_now, Instant.advance_nanos] at hlate
  rintro (hw | hle)
  · rw [waits_rounds hlast hi hik] at hw
    cases hw
  · omega

end Outlet

/-! ### Reports -/

variable {r : Request} {deadline : Instant} {o : Outlet} {response : Response} {m : Moment}

theorem Reported.result_of_doneBy {start : Instant} {run : Run (Except Fault Unit)}
    {closing : List Log.Entry} {result : Except Fault Unit}
    (h : Reported response deadline start run closing result)
    (hd : DoneBy deadline start run.steps) : run.result = some result := by
  cases h with
  | delivered result | failed result => exact result
  | cut late => exact (late hd).elim

theorem Reported.of_not_doneBy {start : Instant} {run : Run (Except Fault Unit)}
    {closing : List Log.Entry} {result : Except Fault Unit}
    (h : Reported response deadline start run closing result)
    (hd : ¬ DoneBy deadline start run.steps) :
    closing = [] ∧ result = .error .responseDeadline := by
  cases h with
  | delivered _ done | failed _ done => exact (hd done).elim
  | cut => exact ⟨rfl, rfl⟩

/-- What endpoints get of a report is what they get of its delivery. -/
theorem requests_report (r : Request) (deadline : Instant) (o : Outlet) (response : Response)
    (m : Moment) :
    requests (eventsOf (report r deadline o response m).steps)
      = requests (eventsOf ((o.deliver r.responseUrl response).cutAt deadline m).steps) := by
  obtain ⟨closing, result, hrun, -⟩ := report_apply r deadline o response m
  simp [hrun, requests_logs]

theorem report_of_doneBy (hd : DoneBy deadline m.now (o.deliver r.responseUrl response m).steps) :
    (report r deadline o response m).result = (o.deliver r.responseUrl response m).result ∧
    requests (eventsOf (report r deadline o response m).steps)
      = requests (eventsOf (o.deliver r.responseUrl response m).steps) := by
  obtain ⟨closing, result, hrun, hreported⟩ := report_apply r deadline o response m
  have hresult := hreported.result_of_doneBy hd
  refine ⟨by rw [hrun, hresult], ?_⟩
  rw [requests_report, cutAt_of_doneBy hresult hd]

theorem report_of_not_doneBy
    (hd : ¬ DoneBy deadline m.now (o.deliver r.responseUrl response m).steps) :
    report r deadline o response m
      = ⟨((o.deliver r.responseUrl response).cutAt deadline m).steps,
          some (.error .responseDeadline)⟩ := by
  obtain ⟨closing, result, hrun, hreported⟩ := report_apply r deadline o response m
  obtain ⟨rfl, rfl⟩ := hreported.of_not_doneBy hd
  simpa [logSteps] using hrun

/-- A later deadline lets endpoints get no less, and loses no response that is delivered. -/
theorem report_mono (r : Request) (o : Outlet) (response : Response) (m : Moment) {d d' : Instant}
    (hd : d.nanos ≤ d'.nanos) :
    requests (eventsOf (report r d o response m).steps)
        <+: requests (eventsOf (report r d' o response m).steps) ∧
    ((report r d o response m).result = some (.ok ()) →
      (report r d' o response m).result = some (.ok ())) := by
  refine ⟨?_, fun hok => ?_⟩
  · rw [requests_report, requests_report]
    exact requests_isPrefix (cutAt_events_mono _ hd m)
  · by_cases hdone : DoneBy d m.now (o.deliver r.responseUrl response m).steps
    · rw [(report_of_doneBy (hdone.mono hd)).1, ← (report_of_doneBy hdone).1, hok]
    · rw [report_of_not_doneBy hdone] at hok
      cases hok

theorem elapsed_report_le (r : Request) (deadline : Instant) (o : Outlet) (response : Response)
    (m : Moment) :
    m.now.nanos + elapsed (report r deadline o response m).steps
      ≤ max m.now.nanos deadline.nanos := by
  obtain ⟨closing, result, hrun, -⟩ := report_apply r deadline o response m
  rw [hrun, elapsed_append, elapsed_logSteps, Nat.add_zero]
  exact elapsed_cutAt_le _ deadline m

/-- No retry is part of a report that would start behind the deadline. -/
theorem report_before_late_retry {k i : Nat}
    (hlast : IsLastTry (o.tryOutcome r.responseUrl response.body m) o.sender.maxRetries k)
    (hrun : o.deliver r.responseUrl response m
      = ⟨(List.range k).flatMap (o.roundSteps r.responseUrl response.body m)
            ++ o.trySteps r.responseUrl response.body m k,
          some (o.tryOutcome r.responseUrl response.body m k)⟩)
    (hi : 0 < i) (hik : i ≤ k)
    (hlate : deadline.nanos < (o.tryMoment r.responseUrl response.body m i).now.nanos) :
    eventsOf (report r deadline o response m).steps
      <+: eventsOf ((List.range i).flatMap (o.roundSteps r.responseUrl response.body m)) := by
  have hrounds := Outlet.not_doneBy_rounds hlast hi hik hlate
  obtain ⟨j, rfl⟩ := Nat.exists_eq_add_of_le hik
  have hsteps := congrArg Run.steps hrun
  simp only [List.range_add, List.flatMap_append, List.append_assoc] at hsteps
  have hdone : ¬ DoneBy deadline m.now (o.deliver r.responseUrl response m).steps := by
    rw [hsteps]
    exact fun h => hrounds h.of_append
  rw [report_of_not_doneBy hdone]
  exact cutAt_events_isPrefix_of_late hsteps hrounds

/-- **Delivery by a deadline.** Behind the phase and the response that it comes to, handling is the
delivery up to the deadline. Where the delivery that is not cut is done by then, its result is given
and endpoints get the same requests. Otherwise, and only then, the deadline is what handling fails
with, and endpoints get a beginning of the requests; no retry starts behind the deadline. A later
deadline lets endpoints get no less, and loses no response that is delivered. -/
theorem handle_delivers_by_deadline (r : Request) (deadline : Instant) (provisioner : Provisioner)
    (o : Outlet) (m : Moment) :
    ∃ (phase : List Step) (response : Response) (k : Nat),
      let front := phase ++ [.event (.composed response)]
      let begun := m.after front
      let whole := o.deliver r.responseUrl response begun
      let delivery := report r deadline o response begun
      respond r deadline provisioner m = ⟨phase, some response⟩ ∧
      handle r deadline provisioner o m = delivery.prepend front ∧
      (DoneBy deadline begun.now whole.steps → delivery.result = whole.result ∧
        requests (eventsOf delivery.steps) = requests (eventsOf whole.steps)) ∧
      (¬ DoneBy deadline begun.now whole.steps →
        requests (eventsOf delivery.steps) <+: requests (eventsOf whole.steps)) ∧
      (delivery.result = some (.error .responseDeadline)
        ↔ ¬ DoneBy deadline begun.now whole.steps) ∧
      IsLastTry (o.tryOutcome r.responseUrl response.body begun) o.sender.maxRetries k ∧
      (∀ i, 0 < i → i ≤ k →
        deadline.nanos < (o.tryMoment r.responseUrl response.body begun i).now.nanos →
        eventsOf delivery.steps <+:
          eventsOf ((List.range i).flatMap (o.roundSteps r.responseUrl response.body begun))) ∧
      begun.now.nanos + elapsed delivery.steps ≤ max begun.now.nanos deadline.nanos ∧
      (∀ later : Instant, deadline.nanos ≤ later.nanos →
        let delivery' := report r later o response begun
        requests (eventsOf delivery.steps) <+: requests (eventsOf delivery'.steps) ∧
        (delivery.result = some (.ok ()) → delivery'.result = some (.ok ()))) ∧
      ∀ later : Instant, deadline.nanos ≤ later.nanos →
        respond r later provisioner m = respond r deadline provisioner m →
        let run := handle r deadline provisioner o m
        let run' := handle r later provisioner o m
        requests (eventsOf run.steps) <+: requests (eventsOf run'.steps) ∧
        (run.result = some (.ok ()) → run'.result = some (.ok ())) := by
  obtain ⟨said, response, hphase, -⟩ := respond_apply r deadline provisioner m
  generalize ((dispatch r provisioner).cutAt (phaseDeadline deadline m.now) m).steps
    ++ logSteps said = phase at hphase
  generalize hbegun : m.after (phase ++ [.event (.composed response)]) = begun
  obtain ⟨k, hlast, hrun⟩ := o.deliver_eq_tries r.responseUrl begun response
  have hhandle := handle_of_respond (o := o) hphase
  refine ⟨phase, response, k, hphase, hhandle, ?_⟩
  simp only [hbegun] at hhandle ⊢
  refine ⟨report_of_doneBy, fun _ => ?_, ⟨fun hcut hdone => ?_, fun hlate => ?_⟩, hlast,
    fun i hi hik => report_before_late_retry hlast hrun hi hik,
    elapsed_report_le .., fun later => report_mono r o response begun, ?_⟩
  · rw [requests_report]
    exact requests_isPrefix (cutAt_events_isPrefix ..)
  · rw [(report_of_doneBy hdone).1] at hcut
    exact o.deliver_ne_responseDeadline _ _ _ hcut
  · rw [report_of_not_doneBy hlate]
  · intro later hlater hsame
    obtain ⟨hrequests, hok⟩ := report_mono r o response begun hlater
    rw [hhandle, handle_of_respond (hsame.trans hphase), hbegun]
    simpa using ⟨hrequests, hok⟩

end DatabaseResource
