import DatabaseResource.Lifecycle
import DatabaseResource.Proofs.Activity

/-!
# Delivery, try by try

What a call can come to (`Http.Attempted`), and what a delivery is: tries that begin anew, each
where the pause behind the one before ends, up to the first one that is accepted or not worth
repeating, or for which no retry is left (`Outlet.deliver_refines_tries`).
-/

namespace DatabaseResource

/-! ### What a call can come to -/

namespace Http

open Activity

variable {web : Web} {n : Nat} {call : Call} {m : Moment}

@[simp] theorem sleepUntil_bind_apply {α : Type} (t : Instant) (f : Unit → Activity α)
    (m : Moment) :
    (sleepUntil t >>= f) m
      = (f () (m.after (waitSteps (t.nanos - m.now.nanos).toNat))).prepend
          (waitSteps (t.nanos - m.now.nanos).toNat) := by
  simp [sleepUntil]

/-- The steps of a call that an endpoint gets: its host is dialled, and its answer waited for. -/
def callSteps (call : Call) (approach latency : Nat) : List Step :=
  [.event (.exchange (.dialled call.url))] ++ (waitSteps approach
    ++ ([.event (.exchange (.call call))] ++ waitSteps latency))

@[simp] theorem eventsOf_callSteps (call : Call) (a b : Nat) :
    eventsOf (callSteps call a b)
      = [.exchange (.dialled call.url), .exchange (.call call)] := by
  simp [callSteps]

/-- What comes of giving a call to an endpoint. -/
inductive Asked (web : Web) (call : Call) (m : Moment) :
    Run (Option (Nat × Option String)) → Prop where
  /-- No endpoint gets the call. -/
  | lost {steps} (exchange : ∀ e ∈ eventsOf steps, ∃ x, e = .exchange x)
      (noCall : calls (eventsOf steps) = []) : Asked web call m ⟨steps, some none⟩
  | unanswered {a b} : Asked web call m ⟨callSteps call a b, some none⟩
  | answered {a b status location}
      (react : web.react (exchanges m.events ++ [.dialled call.url]) call
        = .answer status location) :
      Asked web call m ⟨callSteps call a b, some (some (status, location))⟩

theorem Web.react_of_reactBy {web : Web} {deadline ready : Instant} {past : List Exchange}
    {status : Nat} {location : Option String}
    (h : web.reactBy deadline ready past call = .answer status location) :
    web.react past call = .answer status location := by
  simp only [reactBy] at h
  split at h
  · exact h
  · cases h

theorem ask_asked (web : Web) (deadline : Instant) (call : Call) (m : Moment) :
    Asked web call m (ask web deadline call m) := by
  unfold ask
  simp only [emit_bind_apply, moment_bind_apply]
  generalize hm : m.after [.event (.exchange (.dialled call.url))] = m'
  have hpast : exchanges m'.events = exchanges m.events ++ [.dialled call.url] := by
    rw [← hm]
    simp [exchanges, Event.exchange?]
  generalize web.connectBy _ _ _ _ _ = connection
  cases connection with
  | unanswered | unreachable =>
    simp only [sleepUntil_bind_apply, pure_apply, Run.prepend_mk]
    exact .lost (by simp) (by simp [Exchange.call?])
  | insecure =>
    simp only [sleepUntil_bind_apply, emit_bind_apply, sleep_bind_apply, pure_apply,
      Run.prepend_mk]
    exact .lost (by simp) (by simp [Exchange.call?])
  | established =>
    simp only [sleepUntil_bind_apply, emit_bind_apply]
    generalize hreact : web.reactBy _ _ _ _ = reaction
    cases reaction with
    | silence | hangUp | garbage =>
      simp only [sleepUntil_bind_apply, pure_apply, Run.prepend_mk, List.append_nil]
      exact .unanswered
    | answer status location =>
      simp only [sleepUntil_bind_apply, pure_apply, Run.prepend_mk, List.append_nil]
      exact .answered (hpast ▸ Web.react_of_reactBy hreact)

/-- The call that follows an answer which sends it to a place that can be asked. -/
inductive Follows (origin : Url) (call : Call) (status : Nat) (location : Option String) :
    Call → Prop where
  | mk {place url} (named : place? call status location = some place)
      (read : readPlace place = .ok url) (asked : refusal? origin place url = none) :
      Follows origin call status location (call.redirected status url (targetOf place))

/-- What goes wrong when a call is sent to a place and `n` redirects may still be followed. -/
inductive Strays (origin : Url) (n : Nat) (call : Call) (place : Url.Reference) : Error → Prop where
  | unreadable {flaw} (read : readPlace place = .error flaw) :
      Strays origin n call place (.misdirected origin)
  | tooOften {url} (read : readPlace place = .ok url) (spent : n = 0) :
      Strays origin n call place (.redirect call.url)
  | refused {url error} (read : readPlace place = .ok url) (left : n ≠ 0)
      (refused : refusal? origin place url = some error) : Strays origin n call place error

/-- What a call can come to when a number of redirects is followed; the try began at `origin`. -/
inductive Attempted (web : Web) (origin : Url) :
    Nat → Call → Moment → Run (Except Error Nat) → Prop where
  /-- No endpoint gets the call. -/
  | lost {n call m steps} (exchange : ∀ e ∈ eventsOf steps, ∃ x, e = .exchange x)
      (noCall : calls (eventsOf steps) = []) :
      Attempted web origin n call m ⟨steps, some (.error (.sending origin))⟩
  | unanswered {n call m a b} :
      Attempted web origin n call m ⟨callSteps call a b, some (.error (.sending origin))⟩
  | answered {n call m a b status location}
      (react : web.react (exchanges m.events ++ [.dialled call.url]) call
        = .answer status location)
      (final : place? call status location = none) :
      Attempted web origin n call m ⟨callSteps call a b, some (.ok status)⟩
  /-- The call is sent to a place that cannot be asked, or to another place once too often. -/
  | astray {n call m a b status location place error}
      (react : web.react (exchanges m.events ++ [.dialled call.url]) call
        = .answer status location)
      (named : place? call status location = some place)
      (strays : Strays origin n call place error) :
      Attempted web origin n call m ⟨callSteps call a b, some (.error error)⟩
  | redirected {n call m a b status location next run}
      (react : web.react (exchanges m.events ++ [.dialled call.url]) call
        = .answer status location)
      (follows : Follows origin call status location next)
      (rest : Attempted web origin n next (m.after (callSteps call a b)) run) :
      Attempted web origin (n + 1) call m (run.prepend (callSteps call a b))

/-- How a call is followed when a number of redirects may be. -/
def follow? (web : Web) (deadline : Instant) (origin : Url) :
    Nat → Option (Call → Activity (Except Error Nat))
  | 0 => none
  | n + 1 => some (attempt web deadline origin n)

theorem attempt_eq (web : Web) (deadline : Instant) (origin : Url) (n : Nat) (call : Call) :
    attempt web deadline origin n call
      = ask web deadline call >>= settle origin call (follow? web deadline origin n) := by
  cases n <;> rfl

theorem attempt_attempted (web : Web) (deadline : Instant) (origin : Url) (n : Nat) (call : Call)
    (m : Moment) : Attempted web origin n call m (attempt web deadline origin n call m) := by
  induction n using Nat.strongRecOn generalizing call m with
  | ind n ih =>
    rw [attempt_eq]
    have hask := ask_asked web deadline call m
    generalize hrun : ask web deadline call m = run at hask
    cases hask with
    | lost exchange noCall =>
      rw [bind_of_apply_eq hrun]
      simpa [settle] using Attempted.lost exchange noCall
    | unanswered =>
      rw [bind_of_apply_eq hrun]
      simpa [settle] using Attempted.unanswered
    | @answered _ _ status location react =>
      rw [bind_of_apply_eq hrun]
      cases hplace : place? call status location with
      | none => simpa [settle, hplace] using Attempted.answered react hplace
      | some place =>
        cases hread : readPlace place with
        | error flaw =>
          simpa [settle, hplace, hread] using .astray react hplace (.unreadable hread)
        | ok url =>
          cases n with
          | zero =>
            simpa [settle, follow?, hplace, hread] using .astray react hplace (.tooOften hread rfl)
          | succ n =>
            cases hrefusal : refusal? origin place url with
            | some error =>
              simpa [settle, follow?, hplace, hread, hrefusal]
                using .astray react hplace (.refused hread n.succ_ne_zero hrefusal)
            | none =>
              simpa [settle, follow?, hplace, hread, hrefusal]
                using .redirected react (.mk hplace hread hrefusal) (ih n n.lt_succ_self _ _)

namespace Attempted

variable {origin : Url} {run : Run (Except Error Nat)}

theorem ends (h : Attempted web origin n call m run) : ∃ answer, run.result = some answer := by
  induction h with
  | redirected _ _ _ ih => exact ih
  | _ => exact ⟨_, rfl⟩

theorem exchanges_only (h : Attempted web origin n call m run) :
    ∀ e ∈ eventsOf run.steps, ∃ x, e = .exchange x := by
  induction h with
  | lost exchange => exact exchange
  | redirected _ _ _ ih =>
    intro e he
    rw [Run.prepend_steps, eventsOf_append, List.mem_append] at he
    exact he.elim (by simp +contextual [or_imp]) (ih e)
  | _ => simp

/-- The first call that an endpoint gets is the one that is to be given. -/
theorem first_call (h : Attempted web origin n call m run) :
    ∀ c, (calls (eventsOf run.steps)).head? = some c → c = call := by
  cases h with
  | lost _ noCall => simp [noCall]
  | _ => simp [Exchange.call?, eq_comm]

/-- A status that a call comes to is what an endpoint has answered to the last thing that it got,
without sending the call to another place. -/
theorem final_answer (h : Attempted web origin n call m run) {status : Nat}
    (hr : run.result = some (.ok status)) :
    ∃ past c location, exchanges (m.events ++ eventsOf run.steps) = past ++ [.call c] ∧
      web.react past c = .answer status location ∧ place? c status location = none := by
  induction h with
  | @answered n call m a b _ location react final =>
    cases hr
    refine ⟨exchanges m.events ++ [.dialled call.url], call, location, ?_, react, final⟩
    simp
  | redirected _ _ _ ih =>
    obtain ⟨past, c, location, hpast, hreact, hfinal⟩ := ih hr
    refine ⟨past, c, location, ?_, hreact, hfinal⟩
    simpa using hpast
  | _ => cases hr

end Attempted

end Http

/-! ### What a try is worth -/

namespace Outlet

open Activity Sender

/-- What the answer to a try is worth. -/
def verdict : Except Http.Error Nat → Except Fault Unit
  | .ok status => if 200 ≤ status ∧ status ≤ 299 then .ok () else .error (.responseStatus status)
  | .error e => .error (.http e)

/-- Whether a try may do better when it is repeated: it failed on the way, or its last status says
that the server failed or asks for patience. -/
def Retryable : Except Fault Unit → Prop
  | .error (.http (.sending _)) => True
  | .error (.responseStatus status) => 500 ≤ status ∧ status ≤ 599 ∨ status = 429
  | _ => False

theorem retryable_iff (fault : Fault) : Retryable (.error fault) ↔ fault.isRetryable = true := by
  cases fault with
  | http e => cases e <;> simp [Retryable, Fault.isRetryable]
  | responseStatus status =>
    simp [Retryable, Fault.isRetryable, Http.isTransient, Http.isServerError]
    omega
  | _ => simp [Retryable, Fault.isRetryable]

/-- One try is one call with the redirects that follow it, if the URL can stand in a call. -/
theorem deliverOnce_apply (web : Http.Web) (url : Url) (body : String) (m : Moment) :
    deliverOnce web url body m =
      if Http.isUsable url then
        let run := Http.attempt web (m.now.advance Http.tryTimeout) url.withoutUser
          Http.maxRedirects (.deliver url body) m
        ⟨run.steps, run.result.map verdict⟩
      else ⟨[], some (.error (.http (.unusable url.withoutUser)))⟩ := by
  unfold deliverOnce
  by_cases husable : Http.isUsable url = true
  · have hcall := Http.attempt_attempted web (m.now.advance Http.tryTimeout) url.withoutUser
      Http.maxRedirects (.deliver url body) m
    obtain ⟨answer, hanswer⟩ := hcall.ends
    simp only [husable, Bool.not_true, Bool.false_eq_true, if_false, if_true, now_bind_apply]
    rw [bind_apply_of_some hanswer, hanswer]
    cases answer with
    | error e => simp [verdict]
    | ok status =>
      by_cases hs : 200 ≤ status ∧ status ≤ 299
      · have : Http.isSuccess status = true := by simp [Http.isSuccess]; omega
        simp [verdict, hs, this]
      · have : Http.isSuccess status = false := by simp [Http.isSuccess]; omega
        simp [verdict, hs, this]
  · simp [husable]

theorem deliverOnce_ends (web : Http.Web) (url : Url) (body : String) (m : Moment) :
    ∃ outcome, (deliverOnce web url body m).result = some outcome := by
  rw [deliverOnce_apply]
  split
  · obtain ⟨answer, hanswer⟩ := (Http.attempt_attempted web (m.now.advance Http.tryTimeout)
      url.withoutUser Http.maxRedirects (.deliver url body) m).ends
    exact ⟨verdict answer, by simp [hanswer]⟩
  · exact ⟨_, rfl⟩

/-! ### The tries of a delivery -/

variable (o : Outlet) (url : Url) (body : String) (m : Moment)

/-- The pause that is made behind try `i` when it ends at a moment. -/
def pauseAt (i : Nat) (m : Moment) : Nat := o.sender.pause i (o.extra (exchanges m.events))

/-- The steps between try `i`, which ends at a moment, and the next one: the failure is logged, and
a pause is made. -/
def pauseSteps (i : Nat) (m : Moment) : Except Fault Unit → List Step
  | .ok () => []
  | .error fault =>
    [.event (.log none (.deliveryRepeated fault (.ofNanos (o.pauseAt i m)))),
      .wait (o.pauseAt i m - 1)]

/-- The outcome of a try that begins at a moment. -/
def outcomeAt (m : Moment) : Except Fault Unit :=
  (deliverOnce o.web url body m).result.getD (.ok ())

/-- The moment at which try `i` begins when every try before it is repeated. -/
def tryMoment : Nat → Moment
  | 0 => m
  | i + 1 =>
    let start := tryMoment i
    let steps := (deliverOnce o.web url body start).steps
    start.after (steps ++ o.pauseSteps i (start.after steps) (o.outcomeAt url body start))

/-- The steps of try `i`. -/
def trySteps (i : Nat) : List Step := (deliverOnce o.web url body (o.tryMoment url body m i)).steps

/-- The pause behind try `i`. -/
def pauseBehind (i : Nat) : Nat :=
  o.pauseAt i ((o.tryMoment url body m i).after (o.trySteps url body m i))

/-- The outcome of try `i`. -/
def tryOutcome (i : Nat) : Except Fault Unit := o.outcomeAt url body (o.tryMoment url body m i)

/-- The steps of try `i` and of the pause behind it. -/
def roundSteps (i : Nat) : List Step :=
  let ended := (o.tryMoment url body m i).after (o.trySteps url body m i)
  o.trySteps url body m i ++ o.pauseSteps i ended (o.tryOutcome url body m i)

/-- A try that fails is followed by a warning and a pause. -/
theorem roundSteps_of_error {i : Nat} {fault : Fault}
    (h : o.tryOutcome url body m i = .error fault) :
    o.roundSteps url body m i = o.trySteps url body m i
      ++ [.event (.log none (.deliveryRepeated fault (.ofNanos (o.pauseBehind url body m i)))),
        .wait (o.pauseBehind url body m i - 1)] := by
  rw [roundSteps, h, pauseSteps, pauseBehind]

theorem deliverOnce_tryMoment (i : Nat) :
    deliverOnce o.web url body (o.tryMoment url body m i)
      = ⟨o.trySteps url body m i, some (o.tryOutcome url body m i)⟩ := by
  obtain ⟨outcome, h⟩ := deliverOnce_ends o.web url body (o.tryMoment url body m i)
  simp only [trySteps, tryOutcome, outcomeAt, h, Option.getD_some]
  rw [← h]

theorem tryMoment_succ (i : Nat) :
    o.tryMoment url body m (i + 1)
      = (o.tryMoment url body m i).after (o.roundSteps url body m i) := rfl

/-- The number of the last try: the first one that is not to be repeated, or the last one that the
limit allows. -/
structure IsLastTry (outcome : Nat → Except Fault Unit) (limit k : Nat) : Prop where
  le : k ≤ limit
  repeated : ∀ i < k, Retryable (outcome i)
  final : k = limit ∨ ¬ Retryable (outcome k)

namespace IsLastTry

variable {outcome : Nat → Except Fault Unit} {limit k : Nat}

theorem zero (h : limit = 0 ∨ ¬ Retryable (outcome 0)) : IsLastTry outcome limit 0 :=
  ⟨Nat.zero_le _, fun _ hi => (Nat.not_lt_zero _ hi).elim, h.imp Eq.symm id⟩

theorem succ (hfirst : Retryable (outcome 0)) (h : IsLastTry (fun i => outcome (i + 1)) limit k) :
    IsLastTry outcome (limit + 1) (k + 1) where
  le := Nat.succ_le_succ h.le
  repeated := by
    intro i hi
    cases i with
    | zero => exact hfirst
    | succ i => exact h.repeated i (Nat.lt_of_succ_lt_succ hi)
  final := h.final.imp (congrArg Nat.succ) id

end IsLastTry

/-- Delivering from try `i` on, with a number of retries left. -/
theorem deliverFrom_eq (left i : Nat) :
    ∃ n, IsLastTry (fun j => o.tryOutcome url body m (i + j)) left n ∧
      o.sender.deliverFrom o.web o.extra url body i left (o.tryMoment url body m i)
        = ⟨(List.range' i n).flatMap (o.roundSteps url body m) ++ o.trySteps url body m (i + n),
            some (o.tryOutcome url body m (i + n))⟩ := by
  induction left generalizing i with
  | zero =>
    refine ⟨0, .zero (.inl rfl), ?_⟩
    unfold deliverFrom
    rw [bind_of_apply_eq (o.deliverOnce_tryMoment url body m i)]
    cases o.tryOutcome url body m i <;> simp
  | succ left ih =>
    unfold deliverFrom
    rw [bind_of_apply_eq (o.deliverOnce_tryMoment url body m i)]
    cases h : o.tryOutcome url body m i with
    | ok done => exact ⟨0, .zero (.inr (by simp [h, Retryable])), by simp [h]⟩
    | error fault =>
      by_cases hretry : fault.isRetryable = true
      · -- The pause ends where the next try begins.
        obtain ⟨n, hlast, hrun⟩ := ih (i + 1)
        have hround := o.roundSteps_of_error url body m h
        have hpause : o.sender.pause i (o.extra (exchanges
            ((o.tryMoment url body m i).after (o.trySteps url body m i)).events))
              = o.pauseBehind url body m i := rfl
        have hnext : i + (n + 1) = i + 1 + n := by omega
        refine ⟨n + 1, .succ (by simpa [h] using (retryable_iff fault).mpr hretry) ?_, ?_⟩
        · simpa only [Nat.add_assoc, Nat.add_comm 1] using hlast
        · simp only [hretry, if_true, moment_bind_apply, hpause, log_bind_apply, timer_bind_apply,
            ← Moment.after_append, Run.prepend_prepend, List.append_assoc,
            List.singleton_append]
          rw [← hround, ← tryMoment_succ, hrun, hnext]
          simp [List.range'_succ]
      · have hn : ¬ Retryable (o.tryOutcome url body m (i + 0)) := by
          simpa [h, retryable_iff] using hretry
        exact ⟨0, .zero (.inr hn), by simp [h, hretry]⟩

/-- A delivery is its tries up to the last one. -/
theorem deliver_eq_tries (response : Response) :
    ∃ k, IsLastTry (o.tryOutcome url response.body m) o.sender.maxRetries k ∧
      o.deliver url response m
        = ⟨(List.range k).flatMap (o.roundSteps url response.body m)
              ++ o.trySteps url response.body m k,
            some (o.tryOutcome url response.body m k)⟩ := by
  obtain ⟨k, hlast, hrun⟩ := o.deliverFrom_eq url response.body m o.sender.maxRetries 0
  simp only [Nat.zero_add, ← List.range_eq_range'] at hlast hrun
  exact ⟨k, hlast, hrun⟩

/-- What a try is answered with: the final status after its redirects, or an error on the way. -/
structure TryAnswer (i : Nat) (answer : Except Http.Error Nat) : Prop where
  usable : Http.isUsable url = true →
    (Http.attempt o.web ((o.tryMoment url body m i).now.advance Http.tryTimeout) url.withoutUser
      Http.maxRedirects (.deliver url body) (o.tryMoment url body m i)).result = some answer
  unusable : Http.isUsable url = false → answer = .error (.unusable url.withoutUser)
  /-- The status is what the last thing that an endpoint has got is answered with. -/
  final : ∀ status, answer = .ok status → ∃ past c location,
    exchanges ((o.tryMoment url body m i).events ++ eventsOf (o.trySteps url body m i))
        = past ++ [.call c] ∧
      o.web.react past c = .answer status location ∧ Http.place? c status location = none

theorem tryAnswer (i : Nat) :
    ∃ answer, o.TryAnswer url body m i answer ∧ o.tryOutcome url body m i = verdict answer := by
  have hrun := deliverOnce_apply o.web url body (o.tryMoment url body m i)
  rw [deliverOnce_tryMoment] at hrun
  by_cases husable : Http.isUsable url = true
  · have hcall := Http.attempt_attempted o.web
      ((o.tryMoment url body m i).now.advance Http.tryTimeout) url.withoutUser Http.maxRedirects
      (.deliver url body) (o.tryMoment url body m i)
    obtain ⟨answer, hanswer⟩ := hcall.ends
    simp only [husable, if_true, hanswer, Option.map_some, Run.mk.injEq, Option.some.injEq] at hrun
    refine ⟨answer, ⟨fun _ => hanswer, by simp [husable], ?_⟩, hrun.2⟩
    rintro status rfl
    rw [hrun.1]
    exact hcall.final_answer hanswer
  · simp only [husable, Bool.false_eq_true, if_false, Run.mk.injEq, Option.some.injEq] at hrun
    exact ⟨.error (.unusable url.withoutUser), ⟨(absurd · husable), fun _ => rfl, nofun⟩, hrun.2⟩

theorem trySteps_exchanges (i : Nat) :
    ∀ e ∈ eventsOf (o.trySteps url body m i), ∃ x, e = .exchange x := by
  unfold trySteps
  rw [deliverOnce_apply]
  split
  · exact (Http.attempt_attempted ..).exchanges_only
  · simp

/-- The first call of every try puts the document to the place of the URL. -/
theorem trySteps_first_call (i : Nat) {c : Http.Call}
    (h : (calls (eventsOf (o.trySteps url body m i))).head? = some c) :
    c = .deliver url body := by
  unfold trySteps at h
  rw [deliverOnce_apply] at h
  split at h
  · exact (Http.attempt_attempted ..).first_call c h
  · simp at h

theorem logged_trySteps (i : Nat) : logged (eventsOf (o.trySteps url body m i)) = [] := by
  apply List.filterMap_eq_nil_iff.mpr
  intro e he
  obtain ⟨x, rfl⟩ := o.trySteps_exchanges url body m i e he
  rfl

theorem logged_roundSteps (i : Nat) {fault : Fault}
    (h : o.tryOutcome url body m i = .error fault) :
    logged (eventsOf (o.roundSteps url body m i))
      = [(none, .deliveryRepeated fault (.ofNanos (o.pauseBehind url body m i)))] := by
  simp [o.roundSteps_of_error url body m h, logged_trySteps]

/-- The events of several rounds are those of each. -/
theorem eventsOf_flatMap (is : List Nat) (f : Nat → List Step) :
    eventsOf (is.flatMap f) = is.flatMap fun i => eventsOf (f i) :=
  List.filterMap_flatMap

/-- The failures that are logged are those of the tries that are repeated. -/
theorem logged_rounds {k : Nat} {fault : Nat → Fault}
    (h : ∀ i < k, o.tryOutcome url body m i = .error (fault i)) :
    logged (eventsOf ((List.range k).flatMap (o.roundSteps url body m)))
      = (List.range k).map fun i =>
          (none, .deliveryRepeated (fault i) (.ofNanos (o.pauseBehind url body m i))) := by
  rw [eventsOf_flatMap, logged, List.filterMap_flatMap, List.map_eq_flatMap]
  refine congrArg List.flatten (List.map_congr_left fun i hi => ?_)
  exact o.logged_roundSteps url body m i (h i (List.mem_range.mp hi))

/-- A delivery only exchanges something with endpoints, and logs what is repeated. -/
theorem deliver_emits (url : Url) (response : Response) :
    Emits (fun e => (∃ x, e = .exchange x)
        ∨ ∃ fault pause, e = .log none (.deliveryRepeated fault pause))
      (o.deliver url response) := by
  intro m e he
  obtain ⟨k, -, hrun⟩ := o.deliver_eq_tries url m response
  rw [show (o.deliver url response m).steps = _ from congrArg Run.steps hrun, eventsOf_append,
    List.mem_append, eventsOf_flatMap, List.mem_flatMap] at he
  rcases he with ⟨i, -, he⟩ | he
  · rw [roundSteps, eventsOf_append, List.mem_append] at he
    rcases he with he | he
    · exact .inl (o.trySteps_exchanges url response.body m i e he)
    · cases h : o.tryOutcome url response.body m i with
      | ok => simp [h, pauseSteps] at he
      | error fault => exact .inr ⟨fault, _, by simpa [h, pauseSteps] using he⟩
  · exact .inl (o.trySteps_exchanges url response.body m k e he)

/-- The pause behind a try is at least what the limits say, and at most twice as long. -/
theorem pauseBehind_bounds (i : Nat) :
    o.sender.leastPause i ≤ o.pauseBehind url body m i ∧
      o.pauseBehind url body m i ≤ 2 * o.sender.leastPause i :=
  ⟨leastPause_le_pause .., pause_le ..⟩

/-- **Delivery is its tries.** A delivery makes the tries `0` to `k`, where `k` is the first one
that is not to be repeated, or the limit, and gives what the last one came to. Every call that
begins a try puts the same document to the URL with an empty content type. A warning is logged for
each try that is repeated, with its error and the pause that is made behind it. -/
theorem deliver_refines_tries (o : Outlet) (url : Url) (response : Response) (m : Moment) :
    ∃ (k : Nat) (fault : Nat → Fault),
      let body := response.body
      let pause (i : Nat) : Span := .ofNanos (o.pauseBehind url body m i)
      IsLastTry (o.tryOutcome url body m) o.sender.maxRetries k ∧
      o.deliver url response m
        = ⟨(List.range k).flatMap (o.roundSteps url body m) ++ o.trySteps url body m k,
            some (o.tryOutcome url body m k)⟩ ∧
      (∀ i, ∃ answer, o.TryAnswer url body m i answer ∧
        o.tryOutcome url body m i = verdict answer) ∧
      (∀ i, ∀ c, (calls (eventsOf (o.trySteps url body m i))).head? = some c →
        c.method = .put ∧ c.url = url.withoutUser ∧ c.target = url.target ∧ c.body = some body ∧
          ("content-type", "") ∈ c.headers) ∧
      (∀ i < k, o.tryOutcome url body m i = .error (fault i)) ∧
      logged (eventsOf (o.deliver url response m).steps)
        = (List.range k).map (fun i => (none, .deliveryRepeated (fault i) (pause i))) ∧
      ∀ i, (Log.Entry.deliveryRepeated (fault i) (pause i)).level = .warn ∧
        (Log.Entry.deliveryRepeated (fault i) (pause i)).fields
          = [("error", .text (fault i).message), ("retry_in", .text (pause i).describe)] ∧
        o.sender.leastPause i ≤ (pause i).toNanos ∧
        (pause i).toNanos ≤ 2 * o.sender.leastPause i := by
  obtain ⟨k, hlast, hrun⟩ := o.deliver_eq_tries url m response
  have hrepeated : ∀ i, ∃ fault, i < k → o.tryOutcome url response.body m i = .error fault := by
    intro i
    cases h : o.tryOutcome url response.body m i with
    | ok => exact ⟨.responseDeadline, fun hi => by simpa [h, Retryable] using hlast.repeated i hi⟩
    | error fault => exact ⟨fault, fun _ => rfl⟩
  obtain ⟨fault, hfault⟩ := Classical.axiomOfChoice hrepeated
  refine ⟨k, fault, hlast, hrun, o.tryAnswer url response.body m, ?_, hfault, ?_, ?_⟩
  · intro i c hc
    cases o.trySteps_first_call url response.body m i hc
    exact ⟨rfl, rfl, rfl, rfl, by simp [Http.Call.headers, Http.Call.deliver]⟩
  · rw [show (o.deliver url response m).steps = _ from congrArg Run.steps hrun, eventsOf_append,
      logged_append, logged_trySteps, List.append_nil]
    exact o.logged_rounds url response.body m hfault
  · intro i
    rw [Span.toNanos_ofNanos]
    exact ⟨rfl, rfl, o.pauseBehind_bounds url response.body m i⟩

end Outlet

end DatabaseResource
