import DatabaseResource.Http.Script
import DatabaseResource.Proofs.Report

/-!
# What a delivered document comes to

A try follows its call from place to place (`Http.Trail`). The document travels with the call until
an endpoint answers 303: from there on the call only asks for another document, and a delivery can
succeed that no endpoint has accepted the document of (`Outlet.deliver_accepted_or_dropped`,
`Outlet.deliver_succeeds_without_receipt`).
-/

namespace DatabaseResource

namespace Http

open Activity

variable {web : Web} {past seen : List Exchange} {first last : Call} {status : Nat}

/-- The exchanges of a call that every endpoint on its way answers, the last one with a status that
sends it to no other place. -/
inductive Trail (web : Web) (origin : Url) (last : Call) (status : Nat) :
    List Exchange → Call → List Exchange → Prop where
  | ends {past location}
      (react : web.react (past ++ [.dialled last.url]) last = .answer status location) :
      Trail web origin last status past last [.dialled last.url, .call last]
  | goes {past call answer location next seen}
      (react : web.react (past ++ [.dialled call.url]) call = .answer answer location)
      (follows : Follows origin call answer location next)
      (rest : Trail web origin last status (past ++ [.dialled call.url, .call call]) next seen) :
      Trail web origin last status past call (.dialled call.url :: .call call :: seen)

/-- An endpoint answers a call: what has been seen before the call, and what comes after it. -/
def AnsweredAt (web : Web) (before : List Exchange) (call : Call) (after : List Exchange)
    (status : Nat) (location : Option String) (seen : List Exchange) : Prop :=
  seen = before ++ .call call :: after ∧ web.react before call = .answer status location

/-- The call carries the document. -/
def Call.Puts (call : Call) (document : String) : Prop :=
  call.method = .put ∧ call.body = some document

/-- The call only asks for a document. -/
def Call.Asks (call : Call) : Prop := call.method = .get ∧ call.body = none

theorem Call.Puts.deliver (url : Url) (document : String) :
    (Call.deliver url document).Puts document := ⟨rfl, rfl⟩

theorem Call.Asks.redirected {call : Call} (h : call.Asks) (status : Nat) (place : Url)
    (target : String) : (call.redirected status place target).Asks := by
  by_cases hs : status = 303
  · exact ⟨by simp [Call.redirected, hs], by simp [Call.redirected, hs]⟩
  · exact ⟨by simpa [Call.redirected, hs] using h.1, by simpa [Call.redirected, hs] using h.2⟩

/-- A redirect leaves a call its document, unless its status is 303. -/
theorem Call.Puts.redirected {call : Call} {document : String} (h : call.Puts document)
    (status : Nat) (place : Url) (target : String) :
    if status = 303 then (call.redirected status place target).Asks
    else (call.redirected status place target).Puts document := by
  split
  next hs => exact ⟨by simp [Call.redirected, hs], by simp [Call.redirected, hs]⟩
  next hs =>
    exact ⟨by simpa [Call.redirected, hs] using h.1, by simpa [Call.redirected, hs] using h.2⟩

namespace Follows

variable {origin : Url} {call next : Call} {location : Option String}

theorem asks (h : Follows origin call status location next) (hcall : call.Asks) : next.Asks := by
  obtain ⟨-, -, -⟩ := h
  exact hcall.redirected ..

theorem puts_or_asks {document : String} (h : Follows origin call status location next)
    (hcall : call.Puts document) : if status = 303 then next.Asks else next.Puts document := by
  obtain ⟨-, -, -⟩ := h
  exact hcall.redirected ..

/-- Who sends a call to a place names it. -/
theorem exists_location (h : Follows origin call status location next) :
    ∃ l, location = some l := by
  obtain ⟨named, -, -⟩ := h
  cases location with
  | none => simp [place?] at named
  | some l => exact ⟨l, rfl⟩

end Follows

namespace Trail

variable {origin : Url}

/-- A call that only asks for a document does so to the end. -/
theorem asks (h : Trail web origin last status past first seen) (hfirst : first.Asks) :
    last.Asks := by
  induction h with
  | ends => exact hfirst
  | goes _ follows _ ih => exact ih (follows.asks hfirst)

/-- The first call of a trail is made. -/
theorem first_mem (h : Trail web origin last status past first seen) : .call first ∈ seen := by
  cases h <;> simp

/-- The last call of a trail is answered with the status. -/
theorem answered (h : Trail web origin last status past first seen) :
    ∃ before location, AnsweredAt web before last [] status location (past ++ seen) := by
  induction h with
  | ends react => exact ⟨_, _, by simp, react⟩
  | goes _ _ _ ih =>
    obtain ⟨before, location, hseen, hreact⟩ := ih
    exact ⟨before, location, by simpa using hseen, hreact⟩

/-- The document arrives at the end of a trail, or it is dropped where an endpoint answers 303 and
names another place. -/
theorem arrives {document : String} (h : Trail web origin last status past first seen)
    (hfirst : first.Puts document) :
    last.Puts document ∨
      last.Asks ∧ ∃ before put after location,
        put.Puts document ∧ AnsweredAt web before put after 303 (some location) (past ++ seen) := by
  induction h with
  | ends => exact .inl hfirst
  | @goes past call answer location next seen react follows rest ih =>
    have hnext := follows.puts_or_asks hfirst
    by_cases hs : answer = 303
    · obtain ⟨l, rfl⟩ := follows.exists_location
      rw [if_pos hs] at hnext
      refine .inr ⟨rest.asks hnext, past ++ [.dialled call.url], call, seen, l, hfirst, ?_, ?_⟩
      · simp
      · rw [react, hs]
    · rw [if_neg hs] at hnext
      rcases ih hnext with hput | ⟨hasks, before, put, after, l, hcarries, hseen, hreact⟩
      · exact .inl hput
      · exact .inr ⟨hasks, before, put, after, l, hcarries, by simpa using hseen, hreact⟩

end Trail

/-- A call that comes to a status has left a trail. -/
theorem Attempted.trail {origin : Url} {n : Nat} {m : Moment} {run : Run (Except Error Nat)}
    (h : Attempted web origin n first m run) (hr : run.result = some (.ok status)) :
    ∃ last, Trail web origin last status (exchanges m.events) first
      (exchanges (eventsOf run.steps)) := by
  induction h with
  | answered react =>
    cases hr
    exact ⟨_, by simpa using Trail.ends react⟩
  | redirected react follows _ ih =>
    obtain ⟨last, hrest⟩ := ih hr
    exact ⟨last, by simpa using Trail.goes react follows (by simpa using hrest)⟩
  | _ => cases hr

/-! ### Endpoints that follow a script -/

section Scripted

variable {isEndpoint : Url → Bool} {script : List Act} {before : Nat}

@[simp] theorem Web.scripted_approach (past : List Exchange) (url : Url) :
    (Web.scripted isEndpoint script before).approach past url = 0 := rfl

@[simp] theorem Web.scripted_latency (past : List Exchange) (call : Call) :
    (Web.scripted isEndpoint script before).latency past call = 0 := rfl

/-- An endpoint that answers by its script takes one nanosecond for it. -/
theorem ask_scripted {call : Call} {m : Moment} {deadline : Instant} {location : Option String}
    (hendpoint : isEndpoint call.url) (hplain : call.url.scheme ≠ "https")
    (hact : actAt script before (exchanges m.events ++ [.dialled call.url])
      = .react (.answer status location))
    (htime : m.now.nanos + 1 < deadline.nanos) :
    ask (.scripted isEndpoint script before) deadline call m
      = ⟨callSteps call 0 1, some (some (status, location))⟩ := by
  generalize hm : m.after [.event (.exchange (.dialled call.url))] = m'
  have hpast : exchanges m'.events = exchanges m.events ++ [.dialled call.url] := by
    simp [← hm]
  have hnow : m'.now = m.now := by
    simp [← hm]
  have hconnect : (Web.scripted isEndpoint script before).connectBy deadline m.now m.now
      (exchanges m'.events) call.url = .established := by
    have hearly : m.now.nanos ≤ m.now.nanos + connectTimeout ∧ m.now.nanos < deadline.nanos := by
      omega
    rw [Web.connectBy, if_pos hearly]
    simp [Web.scripted, hpast, hact, hendpoint, hplain]
  have hreact : (Web.scripted isEndpoint script before).reactBy deadline (m.now.advance 1)
      (exchanges m'.events) call = .answer status location := by
    simp [Web.reactBy, Web.scripted, hpast, hact, htime]
  have hwait : ((m.now.advance 1).nanos - m.now.nanos).toNat = 1 := by
    rw [Instant.advance_nanos]
    omega
  unfold ask
  simp only [emit_bind_apply, moment_bind_apply, hm, hnow, Web.scripted_approach,
    Web.scripted_latency, Instant.advance_zero, Nat.zero_add, hconnect, hreact,
    sleepUntil_bind_apply, Int.sub_self, Int.toNat_zero, Moment.after_now, elapsed_waitSteps,
    elapsed_cons_event, elapsed_nil, hwait]
  simp [callSteps]

end Scripted

end Http

namespace Outlet

open Activity Sender

theorem verdict_eq_ok_iff {answer : Except Http.Error Nat} :
    verdict answer = .ok () ↔ ∃ status, answer = .ok status ∧ 200 ≤ status ∧ status ≤ 299 := by
  cases answer with
  | error e => simp [verdict]
  | ok status => simp [verdict]

/-- A try that is accepted has left a trail. -/
theorem trySteps_trail (o : Outlet) (url : Url) (body : String) (m : Moment) (k : Nat)
    (h : o.tryOutcome url body m k = .ok ()) :
    ∃ last status, 200 ≤ status ∧ status ≤ 299 ∧
      Http.Trail o.web url.withoutUser last status (exchanges (o.tryMoment url body m k).events)
        (.deliver url body) (exchanges (eventsOf (o.trySteps url body m k))) := by
  have hrun := deliverOnce_apply o.web url body (o.tryMoment url body m k)
  rw [deliverOnce_tryMoment, h] at hrun
  split at hrun
  · simp only [Run.mk.injEq] at hrun
    obtain ⟨hsteps, hresult⟩ := hrun
    obtain ⟨answer, hanswer, hverdict⟩ := Option.map_eq_some_iff.mp hresult.symm
    obtain ⟨status, rfl, hlow, hhigh⟩ := verdict_eq_ok_iff.mp hverdict
    obtain ⟨last, htrail⟩ := (Http.attempt_attempted ..).trail hanswer
    exact ⟨last, status, hlow, hhigh, hsteps ▸ htrail⟩
  · simp at hrun

/-! ### An endpoint that has moved -/

/-- The place of a stack's response, and another one on the same host. -/
def stackUrl : Url := ⟨"http", some ⟨"", "", .ipv6 [0, 0, 0, 0, 0, 0, 0, 1], none⟩, "/response",
  none, none⟩

def movedUrl : Url := { stackUrl with path := "/moved" }

/-- The other place as the answer of the first one names it. -/
def movedPlace : Url.Reference :=
  ⟨some "http".toList, some "[::1]".toList, "/moved".toList, none, none⟩

/-- What arrives at the other place when the first one has sent the document there with 303. -/
def movedCall (document : String) : Http.Call :=
  (Http.Call.deliver stackUrl document).redirected 303 movedUrl "/moved"

/-- An outlet to an endpoint that sends the first call to another place, and accepts all others. -/
def movingOutlet : Outlet where
  sender := .standard
  web := .scripted (fun _ => true) [.react (.answer 303 (some "/moved"))] 0
  extra _ := 0

theorem stackUrl_usable : Http.isUsable stackUrl = true := by decide +kernel

theorem deliver_place (body : String) :
    (Http.Call.deliver stackUrl body).place = "http://[::1]/response".toList := rfl

theorem place_moved (body : String) :
    Http.place? (.deliver stackUrl body) 303 (some "/moved") = some movedPlace := by
  unfold Http.place?
  rw [deliver_place]
  decide +kernel

theorem readPlace_moved : Http.readPlace movedPlace = .ok movedUrl := by
  have hread : (Http.readPlace movedPlace).toOption = some movedUrl := by decide +kernel
  cases h : Http.readPlace movedPlace with
  | error flaw => simp [h, Except.toOption] at hread
  | ok url => simpa [h, Except.toOption] using hread

theorem movingOutlet_attempt (body : String) :
    Http.attempt movingOutlet.web (Instant.advance ⟨0⟩ Http.tryTimeout) stackUrl Http.maxRedirects
        (.deliver stackUrl body) ⟨⟨0⟩, []⟩
      = ⟨Http.callSteps (.deliver stackUrl body) 0 1
          ++ Http.callSteps (movedCall body) 0 1,
        some (.ok 200)⟩ := by
  have hfirst : Http.ask movingOutlet.web (Instant.advance ⟨0⟩ Http.tryTimeout)
      (.deliver stackUrl body) ⟨⟨0⟩, []⟩
        = ⟨Http.callSteps (.deliver stackUrl body) 0 1, some (some (303, some "/moved"))⟩ :=
    Http.ask_scripted rfl (show stackUrl.scheme ≠ "https" by decide) rfl (by decide)
  have hsecond : Http.ask movingOutlet.web (Instant.advance ⟨0⟩ Http.tryTimeout)
      (movedCall body)
      (Moment.after ⟨⟨0⟩, []⟩ (Http.callSteps (.deliver stackUrl body) 0 1))
        = ⟨Http.callSteps (movedCall body) 0 1,
          some (some (200, none))⟩ :=
    Http.ask_scripted rfl (show movedUrl.scheme ≠ "https" by decide) rfl
      (show (0 : Int) + 1 + 1 < _ by decide)
  have hredirected : (Http.Call.deliver stackUrl body).redirected 303 movedUrl
      (Http.targetOf movedPlace) = movedCall body := rfl
  have hasked : Http.refusal? stackUrl movedPlace movedUrl = none := by decide
  have hfinal : Http.place? (movedCall body) 200 none = none := rfl
  rw [Http.attempt_eq, bind_of_apply_eq hfirst]
  simp only [Http.settle, place_moved, readPlace_moved, Http.follow?, Http.maxRedirects, hasked,
    hredirected]
  rw [Http.attempt_eq, bind_of_apply_eq hsecond]
  simp [Http.settle, hfinal]

theorem movingOutlet_deliver (response : Response) :
    movingOutlet.deliver stackUrl response ⟨⟨0⟩, []⟩
      = ⟨Http.callSteps (.deliver stackUrl response.body) 0 1
          ++ Http.callSteps (movedCall response.body) 0 1,
        some (.ok ())⟩ := by
  have honce := deliverOnce_apply movingOutlet.web stackUrl response.body ⟨⟨0⟩, []⟩
  have hwithout : stackUrl.withoutUser = stackUrl := rfl
  rw [if_pos stackUrl_usable, hwithout, movingOutlet_attempt] at honce
  unfold Outlet.deliver Sender.deliver Sender.deliverFrom
  rw [bind_of_apply_eq honce]
  simp [verdict]

/-! ### Deliveries that succeed -/

/-- **What a success says.** The last thing that the network sees of a delivery that succeeds is a
call, and it is answered with a status of success. Either that call put the whole document, or it
only asked for another one, and an endpoint has answered the call that put the document with 303 and
another place. -/
theorem deliver_accepted_or_dropped (o : Outlet) (url : Url) (response : Response) (m : Moment)
    (h : (o.deliver url response m).result = some (.ok ())) :
    ∃ before call status location,
      Http.AnsweredAt o.web before call [] status location
        (exchanges (m.events ++ eventsOf (o.deliver url response m).steps)) ∧
      200 ≤ status ∧ status ≤ 299 ∧
      (call.Puts response.body ∨
        call.Asks ∧ ∃ earlier put later place, put.Puts response.body ∧
          Http.AnsweredAt o.web earlier put later 303 (some place)
            (exchanges (m.events ++ eventsOf (o.deliver url response m).steps))) := by
  obtain ⟨k, -, hrun⟩ := o.deliver_eq_tries url m response
  have hseen : exchanges (m.events ++ eventsOf (o.deliver url response m).steps)
      = exchanges (o.tryMoment url response.body m k).events
        ++ exchanges (eventsOf (o.trySteps url response.body m k)) := by
    simp [hrun, tryMoment_eq_after]
  rw [hrun] at h
  obtain ⟨last, status, hlow, hhigh, htrail⟩ :=
    o.trySteps_trail url response.body m k (by simpa using h)
  obtain ⟨before, location, hanswered⟩ := htrail.answered
  rw [hseen]
  refine ⟨before, last, status, location, hanswered, hlow, hhigh, ?_⟩
  exact htrail.arrives (.deliver url response.body)

/-- The endpoint that has moved accepts a call, and not the one that put the document. -/
theorem movingOutlet_accepts :
    (movingOutlet.deliver stackUrl default ⟨⟨0⟩, []⟩).result = some (.ok ()) ∧
    ∃ before call status location,
      Http.AnsweredAt movingOutlet.web before call [] status location
        (exchanges (eventsOf (movingOutlet.deliver stackUrl default ⟨⟨0⟩, []⟩).steps)) ∧
      200 ≤ status ∧ status ≤ 299 ∧
      (call.Puts (default : Response).body ∨
        call.Asks ∧ ∃ earlier put later place, put.Puts (default : Response).body ∧
          Http.AnsweredAt movingOutlet.web earlier put later 303 (some place)
            (exchanges (eventsOf (movingOutlet.deliver stackUrl default ⟨⟨0⟩, []⟩).steps))) := by
  have hok : (movingOutlet.deliver stackUrl default ⟨⟨0⟩, []⟩).result = some (.ok ()) := by
    rw [movingOutlet_deliver]
  exact ⟨hok, deliver_accepted_or_dropped movingOutlet stackUrl default ⟨⟨0⟩, []⟩ hok⟩

/-- A delivery can succeed although no call that put the document has been accepted. -/
theorem deliver_succeeds_without_receipt :
    ¬ ∀ (o : Outlet) (url : Url) (response : Response) (m : Moment),
      (o.deliver url response m).result = some (.ok ()) →
      ∃ before call after status location,
        Http.AnsweredAt o.web before call after status location
          (exchanges (m.events ++ eventsOf (o.deliver url response m).steps)) ∧
        200 ≤ status ∧ status ≤ 299 ∧ call.Puts response.body := by
  intro h
  obtain ⟨before, call, after, status, location, ⟨hseen, hreact⟩, -, hhigh, hputs⟩ :=
    h movingOutlet stackUrl default ⟨⟨0⟩, []⟩ (by rw [movingOutlet_deliver])
  have hexchanges : exchanges (eventsOf (movingOutlet.deliver stackUrl default ⟨⟨0⟩, []⟩).steps)
      = [.dialled stackUrl, .call (.deliver stackUrl (default : Response).body),
        .dialled movedUrl,
        .call (movedCall (default : Response).body)] := by
    rw [movingOutlet_deliver]
    rfl
  rw [List.nil_append, hexchanges] at hseen
  rcases before with _ | ⟨x, _ | ⟨y, _ | ⟨z, _ | ⟨w, before⟩⟩⟩⟩
  · cases hseen
  · -- The call that put the document is the one that is sent to another place.
    cases hseen
    cases hreact
    omega
  · cases hseen
  · cases hseen
    cases hputs.1
  · simp at hseen

end Outlet

end DatabaseResource
