import DatabaseResource.Proofs.Comparison
import DatabaseResource.Proofs.Transcript

/-!
# Sessions that fail

What a database server does for a step of a query over a connection of its own to fail, and the
error that it is. Steps are looked at one by one: the end of a connection may fail behind a query
that has failed (`Database.FailsAt`). What is reported is the earliest of them
(`Database.runQuery_fails`). What is quiet in a reply does not matter
(`Database.Server.alike_of_loud`).
-/

namespace DatabaseResource

open Activity

theorem Target.Alike.eq_of_id {target target' : Target} (h : target.Alike id target') :
    target = target' := by
  obtain ⟨hsame, hpassword⟩ := h
  cases target
  cases target'
  simp_all

/-- A run ends in one way only. -/
theorem Run.Ends.unique {α : Type} {run : Run α} {a a' : α} {s s' : List Database.Traffic}
    {t t' : Nat} (h : run.Ends a s t) (h' : run.Ends a' s' t') : a = a' ∧ s = s' ∧ t = t' :=
  ⟨Option.some.inj (h.result_eq.symm.trans h'.result_eq), h.sent_eq.symm.trans h'.sent_eq,
    h.time_eq.symm.trans h'.time_eq⟩

theorem Run.result_eq_some_iff {α : Type} {run : Run α} {a : α} :
    run.result = some a ↔ ∃ sent time, run.Ends a sent time :=
  ⟨fun h => ⟨_, _, h, rfl, rfl⟩, fun ⟨_, _, h⟩ => h.result_eq⟩

theorem Activity.bind_result_iff {α β : Type} {x : Activity α} {f : α → Activity β} {m : Moment}
    {b : β} :
    ((x >>= f) m).result = some b ↔
      ∃ a, (x m).result = some a ∧ (f a (m.after (x m).steps)).result = some b := by
  rcases bind_cases x f m with ⟨hr, hrun⟩ | ⟨a, hr, hrun⟩ <;> simp [hr, hrun]

/-- Of what fails at numbered places, the earliest, and the only error there. -/
structure Earliest {ι ε : Type} (number : ι → Nat) (fails : ι → ε → Prop) (i : ι) (e : ε) :
    Prop where
  here : fails i e
  le {j e'} (h : fails j e') : number i ≤ number j
  unique {e'} (h : fails i e') : e' = e

namespace Database

/-- A moment with some traffic before it. -/
def momentAfter (past : List Traffic) (now : Instant) : Moment := ⟨now, past.map .traffic⟩

@[simp] theorem traffic_momentAfter (past : List Traffic) (now : Instant) :
    traffic (momentAfter past now).events = past := by
  simp [momentAfter, traffic, List.filterMap_map, Function.comp_def, Event.traffic?]

/-! ### What a server does for a step to fail -/

/-- Two hexadecimal digits, or more where two are too few. -/
def hexByte (byte : Nat) : String := String.ofList ((Nat.toDigits 16 byte).leftpad 2 '0')

/-- The error that an answer to the wish for a secured connection is. No answer at all is read as
the byte zero. -/
def SslAnswer.fault? (mode : SslMode) : SslAnswer → Option Error
  | .secured => none
  | .plain => if mode = .prefer then none else some (.tls "server does not support TLS")
  | .broken text => some (.tls text)
  | .other byte => some (.protocol s!"unexpected response from SSLRequest: 0x{hexByte byte}")
  | .closed => some (.protocol "unexpected response from SSLRequest: 0x00")

/-- The error that becomes of a login. -/
def Admission.fault? : Admission → Option Error
  | .welcome => none
  | .refused notice => some notice.toError
  | .closed => some closedEarly
  | .other error => some error

/-- The server does not go on with a connection in a mode. -/
inductive NegotiationFails (server : Server) (mode : SslMode) (past : List Traffic) :
    Error → Prop where
  | mk {n e} (wanted : wantsSsl mode = true)
      (answered : server.latency (past ++ [.sslRequest]) = some n)
      (fault : (server.ssl (past ++ [.sslRequest])).fault? mode = some e) :
      NegotiationFails server mode past e

/-- The server does not let the user of a target in. -/
inductive LoginFails (server : Server) (target : Target) (past : List Traffic) :
    Error → Prop where
  | atOnce {n admission e}
      (answered : server.latency (past ++ [.startup target.username target.database]) = some n)
      (login : server.login (past ++ [.startup target.username target.database])
        = .settled admission)
      (fault : admission.fault? = some e) : LoginFails server target past e
  | byPassword {n n' e}
      (answered : server.latency (past ++ [.startup target.username target.database]) = some n)
      (login : server.login (past ++ [.startup target.username target.database])
        = .passwordWanted)
      (answered' : server.latency (past ++ [.startup target.username target.database,
        .password target.password]) = some n')
      (fault : (server.verdict (past ++ [.startup target.username target.database,
        .password target.password])).fault? = some e) :
      LoginFails server target past e

/-- No connection to a target is established. -/
inductive Refuses (server : Server) (target : Target) (past : List Traffic) : Error → Prop where
  | unreachable {n e}
      (reached : server.approach (past ++ [.dialled target.host target.port]) target = some n)
      (refusal : server.refusal (past ++ [.dialled target.host target.port]) target = some e) :
      Refuses server target past (.io e)
  | negotiating {n e}
      (reached : server.approach (past ++ [.dialled target.host target.port]) target = some n)
      (accepted : server.refusal (past ++ [.dialled target.host target.port]) target = none)
      (failed : NegotiationFails server target.sslMode
        (past ++ [.dialled target.host target.port, .connected]) e) :
      Refuses server target past e
  | loggingIn {n sent time e}
      (reached : server.approach (past ++ [.dialled target.host target.port]) target = some n)
      (accepted : server.refusal (past ++ [.dialled target.host target.port]) target = none)
      (negotiated : Negotiates server target.sslMode
        (past ++ [.dialled target.host target.port, .connected]) sent time)
      (failed : LoginFails server target
        (past ++ [.dialled target.host target.port, .connected] ++ sent) e) :
      Refuses server target past e

/-- Whether a part of an answer neither ends it nor is an error. -/
def Message.isQuiet : Message → Bool
  | .row | .done _ | .emptyQuery | .notice _ => true
  | .error _ | .other _ | .ready => false

/-- The error of an answer: the first one, or that the server hangs up before it is ready. -/
inductive FailsWith : List Message → Error → Prop where
  | error {front notice rest} (quiet : ∀ msg ∈ front, Message.isQuiet msg) :
      FailsWith (front ++ .error notice :: rest) notice.toError
  | other {front error rest} (quiet : ∀ msg ∈ front, Message.isQuiet msg) :
      FailsWith (front ++ .other error :: rest) error
  | closed {answer} (quiet : ∀ msg ∈ answer, Message.isQuiet msg) : FailsWith answer closedEarly

/-- How a connection ends behind an answer: the client takes its leave where the server has left it
open. -/
def farewell (answer : List Message) : List Traffic :=
  if staysOpen answer then [.terminate] else [.serverClosed]

/-- The steps of a query over a connection of its own. -/
inductive Stage where
  | connecting
  | querying
  | closing
deriving DecidableEq, Repr

/-- The place of a step among the others. -/
def Stage.number : Stage → Nat
  | connecting => 0
  | querying => 1
  | closing => 2

/-- A step of a query over a connection of its own fails. The connection is closed behind a query
that has failed as well, and that may fail, too. -/
inductive FailsAt (server : Server) (target : Target) (text : String) (past : List Traffic) :
    Stage → Error → Prop where
  | connecting {e} (refused : Refuses server target past e) :
      FailsAt server target text past .connecting e
  | querying {s t n e} (established : Establishes server target past s t)
      (answered : server.latency (past ++ s ++ [.query text]) = some n)
      (failed : FailsWith (server.reply (past ++ s ++ [.query text])) e) :
      FailsAt server target text past .querying e
  | closing {s t n n' answer e} (established : Establishes server target past s t)
      (answered : server.latency (past ++ s ++ [.query text]) = some n)
      (reply : server.reply (past ++ s ++ [.query text]) = answer)
      (parted : server.parting (past ++ s ++ [.query text] ++ farewell answer) = some n')
      (failed : server.closing (past ++ s ++ [.query text] ++ farewell answer) = some e) :
      FailsAt server target text past .closing (.io e)

/-! ### The operations fail exactly then -/

variable {server : Server} {target : Target} {mode : SslMode} {text : String} {m : Moment}
  {past : List Traffic} {e e' : Error}

theorem send_awaitAnswer_bind_result_iff {α : Type} {t : Traffic} {f : List Traffic → Activity α}
    {a : α} :
    ((send t >>= fun _ => awaitAnswer server >>= f) m).result = some a ↔
      ∃ n, server.latency (traffic m.events ++ [t]) = some n ∧
        (f (traffic m.events ++ [t])
          (m.after (.event (.traffic t) :: waitSteps (n + 1)))).result = some a := by
  simp only [Run.result_eq_some_iff, send_awaitAnswer_bind_ends_iff]
  constructor
  · rintro ⟨_, _, n, s, t', hlatency, h, rfl, rfl⟩
    exact ⟨n, hlatency, s, t', h⟩
  · rintro ⟨n, hlatency, s, t', h⟩
    exact ⟨_, _, n, s, t', hlatency, h, rfl, rfl⟩

theorem unexpectedByte_zero :
    unexpectedByte 0 = .protocol "unexpected response from SSLRequest: 0x00" := by
  decide

theorem negotiate_fails_iff (hm : traffic m.events = past) :
    (negotiate server mode m).result = some (.error e) ↔ NegotiationFails server mode past e := by
  subst hm
  unfold negotiate
  by_cases hw : wantsSsl mode = true
  · simp only [hw, Bool.not_true, Bool.false_eq_true, if_false, send_awaitAnswer_bind_result_iff]
    constructor
    · rintro ⟨n, hlatency, h⟩
      refine .mk hw hlatency ?_
      cases hssl : server.ssl (traffic m.events ++ [.sslRequest]) with
      | plain => by_cases hm : mode = .prefer <;> simp_all [SslAnswer.fault?]
      | secured => simp [hssl] at h
      | closed => simpa [hssl, SslAnswer.fault?, unexpectedByte_zero] using h
      | _ => simpa [hssl, SslAnswer.fault?, unexpectedByte, hexByte, List.leftpad] using h
    · rintro ⟨-, hlatency, hfault⟩
      refine ⟨_, hlatency, ?_⟩
      cases hssl : server.ssl (traffic m.events ++ [.sslRequest]) with
      | plain => by_cases hm : mode = .prefer <;> simp_all [SslAnswer.fault?]
      | secured => simp [hssl, SslAnswer.fault?] at hfault
      | closed => simpa [hssl, SslAnswer.fault?, unexpectedByte_zero] using hfault
      | _ => simpa [hssl, SslAnswer.fault?, unexpectedByte, hexByte, List.leftpad] using hfault
  · simp only [hw, Bool.not_false, if_true, pure_apply]
    constructor
    · rintro ⟨⟩
    · rintro ⟨hwanted, -, -⟩
      exact (hw hwanted).elim

theorem enter_fails_iff {admission : Admission} :
    (enter admission m).result = some (.error e) ↔ admission.fault? = some e := by
  cases admission <;> simp [enter, closedByServer, send, map_apply, Admission.fault?]

theorem logIn_fails_iff (hm : traffic m.events = past) :
    (logIn server target m).result = some (.error e) ↔ LoginFails server target past e := by
  subst hm
  unfold logIn
  simp only [send_awaitAnswer_bind_result_iff]
  constructor
  · rintro ⟨n, hlatency, h⟩
    cases hlogin : server.login
        (traffic m.events ++ [.startup target.username target.database]) with
    | settled admission =>
      simp only [hlogin, enter_fails_iff] at h
      exact .atOnce hlatency hlogin h
    | passwordWanted =>
      simp only [hlogin, send_awaitAnswer_bind_result_iff, enter_fails_iff] at h
      obtain ⟨n', hlatency', h⟩ := h
      exact .byPassword hlatency hlogin (by simpa using hlatency') (by simpa using h)
  · intro h
    cases h with
    | atOnce hlatency hlogin hfault =>
      refine ⟨_, hlatency, ?_⟩
      simpa only [hlogin, enter_fails_iff] using hfault
    | byPassword hlatency hlogin hlatency' hfault =>
      refine ⟨_, hlatency, ?_⟩
      simp only [hlogin, send_awaitAnswer_bind_result_iff, enter_fails_iff]
      exact ⟨_, by simpa using hlatency', by simpa using hfault⟩

theorem approach_result_iff {refused : Option SystemError} :
    (approach server target m).result = some refused ↔
      ∃ n, server.approach (traffic m.events ++ [.dialled target.host target.port]) target
          = some n ∧
        server.refusal (traffic m.events ++ [.dialled target.host target.port]) target
          = refused := by
  simp only [approach, send_bind_apply, seen_bind_apply, Run.prepend_result]
  cases hreached : server.approach
      (traffic m.events ++ [.dialled target.host target.port]) target <;>
    simp [hreached]

theorem connect_fails_iff (hm : traffic m.events = past) :
    (connect server target m).result = some (.error e) ↔ Refuses server target past e := by
  subst hm
  have hdialled : traffic (eventsOf (approach server target m).steps)
      = [.dialled target.host target.port] := approach_sends m
  unfold connect
  rw [bind_result_iff]
  constructor
  · rintro ⟨refused, happroach, h⟩
    obtain ⟨n, hreached, hrefusal⟩ := approach_result_iff.mp happroach
    cases refused with
    | some e' =>
      obtain rfl : Error.io e' = e := by simpa using h
      exact .unreachable hreached hrefusal
    | none =>
      dsimp only at h
      rw [send_bind_apply, Run.prepend_result, bind_result_iff] at h
      obtain ⟨result, hnegotiate, h⟩ := h
      cases result with
      | error e' =>
        obtain rfl : e' = e := by simpa using h
        exact .negotiating hreached hrefusal
          ((negotiate_fails_iff (by simp [hdialled])).mp hnegotiate)
      | ok =>
        exact .loggingIn hreached hrefusal
          ((negotiate_ends_iff (by simp [hdialled])).mp ⟨hnegotiate, rfl, rfl⟩)
          ((logIn_fails_iff (by simp [hdialled])).mp h)
  · intro h
    cases h with
    | unreachable hreached hrefusal =>
      exact ⟨_, approach_result_iff.mpr ⟨_, hreached, hrefusal⟩, rfl⟩
    | negotiating hreached haccepted hfailed =>
      refine ⟨_, approach_result_iff.mpr ⟨_, hreached, haccepted⟩, ?_⟩
      dsimp only
      rw [send_bind_apply, Run.prepend_result, bind_result_iff]
      exact ⟨_, (negotiate_fails_iff (by simp [hdialled])).mpr hfailed, rfl⟩
    | loggingIn hreached haccepted hnegotiated hfailed =>
      refine ⟨_, approach_result_iff.mpr ⟨_, hreached, haccepted⟩, ?_⟩
      dsimp only
      rw [send_bind_apply, Run.prepend_result, bind_result_iff]
      have hnegotiate := (negotiate_ends_iff (m := (m.after (approach server target m).steps).after
        [.event (.traffic .connected)]) (by simp [hdialled])).mpr hnegotiated
      exact ⟨_, hnegotiate.result_eq,
        (logIn_fails_iff (by simp [hdialled, hnegotiate.sent_eq])).mpr hfailed⟩

theorem failsWith_nil : FailsWith [] e ↔ e = closedEarly := by
  constructor
  · intro h
    generalize hanswer : ([] : List Message) = answer at h
    cases h with
    | closed => rfl
    | _ => simp at hanswer
  · rintro rfl
    exact .closed nofun

theorem failsWith_cons {msg : Message} {rest : List Message} :
    FailsWith (msg :: rest) e ↔
      msg.isQuiet ∧ FailsWith rest e ∨ (∃ notice, msg = .error notice ∧ e = notice.toError) ∨
        msg = .other e := by
  constructor
  · intro h
    generalize hanswer : msg :: rest = answer at h
    cases h with
    | @error front _ _ quiet | @other front _ _ quiet =>
      cases front with
      | nil => obtain ⟨rfl, rfl⟩ := List.cons.inj hanswer; simp
      | cons first front =>
        obtain ⟨rfl, rfl⟩ := List.cons.inj hanswer
        obtain ⟨hmsg, hfront⟩ := List.forall_mem_cons.mp quiet
        exact .inl ⟨hmsg, by constructor; exact hfront⟩
    | closed quiet =>
      subst hanswer
      obtain ⟨hmsg, hrest⟩ := List.forall_mem_cons.mp quiet
      exact .inl ⟨hmsg, .closed hrest⟩
  · rintro (⟨hmsg, h⟩ | ⟨notice, rfl, rfl⟩ | rfl)
    · cases h with
      | error quiet =>
        exact @FailsWith.error (msg :: _) _ _ (List.forall_mem_cons.mpr ⟨hmsg, quiet⟩)
      | other quiet =>
        exact @FailsWith.other (msg :: _) _ _ (List.forall_mem_cons.mpr ⟨hmsg, quiet⟩)
      | closed quiet => exact .closed (List.forall_mem_cons.mpr ⟨hmsg, quiet⟩)
    · exact @FailsWith.error [] _ _ nofun
    · exact @FailsWith.other [] _ _ nofun

/-- What comes of an answer that fails is its error. -/
theorem settle_fails_iff {answer : List Message} {rows : Nat} :
    (settle rows answer).getD (.error closedEarly) = .error e ↔ FailsWith answer e := by
  induction answer generalizing rows with
  | nil => simp [settle, failsWith_nil, eq_comm]
  | cons msg rest ih =>
    rw [failsWith_cons]
    cases msg <;> simp [settle, Message.isQuiet, ih, eq_comm]

/-- What a query comes to, and how its connection ends behind it. -/
theorem execute_ends_iff (hm : traffic m.events = past) {result : Except Error Nat} {isOpen : Bool}
    {sent : List Traffic} {time : Nat} :
    (execute server text m).Ends (result, isOpen) sent time ↔
      ∃ n answer, server.latency (past ++ [.query text]) = some n ∧
        server.reply (past ++ [.query text]) = answer ∧
        (settle 0 answer).getD (.error closedEarly) = result ∧ staysOpen answer = isOpen ∧
        .query text :: (if isOpen then [] else [.serverClosed]) = sent ∧ n + 1 = time := by
  subst hm
  simp only [execute, send_awaitAnswer_bind_ends_iff]
  constructor
  · rintro ⟨n, s, t, hlatency, h, rfl, rfl⟩
    refine ⟨n, _, hlatency, rfl, ?_⟩
    cases hopen : staysOpen (server.reply (traffic m.events ++ [.query text])) with
    | true =>
      obtain ⟨⟨hresult, rfl⟩, rfl, rfl⟩ := by simpa [hopen] using h
      exact ⟨hresult, rfl, rfl, rfl⟩
    | false =>
      obtain ⟨⟨hresult, rfl⟩, rfl, rfl⟩ := by simpa [hopen] using h
      exact ⟨hresult, rfl, rfl, rfl⟩
  · rintro ⟨n, answer, hlatency, rfl, rfl, rfl, rfl, rfl⟩
    refine ⟨n, _, 0, hlatency, ?_, rfl, rfl⟩
    cases staysOpen (server.reply (traffic m.events ++ [.query text])) <;> simp

theorem close_result_iff (hm : traffic m.events = past) {isOpen : Bool}
    {closed : Except Error Unit} :
    (close server isOpen m).result = some closed ↔
      ∃ n, server.parting (past ++ if isOpen then [.terminate] else []) = some n ∧
        (match server.closing (past ++ if isOpen then [.terminate] else []) with
          | some e => .error (.io e)
          | none => .ok ()) = closed := by
  subst hm
  have hend : ∀ m' : Moment, (close server false m').result = some closed ↔
      ∃ n, server.parting (traffic m'.events) = some n ∧
        (match server.closing (traffic m'.events) with
          | some e => .error (.io e)
          | none => .ok ()) = closed := by
    intro m'
    simp only [close, Bool.false_eq_true, if_false, seen_bind_apply]
    cases server.parting (traffic m'.events) with
    | none => simp
    | some n => cases server.closing (traffic m'.events) <;> simp
  cases isOpen with
  | false => simpa using hend m
  | true => simpa [close] using hend (m.after [.event (.traffic .terminate)])

/-! ### Which step fails first -/

variable {sent sent' : List Traffic} {time time' : Nat} {stage : Stage}

theorem Establishes.unique (h : Establishes server target past sent time)
    (h' : Establishes server target past sent' time') : sent = sent' ∧ time = time' :=
  (((connect_ends_iff (traffic_momentAfter past ⟨0⟩)).mpr h).unique
    ((connect_ends_iff (traffic_momentAfter past ⟨0⟩)).mpr h')).2

theorem Refuses.not_establishes (h : Refuses server target past e) :
    ¬ Establishes server target past sent time := by
  intro h'
  have hfails := (connect_fails_iff (traffic_momentAfter past ⟨0⟩)).mpr h
  have hends := (connect_ends_iff (traffic_momentAfter past ⟨0⟩)).mpr h'
  cases hfails.symm.trans hends.result_eq

theorem Refuses.unique (h : Refuses server target past e) (h' : Refuses server target past e') :
    e = e' := by
  have hfails := (connect_fails_iff (traffic_momentAfter past ⟨0⟩)).mpr h
  have hfails' := (connect_fails_iff (traffic_momentAfter past ⟨0⟩)).mpr h'
  cases hfails.symm.trans hfails'
  rfl

theorem FailsWith.unique {answer : List Message} (h : FailsWith answer e)
    (h' : FailsWith answer e') : e = e' := by
  have hsettle := (@settle_fails_iff e answer 0).mpr h
  cases hsettle.symm.trans (settle_fails_iff.mpr h')
  rfl

theorem Settles.not_failsWith {answer : List Message} (h : Settles answer) :
    ¬ FailsWith answer e := by
  intro h'
  obtain ⟨n, hn⟩ := (@settle_iff answer 0).mpr h
  simpa [hn] using (@settle_fails_iff e answer 0).mpr h'

/-- Where no connection is established, nothing else fails. -/
theorem FailsAt.of_refuses (h : FailsAt server target text past stage e)
    (hrefused : Refuses server target past e') : stage = .connecting ∧ e = e' := by
  cases h with
  | connecting refused => exact ⟨rfl, refused.unique hrefused⟩
  | querying established | closing established =>
    exact (hrefused.not_establishes established).elim

/-- Where a connection is established, the query fails by its answer, and the end of the connection
by what is said behind that. -/
theorem FailsAt.of_establishes (h : FailsAt server target text past stage e)
    (hestablished : Establishes server target past sent time) :
    stage = .querying ∧ FailsWith (server.reply (past ++ sent ++ [.query text])) e ∨
    stage = .closing ∧ ∃ why, e = .io why ∧
      server.closing (past ++ sent ++ [.query text]
        ++ farewell (server.reply (past ++ sent ++ [.query text]))) = some why := by
  cases h with
  | connecting refused => exact (refused.not_establishes hestablished).elim
  | querying established _ failed =>
    obtain ⟨rfl, -⟩ := hestablished.unique established
    exact .inl ⟨rfl, failed⟩
  | closing established _ reply _ failed =>
    obtain ⟨rfl, -⟩ := hestablished.unique established
    subst reply
    exact .inr ⟨rfl, _, rfl, failed⟩

theorem FailsAt.not_connecting (h : FailsAt server target text past .querying e) :
    ¬ FailsAt server target text past .connecting e' := by
  obtain _ | ⟨established, -, -⟩ := h
  rintro ⟨refused⟩
  exact refused.not_establishes established

/-- Where a query is served, no step of it fails. -/
theorem Serves.not_failsAt (h : Serves server target text past sent time) :
    ¬ FailsAt server target text past stage e := by
  obtain ⟨hestablished, ⟨-, hreply⟩, ⟨-, hclosing⟩⟩ := h
  intro hfails
  rcases hfails.of_establishes hestablished with ⟨-, hfails⟩ | ⟨-, why, -, hfails⟩
  · exact hreply.not_failsWith hfails
  · rw [farewell, if_pos hreply.staysOpen, hclosing] at hfails
    cases hfails

theorem earliest_connecting (hrefused : Refuses server target past e) :
    Earliest Stage.number (FailsAt server target text past) .connecting e where
  here := .connecting hrefused
  le _ := Nat.zero_le _
  unique h := (h.of_refuses hrefused).2

theorem earliest_querying {n : Nat} (hestablished : Establishes server target past sent time)
    (hanswered : server.latency (past ++ sent ++ [.query text]) = some n)
    (hfails : FailsWith (server.reply (past ++ sent ++ [.query text])) e) :
    Earliest Stage.number (FailsAt server target text past) .querying e where
  here := .querying hestablished hanswered hfails
  le h := by
    rcases h.of_establishes hestablished with ⟨rfl, -⟩ | ⟨rfl, -⟩ <;> decide
  unique h := by
    rcases h.of_establishes hestablished with ⟨-, hfails'⟩ | ⟨⟨⟩, -⟩
    exact hfails'.unique hfails

/-- The end of a connection fails first only behind a query that has completed. -/
theorem earliest_closing {n n' : Nat} {why : SystemError}
    (hestablished : Establishes server target past sent time)
    (hanswered : server.latency (past ++ sent ++ [.query text]) = some n)
    (hsettles : Settles (server.reply (past ++ sent ++ [.query text])))
    (hparted : server.parting (past ++ sent ++ [.query text] ++ [.terminate]) = some n')
    (hfails : server.closing (past ++ sent ++ [.query text] ++ [.terminate]) = some why) :
    Earliest Stage.number (FailsAt server target text past) .closing (.io why) := by
  have hleave : farewell (server.reply (past ++ sent ++ [.query text])) = [.terminate] :=
    if_pos hsettles.staysOpen
  rw [← hleave] at hparted hfails
  refine ⟨.closing hestablished hanswered rfl hparted hfails, fun {stage e'} h => ?_,
    fun {e'} h => ?_⟩
  · rcases h.of_establishes hestablished with ⟨-, hfails'⟩ | ⟨rfl, -⟩
    · exact (hsettles.not_failsWith hfails').elim
    · exact Nat.le_refl _
  · rcases h.of_establishes hestablished with ⟨⟨⟩, -⟩ | ⟨-, why', rfl, hfails'⟩
    cases hfails'.symm.trans hfails
    rfl

/-- A query over a connection of its own that fails reports the earliest step that does. -/
theorem runQuery_fails {φ : Type} {other fault : Error → φ} {f : φ} (hm : traffic m.events = past)
    (h : (runQuery server target text other fault m).result = some (.error f)) :
    ∃ stage e, Earliest Stage.number (FailsAt server target text past) stage e ∧
      f = if stage = .querying then fault e else other e := by
  subst hm
  unfold runQuery at h
  obtain ⟨_, _, hrun⟩ := Run.result_eq_some_iff.mp h
  obtain ⟨connected, s, t, _, _, m₁, hconnect, hpast₁, -, hrun₁, -, -⟩ := ends_of_bind hrun
  cases connected with
  | error e =>
    obtain ⟨rfl, -⟩ : other e = f ∧ _ := by simpa using hrun₁
    exact ⟨_, e, earliest_connecting ((connect_fails_iff rfl).mp hconnect.result_eq), rfl⟩
  | ok =>
    have hestablished := (connect_ends_iff rfl).mp hconnect
    obtain ⟨⟨result, isOpen⟩, s', t', _, _, m₂, hexecute, hpast₂, -, hrun₂, -, -⟩ :=
      ends_of_bind hrun₁
    obtain ⟨closed, _, _, _, _, m₃, hclose, -, -, hrun₃, -, -⟩ := ends_of_bind hrun₂
    obtain ⟨n, answer, hanswered, rfl, hresult, hopen, rfl, -⟩ :=
      (execute_ends_iff hpast₁).mp hexecute
    cases result with
    | error e =>
      obtain ⟨rfl, -⟩ : fault e = f ∧ _ := by simpa using hrun₃
      exact ⟨_, e, earliest_querying hestablished hanswered (settle_fails_iff.mp hresult), rfl⟩
    | ok rows =>
      have hsettles := settles_of_settle hresult
      obtain rfl : isOpen = true := hopen.symm.trans hsettles.staysOpen
      obtain ⟨n', hparted, hclosed⟩ := (close_result_iff hpast₂).mp hclose.result_eq
      simp only [if_true, hpast₁] at hparted hclosed
      cases closed with
      | ok => simp at hrun₃
      | error e =>
        obtain ⟨rfl, -⟩ : other e = f ∧ _ := by simpa using hrun₃
        cases hwhy : server.closing (traffic m.events ++ s ++ [.query text] ++ [.terminate]) with
        | none => simp only [hwhy, reduceCtorEq] at hclosed
        | some why =>
          obtain rfl : .io why = e := by simpa only [hwhy, Except.error.injEq] using hclosed
          exact ⟨_, _, earliest_closing hestablished hanswered hsettles hparted hwhy, rfl⟩

theorem Serves.unique (h : Serves server target text past sent time)
    (h' : Serves server target text past sent' time') : sent = sent' ∧ time = time' := by
  have hends {s t} (h : Serves server target text past s t) :
      ∃ rows, (runQuery server target text id id (momentAfter past ⟨0⟩)).Ends (.ok rows) s t :=
    (runQuery_ends_iff (traffic_momentAfter ..)).mpr h
  obtain ⟨rows, hrun⟩ := hends h
  obtain ⟨rows', hrun'⟩ := hends h'
  exact (hrun.unique hrun').2

/-! ### What is quiet does not matter -/

/-- What matters of an answer. -/
def loud (answer : List Message) : List Message := answer.filter (!·.isQuiet)

theorem staysOpen_loud (answer : List Message) : staysOpen (loud answer) = staysOpen answer := by
  simp [staysOpen, loud, List.contains_eq_mem, Message.isQuiet]

theorem settle_loud {answer : List Message} {rows rows' : Nat} :
    (settle rows' (loud answer)).map (Except.map fun _ => ())
      = (settle rows answer).map (Except.map fun _ => ()) := by
  induction answer generalizing rows rows' with
  | nil => rfl
  | cons msg rest ih =>
    cases msg with
    | row | emptyQuery | notice => simpa [loud, Message.isQuiet, settle] using ih
    | done => simpa [loud, Message.isQuiet, settle] using ih
    | _ => simp [loud, Message.isQuiet, settle, Except.map]

theorem sameOutcome_of_loud {answer answer' : List Message} (h : loud answer = loud answer') :
    SameOutcome (fun _ _ => True) ((settle 0 answer).getD (.error closedEarly))
      ((settle 0 answer').getD (.error closedEarly)) := by
  have hsettle : (settle 0 answer).map (Except.map fun _ => ())
      = (settle 0 answer').map (Except.map fun _ => ()) := by
    rw [← @settle_loud answer 0 0, ← @settle_loud answer' 0 0, h]
  cases hr : settle 0 answer with
  | none =>
    rw [hr, Option.map_none] at hsettle
    rw [Option.map_eq_none_iff.mp hsettle.symm]
    exact .error _
  | some result =>
    rw [hr, Option.map_some] at hsettle
    obtain ⟨result', hr', hmap⟩ := Option.map_eq_some_iff.mp hsettle.symm
    rw [hr']
    cases result <;> cases result' <;> cases hmap
    · exact .error _
    · exact .ok trivial

/-- Servers that reply alike but for what is quiet answer alike. -/
theorem Server.alike_of_loud {reply : List Traffic → List Message}
    (h : ∀ past, loud (reply past) = loud (server.reply past)) :
    { server with reply }.Alike id (fun _ _ => True) server := by
  have hsame {past past' : List Traffic} (hpast : SameTraffic id past past') : past = past' := by
    simpa [SameTraffic] using hpast
  constructor
  case approach | refusal =>
    intro past past' hpast target target' htarget
    rw [hsame hpast, htarget.eq_of_id]
  case staysOpen =>
    intro past past' hpast
    rw [← staysOpen_loud, h, staysOpen_loud, hsame hpast]
  case outcome =>
    intro past past' hpast
    exact sameOutcome_of_loud (by rw [h, hsame hpast])
  all_goals
    intro past past' hpast
    rw [hsame hpast]

/-- Traffic as it is, without logs. -/
theorem shows_traffic : Shows Event.traffic? id (fun _ _ => True) where
  sameTraffic h := by
    have := congrArg (List.filterMap id) h.events_eq
    simpa [SameTraffic, traffic, List.filterMap_map, Function.comp_def] using this
  view_traffic h := congrArg some h
  view_rows _ _ := rfl

end Database

end DatabaseResource
