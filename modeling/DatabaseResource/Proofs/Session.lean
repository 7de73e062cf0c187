import DatabaseResource.Database.Session
import DatabaseResource.Proofs.Activity

/-!
# Sessions that go well

What a database server has to do for a connection to be established, a query to complete, and the
connection to be closed, by nothing but the server's answers to the traffic before each of them.
Each operation ends well exactly then, with that traffic and in that time; for a query over a
connection of its own it is `Serves` (`runQuery_ends_iff`).
-/

namespace DatabaseResource

/-- A run ends with `a`; it sends `sent` to the database server, and takes `time` nanoseconds. -/
structure Run.Ends {α : Type} (run : Run α) (a : α) (sent : List Database.Traffic) (time : Nat) :
    Prop where
  result_eq : run.result = some a
  sent_eq : traffic (eventsOf run.steps) = sent
  time_eq : elapsed run.steps = time

namespace Run

open Activity

variable {α : Type} {a b : α} {run : Run α} {steps : List Step} {sent : List Database.Traffic}
  {time : Nat}

@[simp] theorem ends_mk_some :
    (Run.mk steps (some a)).Ends b sent time
      ↔ a = b ∧ traffic (eventsOf steps) = sent ∧ elapsed steps = time :=
  ⟨fun h => ⟨Option.some.inj h.result_eq, h.sent_eq, h.time_eq⟩,
    fun ⟨ha, hs, ht⟩ => ⟨congrArg some ha, hs, ht⟩⟩

@[simp] theorem not_ends_mk_none : ¬ (Run.mk steps none).Ends b sent time :=
  fun h => nomatch h.result_eq

@[simp] theorem ends_prepend :
    (run.prepend steps).Ends a sent time
      ↔ ∃ s t, run.Ends a s t ∧ traffic (eventsOf steps) ++ s = sent
        ∧ elapsed steps + t = time := by
  constructor
  · rintro ⟨hresult, hsent, htime⟩
    exact ⟨_, _, ⟨hresult, rfl, rfl⟩, by simpa using hsent, by simpa using htime⟩
  · rintro ⟨s, t, ⟨hresult, hsent, htime⟩, rfl, rfl⟩
    exact ⟨hresult, by simp [hsent], by simp [htime]⟩

theorem ends_prepend_waitSteps {n : Nat} :
    (run.prepend (waitSteps n)).Ends a sent time ↔ ∃ t, run.Ends a sent t ∧ n + t = time := by
  rw [ends_prepend]
  constructor
  · rintro ⟨s, t, h, rfl, ht⟩
    exact ⟨t, by simpa using h, by simpa using ht⟩
  · rintro ⟨t, h, ht⟩
    exact ⟨sent, t, h, by simp, by simpa using ht⟩

end Run

namespace Activity

variable {α β : Type}

theorem map_ends_iff {x : Activity α} {g : α → β} {m : Moment} {b : β}
    {sent : List Database.Traffic} {time : Nat} :
    ((g <$> x) m).Ends b sent time ↔ ∃ a, (x m).Ends a sent time ∧ g a = b := by
  rw [map_apply]
  constructor
  · rintro ⟨hresult, hsent, htime⟩
    obtain ⟨a, ha, hb⟩ := Option.map_eq_some_iff.mp hresult
    exact ⟨a, ⟨ha, hsent, htime⟩, hb⟩
  · rintro ⟨a, ⟨ha, hsent, htime⟩, hb⟩
    exact ⟨by simp [ha, hb], hsent, htime⟩

/-- What follows begins with the traffic and at the time that an activity ends with. -/
theorem bind_ends {x : Activity α} {f : α → Activity β} {m : Moment} {a : α} {b : β}
    {s s' : List Database.Traffic} {t t' : Nat} (hx : (x m).Ends a s t)
    (hf : ∀ m', traffic m'.events = traffic m.events ++ s → m'.now = m.now.advance t →
      (f a m').Ends b s' t') :
    ((x >>= f) m).Ends b (s ++ s') (t + t') := by
  rw [bind_of_apply_eq (show x m = ⟨(x m).steps, some a⟩ by rw [← hx.result_eq]), Run.ends_prepend]
  exact ⟨s', t', hf _ (by simp [hx.sent_eq]) (by simp [hx.time_eq]), by rw [hx.sent_eq],
    by rw [hx.time_eq]⟩

/-- The same where nothing more is sent, at once. -/
theorem bind_ends_at_once {x : Activity α} {f : α → Activity β} {m : Moment} {a : α} {b : β}
    {s : List Database.Traffic} {t : Nat} (hx : (x m).Ends a s t)
    (hf : ∀ m', (f a m').Ends b [] 0) : ((x >>= f) m).Ends b s t := by
  simpa using bind_ends hx fun m' _ _ => hf m'

/-- What ends well behind a bind. -/
theorem ends_of_bind {x : Activity α} {f : α → Activity β} {m : Moment} {b : β}
    {sent : List Database.Traffic} {time : Nat} (h : ((x >>= f) m).Ends b sent time) :
    ∃ a s t s' t' m', (x m).Ends a s t ∧ traffic m'.events = traffic m.events ++ s ∧
      m'.now = m.now.advance t ∧ (f a m').Ends b s' t' ∧ s ++ s' = sent ∧ t + t' = time := by
  cases hr : (x m).result with
  | none =>
    rw [bind_apply_of_none hr] at h
    exact (Run.not_ends_mk_none h).elim
  | some a =>
    rw [bind_of_apply_eq (show x m = ⟨(x m).steps, some a⟩ by rw [← hr]), Run.ends_prepend] at h
    obtain ⟨s', t', hf, hsent, htime⟩ := h
    exact ⟨a, _, _, s', t', _, ⟨hr, rfl, rfl⟩, by simp, by simp, hf, hsent, htime⟩

/-- The same where nothing that fails is followed by something that ends well. -/
theorem ends_of_bind_ok {ε φ : Type} {x : Activity (Except ε α)}
    {f : Except ε α → Activity (Except φ β)} {m : Moment} {b : β}
    {sent : List Database.Traffic} {time : Nat} (h : ((x >>= f) m).Ends (.ok b) sent time)
    (hf : ∀ e m s t, ¬ (f (.error e) m).Ends (.ok b) s t) :
    ∃ a s t s' t' m', (x m).Ends (.ok a) s t ∧ traffic m'.events = traffic m.events ++ s ∧
      m'.now = m.now.advance t ∧ (f (.ok a) m').Ends (.ok b) s' t' ∧
      s ++ s' = sent ∧ t + t' = time := by
  obtain ⟨a, s, t, s', t', m', hx, hpast, hnow, h, hs, ht⟩ := ends_of_bind h
  cases a with
  | error e => exact (hf e _ _ _ h).elim
  | ok a => exact ⟨a, s, t, s', t', m', hx, hpast, hnow, h, hs, ht⟩

/-- What only goes on at once ends well exactly if what is before it does. -/
theorem bind_ok_ends_iff {ε φ : Type} {x : Activity (Except ε α)}
    {f : Except ε α → Activity (Except φ β)} {m : Moment} {b : β}
    {sent : List Database.Traffic} {time : Nat}
    (hf : ∀ e m s t, ¬ (f (.error e) m).Ends (.ok b) s t)
    (hok : ∀ a m s t, (f (.ok a) m).Ends (.ok b) s t ↔ [] = s ∧ 0 = t) :
    ((x >>= f) m).Ends (.ok b) sent time ↔ ∃ a, (x m).Ends (.ok a) sent time := by
  constructor
  · intro h
    obtain ⟨a, s, t, s', t', m', hx, -, -, hlast, rfl, rfl⟩ := ends_of_bind_ok h hf
    obtain ⟨rfl, rfl⟩ := (hok a m' s' t').mp hlast
    exact ⟨a, by simpa using hx⟩
  · rintro ⟨a, hx⟩
    exact bind_ends_at_once hx fun m' => (hok a m' [] 0).mpr ⟨rfl, rfl⟩

end Activity

namespace Database

open Activity

variable {server : Server} {target : Target} {mode : SslMode} {text : String} {m : Moment}
  {past sent : List Traffic} {time : Nat}

/-! ### What a server has to do -/

/-- The server goes on with a connection in a mode, secured or not. -/
inductive Negotiates (server : Server) (mode : SslMode) (past : List Traffic) :
    List Traffic → Nat → Prop where
  | unasked (unwanted : wantsSsl mode = false) : Negotiates server mode past [] 0
  | secured {n} (wanted : wantsSsl mode = true)
      (answered : server.latency (past ++ [.sslRequest]) = some n)
      (ssl : server.ssl (past ++ [.sslRequest]) = .secured) :
      Negotiates server mode past [.sslRequest] (n + 1)
  /-- Only this mode goes on without what it asks for. -/
  | plain {n} (prefer : mode = .prefer)
      (answered : server.latency (past ++ [.sslRequest]) = some n)
      (ssl : server.ssl (past ++ [.sslRequest]) = .plain) :
      Negotiates server mode past [.sslRequest] (n + 1)

/-- The server lets the user of a target in, at once or by the password. -/
inductive Admits (server : Server) (target : Target) (past : List Traffic) :
    List Traffic → Nat → Prop where
  | atOnce {n}
      (answered : server.latency (past ++ [.startup target.username target.database]) = some n)
      (login : server.login (past ++ [.startup target.username target.database])
        = .settled .welcome) :
      Admits server target past [.startup target.username target.database] (n + 1)
  | byPassword {n n'}
      (answered : server.latency (past ++ [.startup target.username target.database]) = some n)
      (login : server.login (past ++ [.startup target.username target.database])
        = .passwordWanted)
      (answered' : server.latency (past ++ [.startup target.username target.database,
        .password target.password]) = some n')
      (verdict : server.verdict (past ++ [.startup target.username target.database,
        .password target.password]) = .welcome) :
      Admits server target past
        [.startup target.username target.database, .password target.password] (n + 1 + (n' + 1))

/-- A connection to a target is established. -/
inductive Establishes (server : Server) (target : Target) (past : List Traffic) :
    List Traffic → Nat → Prop where
  | mk {n sent time sent' time'}
      (reached : server.approach (past ++ [.dialled target.host target.port]) target = some n)
      (accepted : server.refusal (past ++ [.dialled target.host target.port]) target = none)
      (negotiated : Negotiates server target.sslMode
        (past ++ [.dialled target.host target.port, .connected]) sent time)
      (admitted : Admits server target
        (past ++ [.dialled target.host target.port, .connected] ++ sent) sent' time') :
      Establishes server target past
        ([.dialled target.host target.port, .connected] ++ sent ++ sent') (n + (time + time'))

/-- A part of an answer that a query fails with. -/
def Message.IsError : Message → Prop
  | .error _ | .other _ => True
  | _ => False

/-- The server gets ready for the next query without an error before. -/
def Settles (answer : List Message) : Prop :=
  ∃ front rest, answer = front ++ .ready :: rest ∧ ∀ msg ∈ front, ¬ msg.IsError

/-- The reply to a query completes without an error. -/
inductive Completes (server : Server) (text : String) (past : List Traffic) :
    List Traffic → Nat → Prop where
  | mk {n} (answered : server.latency (past ++ [.query text]) = some n)
      (reply : Settles (server.reply (past ++ [.query text]))) :
      Completes server text past [.query text] (n + 1)

/-- The polite end of a connection does not fail. -/
inductive Closes (server : Server) (past : List Traffic) : List Traffic → Nat → Prop where
  | mk {n} (parted : server.parting (past ++ [.terminate]) = some n)
      (closing : server.closing (past ++ [.terminate]) = none) :
      Closes server past [.terminate] n

/-- A query is served over a connection of its own. -/
inductive Serves (server : Server) (target : Target) (text : String) (past : List Traffic) :
    List Traffic → Nat → Prop where
  | mk {s t s' t' s'' t''} (established : Establishes server target past s t)
      (completed : Completes server text (past ++ s) s' t')
      (closed : Closes server (past ++ s ++ s') s'' t'') :
      Serves server target text past (s ++ s' ++ s'') (t + t' + t'')

/-! ### The operations do well exactly then -/

@[simp] theorem send_bind_apply {α : Type} (t : Traffic) (f : Unit → Activity α) (m : Moment) :
    (send t >>= f) m = (f () (m.after [.event (.traffic t)])).prepend [.event (.traffic t)] :=
  emit_bind_apply ..

@[simp] theorem seen_bind_apply {α : Type} (f : List Traffic → Activity α) (m : Moment) :
    (seen >>= f) m = f (traffic m.events) m := by
  simp [seen]

theorem awaitAnswer_bind_ends_iff {α : Type} {f : List Traffic → Activity α} {a : α} :
    ((awaitAnswer server >>= f) m).Ends a sent time ↔
      ∃ n t, server.latency (traffic m.events) = some n ∧
        (f (traffic m.events) (m.after (waitSteps (n + 1)))).Ends a sent t ∧
        n + 1 + t = time := by
  simp only [awaitAnswer, bind_assoc, seen_bind_apply]
  cases server.latency (traffic m.events) with
  | none => simp
  | some n =>
    simp only [bind_assoc, sleep_bind_apply, pure_bind_apply, Run.ends_prepend_waitSteps,
      Option.some.injEq]
    exact ⟨fun ⟨t, h, ht⟩ => ⟨n, t, rfl, h, ht⟩, fun ⟨_, t, hn, h, ht⟩ => hn ▸ ⟨t, hn ▸ h, ht⟩⟩

/-- A message and the wait for its answer. -/
theorem send_awaitAnswer_bind_ends_iff {α : Type} {t : Traffic} {f : List Traffic → Activity α}
    {a : α} :
    ((send t >>= fun _ => awaitAnswer server >>= f) m).Ends a sent time ↔
      ∃ n s t', server.latency (traffic m.events ++ [t]) = some n ∧
        (f (traffic m.events ++ [t])
          (m.after (.event (.traffic t) :: waitSteps (n + 1)))).Ends a s t' ∧
        t :: s = sent ∧ n + 1 + t' = time := by
  have hseen : traffic (m.after [.event (.traffic t)]).events = traffic m.events ++ [t] := by simp
  rw [send_bind_apply, Run.ends_prepend]
  simp only [awaitAnswer_bind_ends_iff, hseen, ← Moment.after_append, List.singleton_append]
  constructor
  · rintro ⟨s, _, ⟨n, t', hlatency, h, rfl⟩, rfl, rfl⟩
    exact ⟨n, s, t', hlatency, h, rfl, by simp⟩
  · rintro ⟨n, s, t', hlatency, h, rfl, rfl⟩
    exact ⟨s, _, ⟨n, t', hlatency, h, rfl⟩, rfl, by simp⟩

theorem closedByServer_error_ends {α : Type} {a : α} :
    ¬ ((Except.error <$> closedByServer) m).Ends (.ok a) sent time := by
  simp [map_ends_iff]

theorem negotiate_ends_iff (hm : traffic m.events = past) :
    (negotiate server mode m).Ends (.ok ()) sent time ↔ Negotiates server mode past sent time := by
  subst hm
  unfold negotiate
  by_cases hw : wantsSsl mode = true
  · simp only [hw, Bool.not_true, Bool.false_eq_true, if_false, send_awaitAnswer_bind_ends_iff]
    constructor
    · rintro ⟨n, s, t, hlatency, h, rfl, rfl⟩
      cases hssl : server.ssl (traffic m.events ++ [.sslRequest]) with
      | plain =>
        have : mode = .prefer ∧ [] = s ∧ 0 = t := by
          by_cases hm : mode = .prefer <;> simp_all
        obtain ⟨hm, rfl, rfl⟩ := this
        exact .plain hm hlatency hssl
      | secured =>
        obtain ⟨rfl, rfl⟩ : [] = s ∧ 0 = t := by simpa [hssl] using h
        exact .secured hw hlatency hssl
      | _ => simp [hssl] at h
    · rintro (hn | ⟨-, hlatency, hssl⟩ | ⟨rfl, hlatency, hssl⟩)
      · simp [hw] at hn
      · exact ⟨_, [], 0, hlatency, by simp [hssl], rfl, rfl⟩
      · exact ⟨_, [], 0, hlatency, by simp [hssl], rfl, rfl⟩
  · simp only [hw, Bool.not_false, if_true, pure_apply, Run.ends_mk_some]
    constructor
    · rintro ⟨-, rfl, rfl⟩
      exact .unasked (by simpa using hw)
    · rintro (hn | ⟨hn, -, -⟩ | ⟨rfl, -, -⟩)
      · simp
      · exact (hw hn).elim
      · exact (hw rfl).elim

theorem enter_ends_iff {admission : Admission} :
    (enter admission m).Ends (.ok ()) sent time ↔ admission = .welcome ∧ sent = [] ∧ time = 0 := by
  cases admission with
  | welcome => simp [enter, eq_comm]
  | closed => simp [enter, closedByServer_error_ends]
  | refused | other => simp [enter]

theorem logIn_ends_iff (hm : traffic m.events = past) :
    (logIn server target m).Ends (.ok ()) sent time ↔ Admits server target past sent time := by
  subst hm
  unfold logIn
  simp only [send_awaitAnswer_bind_ends_iff]
  constructor
  · rintro ⟨n, s, t, hlatency, h, rfl, rfl⟩
    cases hlogin : server.login
        (traffic m.events ++ [.startup target.username target.database]) with
    | settled admission =>
      obtain ⟨rfl, rfl, rfl⟩ := enter_ends_iff.mp (by simpa only [hlogin] using h)
      exact .atOnce hlatency hlogin
    | passwordWanted =>
      simp only [hlogin, send_awaitAnswer_bind_ends_iff] at h
      obtain ⟨n', s, t, hlatency', h, rfl, rfl⟩ := h
      obtain ⟨hverdict, rfl, rfl⟩ := enter_ends_iff.mp h
      exact .byPassword hlatency hlogin (by simpa using hlatency') (by simpa using hverdict)
  · rintro (⟨hlatency, hlogin⟩ | ⟨hlatency, hlogin, hlatency', hverdict⟩)
    · exact ⟨_, [], 0, hlatency, by simpa only [hlogin] using enter_ends_iff.mpr ⟨rfl, rfl, rfl⟩,
        rfl, rfl⟩
    · refine ⟨_, _, _, hlatency, ?_, rfl, rfl⟩
      simp only [hlogin, send_awaitAnswer_bind_ends_iff]
      exact ⟨_, [], 0, by simpa using hlatency',
        enter_ends_iff.mpr ⟨by simpa using hverdict, rfl, rfl⟩, rfl, rfl⟩

theorem approach_bind_ends_iff {α : Type} {f : Option SystemError → Activity α} {a : α} :
    ((approach server target >>= f) m).Ends a sent time ↔
      ∃ n s t, server.approach (traffic m.events ++ [.dialled target.host target.port]) target
          = some n ∧
        (f (server.refusal (traffic m.events ++ [.dialled target.host target.port]) target)
          (m.after (.event (.traffic (.dialled target.host target.port)) :: waitSteps n))).Ends a
            s t ∧
        .dialled target.host target.port :: s = sent ∧ n + t = time := by
  generalize hdialled : Traffic.dialled target.host target.port = dialled
  have hseen : traffic (m.after [.event (.traffic dialled)]).events
      = traffic m.events ++ [dialled] := by simp
  simp only [approach, hdialled, bind_assoc, send_bind_apply, seen_bind_apply, hseen]
  cases server.approach (traffic m.events ++ [dialled]) target with
  | none => simp
  | some n =>
    simp only [bind_assoc, sleep_bind_apply, pure_bind_apply, Run.prepend_prepend,
      ← Moment.after_append, Run.ends_prepend, Option.some.injEq, List.singleton_append]
    constructor
    · rintro ⟨s, t, h, rfl, rfl⟩
      exact ⟨n, s, t, rfl, h, by simp, by simp⟩
    · rintro ⟨_, s, t, rfl, h, rfl, rfl⟩
      exact ⟨s, t, h, by simp, by simp⟩

theorem connect_ends_iff (hm : traffic m.events = past) :
    (connect server target m).Ends (.ok ()) sent time
      ↔ Establishes server target past sent time := by
  subst hm
  unfold connect
  rw [approach_bind_ends_iff]
  constructor
  · rintro ⟨n, s, t, hreached, h, rfl, rfl⟩
    cases hrefusal : server.refusal
        (traffic m.events ++ [.dialled target.host target.port]) target with
    | some e => simp [hrefusal] at h
    | none =>
      simp only [hrefusal, send_bind_apply, Run.ends_prepend] at h
      obtain ⟨_, _, h, rfl, rfl⟩ := h
      obtain ⟨⟨⟩, s, t, s', t', m', hnegotiate, hpast, -, hlogIn, rfl, rfl⟩ :=
        ends_of_bind_ok h (by simp)
      have hadmitted : Admits server target (traffic m.events
          ++ [.dialled target.host target.port, .connected] ++ s) s' t' :=
        (logIn_ends_iff (by simpa using hpast)).mp hlogIn
      simpa using Establishes.mk hreached hrefusal ((negotiate_ends_iff (by simp)).mp hnegotiate)
        hadmitted
  · rintro @⟨n, s, t, s', t', hreached, haccepted, hnegotiated, hadmitted⟩
    refine ⟨n, .connected :: (s ++ s'), t + t', hreached, ?_, by simp, rfl⟩
    simp only [haccepted, send_bind_apply, Run.ends_prepend]
    refine ⟨s ++ s', t + t', ?_, rfl, by simp⟩
    refine bind_ends ((negotiate_ends_iff (by simp)).mpr hnegotiated) fun m' hpast _ => ?_
    exact (logIn_ends_iff (by simpa using hpast)).mpr hadmitted

theorem not_settles_nil : ¬ Settles [] := by
  rintro ⟨front, rest, h, -⟩
  cases front <;> cases h

theorem settles_cons {msg : Message} {rest : List Message} :
    Settles (msg :: rest) ↔ msg = .ready ∨ ¬ msg.IsError ∧ Settles rest := by
  constructor
  · rintro ⟨front, after, hanswer, hfront⟩
    cases front with
    | nil => exact .inl (List.cons.inj hanswer).1
    | cons first front =>
      obtain ⟨rfl, hrest⟩ := List.cons.inj hanswer
      exact .inr ⟨hfront _ (.head _), front, after, hrest, fun _ h => hfront _ (.tail _ h)⟩
  · rintro (rfl | ⟨hmsg, front, after, rfl, hfront⟩)
    · exact ⟨[], rest, rfl, nofun⟩
    · exact ⟨msg :: front, after, rfl, List.forall_mem_cons.mpr ⟨hmsg, hfront⟩⟩

theorem settle_iff {answer : List Message} {rows : Nat} :
    (∃ n, settle rows answer = some (.ok n)) ↔ Settles answer := by
  induction answer generalizing rows with
  | nil => simp [settle, not_settles_nil]
  | cons msg rest ih =>
    rw [settles_cons]
    cases msg <;> simp [settle, Message.IsError, ih]

theorem Settles.staysOpen {answer : List Message} (h : Settles answer) :
    staysOpen answer = true := by
  obtain ⟨front, rest, rfl, -⟩ := h
  simp [Database.staysOpen]

theorem settles_of_settle {answer : List Message} {rows n : Nat} {e : Error}
    (h : (settle rows answer).getD (.error e) = .ok n) : Settles answer := by
  cases hs : settle rows answer with
  | none => simp [hs] at h
  | some result =>
    have hn : settle rows answer = some (.ok n) := by simpa [hs] using h
    exact settle_iff.mp ⟨n, hn⟩

/-- A query that gives a number of rows has completed, and its connection stays open. -/
theorem completes_of_execute (hm : traffic m.events = past) {rows : Nat} {isOpen : Bool}
    (h : (execute server text m).Ends (.ok rows, isOpen) sent time) :
    isOpen = true ∧ Completes server text past sent time := by
  subst hm
  simp only [execute, send_awaitAnswer_bind_ends_iff] at h
  obtain ⟨n, s, t, hanswered, h, rfl, rfl⟩ := h
  generalize hreply : server.reply (traffic m.events ++ [.query text]) = answer at h
  cases hopen : staysOpen answer with
  | false =>
    have hrows : (settle 0 answer).getD (.error closedEarly) = .ok rows :=
      (by simpa [hopen] using h : (_ ∧ isOpen = false) ∧ _ ∧ 0 = t).1.1
    cases hopen.symm.trans (settles_of_settle hrows).staysOpen
  | true =>
    obtain ⟨⟨hrows, rfl⟩, rfl, rfl⟩ :
        ((settle 0 answer).getD (.error closedEarly) = .ok rows ∧ isOpen = true)
          ∧ s = [] ∧ 0 = t := by
      simpa [hopen] using h
    exact ⟨rfl, .mk hanswered (hreply ▸ settles_of_settle hrows)⟩

theorem Completes.execute_ends (h : Completes server text past sent time) :
    ∃ rows, ∀ m, traffic m.events = past →
      (execute server text m).Ends (.ok rows, true) sent time := by
  obtain @⟨n, hanswered, hreply⟩ := h
  obtain ⟨rows, hrows⟩ : ∃ rows, settle 0 _ = some (.ok rows) := settle_iff.mpr hreply
  refine ⟨rows, fun m hm => ?_⟩
  subst hm
  simp only [execute, send_awaitAnswer_bind_ends_iff]
  exact ⟨n, [], 0, hanswered, by simp [hreply.staysOpen, hrows], rfl, rfl⟩

theorem close_ends_iff (hm : traffic m.events = past) :
    (close server true m).Ends (.ok ()) sent time ↔ Closes server past sent time := by
  subst hm
  have hseen : traffic (m.after [.event (.traffic .terminate)]).events
      = traffic m.events ++ [.terminate] := by simp
  simp only [close, if_true, send_bind_apply, seen_bind_apply, hseen]
  constructor
  · intro h
    cases hparted : server.parting (traffic m.events ++ [.terminate]) with
    | none => simp [hparted] at h
    | some n =>
      cases hclosing : server.closing (traffic m.events ++ [.terminate]) with
      | some e => simp [hparted, hclosing] at h
      | none =>
        obtain ⟨rfl, rfl⟩ : [.terminate] = sent ∧ n = time := by
          simpa [hparted, hclosing] using h
        exact .mk hparted hclosing
  · rintro ⟨hparted, hclosing⟩
    simp [hparted, hclosing]

/-- A query over a connection of its own goes well exactly if it is served. -/
theorem runQuery_ends_iff {φ : Type} {other fault : Error → φ} (hm : traffic m.events = past) :
    (∃ rows, (runQuery server target text other fault m).Ends (.ok rows) sent time)
      ↔ Serves server target text past sent time := by
  subst hm
  unfold runQuery
  constructor
  · rintro ⟨rows, hrun⟩
    obtain ⟨⟨⟩, s, t, _, _, m₁, hconnect, hpast₁, -, hrun₁, rfl, rfl⟩ :=
      ends_of_bind_ok hrun (by simp)
    obtain ⟨⟨result, isOpen⟩, s', t', _, _, m₂, hexecute, hpast₂, -, hrun₂, rfl, rfl⟩ :=
      ends_of_bind hrun₁
    obtain ⟨closed, s'', t'', _, _, m₃, hclose, -, -, hrun₃, rfl, rfl⟩ := ends_of_bind hrun₂
    cases result with
    | error e => simp at hrun₃
    | ok rows' =>
      cases closed with
      | error e => simp at hrun₃
      | ok =>
        obtain ⟨rfl, hcompletes⟩ := completes_of_execute hpast₁ hexecute
        obtain ⟨-, rfl, rfl⟩ : rows' = rows ∧ _ ∧ _ := by simpa using hrun₃
        rw [hpast₁] at hpast₂
        simpa [Nat.add_assoc] using Serves.mk ((connect_ends_iff rfl).mp hconnect) hcompletes
          ((close_ends_iff hpast₂).mp hclose)
  · rintro @⟨s, t, s', t', s'', t'', hestablished, hcompleted, hclosed⟩
    obtain ⟨rows, hexecute⟩ := hcompleted.execute_ends
    refine ⟨rows, ?_⟩
    rw [List.append_assoc, Nat.add_assoc]
    refine bind_ends ((connect_ends_iff rfl).mpr hestablished) fun m₁ hpast₁ _ => ?_
    refine bind_ends (hexecute m₁ hpast₁) fun m₂ hpast₂ _ => ?_
    rw [hpast₁] at hpast₂
    exact bind_ends_at_once ((close_ends_iff hpast₂).mpr hclosed) fun m₃ => by simp

/-! ### Nothing else happens -/

section Emits

variable {P : Event → Prop} (ht : ∀ t, P (.traffic t))

include ht

theorem send_emits (t : Traffic) : Emits P (send t) := .emit (ht t)

omit ht in
theorem seen_emits : Emits P seen := Emits.moment.bind fun _ => .pure _

omit ht in
theorem awaitAnswer_emits : Emits P (awaitAnswer server) := by
  refine seen_emits.bind fun past => ?_
  split
  · exact .never
  · exact (Emits.sleep _).bind fun _ => .pure _

theorem approach_emits : Emits P (approach server target) := by
  refine (send_emits ht _).bind fun _ => seen_emits.bind fun past => ?_
  split
  · exact .never
  · exact (Emits.sleep _).bind fun _ => .pure _

theorem closedByServer_emits : Emits P closedByServer := (send_emits ht _).bind fun _ => .pure _

theorem negotiate_emits : Emits P (negotiate server mode) := by
  unfold negotiate
  split
  · exact .pure _
  · refine (send_emits ht _).bind fun _ => awaitAnswer_emits.bind fun past => ?_
    split
    case h_5 => exact (send_emits ht _).bind fun _ => .pure _
    all_goals exact .pure _

theorem enter_emits (admission : Admission) : Emits P (enter admission) := by
  cases admission with
  | closed => exact (closedByServer_emits ht).bind fun _ => .pure _
  | welcome | refused | other => exact .pure _

theorem logIn_emits : Emits P (logIn server target) := by
  refine (send_emits ht _).bind fun _ => awaitAnswer_emits.bind fun past => ?_
  split
  · exact enter_emits ht _
  · exact (send_emits ht _).bind fun _ => awaitAnswer_emits.bind fun past => enter_emits ht _

theorem connect_emits : Emits P (connect server target) := by
  refine (approach_emits ht).bind fun refused => ?_
  split
  · exact .pure _
  · refine (send_emits ht _).bind fun _ => (negotiate_emits ht).bind fun result => ?_
    split
    · exact .pure _
    · exact logIn_emits ht

theorem execute_emits : Emits P (execute server text) := by
  refine (send_emits ht _).bind fun _ => awaitAnswer_emits.bind fun past => ?_
  extract_lets answer isOpen rest
  split
  · exact (send_emits ht _).bind fun _ => .pure _
  · exact .pure _

theorem close_emits (isOpen : Bool) : Emits P (close server isOpen) := by
  unfold close
  extract_lets rest
  have hrest : ∀ u, Emits P (rest u) := by
    refine fun _ => seen_emits.bind fun past => ?_
    split
    · exact .never
    · refine (Emits.sleep _).bind fun _ => ?_
      split <;> exact .pure _
  split
  · exact (send_emits ht _).bind hrest
  · exact hrest ()

/-- A query over a connection of its own makes nothing happen but traffic with the server. -/
theorem runQuery_emits {φ : Type} (other fault : Error → φ) :
    Emits P (runQuery server target text other fault) := by
  refine (connect_emits ht).bind fun result => ?_
  split
  · exact .pure _
  · refine (execute_emits ht).bind fun answer => (close_emits ht _).bind fun closed => ?_
    split <;> exact .pure _

end Emits

end Database

end DatabaseResource
