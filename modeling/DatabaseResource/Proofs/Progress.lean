import DatabaseResource.Proofs.History

/-!
# What is logged of a bootstrap

A bootstrap logs that the database was made, and then that its script has run, each where that is
over by the end of the phase (`Progress`). What is cut logs what is over: the parts of a bootstrap
log nothing else (`Bootstrapper.bootstrap_progress`), and dispatching a create adds nothing to it
(`dispatch_progress`).
-/

namespace DatabaseResource

open Activity

/-- Nothing that is logged. -/
abbrev Silent (e : Event) : Prop := e.log? = none

namespace Activity

variable {α β : Type} {x : Activity α} {deadline : Instant} {m : Moment} {a : α}

theorem Emits.logged_eq_nil (h : Emits Silent x) (m : Moment) :
    logged (eventsOf (x m).steps) = [] :=
  List.filterMap_eq_nil_iff.mpr (h m)

/-- An activity that takes time ends by a deadline exactly if it is not given up there. -/
theorem cutAt_result_iff (hpos : ∀ sent time, (x m).Ends a sent time → 0 < time) :
    (x.cutAt deadline m).result = some (some a)
      ↔ ∃ sent time, (x m).Ends a sent time ∧ m.now.nanos + time ≤ deadline.nanos := by
  rcases cutAt_cases x deadline m with ⟨a', hr, hd, hcut⟩ | ⟨hlate, hcut⟩
  · rw [hcut]
    constructor
    · intro h
      cases h
      have hends : (x m).Ends a _ _ := ⟨hr, rfl, rfl⟩
      have htime := hpos _ _ hends
      refine ⟨_, _, hends, ?_⟩
      rcases hd with hw | hle
      · exact absurd (elapsed_of_not_waits hw) (Nat.ne_of_gt htime)
      · exact hle
    · intro ⟨sent, time, hends, _⟩
      rw [Option.some.inj (hr.symm.trans hends.result_eq)]
  · rw [hcut]
    constructor
    · intro h
      cases h
    · intro ⟨sent, time, hends, htime⟩
      rcases hlate with hnone | hlate
      · cases hnone.symm.trans hends.result_eq
      · exact absurd (.inr (by rw [hends.time_eq]; exact htime)) hlate

/-- What follows on something goes on where that is over by the deadline, or is given up with
it. -/
theorem cutAt_bind_cases (x : Activity α) (f : α → Activity β) (deadline : Instant) (m : Moment) :
    (∃ a, (x.cutAt deadline m).result = some (some a) ∧
      (x >>= f).cutAt deadline m
        = ((f a).cutAt deadline (m.after (x.cutAt deadline m).steps)).prepend
            (x.cutAt deadline m).steps) ∨
    ((x.cutAt deadline m).result = some none ∧
      (x >>= f).cutAt deadline m = ⟨(x.cutAt deadline m).steps, some none⟩) := by
  obtain ⟨answered, hcut⟩ := cutAt_ends x deadline m
  rw [cutAt_bind, bind_of_apply_eq hcut, hcut]
  cases answered with
  | none =>
    refine .inr ⟨rfl, ?_⟩
    dsimp only
    rw [pure_apply, Run.prepend_mk, List.append_nil]
  | some a => exact .inl ⟨a, rfl, rfl⟩

@[simp] theorem cutAt_pure (a : α) (deadline : Instant) (m : Moment) :
    (pure a : Activity α).cutAt deadline m = ⟨[], some (some a)⟩ :=
  cutAt_of_doneBy rfl (.inl rfl)

@[simp] theorem cutAt_log_bind (entry : Log.Entry) (f : Unit → Activity β) (deadline : Instant)
    (m : Moment) : (log entry >>= f).cutAt deadline m
      = ((f ()).cutAt deadline (m.after [.event (.log none entry)])).prepend
          [.event (.log none entry)] := by
  rw [cutAt_bind, bind_of_apply_eq (cutAt_of_doneBy rfl (.inl rfl))]
  rfl

end Activity

/-! ### What is over by the end of the phase -/

/-- The database is made from a moment on and by a deadline. -/
def MadeBy (server : Database.Server) (b : Bootstrapper) (m : Moment) (deadline : Instant) : Prop :=
  ∃ sent time,
    Database.Serves server b.config.adminTarget b.statement (traffic m.events) sent time ∧
      m.now.nanos + time ≤ deadline.nanos

/-- What is logged of a bootstrap by the end of a phase. -/
inductive Progress (server : Database.Server) (files : Files) (b : Bootstrapper) (m : Moment)
    (phaseEnd : Instant) : List Log.Entry → Prop where
  | nothing (unmade : ¬ MadeBy server b m phaseEnd)
      (unfilled : ∀ sent, ¬ InitialisedBy server files b m phaseEnd sent) :
      Progress server files b m phaseEnd []
  | made (made : MadeBy server b m phaseEnd)
      (unfilled : ∀ sent, ¬ InitialisedBy server files b m phaseEnd sent) :
      Progress server files b m phaseEnd [.databaseCreated b.config.name b.config.host]
  | filled {rows} (made : MadeBy server b m phaseEnd)
      (filled : ∃ sent, InitialisedBy server files b m phaseEnd sent) :
      Progress server files b m phaseEnd
        [.databaseCreated b.config.name b.config.host, .scriptExecuted b.config.name rows]

namespace Bootstrapper

variable (b : Bootstrapper) (server : Database.Server) (files : Files) (deadline : Instant)
  (m : Moment)

theorem createDatabase_cutAt_iff :
    ((b.createDatabase server).cutAt deadline m).result = some (some (.ok ()))
      ↔ MadeBy server b m deadline := by
  rw [cutAt_result_iff fun sent time h => ((createDatabase_ends_iff rfl).mp h).time_pos]
  simp only [createDatabase_ends_iff rfl]
  rfl

theorem bootstrap_cutAt_iff :
    ((b.bootstrap server files).cutAt deadline m).result = some (some (.ok ()))
      ↔ ∃ sent, InitialisedBy server files b m deadline sent := by
  rw [cutAt_result_iff fun sent time h => ((bootstrap_ends_iff rfl).mp h).time_pos]
  simp only [bootstrap_ends_iff rfl]
  rfl

/-- What is logged of something that does well if it is not given up at a deadline: an entry if it
does well, and nothing otherwise. -/
def LogsIfOk (entry : Nat → Log.Entry) (run : Run (Option (Except Fault Unit))) : Prop :=
  (run.result = some (some (.ok ())) ∧ ∃ rows, logged (eventsOf run.steps) = [(none, entry rows)]) ∨
    (run.result ≠ some (some (.ok ())) ∧ logged (eventsOf run.steps) = [])

theorem LogsIfOk.prepend {entry : Nat → Log.Entry} {run : Run (Option (Except Fault Unit))}
    {steps : List Step} (h : LogsIfOk entry run) (hsteps : logged (eventsOf steps) = []) :
    LogsIfOk entry (run.prepend steps) := by
  rcases h with ⟨hok, rows, hlogged⟩ | ⟨hfailed, hlogged⟩
  · exact .inl ⟨hok, rows, by simp [hsteps, hlogged]⟩
  · exact .inr ⟨hfailed, by simp [hsteps, hlogged]⟩

/-- A query with a log entry behind it. -/
theorem logsIfOk_query {target : Target} {text : String} {other fault : Database.Error → Fault}
    (entry : Nat → Log.Entry) {x : Activity (Except Fault Unit)}
    (hx : x = do
      match ← Database.runQuery server target text other fault with
      | .error f => return .error f
      | .ok rows =>
        log (entry rows)
        return .ok ()) :
    LogsIfOk entry (x.cutAt deadline m) := by
  subst hx
  have hquiet : Emits Silent (Database.runQuery server target text other fault) :=
    Database.runQuery_emits (fun _ => rfl) other fault
  have hsaid := (hquiet.cutAt deadline).logged_eq_nil m
  rcases cutAt_bind_cases (Database.runQuery server target text other fault) _ deadline m with
    ⟨result, -, hrun⟩ | ⟨-, hrun⟩
  · rw [hrun]
    cases result with
    | error f => exact .inr ⟨by simp, by simpa using hsaid⟩
    | ok rows =>
      dsimp only
      rw [cutAt_log_bind, cutAt_pure]
      exact .inl ⟨rfl, rows, by simp [hsaid]⟩
  · rw [hrun]
    exact .inr ⟨nofun, hsaid⟩

theorem readScript_silent : Emits Silent (b.readScript files) := by
  refine Emits.now.bind fun start => ?_
  split
  · exact .never
  · refine (Emits.sleep _).bind fun _ => ?_
    split
    · exact .pure _
    · split <;> exact .pure _

/-- Fills the database by its script. -/
def fill : Activity (Except Fault Unit) := do
  match ← b.readScript files with
  | .error f => return .error f
  | .ok script => b.runScript server script

theorem bootstrap_eq_fill : b.bootstrap server files = (do
    match ← b.createDatabase server with
    | .error f => return .error f
    | .ok () => b.fill server files) := rfl

theorem logsIfOk_fill : LogsIfOk (.scriptExecuted b.config.name)
    ((b.fill server files).cutAt deadline m) := by
  unfold fill
  have hsaid := ((b.readScript_silent files).cutAt deadline).logged_eq_nil m
  rcases cutAt_bind_cases (b.readScript files) _ deadline m with ⟨result, -, hrun⟩ | ⟨-, hrun⟩
  · rw [hrun]
    cases result with
    | error f => exact .inr ⟨by simp, by simpa using hsaid⟩
    | ok script =>
      exact (logsIfOk_query server deadline _ (.scriptExecuted b.config.name) rfl).prepend hsaid
  · rw [hrun]
    exact .inr ⟨nofun, hsaid⟩

/-- A bootstrap logs what of it is over. -/
theorem bootstrap_progress : ∃ made, Progress server files b m deadline made ∧
    logged (eventsOf ((b.bootstrap server files).cutAt deadline m).steps)
      = made.map (none, ·) := by
  have hcreate : LogsIfOk (fun _ => .databaseCreated b.config.name b.config.host)
      ((b.createDatabase server).cutAt deadline m) := logsIfOk_query server deadline m _ rfl
  have hmade := b.createDatabase_cutAt_iff server deadline m
  have hfilled := b.bootstrap_cutAt_iff server files deadline m
  rw [bootstrap_eq_fill] at hfilled ⊢
  rcases cutAt_bind_cases (b.createDatabase server) _ deadline m with
    ⟨result, hresult, hrun⟩ | ⟨hresult, hrun⟩
  · rw [hrun] at hfilled ⊢
    cases result with
    | error f =>
      rcases hcreate with ⟨hok, -⟩ | ⟨hfailed, hlogged⟩
      · cases hresult.symm.trans hok
      · refine ⟨[], .nothing (fun h => hfailed (hmade.mpr h)) ?_, by simpa using hlogged⟩
        intro sent hsent
        have hok := hfilled.mpr ⟨sent, hsent⟩
        simp at hok
    | ok =>
      dsimp only at hfilled ⊢
      rcases hcreate with ⟨-, _, hlogged⟩ | ⟨hfailed, -⟩
      · have hmade := hmade.mp hresult
        rcases b.logsIfOk_fill server files deadline
            (m.after ((b.createDatabase server).cutAt deadline m).steps) with
          ⟨hok, rows, hfill⟩ | ⟨hfailed, hfill⟩
        · refine ⟨[_, .scriptExecuted _ rows], .filled hmade (hfilled.mp hok), ?_⟩
          rw [Run.prepend_steps, eventsOf_append, logged_append, hlogged, hfill]
          rfl
        · refine ⟨[_], .made hmade fun sent hsent => hfailed (hfilled.mpr ⟨sent, hsent⟩), ?_⟩
          rw [Run.prepend_steps, eventsOf_append, logged_append, hlogged, hfill]
          rfl
      · exact absurd hresult hfailed
  · rw [hrun] at hfilled ⊢
    rcases hcreate with ⟨hok, -⟩ | ⟨hfailed, hlogged⟩
    · cases hresult.symm.trans hok
    · refine ⟨[], .nothing (fun h => hfailed (hmade.mpr h)) ?_, hlogged⟩
      intro sent hsent
      cases hfilled.mpr ⟨sent, hsent⟩

end Bootstrapper

theorem Progress.of_same {server : Database.Server} {files : Files} {b : Bootstrapper}
    {m m' : Moment} {phaseEnd : Instant} {made : List Log.Entry} (hnow : m'.now = m.now)
    (htraffic : traffic m'.events = traffic m.events)
    (h : Progress server files b m' phaseEnd made) : Progress server files b m phaseEnd made := by
  have hmade : MadeBy server b m' phaseEnd ↔ MadeBy server b m phaseEnd := by
    unfold MadeBy
    rw [hnow, htraffic]
  have hfilled (sent : List Database.Traffic) : InitialisedBy server files b m' phaseEnd sent
      ↔ InitialisedBy server files b m phaseEnd sent := by
    unfold InitialisedBy
    rw [hnow, htraffic]
  cases h with
  | nothing unmade unfilled =>
    exact .nothing (mt hmade.mpr unmade) fun sent => mt (hfilled sent).mpr (unfilled sent)
  | made made unfilled =>
    exact .made (hmade.mp made) fun sent => mt (hfilled sent).mpr (unfilled sent)
  | filled made filled =>
    obtain ⟨sent, hsent⟩ := filled
    exact .filled (hmade.mp made) ⟨sent, (hfilled sent).mp hsent⟩

/-- What is logged of a request by the end of its phase: of a create what its bootstrap logs, and
nothing where there is no bootstrap. -/
inductive PhaseProgress (server : Database.Server) (files : Files) (p : DatabaseProvisioner)
    (r : Request) (m : Moment) (phaseEnd : Instant) : List Log.Entry → Prop where
  | bootstrap {b made} (ready : p = .ready b) (create : r.requestType = .create)
      (progress : Progress server files b m phaseEnd made) :
      PhaseProgress server files p r m phaseEnd made
  | nothing (idle : r.requestType ≠ .create ∨ ∃ reason, p = .unconfigured reason) :
      PhaseProgress server files p r m phaseEnd []

/-- Dispatching a request adds nothing to what its bootstrap logs. -/
theorem dispatch_progress (p : DatabaseProvisioner) (server : Database.Server) (files : Files)
    (r : Request) (phaseEnd : Instant) (m : Moment) :
    ∃ made, PhaseProgress server files p r m phaseEnd made ∧
      logged (eventsOf ((dispatch r (p.provision server files)).cutAt phaseEnd m).steps)
        = made.map (none, ·) := by
  by_cases hcreate : r.requestType = .create
  · rw [dispatch_of_create hcreate, cutAt_events, answerCreate_apply]
    cases p with
    | unconfigured reason => exact ⟨[], .nothing (.inr ⟨reason, rfl⟩), rfl⟩
    | ready b =>
      obtain ⟨made, hprogress, hlogged⟩ :=
        b.bootstrap_progress server files phaseEnd (m.after [.event .provisioning])
      have hsteps : (b.provision server files (m.after [.event .provisioning])).steps
          = (b.bootstrap server files (m.after [.event .provisioning])).steps :=
        bind_steps_of_nil _ fun result m => by cases result <;> rfl
      have hnow : (m.after [.event .provisioning]).now = m.now := by simp
      refine ⟨made, .bootstrap rfl hcreate (hprogress.of_same hnow (by simp)), ?_⟩
      rw [cutAt_events, hnow] at hlogged
      rw [← hlogged, DatabaseProvisioner.provision, hsteps]
      rfl
  · have hquiet : Emits Silent (dispatch r (p.provision server files)) := by
      unfold dispatch
      split
      · exact absurd ‹_› hcreate
      all_goals exact .pure _
    exact ⟨[], .nothing (.inl hcreate), (hquiet.cutAt phaseEnd).logged_eq_nil m⟩

end DatabaseResource
