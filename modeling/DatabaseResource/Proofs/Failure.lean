import DatabaseResource.Proofs.SessionFailure

/-!
# Bootstraps that fail

What the database server or the script file does for a step of a bootstrap to fail, and the fault
that it is. Steps are looked at one by one: several of them may fail (`Bootstrapper.FailsAt`). A
bootstrap that ends reports the earliest of them (`bootstrap_reports_earliest_failure`).
-/

namespace DatabaseResource

open Activity

namespace Bootstrapper

/-- The steps of a bootstrap. -/
inductive Stage where
  | making (stage : Database.Stage)
  | reading
  | filling (stage : Database.Stage)
deriving DecidableEq, Repr

/-- The place of a step among the others. -/
def Stage.number : Stage → Nat
  | making stage => stage.number
  | reading => 3
  | filling stage => 4 + stage.number

theorem Stage.number_injective {stage stage' : Stage} (h : stage.number = stage'.number) :
    stage = stage' := by
  rcases stage with (_ | _ | _) | _ | (_ | _ | _) <;>
    rcases stage' with (_ | _ | _) | _ | (_ | _ | _) <;> first | rfl | cases h

end Bootstrapper

/-- A file cannot be read as text. -/
inductive Unreadable (files : Files) (path : String) (start : Instant) : SystemError → Prop where
  | content {time e} (latency : files.latency start path = some time)
      (content : files.content start path = .error e) : Unreadable files path start e
  | utf8 {time bytes} (latency : files.latency start path = some time)
      (content : files.content start path = .ok bytes) (utf8 : Text.ofUtf8? bytes = none) :
      Unreadable files path start (.text .invalidData "stream did not contain valid UTF-8")

namespace Unreadable

variable {files : Files} {path text : String} {start : Instant} {e e' : SystemError} {time : Nat}

theorem unique (h : Unreadable files path start e) (h' : Unreadable files path start e') :
    e = e' := by
  cases h with
  | content _ content =>
    cases h' with
    | content _ content' => cases content.symm.trans content'; rfl
    | utf8 _ content' => cases content.symm.trans content'
  | utf8 _ content utf8 =>
    cases h' with
    | content _ content' => cases content.symm.trans content'
    | utf8 => rfl

theorem not_loads (h : Unreadable files path start e) : ¬ Loads files path start text time := by
  rintro ⟨-, hcontent, hutf8⟩
  cases h with
  | content _ content => cases content.symm.trans hcontent
  | utf8 _ content utf8 =>
    cases content.symm.trans hcontent
    cases utf8.symm.trans hutf8

end Unreadable

theorem Loads.unique {files : Files} {path text text' : String} {start : Instant}
    {time time' : Nat} (h : Loads files path start text time)
    (h' : Loads files path start text' time') : text = text' := by
  obtain ⟨-, hcontent, hutf8⟩ := h
  obtain ⟨-, hcontent', hutf8'⟩ := h'
  cases hcontent.symm.trans hcontent'
  exact Option.some.inj (hutf8.symm.trans hutf8')

theorem Fault.ofCreateDatabase_eq_database {e : Database.Error}
    (name : String) (h : ∀ message, e ≠ .server (some "42P04") message) :
    Fault.ofCreateDatabase e name = .database e := by
  unfold Fault.ofCreateDatabase
  split
  next code message =>
    rw [if_neg]
    rintro rfl
    exact h message rfl
  next => rfl

namespace Bootstrapper

/-- A step of a bootstrap fails. -/
inductive FailsAt (b : Bootstrapper) (server : Database.Server) (files : Files)
    (past : List Database.Traffic) (start : Instant) : Stage → Fault → Prop where
  /-- The server has the database already. -/
  | taken {message} (failed : Database.FailsAt server b.config.adminTarget b.statement past
      .querying (.server (some "42P04") message)) :
      FailsAt b server files past start (.making .querying) (.databaseExists b.config.name)
  | making {stage e}
      (failed : Database.FailsAt server b.config.adminTarget b.statement past stage e)
      (other : stage = .querying → ∀ message, e ≠ .server (some "42P04") message) :
      FailsAt b server files past start (.making stage) (.database e)
  | reading {s t e} (made : Database.Serves server b.config.adminTarget b.statement past s t)
      (failed : Unreadable files b.scriptPath (start.advance t) e) :
      FailsAt b server files past start .reading (.script b.scriptPath e)
  | filling {s t script time stage e}
      (made : Database.Serves server b.config.adminTarget b.statement past s t)
      (loaded : Loads files b.scriptPath (start.advance t) script time)
      (failed : Database.FailsAt server b.config.ownTarget script (past ++ s) stage e) :
      FailsAt b server files past start (.filling stage) (.database e)

variable {server : Database.Server} {files : Files} {b : Bootstrapper} {m : Moment}
  {start : Instant} {past sent sent' : List Database.Traffic} {time time' : Nat} {stage : Stage}
  {f f' : Fault}

/-! ### A bootstrap reports the earliest step that fails -/

/-- A step in which the database is to be made is the earliest in the whole if it is among its
likes. -/
theorem earliest_making {stage : Database.Stage} {e : Database.Error}
    (h : Earliest Database.Stage.number
      (Database.FailsAt server b.config.adminTarget b.statement past) stage e) :
    Earliest Stage.number (b.FailsAt server files past start) (.making stage)
      (if stage = .querying then Fault.ofCreateDatabase e b.config.name else .database e) where
  here := by
    by_cases htaken : stage = .querying ∧ ∃ message, e = .server (some "42P04") message
    · obtain ⟨rfl, message, rfl⟩ := htaken
      exact .taken h.here
    · have hother : stage = .querying → ∀ message, e ≠ .server (some "42P04") message :=
        fun hstage message he => htaken ⟨hstage, message, he⟩
      have hfault : (if stage = .querying then Fault.ofCreateDatabase e b.config.name
          else .database e) = .database e := by
        split
        next hstage => exact Fault.ofCreateDatabase_eq_database _ (hother hstage)
        next => rfl
      rw [hfault]
      exact .making h.here hother
  le h' := by
    cases h' with
    | taken failed | making failed => exact h.le failed
    | reading made | filling made => exact (made.not_failsAt h.here).elim
  unique h' := by
    cases h' with
    | taken failed =>
      cases h.unique failed
      rfl
    | making failed other =>
      cases h.unique failed
      split
      next hstage => exact (Fault.ofCreateDatabase_eq_database _ (other hstage)).symm
      next => rfl

theorem earliest_reading {e : SystemError}
    (made : Database.Serves server b.config.adminTarget b.statement past sent time)
    (h : Unreadable files b.scriptPath (start.advance time) e) :
    Earliest Stage.number (b.FailsAt server files past start) .reading
      (.script b.scriptPath e) where
  here := .reading made h
  le h' := by
    cases h' with
    | taken failed | making failed => exact (made.not_failsAt failed).elim
    | reading => exact Nat.le_refl _
    | filling => exact Nat.le_add_right_of_le (by decide)
  unique h' := by
    cases h' with
    | reading made' failed =>
      obtain ⟨-, rfl⟩ := made.unique made'
      rw [h.unique failed]

theorem earliest_filling {script : String} {stage : Database.Stage} {e : Database.Error}
    (made : Database.Serves server b.config.adminTarget b.statement past sent time)
    (loaded : Loads files b.scriptPath (start.advance time) script time')
    (h : Earliest Database.Stage.number
      (Database.FailsAt server b.config.ownTarget script (past ++ sent)) stage e) :
    Earliest Stage.number (b.FailsAt server files past start) (.filling stage) (.database e) where
  here := .filling made loaded h.here
  le h' := by
    cases h' with
    | taken failed | making failed => exact (made.not_failsAt failed).elim
    | reading made' failed =>
      obtain ⟨-, rfl⟩ := made.unique made'
      exact (failed.not_loads loaded).elim
    | filling made' loaded' failed =>
      obtain ⟨rfl, rfl⟩ := made.unique made'
      cases loaded.unique loaded'
      exact Nat.add_le_add_left (h.le failed) 4
  unique h' := by
    cases h' with
    | filling made' loaded' failed =>
      obtain ⟨rfl, rfl⟩ := made.unique made'
      cases loaded.unique loaded'
      rw [h.unique failed]

/-- Where a database is made and filled, no step fails. -/
theorem not_failsAt_of_initialises (h : Initialises server files b past start sent time) :
    ¬ b.FailsAt server files past start stage f := by
  obtain ⟨made, loaded, filled⟩ := h
  intro h'
  cases h' with
  | taken failed | making failed => exact made.not_failsAt failed
  | reading made' failed =>
    obtain ⟨-, rfl⟩ := made.unique made'
    exact failed.not_loads loaded
  | filling made' loaded' failed =>
    obtain ⟨rfl, rfl⟩ := made.unique made'
    cases loaded.unique loaded'
    exact filled.not_failsAt failed

theorem readScript_fails (h : (b.readScript files m).result = some (.error f)) :
    ∃ e, Unreadable files b.scriptPath m.now e ∧ f = .script b.scriptPath e := by
  unfold readScript at h
  rw [now_bind_apply] at h
  cases hlatency : files.latency m.now b.scriptPath with
  | none => simp [hlatency] at h
  | some n =>
    cases hcontent : files.content m.now b.scriptPath with
    | error e =>
      obtain rfl : .script b.scriptPath e = f := by simpa [hlatency, hcontent] using h
      exact ⟨e, .content hlatency hcontent, rfl⟩
    | ok bytes =>
      cases hutf8 : Text.ofUtf8? bytes with
      | some text => simp [hlatency, hcontent, hutf8] at h
      | none =>
        obtain rfl : _ = f := by simpa [hlatency, hcontent, hutf8] using h
        exact ⟨_, .utf8 hlatency hcontent hutf8, rfl⟩

theorem createDatabase_fails (hm : traffic m.events = past)
    (h : (b.createDatabase server m).result = some (.error f)) :
    ∃ stage e, Earliest Database.Stage.number
        (Database.FailsAt server b.config.adminTarget b.statement past) stage e ∧
      f = if stage = .querying then Fault.ofCreateDatabase e b.config.name else .database e := by
  obtain ⟨result, hquery, h⟩ := bind_result_iff.mp h
  cases result with
  | error f' =>
    obtain rfl : f' = f := by simpa using h
    exact Database.runQuery_fails hm hquery
  | ok rows => simp at h

theorem runScript_fails (hm : traffic m.events = past) {script : String}
    (h : (b.runScript server script m).result = some (.error f)) :
    ∃ stage e, Earliest Database.Stage.number
        (Database.FailsAt server b.config.ownTarget script past) stage e ∧ f = .database e := by
  obtain ⟨result, hquery, h⟩ := bind_result_iff.mp h
  cases result with
  | error f' =>
    obtain rfl : f' = f := by simpa using h
    simpa using Database.runQuery_fails hm hquery
  | ok rows => simp at h

/-- A bootstrap that fails reports the earliest step that does. -/
theorem bootstrap_fails (hm : traffic m.events = past)
    (h : (b.bootstrap server files m).result = some (.error f)) :
    ∃ stage, Earliest Stage.number (b.FailsAt server files past m.now) stage f := by
  subst hm
  obtain ⟨_, _, hrun⟩ := Run.result_eq_some_iff.mp h
  obtain ⟨created, s, t, _, _, m₁, hcreate, hpast₁, hnow₁, hrun₁, -, -⟩ := ends_of_bind hrun
  cases created with
  | error f' =>
    obtain ⟨rfl, -⟩ : f' = f ∧ _ := by simpa using hrun₁
    obtain ⟨stage, e, hearliest, rfl⟩ := createDatabase_fails rfl hcreate.result_eq
    exact ⟨_, earliest_making hearliest⟩
  | ok =>
    have hmade := (createDatabase_ends_iff rfl).mp hcreate
    obtain ⟨loaded, s', t', _, _, m₂, hread, hpast₂, -, hrun₂, -, -⟩ := ends_of_bind hrun₁
    cases loaded with
    | error f' =>
      obtain ⟨rfl, -⟩ : f' = f ∧ _ := by simpa using hrun₂
      obtain ⟨e, hfails, rfl⟩ := readScript_fails hread.result_eq
      exact ⟨_, earliest_reading hmade (hnow₁ ▸ hfails)⟩
    | ok script =>
      obtain ⟨rfl, hloaded⟩ := readScript_ends_iff.mp hread
      rw [List.append_nil, hpast₁] at hpast₂
      obtain ⟨stage, e, hearliest, rfl⟩ := runScript_fails hpast₂ hrun₂.result_eq
      exact ⟨_, earliest_filling hmade (hnow₁ ▸ hloaded) hearliest⟩

variable {result : Except Fault Unit}

/-- A bootstrap that ends goes well exactly if no step fails. -/
theorem result_eq_ok_iff (hm : traffic m.events = past)
    (h : (b.bootstrap server files m).result = some result) :
    result = .ok () ↔ ∀ stage f, ¬ b.FailsAt server files past m.now stage f := by
  constructor
  · rintro rfl stage f
    exact not_failsAt_of_initialises ((bootstrap_ends_iff hm).mp ⟨h, rfl, rfl⟩)
  · intro hnone
    cases result with
    | ok => rfl
    | error f =>
      obtain ⟨stage, hearliest⟩ := bootstrap_fails hm h
      exact (hnone _ _ hearliest.here).elim

theorem result_eq_error_iff (hm : traffic m.events = past)
    (h : (b.bootstrap server files m).result = some result) :
    result = .error f ↔ ∃ stage, b.FailsAt server files past m.now stage f ∧
      ∀ stage' f', b.FailsAt server files past m.now stage' f' → stage.number ≤ stage'.number := by
  constructor
  · rintro rfl
    obtain ⟨stage, hearliest⟩ := bootstrap_fails hm h
    exact ⟨stage, hearliest.here, fun _ _ => hearliest.le⟩
  · rintro ⟨stage, hfails, hle⟩
    cases result with
    | ok => exact ((result_eq_ok_iff hm h).mp rfl _ _ hfails).elim
    | error f' =>
      obtain ⟨stage', hearliest⟩ := bootstrap_fails hm h
      obtain rfl := Stage.number_injective
        (Nat.le_antisymm (hle _ _ hearliest.here) (hearliest.le hfails))
      rw [hearliest.unique hfails]

/-- Where the server's answer to the statement is an error, nothing before that has failed. -/
theorem FailsAt.number_making_querying_le {e : Database.Error}
    (h : b.FailsAt server files past start stage f)
    (hfails : Database.FailsAt server b.config.adminTarget b.statement past .querying e) :
    (Stage.making .querying).number ≤ stage.number := by
  cases h with
  | taken => exact Nat.le_refl _
  | @making stage _ failed =>
    cases stage with
    | connecting => exact (hfails.not_connecting failed).elim
    | querying | closing => decide
  | reading => decide
  | filling => exact Nat.le_add_right_of_le (by decide)

end Bootstrapper

/-- **A bootstrap reports the earliest failure.** A bootstrap that ends goes well exactly if no step
of it fails. Otherwise it reports the earliest step that does, also where a later one fails as well:
a query that fails hides that the connection cannot be closed. It says that the database exists
exactly if it is the server that says so, in its answer to the statement that makes the database;
the same state anywhere else is a failure like any other. A script is missed only behind a database
that was made. Parts of the replies that are no errors do not change what is reported. -/
theorem bootstrap_reports_earliest_failure (b : Bootstrapper) (server : Database.Server)
    (files : Files) (m : Moment) {result : Except Fault Unit}
    (h : (b.bootstrap server files m).result = some result) :
    let past := traffic m.events
    let makes := "CREATE DATABASE " ++ b.config.name
    let fails := b.FailsAt server files past m.now
    (result = .ok () ↔ ∀ stage f, ¬ fails stage f) ∧
    (∀ f, result = .error f ↔
      ∃ stage, fails stage f ∧ ∀ stage' f', fails stage' f' → stage.number ≤ stage'.number) ∧
    (∀ name, result = .error (.databaseExists name) ↔ name = b.config.name ∧
      ∃ message, Database.FailsAt server b.config.adminTarget makes past .querying
        (.server (some "42P04") message)) ∧
    (∀ stage f, fails stage f → stage ≠ .making .querying → stage ≠ .reading →
      ∃ e, f = .database e) ∧
    (∀ path e, result = .error (.script path e) → path = b.scriptPath ∧
      ∃ sent time, Database.Serves server b.config.adminTarget makes past sent time) ∧
    ∀ reply, (∀ seen, Database.loud (reply seen) = Database.loud (server.reply seen)) →
      (b.bootstrap { server with reply } files m).result = some result := by
  have herror (f : Fault) := @Bootstrapper.result_eq_error_iff server files b m _ f result rfl h
  refine ⟨Bootstrapper.result_eq_ok_iff rfl h, herror, fun name => ⟨fun hr => ?_, ?_⟩, ?_,
    fun path e hr => ?_, fun reply hreply => ?_⟩
  · obtain ⟨stage, hfails, -⟩ := (herror _).mp hr
    cases hfails with
    | taken failed => exact ⟨rfl, _, failed⟩
  · rintro ⟨rfl, message, hfails⟩
    exact (herror _).mpr ⟨_, .taken hfails, fun _ _ h' => h'.number_making_querying_le hfails⟩
  · intro stage f hfails hquery hread
    cases hfails with
    | taken => exact (hquery rfl).elim
    | reading => exact (hread rfl).elim
    | making | filling => exact ⟨_, rfl⟩
  · obtain ⟨stage, hfails, -⟩ := (herror _).mp hr
    cases hfails with
    | reading made => exact ⟨rfl, _, _, made⟩
  · have hagree := Bootstrapper.bootstrap_agree Database.shows_traffic
      (Database.Server.alike_of_loud hreply) (b := b) ⟨rfl, rfl, rfl⟩ files m m ⟨rfl, rfl⟩
    rcases hagree.result_cases with ⟨-, hr⟩ | ⟨a, a', ha, ha', rfl⟩
    · cases h.symm.trans hr
    · rw [ha, ← ha', h]

/-- A server that has every database already, and breaks off when a connection ends. -/
def occupied : Database.Server :=
  let taken : Database.Notice := ⟨some "42P04", "it is there"⟩
  { welcoming with
    reply := fun _ => [.notice taken, .error taken, .ready]
    closing := fun _ => some .networkUnreachable }

/-- With such a server a bootstrap fails twice, and says that the database exists. -/
theorem occupied_reports_existing :
    let run := (Bootstrapper.ofConfig appConfig).bootstrap occupied
      ⟨fun _ _ => .ok [], fun _ _ => some 0⟩ ⟨⟨0⟩, []⟩
    run.result = some (.error (.databaseExists "app")) ∧
    ∃ message, Database.FailsAt occupied appConfig.adminTarget "CREATE DATABASE app" [] .querying
      (.server (some "42P04") message) := by
  have hrun : ((Bootstrapper.ofConfig appConfig).bootstrap occupied
      ⟨fun _ _ => .ok [], fun _ _ => some 0⟩ ⟨⟨0⟩, []⟩).result
        = some (.error (.databaseExists "app")) := by rfl
  obtain ⟨-, -, hexists, -⟩ := bootstrap_reports_earliest_failure _ _ _ _ hrun
  exact ⟨hrun, ((hexists "app").mp rfl).2⟩

end DatabaseResource
