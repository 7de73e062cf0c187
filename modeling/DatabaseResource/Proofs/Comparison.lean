import DatabaseResource.Proofs.Session
import DatabaseResource.Provisioner

/-!
# Two runs that look alike

Events are looked at through a view, which leaves out what does not matter. Two activities agree
(`Activity.Agree`) if from moments that look alike they take the same steps, as far as the view
shows them, and come to related results. Agreement is kept by all that activities are built from,
and so bootstraps agree with servers that answer alike (`Bootstrapper.bootstrap_agree`).
-/

namespace DatabaseResource

/-- A step as a view of events shows it. -/
def Step.look {γ : Type} (view : Event → γ) : Step → γ ⊕ Nat
  | event e => .inl (view e)
  | wait more => .inr more

variable {α α' β β' γ : Type} {view : Event → γ} {steps steps' : List Step} {m m' : Moment}

/-- Steps look alike. -/
def SameLook (view : Event → γ) (steps steps' : List Step) : Prop :=
  steps.map (Step.look view) = steps'.map (Step.look view)

namespace SameLook

protected theorem refl (steps : List Step) : SameLook view steps steps := rfl

theorem append {more more' : List Step} (h : SameLook view steps steps')
    (hmore : SameLook view more more') : SameLook view (steps ++ more) (steps' ++ more') := by
  simp only [SameLook, List.map_append] at h hmore ⊢
  rw [h, hmore]

theorem cons_event {e e' : Event} (he : view e = view e') (h : SameLook view steps steps') :
    SameLook view (.event e :: steps) (.event e' :: steps') := by
  simp only [SameLook, List.map_cons, Step.look, he] at h ⊢
  rw [h]

theorem cons_wait (n : Nat) (h : SameLook view steps steps') :
    SameLook view (.wait n :: steps) (.wait n :: steps') := by
  simp only [SameLook, List.map_cons, Step.look] at h ⊢
  rw [h]

/-- Induction over two lists of steps that look alike. -/
theorem rec_on {P : List Step → List Step → Prop} (h : SameLook view steps steps') (nil : P [] [])
    (event : ∀ e e' s s', view e = view e' → SameLook view s s' → P s s' →
      P (.event e :: s) (.event e' :: s'))
    (wait : ∀ n s s', SameLook view s s' → P s s' → P (.wait n :: s) (.wait n :: s')) :
    P steps steps' := by
  induction steps generalizing steps' with
  | nil =>
    cases List.map_eq_nil_iff.mp h.symm
    exact nil
  | cons s steps ih =>
    cases steps' with
    | nil => cases h
    | cons s' steps' =>
      obtain ⟨hhead, htail⟩ := List.cons.inj h
      cases s with
      | event e =>
        cases s' with
        | event e' => exact event e e' _ _ (Sum.inl.inj hhead) htail (ih htail)
        | wait n => cases hhead
      | wait n =>
        cases s' with
        | event e' => cases hhead
        | wait n' =>
          cases Sum.inr.inj hhead
          exact wait n _ _ htail (ih htail)

theorem elapsed_eq (h : SameLook view steps steps') : elapsed steps = elapsed steps' := by
  refine h.rec_on (P := fun s s' => elapsed s = elapsed s') rfl (fun e e' s s' _ _ ih => ?_)
    (fun n s s' _ ih => ?_)
  · simpa using ih
  · simpa using ih

theorem eventsOf_eq (h : SameLook view steps steps') :
    (eventsOf steps).map view = (eventsOf steps').map view := by
  refine h.rec_on (P := fun s s' => (eventsOf s).map view = (eventsOf s').map view) rfl
    (fun e e' s s' he _ ih => ?_) (fun n s s' _ ih => ?_)
  · simpa using ⟨he, ih⟩
  · simpa using ih

/-- Steps that look alike are cut alike. -/
theorem cutSteps (deadline start : Instant) (h : SameLook view steps steps') :
    SameLook view (Activity.cutSteps deadline start steps).1
        (Activity.cutSteps deadline start steps').1 ∧
      (Activity.cutSteps deadline start steps).2 = (Activity.cutSteps deadline start steps').2 := by
  refine h.rec_on (P := fun s s' => ∀ start, SameLook view (Activity.cutSteps deadline start s).1
      (Activity.cutSteps deadline start s').1 ∧ (Activity.cutSteps deadline start s).2
        = (Activity.cutSteps deadline start s').2)
    (fun _ => ⟨rfl, rfl⟩) (fun e e' s s' he _ ih start => ?_) (fun n s s' _ ih start => ?_) start
  · exact ⟨(ih start).1.cons_event he, (ih start).2⟩
  · simp only [Activity.cutSteps]
    split
    · exact ⟨(ih _).1.cons_wait n, (ih _).2⟩
    · exact ⟨rfl, rfl⟩

end SameLook

/-- Moments look alike: they have the same time, and all before them looks alike. -/
structure Moment.Alike (view : Event → γ) (m m' : Moment) : Prop where
  now_eq : m.now = m'.now
  events_eq : m.events.map view = m'.events.map view

theorem Moment.Alike.after (h : m.Alike view m') (hsteps : SameLook view steps steps') :
    (m.after steps).Alike view (m'.after steps') where
  now_eq := by simp [h.now_eq, hsteps.elapsed_eq]
  events_eq := by simp [h.events_eq, hsteps.eventsOf_eq]

/-- Runs look alike: they take the same steps, and come to related results or never end. -/
structure Run.Alike (view : Event → γ) (R : α → α' → Prop) (r : Run α) (r' : Run α') : Prop where
  steps_eq : SameLook view r.steps r'.steps
  result_rel : Option.Rel R r.result r'.result

/-- Neither run ends, or both do. -/
theorem Run.Alike.result_cases {R : α → α' → Prop} {r : Run α} {r' : Run α'}
    (h : r.Alike view R r') :
    r.result = none ∧ r'.result = none ∨
    ∃ a a', r.result = some a ∧ r'.result = some a' ∧ R a a' := by
  obtain ⟨-, hresult⟩ := h
  generalize r.result = result at hresult ⊢
  generalize r'.result = result' at hresult ⊢
  cases hresult with
  | none => exact .inl ⟨rfl, rfl⟩
  | some ha => exact .inr ⟨_, _, rfl, rfl, ha⟩

theorem Run.Alike.prepend {R : α → α' → Prop} {r : Run α} {r' : Run α'} (h : r.Alike view R r')
    (hsteps : SameLook view steps steps') :
    (r.prepend steps).Alike view R (r'.prepend steps') where
  steps_eq := hsteps.append h.steps_eq
  result_rel := h.result_rel

namespace Activity

/-- From moments that look alike, activities have runs that look alike. -/
def Agree (view : Event → γ) (R : α → α' → Prop) (x : Activity α) (x' : Activity α') : Prop :=
  ∀ m m', m.Alike view m' → (x m).Alike view R (x' m')

namespace Agree

variable {R : α → α' → Prop} {S : β → β' → Prop} {x : Activity α} {x' : Activity α'}

theorem mono {R' : α → α' → Prop} (hx : Agree view R x x') (h : ∀ a a', R a a' → R' a a') :
    Agree view R' x x' := by
  intro m m' hm
  refine ⟨(hx m m' hm).steps_eq, ?_⟩
  rcases (hx m m' hm).result_cases with ⟨hr, hr'⟩ | ⟨a, a', hr, hr', ha⟩
  · rw [hr, hr']
    exact .none
  · rw [hr, hr']
    exact .some (h _ _ ha)

protected theorem pure {a : α} {a' : α'} (h : R a a') :
    Agree view R (pure a) (pure a') := fun _ _ _ => ⟨rfl, .some h⟩

protected theorem bind {f : α → Activity β} {f' : α' → Activity β'} (hx : Agree view R x x')
    (hf : ∀ a a', R a a' → Agree view S (f a) (f' a')) :
    Agree view S (x >>= f) (x' >>= f') := by
  intro m m' hm
  have hsteps := (hx m m' hm).steps_eq
  rcases (hx m m' hm).result_cases with ⟨hr, hr'⟩ | ⟨a, a', hr, hr', ha⟩
  · rw [bind_apply_of_none hr, bind_apply_of_none hr']
    exact ⟨hsteps, .none⟩
  · rw [bind_apply_of_some hr, bind_apply_of_some hr']
    exact (hf a a' ha _ _ (hm.after hsteps)).prepend hsteps

theorem emit {e e' : Event} (he : view e = view e') :
    Agree view Eq (emit e) (emit e') :=
  fun _ _ _ => ⟨(SameLook.refl []).cons_event he, .some rfl⟩

theorem log {entry entry' : Log.Entry} (he : view (.log none entry) = view (.log none entry')) :
    Agree view Eq (log entry) (log entry') := emit he

theorem sleep (n : Nat) : Agree view Eq (sleep n) (sleep n) := fun _ _ _ => ⟨rfl, .some rfl⟩

theorem timer (n : Nat) : Agree view Eq (timer n) (timer n) := fun _ _ _ => ⟨rfl, .some rfl⟩

theorem never : Agree view R never never := fun _ _ _ => ⟨rfl, .none⟩

theorem moment : Agree view (Moment.Alike view) moment moment := fun _ _ hm => ⟨rfl, .some hm⟩

theorem now : Agree view Eq now now := fun _ _ hm => ⟨rfl, .some hm.now_eq⟩

/-- What agrees also agrees up to a deadline. -/
theorem cutAt (hx : Agree view R x x') (deadline : Instant) :
    Agree view (Option.Rel R) (x.cutAt deadline) (x'.cutAt deadline) := by
  intro m m' hm
  obtain ⟨hkept, hcut⟩ := (hx m m' hm).steps_eq.cutSteps deadline m.now
  rw [hm.now_eq] at hcut hkept
  simp only [Activity.cutAt, hm.now_eq, hcut]
  split
  · exact ⟨hkept, .some .none⟩
  · rcases (hx m m' hm).result_cases with ⟨hr, hr'⟩ | ⟨a, a', hr, hr', ha⟩
    · rw [hr, hr']
      simp only [Moment.after_now, hm.now_eq, hkept.elapsed_eq]
      exact ⟨hkept.append (.refl _), .some .none⟩
    · rw [hr, hr']
      exact ⟨hkept, .some (.some ha)⟩

/-- A context is added alike where the view does not hide it. -/
theorem within (hx : Agree view R x x') (context : Log.Context)
    (hview : ∀ e e', view e = view e' → view (e.within context) = view (e'.within context)) :
    Agree view R (x.within context) (x'.within context) := by
  intro m m' hm
  refine ⟨?_, (hx m m' hm).result_rel⟩
  refine (hx m m' hm).steps_eq.rec_on (P := fun s s' => SameLook view (s.map _) (s'.map _)) rfl
    (fun e e' s s' he _ ih => ?_) (fun n s s' _ ih => ?_)
  · exact ih.cons_event (hview _ _ he)
  · exact ih.cons_wait n

end Agree

end Activity

/-! ### Servers that answer alike -/

/-- The same error, or related values. -/
inductive SameOutcome {ε : Type} (N : α → α' → Prop) : Except ε α → Except ε α' → Prop where
  | error (e : ε) : SameOutcome N (.error e) (.error e)
  | ok {a a'} (h : N a a') : SameOutcome N (.ok a) (.ok a')

protected theorem SameOutcome.refl {ε : Type} {N : α → α → Prop} (h : ∀ a, N a a) :
    ∀ result : Except ε α, SameOutcome N result result
  | .error e => .error e
  | .ok a => .ok (h a)

theorem SameOutcome.exists_eq {ε : Type} {N : α → α' → Prop} {x : Except ε α} {x' : Except ε α'}
    (h : SameOutcome N x x') :
    (∃ e, x = .error e ∧ x' = .error e) ∨ ∃ a a', x = .ok a ∧ x' = .ok a' ∧ N a a' := by
  cases h with
  | error e => exact .inl ⟨e, rfl, rfl⟩
  | ok h => exact .inr ⟨_, _, rfl, rfl, h⟩

theorem SameOutcome.bind {ε : Type} {N : α → α' → Prop} {S : β → β' → Prop} {x : Except ε α}
    {x' : Except ε α'} {f : α → Except ε β} {f' : α' → Except ε β'} (hx : SameOutcome N x x')
    (hf : ∀ a a', N a a' → SameOutcome S (f a) (f' a')) :
    SameOutcome S (x >>= f) (x' >>= f') := by
  cases hx with
  | error e => exact .error e
  | ok h => exact hf _ _ h

theorem SameOutcome.bind_same {ε : Type} {S : β → β' → Prop} (x : Except ε α)
    {f : α → Except ε β} {f' : α → Except ε β'} (hf : ∀ a, SameOutcome S (f a) (f' a)) :
    SameOutcome S (x >>= f) (x >>= f') :=
  (SameOutcome.refl (N := Eq) (fun _ => rfl) x).bind fun a _ h => h ▸ hf a

/-- Targets look alike: they are equal but for the password, of which what is sent looks alike. -/
structure Target.Alike {δ : Type} (look : Database.Traffic → δ) (target target' : Target) : Prop
    where
  same : { target with password := "" } = { target' with password := "" }
  password : look (.password target.password) = look (.password target'.password)

theorem Target.Alike.fields_eq {δ : Type} {look : Database.Traffic → δ} {target target' : Target}
    (h : target.Alike look target') :
    target.host = target'.host ∧ target.port = target'.port ∧ target.username = target'.username ∧
      target.database = target'.database ∧ target.sslMode = target'.sslMode := by
  simpa using h.same

open Activity

namespace Database

variable {δ : Type} {look : Traffic → δ} {N : Nat → Nat → Prop} {server server' : Server}
  {target target' : Target}

/-- Traffic looks alike. -/
def SameTraffic (look : Traffic → δ) (past past' : List Traffic) : Prop :=
  past.map look = past'.map look

/-- Servers answer alike to what looks alike, up to related numbers of rows. -/
structure Server.Alike (look : Traffic → δ) (N : Nat → Nat → Prop) (server server' : Server) :
    Prop where
  approach {past past'} (h : SameTraffic look past past') {target target' : Target}
    (ht : target.Alike look target') : server.approach past target = server'.approach past' target'
  refusal {past past'} (h : SameTraffic look past past') {target target' : Target}
    (ht : target.Alike look target') : server.refusal past target = server'.refusal past' target'
  ssl {past past'} (h : SameTraffic look past past') : server.ssl past = server'.ssl past'
  login {past past'} (h : SameTraffic look past past') : server.login past = server'.login past'
  verdict {past past'} (h : SameTraffic look past past') :
    server.verdict past = server'.verdict past'
  closing {past past'} (h : SameTraffic look past past') :
    server.closing past = server'.closing past'
  parting {past past'} (h : SameTraffic look past past') :
    server.parting past = server'.parting past'
  latency {past past'} (h : SameTraffic look past past') :
    server.latency past = server'.latency past'
  staysOpen {past past'} (h : SameTraffic look past past') :
    staysOpen (server.reply past) = Database.staysOpen (server'.reply past')
  outcome {past past'} (h : SameTraffic look past past') :
    SameOutcome N ((settle 0 (server.reply past)).getD (.error closedEarly))
      ((settle 0 (server'.reply past')).getD (.error closedEarly))

/-- A view of events shows traffic as `look` does, and does not tell related numbers of rows
apart. -/
structure Shows (view : Event → γ) (look : Traffic → δ) (N : Nat → Nat → Prop) : Prop where
  sameTraffic {m m' : Moment} (h : m.Alike view m') :
    SameTraffic look (traffic m.events) (traffic m'.events)
  view_traffic {t t' : Traffic} (h : look t = look t') : view (.traffic t) = view (.traffic t')
  view_rows {rows rows' : Nat} (h : N rows rows') (name : String) :
    view (.log none (.scriptExecuted name rows)) = view (.log none (.scriptExecuted name rows'))

section Agree

variable (hview : Shows view look N)

include hview

theorem send_agree {t t' : Traffic} (h : look t = look t') : Agree view Eq (send t) (send t') :=
  .emit (hview.view_traffic h)

theorem seen_agree : Agree view (SameTraffic look) seen seen :=
  Agree.moment.bind fun _ _ hm => .pure (hview.sameTraffic hm)

theorem closedByServer_agree : Agree view Eq closedByServer closedByServer :=
  (send_agree hview rfl).bind fun _ _ _ => .pure rfl

theorem enter_agree (admission : Admission) :
    Agree view Eq (enter admission) (enter admission) := by
  cases admission with
  | closed => exact (closedByServer_agree hview).bind fun _ _ he => .pure (congrArg _ he)
  | welcome | refused | other => exact .pure rfl

variable (hserver : server.Alike look N server')

include hserver

theorem awaitAnswer_agree :
    Agree view (SameTraffic look) (awaitAnswer server) (awaitAnswer server') := by
  refine (seen_agree hview).bind fun past past' hpast => ?_
  rw [hserver.latency hpast]
  cases server'.latency past' with
  | none => exact .never
  | some n => exact (Agree.sleep _).bind fun _ _ _ => .pure hpast

theorem approach_agree (ht : target.Alike look target') :
    Agree view Eq (approach server target) (approach server' target') := by
  obtain ⟨hhost, hport, -⟩ := ht.fields_eq
  refine (send_agree hview (by rw [hhost, hport])).bind fun _ _ _ =>
    (seen_agree hview).bind fun past past' hpast => ?_
  rw [hserver.approach hpast ht]
  cases server'.approach past' target' with
  | none => exact .never
  | some n => exact (Agree.sleep _).bind fun _ _ _ => .pure (hserver.refusal hpast ht)

theorem negotiate_agree (mode : SslMode) :
    Agree view Eq (negotiate server mode) (negotiate server' mode) := by
  unfold negotiate
  split
  · exact .pure rfl
  · refine (send_agree hview rfl).bind fun _ _ _ =>
      (awaitAnswer_agree hview hserver).bind fun past past' hpast => ?_
    rw [hserver.ssl hpast]
    cases server'.ssl past' with
    | closed => exact (send_agree hview rfl).bind fun _ _ _ => .pure rfl
    | _ => exact .pure rfl

theorem logIn_agree (ht : target.Alike look target') :
    Agree view Eq (logIn server target) (logIn server' target') := by
  obtain ⟨-, -, huser, hdatabase, -⟩ := ht.fields_eq
  refine (send_agree hview (by rw [huser, hdatabase])).bind fun _ _ _ =>
    (awaitAnswer_agree hview hserver).bind fun past past' hpast => ?_
  rw [hserver.login hpast]
  cases server'.login past' with
  | settled admission => exact enter_agree hview admission
  | passwordWanted =>
    refine (send_agree hview ht.password).bind fun _ _ _ =>
      (awaitAnswer_agree hview hserver).bind fun past past' hpast => ?_
    rw [hserver.verdict hpast]
    exact enter_agree hview _

theorem connect_agree (ht : target.Alike look target') :
    Agree view Eq (connect server target) (connect server' target') := by
  obtain ⟨-, -, -, -, hmode⟩ := ht.fields_eq
  refine (approach_agree hview hserver ht).bind ?_
  rintro refused _ rfl
  cases refused with
  | some e => exact .pure rfl
  | none =>
    refine (send_agree hview rfl).bind fun _ _ _ => ?_
    rw [hmode]
    refine (negotiate_agree hview hserver _).bind ?_
    rintro result _ rfl
    cases result with
    | error e => exact .pure rfl
    | ok => exact logIn_agree hview hserver ht

theorem execute_agree (text : String) :
    Agree view (fun a a' => SameOutcome N a.1 a'.1 ∧ a.2 = a'.2) (execute server text)
      (execute server' text) := by
  refine (send_agree hview rfl).bind fun _ _ _ =>
    (awaitAnswer_agree hview hserver).bind fun past past' hpast => ?_
  dsimp only
  rw [hserver.staysOpen hpast]
  cases Database.staysOpen (server'.reply past') with
  | true => exact .pure ⟨hserver.outcome hpast, rfl⟩
  | false =>
    exact (send_agree hview rfl).bind fun _ _ _ => .pure ⟨hserver.outcome hpast, rfl⟩

theorem close_agree (isOpen : Bool) :
    Agree view Eq (close server isOpen) (close server' isOpen) := by
  have hend : Agree view Eq (close server false) (close server' false) := by
    refine (seen_agree hview).bind fun past past' hpast => ?_
    rw [hserver.parting hpast]
    cases server'.parting past' with
    | none => exact .never
    | some n =>
      refine (Agree.sleep n).bind fun _ _ _ => ?_
      rw [hserver.closing hpast]
      cases server'.closing past' <;> exact .pure rfl
  cases isOpen with
  | false => exact hend
  | true => exact (send_agree hview rfl).bind fun _ _ _ => hend

theorem runQuery_agree {φ : Type} (ht : target.Alike look target') (text : String)
    (other fault : Error → φ) :
    Agree view (SameOutcome N) (runQuery server target text other fault)
      (runQuery server' target' text other fault) := by
  refine (connect_agree hview hserver ht).bind ?_
  rintro connected _ rfl
  cases connected with
  | error e => exact .pure (.error _)
  | ok =>
    refine (execute_agree hview hserver text).bind ?_
    rintro ⟨result, isOpen⟩ ⟨result', _⟩ ⟨hresult, rfl⟩
    refine (close_agree hview hserver isOpen).bind ?_
    rintro closed _ rfl
    cases hresult with
    | error e => exact .pure (.error _)
    | ok hrows =>
      cases closed with
      | error e => exact .pure (.error _)
      | ok => exact .pure (.ok hrows)

end Agree

end Database

namespace Bootstrapper

variable {δ : Type} {look : Database.Traffic → δ} {N : Nat → Nat → Prop}
  {server server' : Database.Server} {b b' : Bootstrapper}

/-- Bootstrappers look alike: they are equal but for the password, and so is what is sent of it. -/
structure Alike (look : Database.Traffic → δ) (b b' : Bootstrapper) : Prop where
  config : { b.config with password := "" } = { b'.config with password := "" }
  password : look (.password b.config.password) = look (.password b'.config.password)
  scriptPath : b.scriptPath = b'.scriptPath

theorem Alike.name (hb : b.Alike look b') : b.config.name = b'.config.name := by
  simpa using congrArg Config.name hb.config

theorem Alike.target (hb : b.Alike look b') (database : String) :
    (b.config.target database).Alike look (b'.config.target database) where
  same := congrArg (Config.target · database) hb.config
  password := hb.password

variable (hview : Database.Shows view look N) (hserver : server.Alike look N server')
  (hb : b.Alike look b')

include hview hserver hb

theorem createDatabase_agree :
    Agree view Eq (b.createDatabase server) (b'.createDatabase server') := by
  have hhost : b.config.host = b'.config.host := by simpa using congrArg Config.host hb.config
  have hstatement : b.statement = b'.statement := by simp only [statement, hb.name]
  unfold createDatabase
  rw [hstatement, hb.name]
  refine Agree.bind (Database.runQuery_agree hview hserver (hb.target _) _ _ _)
    fun result result' h => ?_
  cases h with
  | error f => exact .pure rfl
  | ok => exact (Agree.log (by rw [hhost])).bind fun _ _ _ => .pure rfl

theorem runScript_agree (script : String) :
    Agree view Eq (b.runScript server script) (b'.runScript server' script) := by
  have htarget : b.config.ownTarget.Alike look b'.config.ownTarget := by
    rw [Config.ownTarget, hb.name]
    exact hb.target _
  refine Agree.bind (Database.runQuery_agree hview hserver htarget _ _ _) fun result result' h => ?_
  cases h with
  | error f => exact .pure rfl
  | ok hrows =>
    refine (Agree.log ?_).bind fun _ _ _ => .pure rfl
    rw [hb.name]
    exact hview.view_rows hrows _

omit hview hserver in
theorem readScript_agree (files : Files) :
    Agree view Eq (b.readScript files) (b'.readScript files) := by
  refine Agree.now.bind ?_
  rintro start _ rfl
  rw [hb.scriptPath]
  cases files.latency start b'.scriptPath with
  | none => exact .never
  | some n =>
    refine (Agree.sleep n).bind fun _ _ _ => ?_
    cases files.content start b'.scriptPath with
    | error e => exact .pure rfl
    | ok bytes =>
      dsimp only
      cases Text.ofUtf8? bytes <;> exact .pure rfl

theorem bootstrap_agree (files : Files) :
    Agree view Eq (b.bootstrap server files) (b'.bootstrap server' files) := by
  refine (createDatabase_agree hview hserver hb).bind ?_
  rintro created _ rfl
  cases created with
  | error f => exact .pure rfl
  | ok =>
    refine (readScript_agree hb files).bind ?_
    rintro loaded _ rfl
    cases loaded with
    | error f => exact .pure rfl
    | ok script => exact runScript_agree hview hserver hb script

theorem provision_agree (files : Files) :
    Agree view Eq (b.provision server files) (b'.provision server' files) := by
  refine (bootstrap_agree hview hserver hb files).bind ?_
  rintro result _ rfl
  cases result with
  | error f => exact .pure rfl
  | ok => exact .pure (by rw [hb.name])

end Bootstrapper

end DatabaseResource
