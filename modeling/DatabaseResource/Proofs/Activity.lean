import DatabaseResource.Activity

/-!
# What activities do

The runs of the basic activities, the events that an activity can make happen (`Emits`), and what
comes of an activity that is cut at a deadline: either it is done by then and kept as it is
(`cutAt_of_doneBy`), or it is given up and a beginning of its events is kept
(`cutAt_of_not_doneBy`, `cutAt_events_isPrefix`).
-/

namespace DatabaseResource

/-- Steps are done by a deadline: they never wait, or they end by then. -/
def DoneBy (deadline start : Instant) (steps : List Step) : Prop :=
  waits steps = false ∨ start.nanos + elapsed steps ≤ deadline.nanos

theorem DoneBy.mono {d d' start : Instant} {steps : List Step} (h : DoneBy d start steps)
    (hd : d.nanos ≤ d'.nanos) : DoneBy d' start steps :=
  h.imp id fun h => Int.le_trans h hd

theorem DoneBy.of_append {d start : Instant} {a b : List Step} (h : DoneBy d start (a ++ b)) :
    DoneBy d start a := by
  rcases h with hw | hle
  · exact .inl (by simp_all [waits])
  · rw [elapsed_append] at hle
    exact .inr (by omega)

@[simp] theorem waits_nil : waits [] = false := rfl

@[simp] theorem waits_cons_event (e : Event) (steps : List Step) :
    waits (.event e :: steps) = waits steps := rfl

@[simp] theorem waits_cons_wait (n : Nat) (steps : List Step) :
    waits (.wait n :: steps) = true := rfl

@[simp] theorem waits_append (a b : List Step) : waits (a ++ b) = (waits a || waits b) := by
  simp [waits]

@[simp] theorem Moment.after_now (m : Moment) (steps : List Step) :
    (m.after steps).now = m.now.advance (elapsed steps) := rfl

@[simp] theorem Moment.after_events (m : Moment) (steps : List Step) :
    (m.after steps).events = m.events ++ eventsOf steps := rfl

@[simp] theorem Instant.advance_nanos (t : Instant) (n : Nat) :
    (t.advance n).nanos = t.nanos + n := rfl

/-! ### Views of events -/

@[simp] theorem exchanges_nil : exchanges [] = [] := rfl

@[simp] theorem exchanges_cons_exchange (x : Http.Exchange) (events : List Event) :
    exchanges (.exchange x :: events) = x :: exchanges events := rfl

@[simp] theorem exchanges_cons_composed (response : Response) (events : List Event) :
    exchanges (.composed response :: events) = exchanges events := rfl

@[simp] theorem calls_nil : calls [] = [] := rfl

@[simp] theorem calls_cons_exchange (x : Http.Exchange) (events : List Event) :
    calls (.exchange x :: events) = x.call?.toList ++ calls events := by
  cases x <;> rfl

@[simp] theorem traffic_nil : traffic [] = [] := rfl

@[simp] theorem traffic_cons_traffic (t : Database.Traffic) (events : List Event) :
    traffic (.traffic t :: events) = t :: traffic events := rfl

@[simp] theorem traffic_cons_log (context : Option Log.Context) (entry : Log.Entry)
    (events : List Event) : traffic (.log context entry :: events) = traffic events := rfl

@[simp] theorem traffic_cons_provisioning (events : List Event) :
    traffic (.provisioning :: events) = traffic events := rfl

@[simp] theorem compositions_nil : compositions [] = [] := rfl

@[simp] theorem compositions_cons_composed (response : Response) (events : List Event) :
    compositions (.composed response :: events) = response :: compositions events := rfl

@[simp] theorem traffic_logs (entries : List Log.Entry) :
    traffic (entries.map (.log none ·)) = [] := by
  simp [traffic, List.filterMap_map, Function.comp_def, Event.traffic?]

theorem exchanges_logs (entries : List Log.Entry) : exchanges (entries.map (.log none ·)) = [] := by
  simp [exchanges, List.filterMap_map, Function.comp_def, Event.exchange?]

theorem requests_logs (entries : List Log.Entry) :
    requests (entries.map (.log none ·)) = [] := by
  rw [requests, exchanges_logs, List.filter_nil]

theorem calls_logs (entries : List Log.Entry) : calls (entries.map (.log none ·)) = [] := by
  rw [calls, exchanges_logs, List.filterMap_nil]

@[simp] theorem logged_nil : logged [] = [] := rfl

@[simp] theorem logged_cons_log (context : Option Log.Context) (entry : Log.Entry)
    (events : List Event) :
    logged (.log context entry :: events) = (context, entry) :: logged events := rfl

@[simp] theorem logged_cons_composed (response : Response) (events : List Event) :
    logged (.composed response :: events) = logged events := rfl

theorem logged_logs (context : Option Log.Context) (entries : List Log.Entry) :
    logged (entries.map (.log context ·)) = entries.map (context, ·) := by
  simp [logged, List.filterMap_map, Function.comp_def, Event.log?]

@[simp] theorem exchanges_append (a b : List Event) :
    exchanges (a ++ b) = exchanges a ++ exchanges b := List.filterMap_append

@[simp] theorem calls_append (a b : List Event) : calls (a ++ b) = calls a ++ calls b := by
  simp [calls]

@[simp] theorem requests_append (a b : List Event) :
    requests (a ++ b) = requests a ++ requests b := by
  simp [requests]

@[simp] theorem traffic_append (a b : List Event) : traffic (a ++ b) = traffic a ++ traffic b :=
  List.filterMap_append

@[simp] theorem compositions_append (a b : List Event) :
    compositions (a ++ b) = compositions a ++ compositions b := List.filterMap_append

@[simp] theorem logged_append (a b : List Event) : logged (a ++ b) = logged a ++ logged b :=
  List.filterMap_append

theorem requests_isPrefix {a b : List Event} (h : a <+: b) : requests a <+: requests b :=
  (h.filterMap _).filter _

theorem compositions_eq_nil {events : List Event} (h : ∀ e ∈ events, e.composed? = none) :
    compositions events = [] :=
  List.filterMap_eq_nil_iff.mpr h

/-- A run with steps in front. -/
def Run.prepend {α : Type} (r : Run α) (steps : List Step) : Run α :=
  ⟨steps ++ r.steps, r.result⟩

@[simp] theorem Run.prepend_mk {α : Type} (a b : List Step) (o : Option α) :
    (Run.mk b o).prepend a = ⟨a ++ b, o⟩ := rfl

@[simp] theorem Run.prepend_nil {α : Type} (r : Run α) : r.prepend [] = r := rfl

@[simp] theorem Run.prepend_prepend {α : Type} (r : Run α) (a b : List Step) :
    (r.prepend b).prepend a = r.prepend (a ++ b) := by
  simp [Run.prepend]

@[simp] theorem Run.prepend_steps {α : Type} (r : Run α) (steps : List Step) :
    (r.prepend steps).steps = steps ++ r.steps := rfl

@[simp] theorem Run.prepend_result {α : Type} (r : Run α) (steps : List Step) :
    (r.prepend steps).result = r.result := rfl

namespace Activity

variable {α β ε φ : Type}

/-! ### Runs of the basic activities -/

@[simp] theorem emit_apply (e : Event) (m : Moment) : emit e m = ⟨[.event e], some ()⟩ := rfl

@[simp] theorem log_apply (entry : Log.Entry) (m : Moment) :
    log entry m = ⟨[.event (.log none entry)], some ()⟩ := rfl

@[simp] theorem sleep_apply (n : Nat) (m : Moment) : sleep n m = ⟨waitSteps n, some ()⟩ := rfl

@[simp] theorem timer_apply (n : Nat) (m : Moment) : timer n m = ⟨[.wait (n - 1)], some ()⟩ := rfl

@[simp] theorem never_apply (m : Moment) : (never m : Run α) = ⟨[], none⟩ := rfl

@[simp] theorem moment_apply (m : Moment) : moment m = ⟨[], some m⟩ := rfl

@[simp] theorem now_apply (m : Moment) : now m = ⟨[], some m.now⟩ := rfl

@[simp] theorem waits_waitSteps (n : Nat) : waits (waitSteps n) = decide (0 < n) := by
  cases n <;> simp [waitSteps]

theorem map_apply (f : α → β) (x : Activity α) (m : Moment) :
    (f <$> x) m = ⟨(x m).steps, (x m).result.map f⟩ := by
  show (x >>= fun a => pure (f a)) m = _
  rw [bind_apply]
  cases (x m).result <;> simp

/-- What follows on something that ends. -/
theorem bind_of_apply_eq {x : Activity α} {f : α → Activity β} {m : Moment} {steps : List Step}
    {a : α} (h : x m = ⟨steps, some a⟩) :
    (x >>= f) m = (f a (m.after steps)).prepend steps := by
  rw [bind_apply, h]
  rfl

@[simp] theorem pure_bind_apply (a : α) (f : α → Activity β) (m : Moment) :
    (pure a >>= f) m = f a m := by
  rw [pure_bind]

@[simp] theorem emit_bind_apply (e : Event) (f : Unit → Activity β) (m : Moment) :
    (emit e >>= f) m = (f () (m.after [.event e])).prepend [.event e] :=
  bind_of_apply_eq rfl

@[simp] theorem log_bind_apply (entry : Log.Entry) (f : Unit → Activity β) (m : Moment) :
    (log entry >>= f) m
      = (f () (m.after [.event (.log none entry)])).prepend [.event (.log none entry)] :=
  bind_of_apply_eq rfl

@[simp] theorem sleep_bind_apply (n : Nat) (f : Unit → Activity β) (m : Moment) :
    (sleep n >>= f) m = (f () (m.after (waitSteps n))).prepend (waitSteps n) :=
  bind_of_apply_eq rfl

@[simp] theorem timer_bind_apply (n : Nat) (f : Unit → Activity β) (m : Moment) :
    (timer n >>= f) m = (f () (m.after [.wait (n - 1)])).prepend [.wait (n - 1)] :=
  bind_of_apply_eq rfl

@[simp] theorem moment_bind_apply (f : Moment → Activity β) (m : Moment) :
    (moment >>= f) m = f m m :=
  (bind_of_apply_eq rfl).trans (by simp)

@[simp] theorem now_bind_apply (f : Instant → Activity β) (m : Moment) :
    (now >>= f) m = f m.now m :=
  (bind_of_apply_eq rfl).trans (by simp)

@[simp] theorem never_bind_apply (f : α → Activity β) (m : Moment) :
    (never >>= f) m = ⟨[], none⟩ := rfl

/-! ### Cutting at a deadline -/

/-- What is done by the deadline is kept as it is. -/
theorem cutAt_of_doneBy {x : Activity α} {deadline : Instant} {m : Moment} {a : α}
    (hr : (x m).result = some a) (hd : DoneBy deadline m.now (x m).steps) :
    x.cutAt deadline m = ⟨(x m).steps, some (some a)⟩ := by
  have hcut := (cut_eq_false_iff deadline m.now (x m).steps).mpr hd
  have hkept := cut_eq_self hcut
  simp only [cutAt, hcut, hkept, hr]
  rfl

/-- What is not done by the deadline is given up. -/
theorem cutAt_of_not_doneBy {x : Activity α} {deadline : Instant} {m : Moment}
    (h : (x m).result = none ∨ ¬ DoneBy deadline m.now (x m).steps) :
    x.cutAt deadline m = ⟨(x.cutAt deadline m).steps, some none⟩ := by
  by_cases hcut : (cutSteps deadline m.now (x m).steps).2 = true
  · simp [cutAt, hcut]
  · have hd := (cut_eq_false_iff deadline m.now (x m).steps).mp (by simpa using hcut)
    have hr : (x m).result = none := h.resolve_right fun hn => hn hd
    simp [cutAt, hcut, hr]

theorem cutAt_cases (x : Activity α) (deadline : Instant) (m : Moment) :
    (∃ a, (x m).result = some a ∧ DoneBy deadline m.now (x m).steps ∧
      x.cutAt deadline m = ⟨(x m).steps, some (some a)⟩) ∨
    (((x m).result = none ∨ ¬ DoneBy deadline m.now (x m).steps) ∧
      x.cutAt deadline m = ⟨(x.cutAt deadline m).steps, some none⟩) := by
  by_cases hd : DoneBy deadline m.now (x m).steps
  · cases hr : (x m).result with
    | some a => exact .inl ⟨a, rfl, hd, cutAt_of_doneBy hr hd⟩
    | none => exact .inr ⟨.inl rfl, cutAt_of_not_doneBy (.inl hr)⟩
  · exact .inr ⟨.inr hd, cutAt_of_not_doneBy (.inr hd)⟩

/-- The steps of an activity that is cut: those kept, and a wait for the deadline where the
activity never ends. -/
theorem cutAt_steps (x : Activity α) (deadline : Instant) (m : Moment) :
    ∃ n, (x.cutAt deadline m).steps
        = (cutSteps deadline m.now (x m).steps).1 ++ waitSteps n ∧
      (n : Int) ≤ max 0 (deadline.nanos - m.now.nanos
        - elapsed (cutSteps deadline m.now (x m).steps).1) := by
  by_cases hcut : (cutSteps deadline m.now (x m).steps).2 = true
  · exact ⟨0, by simp [cutAt, hcut, waitSteps], by omega⟩
  · cases hr : (x m).result with
    | some a => exact ⟨0, by simp [cutAt, hcut, hr, waitSteps], by omega⟩
    | none =>
      refine ⟨_, by simp only [cutAt, hcut, hr]; rfl, ?_⟩
      rw [Moment.after_now, Instant.advance_nanos]
      omega

theorem cutAt_events (x : Activity α) (deadline : Instant) (m : Moment) :
    eventsOf (x.cutAt deadline m).steps
      = eventsOf (cutSteps deadline m.now (x m).steps).1 := by
  obtain ⟨n, hsteps, -⟩ := cutAt_steps x deadline m
  rw [hsteps, eventsOf_append, eventsOf_waitSteps, List.append_nil]

/-- What happens by the cut is a beginning of what would have happened. -/
theorem cutAt_events_isPrefix (x : Activity α) (deadline : Instant) (m : Moment) :
    eventsOf (x.cutAt deadline m).steps <+: eventsOf (x m).steps :=
  cutAt_events x deadline m ▸ cut_events_isPrefix deadline m.now (x m).steps

/-- Behind a cut nothing is kept. -/
theorem cutSteps_append_of_cut {deadline start : Instant} {a : List Step} (b : List Step)
    (h : (cutSteps deadline start a).2 = true) :
    cutSteps deadline start (a ++ b) = cutSteps deadline start a := by
  induction a generalizing start with
  | nil => simp [cutSteps] at h
  | cons s a ih =>
    cases s with
    | event e => simp [cutSteps, ih (by simpa [cutSteps] using h)]
    | wait n =>
      simp only [cutSteps, List.cons_append] at h ⊢
      split at h
      next hle => simp [hle, ih h]
      next hlate => simp [hlate]

/-- Of steps that begin with what is not done by the deadline, no more than that is kept. -/
theorem cutAt_events_isPrefix_of_late {x : Activity α} {deadline : Instant} {m : Moment}
    {a b : List Step} (hsteps : (x m).steps = a ++ b) (hlate : ¬ DoneBy deadline m.now a) :
    eventsOf (x.cutAt deadline m).steps <+: eventsOf a := by
  have hcut : (cutSteps deadline m.now a).2 = true := by
    rw [← Bool.not_eq_false]
    exact fun h => hlate ((cut_eq_false_iff deadline m.now a).mp h)
  rw [cutAt_events, hsteps, cutSteps_append_of_cut b hcut]
  exact cut_events_isPrefix deadline m.now a

/-- A later deadline keeps no less. -/
theorem cutSteps_events_mono {d d' : Instant} (hd : d.nanos ≤ d'.nanos) (start : Instant)
    (steps : List Step) :
    eventsOf (cutSteps d start steps).1 <+: eventsOf (cutSteps d' start steps).1 := by
  induction steps generalizing start with
  | nil => simp [cutSteps]
  | cons s steps ih =>
    cases s with
    | event e => simpa [cutSteps] using ih start
    | wait n =>
      simp only [cutSteps]
      by_cases hle : start.nanos + (n + 1) ≤ d.nanos
      · simpa [hle, Int.le_trans hle hd] using ih (start.advance (n + 1))
      · simp [hle]

theorem cutAt_events_mono (x : Activity α) {d d' : Instant} (hd : d.nanos ≤ d'.nanos)
    (m : Moment) :
    eventsOf (x.cutAt d m).steps <+: eventsOf (x.cutAt d' m).steps := by
  rw [cutAt_events, cutAt_events]
  exact cutSteps_events_mono hd m.now (x m).steps

/-- A cut activity takes no longer than until the deadline. -/
theorem elapsed_cutAt_le (x : Activity α) (deadline : Instant) (m : Moment) :
    m.now.nanos + elapsed (x.cutAt deadline m).steps ≤ max m.now.nanos deadline.nanos := by
  obtain ⟨n, hsteps, hn⟩ := cutAt_steps x deadline m
  have hkept := elapsed_cut_le deadline m.now (x m).steps
  rw [hsteps, elapsed_append, elapsed_waitSteps]
  omega

/-! ### The events that an activity can make happen -/

/-- Whatever an activity makes happen satisfies `P`. -/
def Emits (P : Event → Prop) (x : Activity α) : Prop := ∀ m, ∀ e ∈ eventsOf (x m).steps, P e

variable {P : Event → Prop}

namespace Emits

protected theorem pure (a : α) : Emits P (pure a) := fun _ _ he => nomatch he

protected theorem bind {x : Activity α} {f : α → Activity β} (hx : Emits P x)
    (hf : ∀ a, Emits P (f a)) : Emits P (x >>= f) := by
  intro m e he
  cases hr : (x m).result with
  | none =>
    rw [bind_apply_of_none hr] at he
    exact hx m e he
  | some a =>
    rw [bind_apply_of_some hr, eventsOf_append] at he
    exact (List.mem_append.mp he).elim (hx m e) (hf a _ e)

theorem emit {e : Event} (h : P e) : Emits P (emit e) := by
  intro m e' he
  rw [emit_apply, eventsOf_cons_event] at he
  cases List.mem_singleton.mp he
  exact h

theorem log {entry : Log.Entry} (h : P (.log none entry)) : Emits P (log entry) := emit h

theorem sleep (n : Nat) : Emits P (sleep n) := by
  intro m e he
  simp at he

theorem never : Emits P (never : Activity α) := fun _ _ he => nomatch he

theorem moment : Emits P moment := fun _ _ he => nomatch he

theorem now : Emits P now := fun _ _ he => nomatch he

theorem cutAt {x : Activity α} (h : Emits P x) (deadline : Instant) :
    Emits P (x.cutAt deadline) :=
  fun m e he => h m e ((cutAt_events_isPrefix x deadline m).subset he)

end Emits

end Activity

end DatabaseResource
