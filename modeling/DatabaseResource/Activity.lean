import DatabaseResource.Event
import DatabaseResource.Time.Instant

/-!
# Activities

An activity is what the resource does from some moment on: events and waits, in order, and what
comes of them. It knows the time and all events before it, so that a world may answer by what it
has seen. `cutAt` gives up on an activity at a deadline: it is kept whole if it does not wait or
is done by then (`cut_eq_false_iff`), and what has happened by the cut is a beginning of what would
have happened (`cut_events_isPrefix`).
-/

namespace DatabaseResource

/-- An event, or a wait of `more + 1` nanoseconds: no wait is over at once. -/
inductive Step where
  | event (e : Event)
  | wait (more : Nat)
deriving DecidableEq, Repr

namespace Step

def event? : Step → Option Event
  | event e => some e
  | wait _ => none

def duration : Step → Nat
  | event _ => 0
  | wait more => more + 1

end Step

/-- The events among steps. -/
def eventsOf (steps : List Step) : List Event := steps.filterMap Step.event?

/-- How long steps take. -/
def elapsed (steps : List Step) : Nat := steps.foldr (fun s time => s.duration + time) 0

/-- Whether a step makes the others wait. -/
def waits (steps : List Step) : Bool := steps.any fun s => s matches .wait _

@[simp] theorem eventsOf_nil : eventsOf [] = [] := rfl

@[simp] theorem eventsOf_append (a b : List Step) :
    eventsOf (a ++ b) = eventsOf a ++ eventsOf b := by
  simp [eventsOf]

@[simp] theorem eventsOf_cons_event (e : Event) (steps : List Step) :
    eventsOf (.event e :: steps) = e :: eventsOf steps := by
  simp [eventsOf, Step.event?]

@[simp] theorem eventsOf_cons_wait (n : Nat) (steps : List Step) :
    eventsOf (.wait n :: steps) = eventsOf steps := by
  simp [eventsOf, List.filterMap_cons, Step.event?]

@[simp] theorem elapsed_nil : elapsed [] = 0 := rfl

@[simp] theorem elapsed_cons_event (e : Event) (steps : List Step) :
    elapsed (.event e :: steps) = elapsed steps :=
  Nat.zero_add _

@[simp] theorem elapsed_cons_wait (n : Nat) (steps : List Step) :
    elapsed (.wait n :: steps) = n + 1 + elapsed steps := rfl

@[simp] theorem elapsed_append (a b : List Step) : elapsed (a ++ b) = elapsed a + elapsed b := by
  induction a with
  | nil => simp
  | cons s a ih => cases s <;> simp [ih, Nat.add_assoc]

theorem elapsed_of_not_waits {steps : List Step} (h : waits steps = false) :
    elapsed steps = 0 := by
  induction steps with
  | nil => rfl
  | cons s steps ih =>
    cases s with
    | event e => simpa [waits] using ih (by simpa [waits] using h)
    | wait n => simp [waits] at h

/-- The moment at which something begins: the time, and all events before. -/
structure Moment where
  now : Instant
  events : List Event
deriving Inhabited

/-- The moment at which steps are done. -/
def Moment.after (m : Moment) (steps : List Step) : Moment :=
  ⟨m.now.advance (elapsed steps), m.events ++ eventsOf steps⟩

@[simp] theorem Moment.after_nil (m : Moment) : m.after [] = m := by
  simp [Moment.after]

theorem Moment.after_append (m : Moment) (a b : List Step) :
    m.after (a ++ b) = (m.after a).after b := by
  simp [Moment.after, Instant.advance_advance]

/-- What happens in an activity, and what comes of it: `none` if it never ends. -/
structure Run (α : Type) where
  steps : List Step
  result : Option α

def Activity (α : Type) := Moment → Run α

namespace Activity

variable {α β γ : Type}

/-- Ends at once. -/
protected def pure (a : α) : Activity α := fun _ => ⟨[], some a⟩

/-- One activity after another; the second may depend on what came of the first. -/
protected def bind (x : Activity α) (f : α → Activity β) : Activity β := fun m =>
  let r := x m
  match r.result with
  | none => ⟨r.steps, none⟩
  | some a =>
    let r' := f a (m.after r.steps)
    ⟨r.steps ++ r'.steps, r'.result⟩

instance : Monad Activity where
  pure := Activity.pure
  bind := Activity.bind

/-- Something that happens. -/
def emit (e : Event) : Activity Unit := fun _ => ⟨[.event e], some ()⟩

/-- Something to log. -/
def log (entry : Log.Entry) : Activity Unit := emit (.log none entry)

/-- A wait of a number of nanoseconds; none at all if there are none. -/
def waitSteps : Nat → List Step
  | 0 => []
  | more + 1 => [.wait more]

/-- Sleeps for a number of nanoseconds. -/
def sleep (nanos : Nat) : Activity Unit := fun _ => ⟨waitSteps nanos, some ()⟩

/-- Waits for a timer of a number of nanoseconds: it is not over at once, even if there are none. -/
def timer (nanos : Nat) : Activity Unit := fun _ => ⟨[.wait (nanos - 1)], some ()⟩

/-- Waits for ever. -/
def never : Activity α := fun _ => ⟨[], none⟩

/-- The moment. -/
def moment : Activity Moment := fun m => ⟨[], some m⟩

/-- The time. -/
def now : Activity Instant := fun m => ⟨[], some m.now⟩

/-- The same activity with a context for what it logs. -/
def within (context : Log.Context) (x : Activity α) : Activity α := fun m =>
  let r := x m
  ⟨r.steps.map fun
    | .event e => .event (e.within context)
    | s => s, r.result⟩

/-- Steps up to a deadline, and whether they were cut: a wait that ends behind the deadline is
given up there. -/
def cutSteps (deadline : Instant) (now : Instant) : List Step → List Step × Bool
  | [] => ([], false)
  | .event e :: steps =>
    let (kept, cut) := cutSteps deadline now steps
    (.event e :: kept, cut)
  | .wait n :: steps =>
    if now.nanos + (n + 1) ≤ deadline.nanos then
      let (kept, cut) := cutSteps deadline (now.advance (n + 1)) steps
      (.wait n :: kept, cut)
    else (waitSteps (deadline.nanos - now.nanos).toNat, true)

/-- What comes of an activity by a deadline; `none` if it has to be given up then. -/
def cutAt (deadline : Instant) (x : Activity α) : Activity (Option α) := fun m =>
  let r := x m
  let (kept, cut) := cutSteps deadline m.now r.steps
  if cut then ⟨kept, some none⟩
  else
    match r.result with
    | some a => ⟨kept, some (some a)⟩
    | none =>
      ⟨kept ++ waitSteps (deadline.nanos - (m.after kept).now.nanos).toNat, some none⟩

/-! ## Laws -/

@[simp] theorem pure_apply (a : α) (m : Moment) : (pure a : Activity α) m = ⟨[], some a⟩ := rfl

theorem bind_apply (x : Activity α) (f : α → Activity β) (m : Moment) :
    (x >>= f) m =
      match (x m).result with
      | none => ⟨(x m).steps, none⟩
      | some a =>
        ⟨(x m).steps ++ (f a (m.after (x m).steps)).steps,
          (f a (m.after (x m).steps)).result⟩ := rfl

theorem bind_apply_of_some {x : Activity α} {f : α → Activity β} {m : Moment} {a : α}
    (h : (x m).result = some a) :
    (x >>= f) m = ⟨(x m).steps ++ (f a (m.after (x m).steps)).steps,
      (f a (m.after (x m).steps)).result⟩ := by
  simp [bind_apply, h]

theorem bind_apply_of_none {x : Activity α} {f : α → Activity β} {m : Moment}
    (h : (x m).result = none) : (x >>= f) m = ⟨(x m).steps, none⟩ := by
  simp [bind_apply, h]

private theorem id_map_activity (x : Activity α) : id <$> x = x := by
  funext m
  show (x >>= fun a => pure (id a)) m = x m
  rw [bind_apply]
  cases h : (x m).result <;> simp <;> cases hx : x m <;> simp_all

private theorem pure_bind_activity (a : α) (f : α → Activity β) : pure a >>= f = f a := by
  funext m
  simp [bind_apply]

private theorem bind_assoc_activity (x : Activity α) (f : α → Activity β) (g : β → Activity γ) :
    x >>= f >>= g = x >>= fun a => f a >>= g := by
  funext m
  simp only [bind_apply]
  cases (x m).result with
  | none => rfl
  | some a =>
    simp only
    cases (f a (m.after (x m).steps)).result <;> simp [Moment.after_append]

instance : LawfulMonad Activity :=
  LawfulMonad.mk' Activity id_map_activity pure_bind_activity bind_assoc_activity

@[simp] theorem eventsOf_waitSteps (n : Nat) : eventsOf (waitSteps n) = [] := by
  cases n <;> simp [waitSteps]

@[simp] theorem elapsed_waitSteps (n : Nat) : elapsed (waitSteps n) = n := by
  cases n <;> simp [waitSteps]

/-- What is kept is a beginning of what would have happened. -/
theorem cut_events_isPrefix (deadline now : Instant) (steps : List Step) :
    eventsOf (cutSteps deadline now steps).1 <+: eventsOf steps := by
  induction steps generalizing now with
  | nil => simp [cutSteps]
  | cons s steps ih =>
    cases s with
    | event e => simpa [cutSteps] using ih now
    | wait n =>
      simp only [cutSteps]
      split
      · simpa using ih (now.advance (n + 1))
      · simp

/-- Steps are kept whole exactly if they do not wait or are done by the deadline. -/
theorem cut_eq_false_iff (deadline now : Instant) (steps : List Step) :
    (cutSteps deadline now steps).2 = false
      ↔ waits steps = false ∨ now.nanos + elapsed steps ≤ deadline.nanos := by
  induction steps generalizing now with
  | nil => simp [cutSteps, waits]
  | cons s steps ih =>
    cases s with
    | event e => simpa [cutSteps, waits] using ih now
    | wait n =>
      simp only [cutSteps]
      split
      next h =>
        simp only [ih, Instant.advance, elapsed_cons_wait]
        constructor
        · rintro (hw | hle)
          · right
            rw [elapsed_of_not_waits hw]
            omega
          · right
            omega
        · rintro (hw | hle)
          · simp [waits] at hw
          · right
            omega
      next h =>
        simp only [elapsed_cons_wait, Bool.true_eq_false, false_iff, not_or]
        exact ⟨by simp [waits], by omega⟩

/-- Steps that are not cut are all kept. -/
theorem cut_eq_self {deadline now : Instant} {steps : List Step}
    (h : (cutSteps deadline now steps).2 = false) : (cutSteps deadline now steps).1 = steps := by
  induction steps generalizing now with
  | nil => rfl
  | cons s steps ih =>
    cases s with
    | event e => simpa [cutSteps] using ih (by simpa [cutSteps] using h)
    | wait n =>
      simp only [cutSteps] at h ⊢
      split at h
      next hle => simpa [hle] using ih h
      next => simp at h

/-- What is kept is done by the deadline, or takes no time. -/
theorem elapsed_cut_le (deadline now : Instant) (steps : List Step) :
    (elapsed (cutSteps deadline now steps).1 : Int) ≤ max 0 (deadline.nanos - now.nanos) := by
  induction steps generalizing now with
  | nil =>
    rw [cutSteps, elapsed_nil]
    omega
  | cons s steps ih =>
    cases s with
    | event e => simpa [cutSteps] using ih now
    | wait n =>
      simp only [cutSteps]
      split
      next h =>
        have := ih (now.advance (n + 1))
        simp only [Instant.advance, elapsed_cons_wait] at this ⊢
        omega
      next h =>
        simp only [elapsed_waitSteps]
        omega

end Activity

end DatabaseResource
