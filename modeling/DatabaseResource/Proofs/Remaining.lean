import DatabaseResource.Proofs.Journal

/-!
# The time that is left, in words

A deadline is a number of 64 bits, and so are the seconds of a clock or a span; nanoseconds have 32.
`remainingInWords?` computes the time that is left in such words, and gives nothing once a value
does not fit into its word. It gives the time that is left, for all deadlines and clocks
(`remainingInWords?_eq`), and an instant with half of the clock's range before it has this instant
(`exists_after_remaining`). So no invocation is without its deadline
(`remaining_is_exact_and_fits`).
-/

namespace DatabaseResource

/-! ### Words -/

/-- A value in a word without a sign, if it is one of so many that the word can have. -/
def word? (size : Nat) (value : Int) : Option Nat :=
  if 0 ≤ value ∧ value < size then some value.toNat else none

theorem word?_eq_some {size n : Nat} {value : Int} (hvalue : value = n) (h : n < size) :
    word? size value = some n := by
  rw [word?, hvalue, if_pos ⟨Int.natCast_nonneg n, Int.ofNat_lt.mpr h⟩, Int.toNat_natCast]

namespace Span

/-- Seconds and nanoseconds. -/
def words (s : Span) : Nat × Nat := (s.seconds, s.nanos)

/-- Seconds and nanoseconds of a number of milliseconds. -/
def ofMillisInWords? (millis : Nat) : Option (Nat × Nat) := do
  let seconds ← word? UInt64.size (millis / 1000 : Nat)
  let part ← word? UInt32.size (millis % 1000 : Nat)
  let nanos ← word? UInt32.size (part * 1000000 : Nat)
  return (seconds, nanos)

/-- What is left when seconds and nanoseconds are taken from others: the seconds first, of which one
is borrowed where the nanoseconds do not suffice. Nothing is left if there are not as many. -/
def saturatingSubInWords? (seconds nanos taken takenNanos : Nat) : Option (Nat × Nat) :=
  if seconds < taken then some (0, 0)
  else do
    let left ← word? UInt64.size (seconds - taken)
    if takenNanos ≤ nanos then
      let nanos ← word? UInt32.size (nanos - takenNanos)
      return (left, nanos)
    else if left = 0 then return (0, 0)
    else
      let left ← word? UInt64.size (left - 1)
      let borrowed ← word? UInt32.size (nanos + perSecond)
      let nanos ← word? UInt32.size (borrowed - takenNanos)
      return (left, nanos)

theorem words_eq {s : Span} {seconds nanos : Nat} (hlt : nanos < perSecond)
    (h : s.toNanos = seconds * perSecond + nanos) : s.words = (seconds, nanos) := by
  have hnanos := s.nanos_lt
  simp only [toNanos, perSecond] at h hlt
  obtain ⟨hseconds, hrest⟩ : s.seconds = seconds ∧ s.nanos = nanos := by omega
  rw [words, hseconds, hrest]

theorem words_of_toNanos_eq_zero {s : Span} (h : s.toNanos = 0) : s.words = (0, 0) := by
  rw [← Nat.zero_mul perSecond] at h
  exact words_eq (by decide) h

theorem ofMillisInWords?_eq {millis : Nat} (h : millis < UInt64.size) :
    ofMillisInWords? millis = some (ofMillis millis).words := by
  have hsize : UInt32.size = 4294967296 := rfl
  have hseconds : word? UInt64.size (millis / 1000 : Nat) = some (millis / 1000) :=
    word?_eq_some rfl (by omega)
  have hpart : word? UInt32.size (millis % 1000 : Nat) = some (millis % 1000) :=
    word?_eq_some rfl (by omega)
  have hnanos : word? UInt32.size (millis % 1000 * 1000000 : Nat)
      = some (millis % 1000 * 1000000) :=
    word?_eq_some rfl (by omega)
  unfold ofMillisInWords?
  rw [hseconds, Option.bind_eq_bind, Option.bind_some]
  rw [hpart, Option.bind_some]
  rw [hnanos, Option.bind_some]
  rfl

theorem saturatingSubInWords?_eq {a : Span} (ha : a.seconds < UInt64.size) (b : Span) :
    saturatingSubInWords? a.seconds a.nanos b.seconds b.nanos
      = some (a.saturatingSub b).words := by
  have hsize : UInt32.size = 4294967296 := rfl
  have hlt := a.nanos_lt
  have hlt' := b.nanos_lt
  have hleft := toNanos_saturatingSub a b
  simp only [toNanos, perSecond] at hleft
  unfold saturatingSubInWords?
  by_cases hless : a.seconds < b.seconds
  · have hnothing : (a.saturatingSub b).words = (0, 0) :=
      words_of_toNanos_eq_zero (by simp only [toNanos, perSecond]; omega)
    rw [if_pos hless, hnothing]
  have hseconds : word? UInt64.size (a.seconds - b.seconds) = some (a.seconds - b.seconds) :=
    word?_eq_some (by omega) (by omega)
  rw [if_neg hless, hseconds, Option.bind_eq_bind, Option.bind_some]
  by_cases henough : b.nanos ≤ a.nanos
  · have hnanos : word? UInt32.size (a.nanos - b.nanos) = some (a.nanos - b.nanos) :=
      word?_eq_some (by omega) (by omega)
    have hrest : (a.saturatingSub b).words = (a.seconds - b.seconds, a.nanos - b.nanos) :=
      words_eq (by simp only [perSecond]; omega) (by simp only [toNanos, perSecond]; omega)
    rw [if_pos henough, hnanos, Option.bind_some, hrest, Option.pure_def]
  rw [if_neg henough]
  by_cases hnone : a.seconds - b.seconds = 0
  · have hnothing : (a.saturatingSub b).words = (0, 0) :=
      words_of_toNanos_eq_zero (by simp only [toNanos, perSecond]; omega)
    rw [if_pos hnone, hnothing, Option.pure_def]
  · have hborrowing : word? UInt64.size ((a.seconds - b.seconds : Nat) - 1)
        = some (a.seconds - b.seconds - 1) :=
      word?_eq_some (by omega) (by omega)
    have hborrowed : word? UInt32.size (a.nanos + perSecond) = some (a.nanos + perSecond) :=
      word?_eq_some rfl (by simp only [perSecond]; omega)
    have hnanos : word? UInt32.size ((a.nanos + perSecond : Nat) - b.nanos)
        = some (a.nanos + perSecond - b.nanos) :=
      word?_eq_some (by simp only [perSecond]; omega) (by simp only [perSecond]; omega)
    have hrest : (a.saturatingSub b).words
        = (a.seconds - b.seconds - 1, a.nanos + perSecond - b.nanos) :=
      words_eq (by simp only [perSecond]; omega) (by simp only [toNanos, perSecond]; omega)
    rw [if_neg hnone, hborrowing, Option.bind_some]
    rw [hborrowed, Option.bind_some]
    rw [hnanos, Option.bind_some, hrest, Option.pure_def]

end Span

/-! ### The time that is left -/

/-- What the system's clock shows: seconds since the epoch, of 64 bits with a sign, and nanoseconds
behind them. -/
structure ClockReading where
  seconds : Int64
  nanos : Nat
  nanos_lt : nanos < 1000000000

namespace ClockReading

/-- The signed number of nanoseconds since the epoch. -/
def toNanos (t : ClockReading) : Int := t.seconds.toInt * 1000000000 + t.nanos

/-- The time that is shown. -/
def wallTime (t : ClockReading) : WallTime :=
  if 0 ≤ t.seconds.toInt then .after ⟨t.seconds.toInt.toNat, t.nanos, t.nanos_lt⟩
  else .before (.ofNanos (-t.toNanos).toNat)

/-- Seconds and nanoseconds until the epoch, of an earlier time. A second is borrowed where there
are nanoseconds. -/
def untilEpochInWords? (t : ClockReading) : Option (Nat × Nat) :=
  if t.nanos = 0 then do
    let seconds ← word? UInt64.size (-t.seconds.toInt)
    return (seconds, 0)
  else do
    let seconds ← word? UInt64.size (-t.seconds.toInt - 1)
    let nanos ← word? UInt32.size (Span.perSecond - t.nanos)
    return (seconds, nanos)

/-- Seconds and nanoseconds since the epoch. Where the clock shows an earlier time there are none,
but first it is computed how much earlier it is. -/
def sinceEpochInWords? (t : ClockReading) : Option (Nat × Nat) :=
  if 0 ≤ t.seconds.toInt then do
    let seconds ← word? UInt64.size t.seconds.toInt
    let nanos ← word? UInt32.size t.nanos
    return (seconds, nanos)
  else do
    let _ ← t.untilEpochInWords?
    return (0, 0)

theorem toNanos_wallTime (t : ClockReading) : t.wallTime.toNanos = t.toNanos := by
  have hlt := t.nanos_lt
  unfold wallTime
  split
  next h =>
    simp only [WallTime.toNanos, Span.toNanos, toNanos, Span.perSecond]
    omega
  next h =>
    rw [WallTime.toNanos, Span.toNanos_ofNanos]
    simp only [toNanos]
    omega

theorem untilEpochInWords?_eq {t : ClockReading} (h : t.seconds.toInt < 0) :
    t.untilEpochInWords? = some (Span.ofNanos (-t.toNanos).toNat).words := by
  have hsize : UInt32.size = 4294967296 ∧ UInt64.size = 18446744073709551616 := ⟨rfl, rfl⟩
  have hmin := t.seconds.le_toInt
  have hlt := t.nanos_lt
  have huntil := Span.toNanos_ofNanos (-t.toNanos).toNat
  simp only [toNanos] at huntil
  unfold untilEpochInWords?
  by_cases hwhole : t.nanos = 0
  · have hseconds : word? UInt64.size (-t.seconds.toInt) = some (-t.seconds.toInt).toNat :=
      word?_eq_some (by omega) (by omega)
    have hwords : (Span.ofNanos (-t.toNanos).toNat).words = ((-t.seconds.toInt).toNat, 0) :=
      Span.words_eq (by decide) (huntil.trans (by simp only [Span.perSecond]; omega))
    rw [if_pos hwhole, hseconds, Option.bind_eq_bind, Option.bind_some, hwords, Option.pure_def]
  · have hseconds : word? UInt64.size (-t.seconds.toInt - 1)
        = some (-t.seconds.toInt - 1).toNat :=
      word?_eq_some (by omega) (by omega)
    have hnanos : word? UInt32.size (Span.perSecond - t.nanos) = some (Span.perSecond - t.nanos) :=
      word?_eq_some (by simp only [Span.perSecond]; omega) (by simp only [Span.perSecond]; omega)
    have hwords : (Span.ofNanos (-t.toNanos).toNat).words
        = ((-t.seconds.toInt - 1).toNat, Span.perSecond - t.nanos) :=
      Span.words_eq (by simp only [Span.perSecond]; omega)
        (huntil.trans (by simp only [Span.perSecond]; omega))
    rw [if_neg hwhole, hseconds, Option.bind_eq_bind, Option.bind_some]
    rw [hnanos, Option.bind_some, hwords, Option.pure_def]

theorem sinceEpochInWords?_eq (t : ClockReading) :
    t.sinceEpochInWords? = some t.wallTime.sinceEpoch.words := by
  have hsize : UInt32.size = 4294967296 ∧ UInt64.size = 18446744073709551616 := ⟨rfl, rfl⟩
  have hmax := t.seconds.toInt_lt
  have hlt := t.nanos_lt
  unfold sinceEpochInWords? wallTime
  by_cases h : 0 ≤ t.seconds.toInt
  · have hseconds : word? UInt64.size t.seconds.toInt = some t.seconds.toInt.toNat :=
      word?_eq_some (by omega) (by omega)
    have hnanos : word? UInt32.size t.nanos = some t.nanos := word?_eq_some rfl (by omega)
    rw [if_pos h, if_pos h, hseconds, Option.bind_eq_bind, Option.bind_some]
    rw [hnanos, Option.bind_some]
    rfl
  · rw [if_neg h, if_neg h, untilEpochInWords?_eq (Int.not_le.mp h), Option.bind_eq_bind,
      Option.bind_some]
    rfl

end ClockReading

/-- The time until a deadline, in words. -/
def remainingInWords? (deadlineMillis : UInt64) (now : ClockReading) : Option (Nat × Nat) := do
  let now ← now.sinceEpochInWords?
  let deadline ← Span.ofMillisInWords? deadlineMillis.toNat
  Span.saturatingSubInWords? deadline.1 deadline.2 now.1 now.2

theorem remainingInWords?_eq (deadlineMillis : UInt64) (now : ClockReading) :
    remainingInWords? deadlineMillis now
      = some (remaining deadlineMillis.toNat now.wallTime).words := by
  have hdeadline := deadlineMillis.toNat_lt_size
  have hseconds : (Span.ofMillis deadlineMillis.toNat).seconds < UInt64.size := by
    simp only [Span.ofMillis]
    omega
  unfold remainingInWords?
  rw [now.sinceEpochInWords?_eq, Option.bind_eq_bind, Option.bind_some,
    Span.ofMillisInWords?_eq hdeadline, Option.bind_some]
  exact Span.saturatingSubInWords?_eq hseconds now.wallTime.sinceEpoch

theorem remaining_antitone (deadlineMillis : Nat) {now later : WallTime}
    (h : now.toNanos ≤ later.toNanos) :
    (remaining deadlineMillis later).toNanos ≤ (remaining deadlineMillis now).toNanos := by
  have hnow := toNanos_remaining deadlineMillis now
  have hlater := toNanos_remaining deadlineMillis later
  omega

theorem remaining_mono {deadlineMillis laterMillis : Nat} (h : deadlineMillis ≤ laterMillis)
    (now : WallTime) :
    (remaining deadlineMillis now).toNanos ≤ (remaining laterMillis now).toNanos := by
  rw [toNanos_remaining_eq, toNanos_remaining_eq]
  omega

/-! ### The instant of a deadline -/

/-- The seconds that the monotonic clock shows. -/
def Instant.seconds (t : Instant) : Int := t.nanos / Span.perSecond

/-- The monotonic clock shows seconds of 64 bits with a sign. -/
theorem Instant.exists_iff {t : Instant} :
    Exists t.nanos ↔ Int64.minValue.toInt ≤ t.seconds ∧ t.seconds ≤ Int64.maxValue.toInt := by
  have hreach : reach = 9223372036854775808 * 1000000000 := rfl
  have hmin : Int64.minValue.toInt = -9223372036854775808 := rfl
  have hmax : Int64.maxValue.toInt = 9223372036854775807 := rfl
  simp only [Exists, seconds, Span.perSecond]
  omega

/-- An instant that leaves half of the clock's seconds has an instant for every deadline. -/
theorem exists_after_remaining {t : Instant} (hexists : Instant.Exists t.nanos)
    (hroom : t.seconds ≤ (1 <<< 62 : Nat)) (deadlineMillis : UInt64) (now : WallTime) :
    ∃ deadline, t.after? (remaining deadlineMillis.toNat now) = some deadline ∧
      deadline.nanos = t.nanos + (remaining deadlineMillis.toNat now).toNanos ∧
      Instant.Exists deadline.nanos := by
  have hdeadline := deadlineMillis.toNat_lt_size
  have hleft := toNanos_remaining_eq deadlineMillis.toNat now
  have hreach : Instant.reach = 9223372036854775808 * 1000000000 := rfl
  have hmillis : UInt64.size = 18446744073709551616 := rfl
  simp only [Instant.Exists, Instant.seconds, Span.perSecond] at hexists hroom
  have hshown : Instant.Exists (t.nanos + (remaining deadlineMillis.toNat now).toNanos) := by
    rw [Instant.Exists, hreach]
    omega
  exact ⟨_, if_pos hshown, rfl, hshown⟩

/-- **The time that is left is exact, and always fits.** Of every deadline and every time that the
clock can show, what is left are the nanoseconds between them, counted from the epoch where the
clock shows an earlier time, and none once the deadline has passed; computing it in words gives
just this. No more is left at a later time, and no less of a later deadline. If the monotonic clock
shows at most 2⁶² seconds, it can show the instant at which nothing is left, and so no invocation
ends because there is no such instant. -/
theorem remaining_is_exact_and_fits :
    (∀ (deadlineMillis : UInt64) (now : ClockReading),
      let left := remaining deadlineMillis.toNat now.wallTime
      (left.toNanos : Int) = max 0 (deadlineMillis.toNat * 1000000 - max 0 now.toNanos) ∧
      remainingInWords? deadlineMillis now = some (left.seconds, left.nanos) ∧
      (∀ later : ClockReading, now.toNanos ≤ later.toNanos →
        (remaining deadlineMillis.toNat later.wallTime).toNanos ≤ left.toNanos) ∧
      ∀ laterMillis : UInt64, deadlineMillis ≤ laterMillis →
        left.toNanos ≤ (remaining laterMillis.toNat now.wallTime).toNanos) ∧
    ∀ (id : String) (deadlineMillis : UInt64) (r : Request) (provisioner : Provisioner)
      (world : World) (m : Moment), Instant.Exists m.now.nanos →
      m.now.seconds ≤ (1 <<< 62 : Nat) →
      ∃ deadline,
        m.now.after? (remaining deadlineMillis.toNat (world.wall m.now)) = some deadline ∧
        deadline.nanos
          = m.now.nanos + (remaining deadlineMillis.toNat (world.wall m.now)).toNanos ∧
        Int64.minValue.toInt ≤ deadline.seconds ∧ deadline.seconds ≤ Int64.maxValue.toInt ∧
        (handleInvocation id deadlineMillis.toNat r provisioner world m).result
          ≠ some (.error .noSuchInstant) := by
  constructor
  · intro deadlineMillis now left
    refine ⟨?_, remainingInWords?_eq deadlineMillis now, fun later h => ?_, fun laterMillis h => ?_⟩
    · rw [toNanos_remaining, now.toNanos_wallTime]
      rfl
    · rw [← now.toNanos_wallTime, ← later.toNanos_wallTime] at h
      exact remaining_antitone _ h
    · exact remaining_mono (UInt64.le_iff_toNat_le.mp h) _
  · intro id deadlineMillis r provisioner world m hexists hroom
    obtain ⟨deadline, hafter, hnanos, hshown⟩ :=
      exists_after_remaining hexists hroom deadlineMillis (world.wall m.now)
    obtain ⟨hmin, hmax⟩ := Instant.exists_iff.mp hshown
    refine ⟨deadline, hafter, hnanos, hmin, hmax, ?_⟩
    rw [handleInvocation_of_after hafter, Activity.map_apply]
    intro h
    obtain ⟨result, -, hresult⟩ := Option.map_eq_some_iff.mp h
    cases result <;> cases hresult

/-- The latest deadline has an instant, one nanosecond before the epoch and at the last second that
the monotonic clock may show. -/
theorem latest_deadline_has_an_instant :
    let now : ClockReading := ⟨-1, 999999999, by decide⟩
    let m : Moment := ⟨⟨4611686018427387904000000000⟩, []⟩
    let world : World := ⟨⟨.standard, .unreachable, fun _ => 0⟩,
      .unreachable fun _ => .networkUnreachable, ⟨fun _ _ => .ok [], fun _ _ => some 0⟩,
      fun _ => now.wallTime⟩
    remainingInWords? 18446744073709551615 now = some (18446744073709551, 615000000) ∧
      (∃ deadline,
        m.now.after? (remaining 18446744073709551615 (world.wall m.now)) = some deadline ∧
        deadline.seconds = 4630132762501097455) ∧
      (handleInvocation "latest" 18446744073709551615 default Activity.never world m).result
        ≠ some (.error .noSuchInstant) := by
  intro now m world
  obtain ⟨hexact, hinstant⟩ := remaining_is_exact_and_fits
  obtain ⟨deadline, hafter, hnanos, -, -, hresult⟩ := hinstant "latest" 18446744073709551615 default
    Activity.never world m (by decide) (by decide)
  refine ⟨(hexact 18446744073709551615 now).2.1.trans (by decide), ⟨deadline, hafter, ?_⟩, hresult⟩
  rw [Instant.seconds, hnanos]
  decide

end DatabaseResource
