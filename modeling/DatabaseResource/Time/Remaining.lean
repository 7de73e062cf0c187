import DatabaseResource.Time.Span

/-!
# The time that is left

The invocation's deadline is a number of milliseconds since the epoch, and the wall clock shows a
time before or after it. `remaining` is what lies between them, and nothing once the deadline has
passed (`toNanos_remaining`).
-/

namespace DatabaseResource

/-- What the wall clock shows. -/
inductive WallTime where
  | after (sinceEpoch : Span)
  | before (untilEpoch : Span)
deriving DecidableEq, Repr

namespace WallTime

/-- The signed number of nanoseconds since the epoch. -/
def toNanos : WallTime → Int
  | after s => s.toNanos
  | before s => -s.toNanos

/-- The span since the epoch; a clock that shows an earlier time shows the epoch. -/
def sinceEpoch : WallTime → Span
  | after s => s
  | before _ => .zero

theorem toNanos_sinceEpoch (t : WallTime) : (t.sinceEpoch.toNanos : Int) = max 0 t.toNanos := by
  cases t with
  | after s =>
    show (s.toNanos : Int) = max 0 (s.toNanos : Int)
    omega
  | before s =>
    show ((Span.zero.toNanos : Nat) : Int) = max 0 (-(s.toNanos : Int))
    rw [Span.toNanos_zero]
    omega

end WallTime

/-- The time until a deadline. -/
def remaining (deadlineMillis : Nat) (now : WallTime) : Span :=
  (Span.ofMillis deadlineMillis).saturatingSub now.sinceEpoch

theorem toNanos_remaining_eq (deadlineMillis : Nat) (now : WallTime) :
    (remaining deadlineMillis now).toNanos
      = deadlineMillis * 1000000 - now.sinceEpoch.toNanos := by
  rw [remaining, Span.toNanos_saturatingSub, Span.toNanos_ofMillis]

theorem toNanos_remaining (deadlineMillis : Nat) (now : WallTime) :
    ((remaining deadlineMillis now).toNanos : Int)
      = max 0 ((deadlineMillis * 1000000 : Nat) - max 0 now.toNanos) := by
  have hleft := toNanos_remaining_eq deadlineMillis now
  have hnow := now.toNanos_sinceEpoch
  omega

end DatabaseResource
