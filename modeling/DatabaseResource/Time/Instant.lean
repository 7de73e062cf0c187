import DatabaseResource.Time.Span

/-!
# Instants

A reading of the monotonic clock, in nanoseconds. The clock counts seconds in 64 bits with a sign;
an instant beyond them does not exist.
-/

namespace DatabaseResource

structure Instant where
  nanos : Int
deriving DecidableEq, Repr, Inhabited

namespace Instant

/-- How far the clock counts on either side of its origin, in nanoseconds. -/
def reach : Nat := (1 <<< 63) * Span.perSecond

/-- Whether the clock can show a number of nanoseconds. -/
def Exists (nanos : Int) : Prop := -reach ≤ nanos ∧ nanos < reach

instance (nanos : Int) : Decidable (Exists nanos) :=
  inferInstanceAs (Decidable (-reach ≤ nanos ∧ nanos < reach))

/-- The instant a span later. -/
def after? (t : Instant) (s : Span) : Option Instant :=
  if Exists (t.nanos + s.toNanos) then some ⟨t.nanos + s.toNanos⟩ else none

/-- The instant a span earlier. -/
def before? (t : Instant) (s : Span) : Option Instant :=
  if Exists (t.nanos - s.toNanos) then some ⟨t.nanos - s.toNanos⟩ else none

/-- The span from one instant to a later one, or nothing. -/
def spanUntil (t deadline : Instant) : Span := Span.ofNanos (deadline.nanos - t.nanos).toNat

/-- The instant a number of nanoseconds later. -/
def advance (t : Instant) (nanos : Nat) : Instant := ⟨t.nanos + nanos⟩

@[simp] theorem advance_zero (t : Instant) : t.advance 0 = t := by simp [advance]

theorem advance_advance (t : Instant) (a b : Nat) :
    (t.advance a).advance b = t.advance (a + b) := by
  simp [advance, Int.add_assoc]

end Instant

end DatabaseResource
