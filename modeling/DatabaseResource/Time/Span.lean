/-!
# Spans of time

A span in seconds and nanoseconds, with at most a second of nanoseconds. Taking a longer span from
a shorter one leaves nothing. `describe` gives a span in the largest unit that it fills.
-/

namespace DatabaseResource

structure Span where
  seconds : Nat
  nanos : Nat
  nanos_lt : nanos < 1000000000 := by omega
deriving DecidableEq, Repr

namespace Span

def perSecond : Nat := 1000000000

/-- The whole span in nanoseconds. -/
def toNanos (s : Span) : Nat := s.seconds * perSecond + s.nanos

def ofNanos (n : Nat) : Span :=
  ⟨n / perSecond, n % perSecond, Nat.mod_lt _ (by decide)⟩

/-- Seconds, and the seconds that are in the nanoseconds. -/
def ofParts (seconds nanos : Nat) : Span := ofNanos (seconds * perSecond + nanos)

def ofMillis (n : Nat) : Span :=
  ⟨n / 1000, n % 1000 * 1000000, by have := Nat.mod_lt n (y := 1000) (by decide); omega⟩

def zero : Span := ⟨0, 0, by decide⟩

instance : Inhabited Span := ⟨zero⟩

/-- What is left of a span when another one is taken away, or nothing. -/
def saturatingSub (a b : Span) : Span :=
  if h : b.nanos ≤ a.nanos then
    if b.seconds ≤ a.seconds then
      ⟨a.seconds - b.seconds, a.nanos - b.nanos, by have := a.nanos_lt; omega⟩
    else zero
  else if b.seconds + 1 ≤ a.seconds then
    ⟨a.seconds - 1 - b.seconds, a.nanos + perSecond - b.nanos, by
      have := a.nanos_lt; have := b.nanos_lt; simp only [perSecond]; omega⟩
  else zero

@[simp] theorem toNanos_ofNanos (n : Nat) : (ofNanos n).toNanos = n := by
  simp only [toNanos, ofNanos]
  exact Nat.div_add_mod' n perSecond

@[simp] theorem toNanos_ofMillis (n : Nat) : (ofMillis n).toNanos = n * 1000000 := by
  simp only [toNanos, ofMillis, perSecond]
  omega

@[simp] theorem toNanos_zero : zero.toNanos = 0 := rfl

theorem toNanos_saturatingSub (a b : Span) :
    (a.saturatingSub b).toNanos = a.toNanos - b.toNanos := by
  have := a.nanos_lt
  have := b.nanos_lt
  simp only [saturatingSub]
  split
  · split
    · simp only [toNanos, perSecond]; omega
    · simp only [toNanos_zero]; simp only [toNanos, perSecond]; omega
  · split
    · simp only [toNanos, perSecond]; omega
    · simp only [toNanos_zero]; simp only [toNanos, perSecond]; omega

/-- The digits of a fraction of `places` places, without the zeros at its end. -/
def fractionDigits (places n : Nat) : List Char :=
  let ds := Nat.toDigits 10 n
  let all := List.replicate (places - ds.length) '0' ++ ds
  (all.reverse.dropWhile (· == '0')).reverse

/-- A number of units with a fraction of `places` places. -/
def describeUnits (whole part places : Nat) (unit : String) : String :=
  match fractionDigits places part with
  | [] => s!"{whole}{unit}"
  | ds => s!"{whole}.{String.ofList ds}{unit}"

/-- The span in seconds, milliseconds, microseconds or nanoseconds, whichever is the largest unit
that it fills. -/
def describe (s : Span) : String :=
  if 0 < s.seconds then describeUnits s.seconds s.nanos 9 "s"
  else if 1000000 ≤ s.nanos then describeUnits (s.nanos / 1000000) (s.nanos % 1000000) 6 "ms"
  else if 1000 ≤ s.nanos then describeUnits (s.nanos / 1000) (s.nanos % 1000) 3 "µs"
  else s!"{s.nanos}ns"

end Span

end DatabaseResource
