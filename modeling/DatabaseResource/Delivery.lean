import DatabaseResource.Http.Web

/-!
# Delivering the response

The document is put to the request's URL. A try that fails on the way, or that the server says it
could not serve, is repeated after a pause: `Sender.maxRetries` times at most, with pauses that
double up to a limit and are lengthened at random by up to their own length. What chance adds to a
pause may depend on all that has been exchanged before it.
-/

namespace DatabaseResource

structure Sender where
  /-- The first pause before it is lengthened, in nanoseconds. -/
  minPause : Nat
  /-- The longest one of the others before it is lengthened. -/
  maxPause : Nat
  maxRetries : Nat
deriving DecidableEq, Repr

namespace Sender

open Activity

/-- Three more tries, with pauses of one to three seconds. -/
def standard : Sender := ⟨Span.perSecond, 3 * Span.perSecond, 3⟩

/-- The pause before retry `k` (from 0 on) when nothing is added to it. -/
def leastPause (s : Sender) (k : Nat) : Nat :=
  if k = 0 then s.minPause else min (s.minPause <<< k) s.maxPause

/-- The pause before retry `k` when `extra` is added to it. -/
def pause (s : Sender) (k extra : Nat) : Nat := s.leastPause k + min extra (s.leastPause k)

theorem leastPause_le_pause (s : Sender) (k extra : Nat) : s.leastPause k ≤ s.pause k extra :=
  Nat.le_add_right ..

theorem pause_le (s : Sender) (k extra : Nat) : s.pause k extra ≤ 2 * s.leastPause k := by
  simp only [pause]; omega

/-- One try to deliver a document. -/
def deliverOnce (web : Http.Web) (url : Url) (body : String) : Activity (Except Fault Unit) := do
  if !Http.isUsable url then return .error (.http (.unusable url.withoutUser))
  let start ← now
  match ← Http.attempt web (start.advance Http.tryTimeout) url.withoutUser Http.maxRedirects
      (.deliver url body) with
  | .error e => return .error (.http e)
  | .ok status =>
    return if Http.isSuccess status then .ok () else .error (.responseStatus status)

/-- Tries to deliver a document, and `left` times again while it may do better; `k` tries have
been repeated before. `extra` is what chance adds to the pause behind what has been exchanged. -/
def deliverFrom (s : Sender) (web : Http.Web) (extra : List Http.Exchange → Nat) (url : Url)
    (body : String) (k left : Nat) : Activity (Except Fault Unit) := do
  match ← deliverOnce web url body with
  | .ok () => return .ok ()
  | .error fault =>
    match left with
    | 0 => return .error fault
    | left + 1 =>
      if fault.isRetryable then
        let m ← moment
        let pause := s.pause k (extra (exchanges m.events))
        log (.deliveryRepeated fault (.ofNanos pause))
        timer pause
        deliverFrom s web extra url body (k + 1) left
      else return .error fault

/-- Delivers a response. -/
def deliver (s : Sender) (web : Http.Web) (extra : List Http.Exchange → Nat) (url : Url)
    (response : Response) : Activity (Except Fault Unit) :=
  s.deliverFrom web extra url response.body 0 s.maxRetries

end Sender

end DatabaseResource
