import Vestibule.Json.Double
import Vestibule.Time.Instant

/-! Retrying with delays that grow by a factor up to a greatest one. -/

namespace Vestibule

structure RetryPolicy where
  maxAttempts : Nat := 3
  initialDelay : Span := .ofMillis 100
  maxDelay : Span := .ofSeconds 2
  base : Float := 2

namespace RetryPolicy

def withMaxAttempts (n : Nat) : RetryPolicy := { maxAttempts := max 1 n }

def never : RetryPolicy := ⟨1, .ofMillis 0, .ofMillis 0, 1⟩

def toSeconds (d : Span) : Float :=
  Float.ofNat d.seconds.toNat + Float.ofNat d.subsecond.toNat / 1000000000

/-- A number of seconds to the nearest nanosecond, ties to even. Only numbers from zero on whose
whole seconds fit 64 bits are lengths of time to wait. -/
def ofSeconds? (s : Float) : Option Span :=
  if 0 ≤ s ∧ s < 18446744073709551616 then
    let (m, q) := Double.parts s.toBits
    let nanos := m * 1000000000
    if 0 ≤ q then some ⟨(nanos * Nat.pow 2 q.toNat : Nat)⟩
    else some ⟨Double.roundDiv nanos (Nat.pow 2 (-q).toNat)⟩
  else none

/-- The delay that follows `delay`. There is none after a base below zero, nor where the delay grows
beyond the lengths of time under a greatest one that rounds up to more than they are. -/
def nextDelay? (p : RetryPolicy) (delay : Span) : Option Span :=
  let grown := toSeconds delay * p.base
  let most := toSeconds p.maxDelay
  ofSeconds? (if grown ≤ most then grown else most)

variable {m : Type → Type} [Monad m] {ε α : Type}

/-- Makes an attempt after `made` others, and goes on with a sleep before each further one while
they fail in a way that may pass, up to `most` of them. A sleep that no delay follows breaks off
without a result. -/
def attempts (most : Nat) (nextDelay? : Span → Option Span) (sleep : Span → m Unit)
    (mayPass : ε → Bool) (attempt : m (Except ε α)) (made : Nat) (delay : Span) :
    m (Option (Except ε α)) := do
  match ← attempt with
  | .ok a => return some (.ok a)
  | .error e =>
    if mayPass e ∧ made + 1 < most then
      sleep delay
      match nextDelay? delay with
      | some delay => attempts most nextDelay? sleep mayPass attempt (made + 1) delay
      | none => return none
    else return some (.error e)
termination_by most - made

/-- Makes at least one attempt. -/
def run (p : RetryPolicy) (sleep : Span → m Unit) (mayPass : ε → Bool)
    (attempt : m (Except ε α)) : m (Option (Except ε α)) :=
  attempts p.maxAttempts p.nextDelay? sleep mayPass attempt 0 p.initialDelay

end RetryPolicy

end Vestibule
