import Vestibule.Time.Instant
import Vestibule.Id.Uuid

/-! Identifiers of audit events. They increase strictly, also within one millisecond and when the
clock is set back, and the time of an event is read back from its identifier. -/

namespace Vestibule.Audit

/-- The millisecond of the last identifier and the counter that orders those within it. -/
structure EventClock where
  millis : Nat
  counter : Nat
  deriving DecidableEq, Repr, Inhabited

namespace EventClock

def counterBits : Nat := 42

/-- A later millisecond starts from a fresh counter; otherwise the counter goes up, and past its
end the next millisecond begins. -/
def tick (c : EventClock) (now : Instant) (fresh : Nat) : EventClock :=
  let start := fresh % Nat.pow 2 (counterBits - 1)
  if c.millis < now.millis then ⟨now.millis, start⟩
  else if c.counter + 1 < Nat.pow 2 counterBits then ⟨c.millis, c.counter + 1⟩
  else ⟨c.millis + 1, start⟩

/-- The identifier of the current state; `noise` fills the bits past the counter. -/
def id (c : EventClock) (noise : Nat) : Uuid :=
  Uuid.v7 c.millis (c.counter * Nat.pow 2 32 + noise % Nat.pow 2 32)

end EventClock

/-- The time that an event's identifier carries, if it is in range, else `now`. -/
def eventTime (id : Uuid) (now : Instant) : Instant :=
  (Instant.ofMillis? id.millis).getD now

end Vestibule.Audit
