import Vestibule.Time.Calendar

/-! Points in time with nanoseconds, and spans between them. A leap second is the last second of a
minute with more than a second of nanoseconds, as clocks that repeat it count. -/

namespace Vestibule

/-- A signed length of time in nanoseconds. -/
structure Span where
  nanos : Int
  deriving DecidableEq, Repr, Inhabited

namespace Span

def ofMillis (ms : Int) : Span := ⟨ms * 1000000⟩

def ofSeconds (s : Int) : Span := ⟨s * 1000000000⟩

def days (n : Int) : Span := ofSeconds (n * 86400)

def minutes (n : Int) : Span := ofSeconds (n * 60)

/-- Whole seconds, rounded toward zero. -/
def seconds (d : Span) : Int := d.nanos.tdiv 1000000000

/-- Whole milliseconds, rounded toward zero. -/
def millis (d : Span) : Int := d.nanos.tdiv 1000000

/-- What is left past the whole seconds, with the sign of the span. -/
def subsecond (d : Span) : Int := d.nanos.tmod 1000000000

end Span

/-- Seconds since 1970 and nanoseconds, from the year -262143 to the year 262142. -/
def Instant.Valid (seconds : Int) (nanos : Nat) : Prop :=
  -8334601228800 ≤ seconds ∧ seconds ≤ 8210266876799 ∧
    (nanos < 1000000000 ∨ (nanos < 2000000000 ∧ seconds % 60 = 59))

instance (seconds : Int) (nanos : Nat) : Decidable (Instant.Valid seconds nanos) := by
  unfold Instant.Valid; infer_instance

structure Instant where
  seconds : Int
  nanos : Nat
  valid : Instant.Valid seconds nanos
  deriving DecidableEq, Repr

namespace Instant

def ofUnix? (seconds : Int) (nanos : Nat) : Option Instant :=
  if h : Valid seconds nanos then some ⟨seconds, nanos, h⟩ else none

def epoch : Instant := ⟨0, 0, by decide⟩

instance : Inhabited Instant := ⟨epoch⟩

def earliest : Instant := ⟨-8334601228800, 0, by decide⟩

def latest : Instant := ⟨8210266876799, 999999999, by decide⟩

/-- Before: by seconds, then by nanoseconds. -/
def lt (t u : Instant) : Prop :=
  t.seconds < u.seconds ∨ (t.seconds = u.seconds ∧ t.nanos < u.nanos)

instance : LT Instant := ⟨lt⟩

instance (t u : Instant) : Decidable (t < u) :=
  inferInstanceAs (Decidable (t.seconds < u.seconds ∨ (t.seconds = u.seconds ∧ t.nanos < u.nanos)))

def date (t : Instant) : Date := ⟨t.seconds / 86400⟩

/-- Milliseconds since 1970, not below zero. -/
def millis (t : Instant) : Nat := (t.seconds.toNat * 1000 + t.nanos / 1000000)

def ofMillis? (ms : Nat) : Option Instant :=
  ofUnix? (ms / 1000) (ms % 1000 * 1000000)

/-- Adds seconds and nanoseconds of one sign. A leap second counts as a second of its own when the
sum leaves it. -/
def shift (seconds : Int) (nanos : Nat) (bySeconds byNanos : Int) : Int × Int :=
  if 1000000000 ≤ nanos then
    if 0 < bySeconds ∨ (0 < byNanos ∧ 2000000000 ≤ nanos + byNanos) then
      (seconds + bySeconds, nanos - 1000000000 + byNanos)
    else if bySeconds < 0 then
      (seconds + 1 + bySeconds, nanos - 1000000000 + byNanos)
    else (seconds, nanos + byNanos)
  else (seconds + bySeconds, nanos + byNanos)

/-- The instant `d` after `t`, when it is in range. -/
def add? (t : Instant) (d : Span) : Option Instant :=
  let (seconds, nanos) := shift t.seconds t.nanos d.seconds d.subsecond
  if nanos < 0 then ofUnix? (seconds - 1) (nanos + 1000000000).toNat
  else if 1000000000 ≤ nanos ∧ ¬(1000000000 ≤ t.nanos ∧ seconds = t.seconds ∧ d.seconds = 0) then
    ofUnix? (seconds + 1) (nanos - 1000000000).toNat
  else ofUnix? seconds nanos.toNat

end Instant

end Vestibule
