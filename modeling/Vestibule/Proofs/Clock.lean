import Vestibule.Proofs.Course

/-! The clock that a run reads. It never goes back, and does not show leap seconds; then times are
in the order of the nanoseconds that have elapsed. -/

namespace Vestibule

namespace Instant

variable {t u : Instant} {d : Span}

/-- Outside of leap seconds. -/
def Ordinary (t : Instant) : Prop := t.nanos < 1000000000

/-- The nanoseconds from 1970 on. -/
def elapsed (t : Instant) : Int := t.seconds * 1000000000 + t.nanos

theorem Ordinary.add?_eq (ordinary : t.Ordinary) :
    t.add? d = ofUnix? ((t.elapsed + d.nanos) / 1000000000)
      ((t.elapsed + d.nanos) % 1000000000).toNat := by
  have whole : 1000000000 * d.seconds + d.subsecond = d.nanos :=
    Int.mul_tdiv_add_tmod d.nanos 1000000000
  have above : d.subsecond < 1000000000 := Int.tmod_lt_of_pos _ (by decide)
  have below : -1000000000 < d.subsecond := Int.lt_tmod_of_pos _ (by decide)
  unfold Ordinary at ordinary
  unfold Instant.add? shift elapsed
  simp only [if_neg (Nat.not_le.mpr ordinary)]
  split
  · congr 1 <;> omega
  · split
    · congr 1 <;> omega
    · congr 1 <;> omega

/-- A sum counts its nanoseconds. -/
theorem Ordinary.of_add? (ordinary : t.Ordinary) (ends : t.add? d = some u) :
    u.Ordinary ∧ u.elapsed = t.elapsed + d.nanos := by
  rw [ordinary.add?_eq, ofUnix?] at ends
  split at ends
  · cases ends
    simp only [Ordinary, elapsed]
    omega
  · cases ends

theorem Ordinary.lt_iff (ordinary : t.Ordinary) (ordinary' : u.Ordinary) :
    t < u ↔ t.elapsed < u.elapsed := by
  change (t.seconds < u.seconds ∨ t.seconds = u.seconds ∧ t.nanos < u.nanos) ↔ _
  simp only [Ordinary, elapsed] at *
  omega

theorem lt_of_lt_of_not_lt {w : Instant} (before : t < u) (order : ¬ w < u) : t < w := by
  change t.seconds < u.seconds ∨ t.seconds = u.seconds ∧ t.nanos < u.nanos at before
  change ¬ (w.seconds < u.seconds ∨ w.seconds = u.seconds ∧ w.nanos < u.nanos) at order
  change t.seconds < w.seconds ∨ t.seconds = w.seconds ∧ t.nanos < w.nanos
  omega

end Instant

/-- When the turn read the clock. -/
def Entry.time? (x : Entry) : Option Instant :=
  match x.deed with
  | .committed m .. | .failed m .. => some m.now
  | _ => none

/-- Whether the turn read the clock in the span that starts at `t`, be its end in the calendar or
not. -/
def Entry.within (x : Entry) (t : Instant) (d : Span) : Bool :=
  x.time?.any fun now => !decide (now < t) && decide (now.elapsed < t.elapsed + d.nanos)

def readings (past : List Entry) : List Instant := past.filterMap Entry.time?

/-- The clock of the run shows no leap seconds and does not go back. -/
structure Steady (past : List Entry) : Prop where
  ordinary : ∀ t ∈ readings past, t.Ordinary
  ordered : (readings past).Pairwise fun t t' => ¬ t' < t

variable {past : List Entry} {x : Entry} {t now : Instant} {d : Span}

theorem Entry.within_iff (read : x.time? = some now) :
    x.within t d = true ↔ ¬ now < t ∧ now.elapsed < t.elapsed + d.nanos := by
  simp [Entry.within, read]

theorem readings_append : readings (past ++ [x]) = readings past ++ x.time?.toList := by
  cases read : x.time? <;> simp [readings, read]

namespace Steady

theorem initial (steady : Steady (past ++ [x])) : Steady past := by
  obtain ⟨ordinary, ordered⟩ := steady
  rw [readings_append] at ordinary ordered
  exact ⟨fun t member => ordinary t (List.mem_append_left _ member),
    (List.pairwise_append.mp ordered).1⟩

/-- The last reading is none of a leap second, and no earlier one is later. -/
theorem last (steady : Steady (past ++ [x])) (read : x.time? = some now) :
    now.Ordinary ∧ ∀ t ∈ readings past, ¬ now < t ∧ t.elapsed ≤ now.elapsed := by
  obtain ⟨ordinary, ordered⟩ := steady
  rw [readings_append, read] at ordinary ordered
  have reading : now.Ordinary := ordinary now (by simp)
  refine ⟨reading, fun t member => ?_⟩
  have order : ¬ now < t := (List.pairwise_append.mp ordered).2.2 t member now (by simp)
  refine ⟨order, ?_⟩
  rw [reading.lt_iff (ordinary t (by simp [member]))] at order
  omega

end Steady

end Vestibule
