import Mathlib.Data.Nat.Find
import Mathlib.Order.Bounds.Defs
import Vestibule.Proofs.RetryDelay

/-! Retried calls. The loop ends with the first call that is not to be made again, which is one of
the calls allowed, unless the delay after one of the sleeps before it does not exist. -/

namespace Vestibule

namespace RetryPolicy

/-- What is left of retried calls: how many there were, and the sleeps between them. -/
structure Tally where
  calls : Nat := 0
  sleeps : List Span := []

section

variable {ε α : Type}

/-- The `n`th call has the `n`th of the outcomes, which are counted from one. -/
def call (outcomes : Nat → Except ε α) : StateM Tally (Except ε α) := fun t =>
  (outcomes (t.calls + 1), { t with calls := t.calls + 1 })

def pause (delay : Span) : StateM Tally Unit := fun t =>
  ((), { t with sleeps := t.sleeps ++ [delay] })

@[simp] theorem call_run {outcomes : Nat → Except ε α} {t : Tally} : (call outcomes).run t =
    pure (outcomes (t.calls + 1), { t with calls := t.calls + 1 }) :=
  rfl

@[simp] theorem pause_run {delay : Span} {t : Tally} :
    (pause delay).run t = pure ((), { t with sleeps := t.sleeps ++ [delay] }) :=
  rfl

/-- The retried calls of an operation with these outcomes. -/
def retried (p : RetryPolicy) (mayPass : ε → Bool) (outcomes : Nat → Except ε α) :
    Option (Except ε α) × Tally :=
  (p.run pause mayPass (call outcomes)).run {}

/-- No call follows the `n`th. -/
def Ends (most : Nat) (mayPass : ε → Bool) (outcomes : Nat → Except ε α) (n : Nat) : Prop :=
  (∃ a, outcomes n = .ok a) ∨ (∃ e, outcomes n = .error e ∧ mayPass e = false) ∨ max 1 most ≤ n

end

/-- The delay before the call that follows `n + 1` of them. -/
def delay? (p : RetryPolicy) : Nat → Option Span
  | 0 => some p.initialDelay
  | n + 1 => (p.delay? n).bind p.nextDelay?

section

variable {p : RetryPolicy} {k n : Nat}

theorem delay?_eq_none (none : p.delay? k = none) (later : k ≤ n) : p.delay? n = .none := by
  induction later with
  | refl => exact none
  | step _ ih => rw [delay?, ih, Option.bind_none]

theorem isSome_delay? (base : ¬ p.base < 0)
    (most : toSeconds p.maxDelay < 18446744073709551616) : (p.delay? n).isSome := by
  induction n with
  | zero => rfl
  | succ n ih =>
      obtain ⟨delay, known⟩ := Option.isSome_iff_exists.mp ih
      rw [delay?, known]
      exact isSome_nextDelay? base most

/-- The sleeps are the first `n` delays. -/
def Slept (p : RetryPolicy) (n : Nat) (sleeps : List Span) : Prop :=
  sleeps.map some = (List.range n).map p.delay?

theorem Slept.concat {sleeps : List Span} {delay : Span} (slept : p.Slept n sleeps)
    (next : p.delay? n = some delay) : p.Slept (n + 1) (sleeps ++ [delay]) := by
  rw [Slept, List.map_append, slept, List.range_succ, List.map_append, List.map_singleton,
    List.map_singleton, next]

end

section

variable {ε α : Type} {p : RetryPolicy} {mayPass : ε → Bool} {outcomes : Nat → Except ε α}
  {k made n : Nat} {delay : Span} {sleeps : List Span}

theorem attempts_of_ends (ends : Ends p.maxAttempts mayPass outcomes (made + 1)) :
    (attempts p.maxAttempts p.nextDelay? pause mayPass (call outcomes) made delay).run
      ⟨made, sleeps⟩ = pure (some (outcomes (made + 1)), ⟨made + 1, sleeps⟩) := by
  rw [attempts]
  rcases known : outcomes (made + 1) with e | a
  · have given_up : ¬ (mayPass e = true ∧ made + 1 < p.maxAttempts) := by
      rintro ⟨passes, more⟩
      rcases ends with ⟨a, ok⟩ | ⟨e', error, stays⟩ | last
      · cases known.symm.trans ok
      · cases known.symm.trans error
        exact absurd (passes.symm.trans stays) Bool.noConfusion
      · omega
    simp [known, given_up]
  · simp [known]

theorem attempts_of_not_ends (goes : ¬ Ends p.maxAttempts mayPass outcomes (made + 1)) :
    (attempts p.maxAttempts p.nextDelay? pause mayPass (call outcomes) made delay).run
      ⟨made, sleeps⟩ = match p.nextDelay? delay with
        | some next =>
          (attempts p.maxAttempts p.nextDelay? pause mayPass (call outcomes) (made + 1) next).run
            ⟨made + 1, sleeps ++ [delay]⟩
        | none => pure (none, ⟨made + 1, sleeps ++ [delay]⟩) := by
  rw [attempts]
  rcases known : outcomes (made + 1) with e | a
  · have passes : mayPass e = true :=
      (Bool.not_eq_false _).mp fun stays => goes (.inr (.inl ⟨e, known, stays⟩))
    have more : made + 1 < p.maxAttempts :=
      Nat.lt_of_not_le fun last => goes (.inr (.inr (by omega)))
    cases next : p.nextDelay? delay <;> simp [known, passes, more]
  · exact absurd (.inl ⟨a, known⟩) goes

/-- How retried calls end, of which the `n`th is the first not to be followed by one: with its
outcome, or with none after the first sleep that no delay follows. -/
inductive Ended (p : RetryPolicy) (outcomes : Nat → Except ε α) (n : Nat) :
    Option (Except ε α) × Tally → Prop
  | returned {sleeps : List Span} (next : (p.delay? (n - 1)).isSome)
      (slept : p.Slept (n - 1) sleeps) : Ended p outcomes n (some (outcomes n), ⟨n, sleeps⟩)
  | broken {k : Nat} {sleeps : List Span} (before : k < n) (none : p.delay? k = none)
      (slept : p.Slept k sleeps) : Ended p outcomes n (.none, ⟨k, sleeps⟩)

/-- By induction on the calls that are left after the next one. -/
theorem attempts_ended (left : made < n) (next : p.delay? made = some delay)
    (slept : p.Slept made sleeps) (ends : Ends p.maxAttempts mayPass outcomes n)
    (first : ∀ k, made < k → k < n → ¬ Ends p.maxAttempts mayPass outcomes k) :
    Ended p outcomes n ((attempts p.maxAttempts p.nextDelay? pause mayPass (call outcomes) made
      delay).run ⟨made, sleeps⟩) := by
  obtain ⟨rest, count⟩ := Nat.exists_eq_add_of_lt left
  induction rest generalizing made delay sleeps with
  | zero =>
      obtain rfl : n = made + 1 := count
      rw [attempts_of_ends ends]
      exact .returned (by rw [Nat.add_sub_cancel, next]; rfl) slept
  | succ rest ih =>
      have followed : p.delay? (made + 1) = p.nextDelay? delay := by
        rw [delay?, next, Option.bind_some]
      rw [attempts_of_not_ends (first (made + 1) (by omega) (by omega))]
      cases after : p.nextDelay? delay with
      | none => exact .broken (by omega) (followed.trans after) (slept.concat next)
      | some delay' =>
          exact ih (by omega) (followed.trans after) (slept.concat next)
            (fun k later => first k (by omega)) (by omega)

theorem exists_isLeast_ends : ∃ n, IsLeast {n | 1 ≤ n ∧ Ends p.maxAttempts mayPass outcomes n} n ∧
    n ≤ max 1 p.maxAttempts := by
  have last : 1 ≤ max 1 p.maxAttempts ∧
      Ends p.maxAttempts mayPass outcomes (max 1 p.maxAttempts) :=
    ⟨Nat.le_max_left .., .inr (.inr Nat.le.refl)⟩
  classical
  exact ⟨Nat.find ⟨_, last⟩, ⟨Nat.find_spec ⟨_, last⟩, fun _ => Nat.find_min' ⟨_, last⟩⟩,
    Nat.find_min' ⟨_, last⟩ last⟩

/-- Retried calls end after the first call that is a success, a failure that will not pass, or the
last one allowed, and with its outcome, unless a delay is missing on the way. There is one for every
sleep where the base is not below zero and the greatest delay is one that can be slept. -/
theorem retried_calls : ∃ n, IsLeast {n | 1 ≤ n ∧ Ends p.maxAttempts mayPass outcomes n} n ∧
    n ≤ max 1 p.maxAttempts ∧
    (match p.retried mayPass outcomes with
      | (some result, tally) => (p.delay? (n - 1)).isSome ∧ result = outcomes n ∧
        tally.calls = n ∧ p.Slept (n - 1) tally.sleeps
      | (none, tally) => p.delay? (n - 1) = none ∧ ∃ k < n, p.delay? k = none ∧
        tally.calls = k ∧ p.Slept k tally.sleeps) ∧
    (¬ p.base < 0 → toSeconds p.maxDelay < 18446744073709551616 → (p.delay? (n - 1)).isSome) := by
  obtain ⟨n, least, most⟩ := @exists_isLeast_ends _ _ p mayPass outcomes
  have first : ∀ k, 0 < k → k < n → ¬ Ends p.maxAttempts mayPass outcomes k :=
    fun k positive before ends => absurd (least.2 ⟨positive, ends⟩) (by omega)
  have ended : Ended p outcomes n (p.retried mayPass outcomes) :=
    attempts_ended least.1.1 rfl rfl least.1.2 first
  refine ⟨n, least, most, ?_, isSome_delay?⟩
  generalize p.retried mayPass outcomes = run at ended
  cases ended with
  | returned next slept => exact ⟨next, rfl, rfl, slept⟩
  | broken before missing slept =>
      exact ⟨delay?_eq_none missing (by omega), _, before, missing, rfl, slept⟩

/-- A base below zero breaks off after the first sleep, although the second call would succeed. -/
theorem retried_negative_base :
    let p : RetryPolicy := { base := -1 }
    let outcomes : Nat → Except Unit Nat := fun n => if n = 1 then .error () else .ok n
    IsLeast {n | 1 ≤ n ∧ Ends p.maxAttempts (fun _ => true) outcomes n} 2 ∧
      p.retried (fun _ => true) outcomes = (none, ⟨1, [.ofMillis 100]⟩) := by
  intro p outcomes
  have goes : ¬ Ends p.maxAttempts (fun _ => true) outcomes 1 := by
    simp [Ends, p, outcomes]
  have missing : p.nextDelay? (.ofMillis 100) = none := by decide +kernel
  refine ⟨⟨⟨by decide, .inl ⟨2, rfl⟩⟩, fun n ⟨positive, ends⟩ => ?_⟩,
    (attempts_of_not_ends goes).trans (by rw [missing]; rfl)⟩
  have other : n ≠ 1 := fun one => goes (one ▸ ends)
  omega

end

end RetryPolicy

end Vestibule
