import Vestibule.Store.Transaction

/-! What a transaction that ends well makes of the store. Each rule inverts one way to build a
transaction, so that a body is opened by rewriting and a failing branch disappears. -/

namespace Vestibule

namespace Transaction

variable {α β : Type} {m : Moment} {s s' : Store}

/-- Under `m`, the work ends with `a` and turns `s` into `s'`. -/
def Commits (t : Transaction α) (m : Moment) (s : Store) (a : α) (s' : Store) : Prop :=
  t.run m s = .ok (a, s')

@[simp] theorem commits_pure {a b : α} :
    (pure b : Transaction α).Commits m s a s' ↔ a = b ∧ s' = s := by
  constructor
  · intro commits
    cases commits
    exact ⟨rfl, rfl⟩
  · rintro ⟨rfl, rfl⟩
    rfl

@[simp] theorem commits_bind {t : Transaction α} {f : α → Transaction β} {b : β} :
    (t >>= f).Commits m s b s' ↔ ∃ a s₁, t.Commits m s a s₁ ∧ (f a).Commits m s₁ b s' := by
  have unfolded : (t >>= f).run m s = (t.run m s >>= fun r => (f r.1).run m r.2) := rfl
  simp only [Commits, unfolded]
  cases t.run m s with
  | error e => simp [bind, Except.bind]
  | ok r =>
      obtain ⟨a, s₁⟩ := r
      simp [bind, Except.bind, and_assoc]

@[simp] theorem commits_map {t : Transaction α} {f : α → β} {b : β} :
    (f <$> t).Commits m s b s' ↔ ∃ a, t.Commits m s a s' ∧ f a = b := by
  rw [map_eq_pure_bind, commits_bind]
  constructor
  · rintro ⟨a, s₁, ran, ended⟩
    obtain ⟨rfl, rfl⟩ := commits_pure.mp ended
    exact ⟨a, ran, rfl⟩
  · rintro ⟨a, ran, rfl⟩
    exact ⟨a, s', ran, commits_pure.mpr ⟨rfl, rfl⟩⟩

@[simp] theorem commits_fail {e : RequestError} {a : α} :
    ¬ (fail e : Transaction α).Commits m s a s' := by
  intro commits
  cases commits

@[simp] theorem commits_deny {reason : Precondition} {a : α} :
    ¬ (deny reason : Transaction α).Commits m s a s' := commits_fail

@[simp] theorem commits_refuse {reason : InvalidArgument} {a : α} :
    ¬ (refuse reason : Transaction α).Commits m s a s' := commits_fail

@[simp] theorem commits_get {a : Store} :
    (get : Transaction Store).Commits m s a s' ↔ a = s ∧ s' = s := by
  constructor
  · intro commits
    cases commits
    exact ⟨rfl, rfl⟩
  · rintro ⟨rfl, rfl⟩
    rfl

@[simp] theorem commits_set {t : Store} {a : PUnit} :
    (set t : Transaction PUnit).Commits m s a s' ↔ s' = t := by
  constructor
  · intro commits
    cases commits
    rfl
  · rintro rfl
    rfl

@[simp] theorem commits_modify {f : Store → Store} {a : PUnit} :
    (modify f : Transaction PUnit).Commits m s a s' ↔ s' = f s := by
  constructor
  · intro commits
    cases commits
    rfl
  · rintro rfl
    rfl

@[simp] theorem commits_read {a : Moment} :
    (read : Transaction Moment).Commits m s a s' ↔ a = m ∧ s' = s := by
  constructor
  · intro commits
    cases commits
    exact ⟨rfl, rfl⟩
  · rintro ⟨rfl, rfl⟩
    rfl

@[simp] theorem commits_now {a : Instant} :
    now.Commits m s a s' ↔ a = m.now ∧ s' = s := by
  simp only [now, commits_bind, commits_read, commits_pure, and_assoc, exists_and_left,
    exists_eq_left]

@[simp] theorem commits_need {x : Option α} {e : RequestError} {a : α} :
    (need x e).Commits m s a s' ↔ x = some a ∧ s' = s := by
  cases x with
  | none => simp [need]
  | some b => simp [need, eq_comm]

@[simp] theorem commits_reach {d : Span} {a : Instant} :
    (reach d).Commits m s a s' ↔ m.now.add? d = some a ∧ s' = s := by
  simp only [reach, commits_bind, commits_now, commits_need, and_assoc, exists_and_left,
    exists_eq_left]

@[simp] theorem commits_ofExcept {x : Except RequestError α} {a : α} :
    (Transaction.ofExcept x).Commits m s a s' ↔ x = .ok a ∧ s' = s := by
  cases x with
  | error e => simp [Transaction.ofExcept]
  | ok b => simp [Transaction.ofExcept, eq_comm]

@[simp] theorem commits_write {f : Store → Except StoreError Store} {a : Unit} :
    (write f).Commits m s a s' ↔ f s = .ok s' := by
  simp only [write, commits_bind, commits_get, and_assoc, exists_and_left, exists_eq_left]
  cases f s with
  | error e => simp
  | ok t => simp [eq_comm]

@[simp] theorem commits_ite {c : Prop} [Decidable c] {t u : Transaction α} {a : α} :
    (if c then t else u).Commits m s a s' ↔
      if c then t.Commits m s a s' else u.Commits m s a s' := by
  split <;> rfl

/-! A body that fails is opened step by step instead. -/

theorem Commits.run_bind {t : Transaction α} {f : α → Transaction β} {a : α}
    (commits : t.Commits m s a s') : (t >>= f).run m s = (f a).run m s' := by
  have unfolded : (t >>= f).run m s = (t.run m s >>= fun r => (f r.1).run m r.2) := rfl
  rw [unfolded, show t.run m s = .ok (a, s') from commits]
  rfl

theorem run_bind_of_error {t : Transaction α} {f : α → Transaction β} {e : RequestError}
    (failed : t.run m s = .error e) : (t >>= f).run m s = .error e := by
  have unfolded : (t >>= f).run m s = (t.run m s >>= fun r => (f r.1).run m r.2) := rfl
  rw [unfolded, failed]
  rfl

end Transaction

namespace Store

/-- The store with one more entry in its audit log. -/
def logged (s : Store) (e : Audit.Event) : Store := { s with auditLog := s.auditLog ++ [e] }

end Store

@[simp] theorem recordEvent_commits {m : Moment} {s s' : Store} {e : Audit.Event} {a : Unit} :
    (recordEvent e).Commits m s a s' ↔ m.auditWritable = true ∧ s' = s.logged e := by
  simp only [recordEvent, Transaction.commits_bind, Transaction.commits_get,
    Transaction.commits_read, and_assoc, exists_and_left, exists_eq_left]
  cases m.auditWritable with
  | false => simp [Store.appendEvent]
  | true => simp [Store.appendEvent, Store.logged]

end Vestibule
