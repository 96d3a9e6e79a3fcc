import Vestibule.Proofs.Ending
import Vestibule.Proofs.Refusal

/-! What requests never fail with. Where no transaction of a request fails with one of certain
errors on a store that is as it should be, and nothing else does, the request ends with none of
them, whatever others commit between its turns. -/

namespace Vestibule

@[simp] theorem mapError_eq_error {α ε δ : Type} {f : ε → δ} {x : Except ε α} {e : δ} :
    x.mapError f = .error e ↔ ∃ cause, x = .error cause ∧ f cause = e := by
  cases x with
  | error cause =>
      constructor
      · intro failed
        cases failed
        exact ⟨cause, rfl, rfl⟩
      · rintro ⟨_, same, rfl⟩
        cases same
        rfl
  | ok a =>
      constructor
      · intro failed
        cases failed
      · rintro ⟨_, same, _⟩
        cases same

namespace Transaction

variable {α β : Type} {bad : RequestError → Bool} {m : Moment} {s : Store}

/-- Under `m`, the work on `s` fails with none of the errors. -/
def Avoids (t : Transaction α) (bad : RequestError → Bool) (m : Moment) (s : Store) : Prop :=
  ∀ e, t.Fails m s e → bad e = false

@[simp] theorem avoids_pure {a : α} : (pure a : Transaction α).Avoids bad m s := by
  simp [Avoids]

@[simp] theorem avoids_bind {t : Transaction α} {f : α → Transaction β} :
    (t >>= f).Avoids bad m s ↔
      t.Avoids bad m s ∧ ∀ a s', t.Commits m s a s' → (f a).Avoids bad m s' := by
  simp only [Avoids, fails_bind]
  constructor
  · intro avoids
    exact ⟨fun e failed => avoids e (.inl failed),
      fun a s' commits e failed => avoids e (.inr ⟨a, s', commits, failed⟩)⟩
  · rintro ⟨first, onward⟩ e (failed | ⟨a, s', commits, failed⟩)
    · exact first e failed
    · exact onward a s' commits e failed

@[simp] theorem avoids_map {t : Transaction α} {f : α → β} :
    (f <$> t).Avoids bad m s ↔ t.Avoids bad m s := by
  simp only [map_eq_pure_bind, avoids_bind, avoids_pure, implies_true, and_true]

@[simp] theorem avoids_fail {e : RequestError} :
    (fail e : Transaction α).Avoids bad m s ↔ bad e = false := by
  simp [Avoids]

@[simp] theorem avoids_deny {reason : Precondition} :
    (deny reason : Transaction α).Avoids bad m s ↔ bad (.failedPrecondition reason) = false :=
  avoids_fail

@[simp] theorem avoids_refuse {reason : InvalidArgument} :
    (refuse reason : Transaction α).Avoids bad m s ↔ bad (.invalidArgument reason) = false :=
  avoids_fail

@[simp] theorem avoids_get : (get : Transaction Store).Avoids bad m s := by
  simp [Avoids]

@[simp] theorem avoids_set {t : Store} : (set t : Transaction PUnit).Avoids bad m s := by
  simp [Avoids]

@[simp] theorem avoids_modify {f : Store → Store} :
    (modify f : Transaction PUnit).Avoids bad m s := by
  simp [Avoids]

@[simp] theorem avoids_read : (read : Transaction Moment).Avoids bad m s := by
  simp [Avoids]

@[simp] theorem avoids_now : now.Avoids bad m s := by
  simp [Avoids]

@[simp] theorem avoids_need {x : Option α} {e : RequestError} :
    (need x e).Avoids bad m s ↔ (x = none → bad e = false) := by
  simp [Avoids]

@[simp] theorem avoids_reach {d : Span} :
    (reach d).Avoids bad m s ↔ (m.now.add? d = none → bad .brokenOff = false) := by
  simp [Avoids]

@[simp] theorem avoids_ofExcept {x : Except RequestError α} :
    (Transaction.ofExcept x).Avoids bad m s ↔ ∀ e, x = .error e → bad e = false := by
  simp [Avoids]

@[simp] theorem avoids_write {f : Store → Except StoreError Store} :
    (write f).Avoids bad m s ↔ ∀ cause, f s = .error cause → bad (.ofStore cause) = false := by
  simp [Avoids]

@[simp] theorem avoids_ite {c : Prop} [Decidable c] {t u : Transaction α} :
    (if c then t else u).Avoids bad m s ↔ if c then t.Avoids bad m s else u.Avoids bad m s := by
  split <;> rfl

end Transaction

namespace Fetch

variable {I : Interface} {α β : Type} {bad : RequestError → Bool}

/-- Whatever the answers are, the calls fail with none of the errors. -/
def Avoids (bad : RequestError → Bool) : Fetch I α → Prop
  | done result => ∀ e, result = .error e → bad e = false
  | ask _ next => ∀ reply, (next reply).Avoids bad
  | pause next => next.Avoids bad

theorem avoids_pure {a : α} : (pure a : Fetch I α).Avoids bad := by
  rintro _ ⟨⟩

theorem avoids_error {e : RequestError} (spared : bad e = false) :
    (done (.error e) : Fetch I α).Avoids bad := by
  rintro _ ⟨⟩
  exact spared

theorem Avoids.bind {x : Fetch I α} {f : α → Fetch I β} (avoids : x.Avoids bad)
    (each : ∀ a, (f a).Avoids bad) : (x >>= f).Avoids bad := by
  induction x with
  | done result =>
      cases result with
      | error e => exact avoids_error (avoids e rfl)
      | ok a => exact each a
  | ask request next ih => exact fun reply => ih reply (avoids reply)
  | pause next ih => exact ih avoids

end Fetch

namespace Operation

variable {I : Interface} {α β σ φ : Type} {bad : RequestError → Bool} {On : Store → Prop}
  {op rest : Operation I α}

/-- The operation fails with none of the errors, if each of its transactions finds a store that is
as `On` says. -/
def Avoids (bad : RequestError → Bool) (On : Store → Prop) : Operation I α → Prop
  | finish result => ∀ e, result = .error e → bad e = false
  | transact body next => ∀ m s, On s → body.Avoids bad m s ∧
      ∀ b s', body.Commits m s b s' → (next b).Avoids bad On
  | await _ _ next => ∀ reply, (next reply).Avoids bad On
  | checkpoint next => next.Avoids bad On

theorem avoids_ok {a : α} : (finish (.ok a) : Operation I α).Avoids bad On := by
  rintro _ ⟨⟩

theorem avoids_error {e : RequestError} (spared : bad e = false) :
    (finish (.error e) : Operation I α).Avoids bad On := by
  rintro _ ⟨⟩
  exact spared

namespace Avoids

theorem failure? {e : RequestError} (avoids : op.Avoids bad On)
    (failed : op.failure? = some e) : bad e = false := by
  rw [failure?_eq_some.mp failed] at avoids
  exact avoids e rfl

/-- A turn adds no way to fail but the deadline. -/
theorem step {t : Turn I} {s s' : Store} {d : Deed I} (avoids : op.Avoids bad On)
    (punctual : bad .deadlineExceeded = false) (on : On s)
    (stepped : op.step? t s = some (d, rest, s')) : rest.Avoids bad On := by
  cases step?_eq_some.mp stepped with
  | committed committed => exact (avoids _ _ on).2 _ _ committed
  | failed failed => exact avoids_error ((avoids _ _ on).1 _ failed)
  | answered => exact avoids _
  | passed => exact avoids
  | unanswered | late => exact avoids_error punctual

theorem map {f : α → β} (avoids : op.Avoids bad On) : (op.map f).Avoids bad On := by
  induction op with
  | finish result =>
      cases result with
      | error e => exact avoids_error (avoids e rfl)
      | ok a => exact avoids_ok
  | transact body next ih =>
      intro m s on
      obtain ⟨first, onward⟩ := avoids m s on
      exact ⟨first, fun b s' commits => ih b (onward b s' commits)⟩
  | await bounded request next ih => exact fun reply => ih reply (avoids reply)
  | checkpoint next ih => exact ih avoids

theorem single {body : Transaction α} (avoids : ∀ m s, On s → body.Avoids bad m s) :
    (single body : Operation I α).Avoids bad On :=
  fun m s on => ⟨avoids m s on, fun _ _ _ => avoids_ok⟩

theorem bounded {x : Fetch I α} {next : α → Operation I β} (avoids : x.Avoids bad)
    (each : ∀ a, (next a).Avoids bad On) : (x.bounded next).Avoids bad On := by
  induction x with
  | done result =>
      cases result with
      | error e => exact avoids_error (avoids e rfl)
      | ok a => exact each a
  | ask request k ih => exact fun reply => ih reply (avoids reply)
  | pause k ih => exact ih avoids

theorem twoPhase {read : Transaction σ} {fetch : σ → Fetch I φ} {write : σ → φ → Transaction α}
    (reads : ∀ m s, On s → read.Avoids bad m s) (fetches : ∀ snapshot, (fetch snapshot).Avoids bad)
    (writes : ∀ snapshot fetched m s, On s → (write snapshot fetched).Avoids bad m s) :
    (twoPhase read fetch write).Avoids bad On := by
  intro m s on
  constructor
  · simp only [Transaction.avoids_bind, Transaction.avoids_get, Transaction.avoids_set,
      Transaction.avoids_pure, Transaction.commits_get, implies_true, and_true, true_and]
    rintro _ _ ⟨rfl, rfl⟩
    exact reads m _ on
  · exact fun snapshot s' _ => bounded (fetches snapshot) fun fetched =>
      single (writes snapshot fetched)

end Avoids

end Operation

variable {others : Store → Store → Prop} {v : Service} {start : Store} {sys : System}
  {past : List Entry} {bad : RequestError → Bool} {On : Store → Prop}

/-- Some requests of a run avoid the errors if they do so from their start, and the stores of all
runs are as they should be. -/
theorem Run.avoids (among : RequestContext → Prop)
    (run : Run others v { store := start } past sys)
    (serves : ∀ c call, among c → (v.serve c call).Avoids bad On)
    (punctual : bad .deadlineExceeded = false)
    (holds : ∀ {past sys}, Run others v { store := start } past sys → On sys.store) :
    ∀ f ∈ sys.flights, among f.context → f.rest.Avoids bad On := by
  generalize begun : ({ store := start } : System) = first at run
  induction run with
  | start =>
      cases begun
      simp
  | arrive run c call ih =>
      intro f flying own
      rcases List.mem_append.mp flying with before | new
      · exact ih f before own
      · cases List.mem_singleton.mp new
        exact serves c call own
  | @turn past sys sys' x run t i taken ih =>
      cases begun
      obtain ⟨g, deed, rest, s', flying, stepped, _, rfl⟩ := System.turn?_eq_some.mp taken
      intro f member own
      rcases List.mem_or_eq_of_mem_set member with before | rfl
      · exact ih f before own
      · exact (ih g (List.mem_of_getElem? flying) own).step punctual (holds run) stepped
  | change run changed ih => exact ih

end Vestibule
