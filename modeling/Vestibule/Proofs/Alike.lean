import Vestibule.Proofs.Refusal
import Vestibule.Proofs.Turn

/-! Two stores, and the same work on both. The work goes alike where it ends with the same result
and leaves stores that are alike again, or fails with the same error. Each rule says for one way to
build a transaction when two of that form go alike. -/

namespace Vestibule

namespace Transaction

variable {α β : Type} {R : Store → Store → Prop} {m : Moment} {s t s' t' : Store}

/-- Under `m`, the one work on `s` and the other on `t` end with the same result and stores that are
alike, or they fail with the same error. -/
def Alike (R : Store → Store → Prop) (x y : Transaction α) (m : Moment) (s t : Store) : Prop :=
  (∃ a s' t', x.Commits m s a s' ∧ y.Commits m t a t' ∧ R s' t') ∨
    ∃ e, x.Fails m s e ∧ y.Fails m t e

@[simp] theorem alike_pure {a b : α} :
    Alike R (pure a) (pure b) m s t ↔ a = b ∧ R s t := by
  simp only [Alike, commits_pure, fails_pure, false_and, exists_false, or_false]
  constructor
  · rintro ⟨_, _, _, ⟨rfl, rfl⟩, ⟨rfl, rfl⟩, like⟩
    exact ⟨rfl, like⟩
  · rintro ⟨rfl, like⟩
    exact ⟨_, s, t, ⟨rfl, rfl⟩, ⟨rfl, rfl⟩, like⟩

@[simp] theorem alike_fail {e : RequestError} :
    Alike R (fail e : Transaction α) (fail e) m s t :=
  .inr ⟨e, rfl, rfl⟩

@[simp] theorem alike_deny {reason : Precondition} :
    Alike R (deny reason : Transaction α) (deny reason) m s t := alike_fail

@[simp] theorem alike_refuse {reason : InvalidArgument} :
    Alike R (refuse reason : Transaction α) (refuse reason) m s t := alike_fail

/-- Works that go alike go on alike from wherever they come to. -/
theorem Alike.bind {x y : Transaction α} {f g : α → Transaction β} {Q : Store → Store → Prop}
    (first : Alike Q x y m s t)
    (onward : ∀ a s' t', x.Commits m s a s' → y.Commits m t a t' → Q s' t' →
      Alike R (f a) (g a) m s' t') : Alike R (x >>= f) (y >>= g) m s t := by
  rcases first with ⟨a, s', t', here, there, like⟩ | ⟨e, here, there⟩
  · rcases onward a s' t' here there like with ⟨b, s'', t'', on, on', like'⟩ | ⟨e, on, on'⟩
    · exact .inl ⟨b, s'', t'', commits_bind.mpr ⟨a, s', here, on⟩,
        commits_bind.mpr ⟨a, t', there, on'⟩, like'⟩
    · exact .inr ⟨e, fails_bind.mpr (.inr ⟨a, s', here, on⟩),
        fails_bind.mpr (.inr ⟨a, t', there, on'⟩)⟩
  · exact .inr ⟨e, fails_bind.mpr (.inl here), fails_bind.mpr (.inl there)⟩

/-- After works that leave the stores as they were, the next begin where these did. -/
theorem Alike.bind_unchanged {x y : Transaction α} {f g : α → Transaction β}
    (first : Alike (fun s' t' => s' = s ∧ t' = t) x y m s t)
    (onward : ∀ a, x.Commits m s a s → y.Commits m t a t → Alike R (f a) (g a) m s t) :
    Alike R (x >>= f) (y >>= g) m s t := by
  refine first.bind ?_
  rintro a s' t' here there ⟨rfl, rfl⟩
  exact onward a here there

/-- What is read of the stores may differ, if what is made of it goes alike. -/
@[simp] theorem alike_get_bind {f g : Store → Transaction β} :
    Alike R (get >>= f) (get >>= g) m s t ↔ Alike R (f s) (g t) m s t := Iff.rfl

@[simp] theorem alike_read_bind {f g : Moment → Transaction β} :
    Alike R (read >>= f) (read >>= g) m s t ↔ Alike R (f m) (g m) m s t := Iff.rfl

@[simp] theorem alike_now_bind {f g : Instant → Transaction β} :
    Alike R (now >>= f) (now >>= g) m s t ↔ Alike R (f m.now) (g m.now) m s t := Iff.rfl

@[simp] theorem alike_set_bind {f g : PUnit → Transaction β} :
    Alike R (set s' >>= f) (set t' >>= g) m s t ↔ Alike R (f ⟨⟩) (g ⟨⟩) m s' t' := Iff.rfl

@[simp] theorem alike_modify_bind {h k : Store → Store} {f g : PUnit → Transaction β} :
    Alike R (modify h >>= f) (modify k >>= g) m s t ↔ Alike R (f ⟨⟩) (g ⟨⟩) m (h s) (k t) :=
  Iff.rfl

@[simp] theorem alike_fail_bind {e : RequestError} {f g : α → Transaction β} :
    Alike R (fail e >>= f) (fail e >>= g) m s t := alike_fail (α := β)

@[simp] theorem alike_deny_bind {reason : Precondition} {f g : α → Transaction β} :
    Alike R (deny reason >>= f) (deny reason >>= g) m s t := alike_fail_bind

@[simp] theorem alike_refuse_bind {reason : InvalidArgument} {f g : α → Transaction β} :
    Alike R (refuse reason >>= f) (refuse reason >>= g) m s t := alike_fail_bind

@[simp] theorem alike_need_bind {x : Option α} {e : RequestError} {f g : α → Transaction β} :
    Alike R (need x e >>= f) (need x e >>= g) m s t ↔
      ∀ a, x = some a → Alike R (f a) (g a) m s t := by
  cases x with
  | none => simp [need]
  | some b => simp [need]

@[simp] theorem alike_reach_bind {d : Span} {f g : Instant → Transaction β} :
    Alike R (reach d >>= f) (reach d >>= g) m s t ↔
      ∀ i, m.now.add? d = some i → Alike R (f i) (g i) m s t :=
  alike_need_bind

@[simp] theorem alike_ofExcept_bind {x : Except RequestError α} {f g : α → Transaction β} :
    Alike R (Transaction.ofExcept x >>= f) (Transaction.ofExcept x >>= g) m s t ↔
      ∀ a, x = .ok a → Alike R (f a) (g a) m s t := by
  cases x with
  | error e => simp [Transaction.ofExcept]
  | ok b => simp [Transaction.ofExcept]

@[simp] theorem alike_ite {c : Prop} [Decidable c] {x y x' y' : Transaction α} :
    Alike R (if c then x else x') (if c then y else y') m s t ↔
      (c → Alike R x y m s t) ∧ (¬ c → Alike R x' y' m s t) := by
  split <;> simp_all

/-- What is to be written is accepted by both stores, which are alike again, or refused by both. -/
def WritesAlike (R : Store → Store → Prop) (f : Store → Except StoreError Store) (s t : Store) :
    Prop :=
  (∃ s' t', f s = .ok s' ∧ f t = .ok t' ∧ R s' t') ∨ ∃ e, f s = .error e ∧ f t = .error e

theorem WritesAlike.alike {f : Store → Except StoreError Store} (written : WritesAlike R f s t) :
    Alike R (write f) (write f) m s t := by
  rcases written with ⟨s', t', here, there, like⟩ | ⟨e, here, there⟩
  · exact .inl ⟨(), s', t', commits_write.mpr here, commits_write.mpr there, like⟩
  · exact .inr ⟨.ofStore e, fails_write.mpr ⟨e, here, rfl⟩, fails_write.mpr ⟨e, there, rfl⟩⟩

/-- Work that has nothing to do with the store: it leaves it as it is, and its result or its failure
is the same on every store. -/
def Detached (x : Transaction α) : Prop :=
  ∀ m, (∃ a, ∀ s, x.Commits m s a s) ∨ ∃ e, ∀ s, x.Fails m s e

namespace Detached

variable {x : Transaction α}

theorem alike (detached : x.Detached) (like : R s t) : Alike R x x m s t := by
  rcases detached m with ⟨a, commits⟩ | ⟨e, fails⟩
  · exact .inl ⟨a, s, t, commits s, commits t, like⟩
  · exact .inr ⟨e, fails s, fails t⟩

theorem alike_bind {f g : α → Transaction β} (detached : x.Detached)
    (onward : ∀ a, x.Commits m s a s → Alike R (f a) (g a) m s t) :
    Alike R (x >>= f) (x >>= g) m s t :=
  (detached.alike ⟨rfl, rfl⟩).bind_unchanged fun a here _ => onward a here

theorem pure {a : α} : (Pure.pure a : Transaction α).Detached :=
  fun _ => .inl ⟨a, fun _ => commits_pure.mpr ⟨rfl, rfl⟩⟩

theorem fail {e : RequestError} : (Transaction.fail e : Transaction α).Detached :=
  fun _ => .inr ⟨e, fun _ => rfl⟩

end Detached

end Transaction

namespace Operation

variable {I : Interface} {α β σ φ : Type} {drawn : Moment → Prop} {R : Store → Store → Prop}
  {op : Operation I α}

/-- On stores that are alike the operation goes alike, transaction by transaction, as long as the
moments are among those drawn. -/
def Alike (drawn : Moment → Prop) (R : Store → Store → Prop) : Operation I α → Prop
  | finish _ => True
  | transact body next => (∀ m s t, drawn m → R s t → body.Alike R body m s t) ∧
      ∀ m s b s', drawn m → body.Commits m s b s' → (next b).Alike drawn R
  | await _ _ next => ∀ reply, (next reply).Alike drawn R
  | checkpoint next => next.Alike drawn R

namespace Alike

/-- What is left after a turn goes alike, whichever store the turn was on. -/
theorem onward {turn : Turn I} {s s' : Store} {d : Deed I} {rest : Operation I α}
    (alike : op.Alike drawn R) (moment : drawn turn.moment)
    (stepped : op.step? turn s = some (d, rest, s')) : rest.Alike drawn R := by
  cases step?_eq_some.mp stepped with
  | committed committed => exact alike.2 _ _ _ _ moment committed
  | failed | unanswered | late => trivial
  | answered => exact alike _
  | passed => exact alike

/-- A turn goes alike: there is none to take on either store, or what is left is the same and the
stores are alike again. -/
theorem step {turn : Turn I} {s t : Store} (alike : op.Alike drawn R) (moment : drawn turn.moment)
    (like : R s t) : (op.step? turn s = none ∧ op.step? turn t = none) ∨
      ∃ d d' rest s' t', op.step? turn s = some (d, rest, s') ∧
        op.step? turn t = some (d', rest, t') ∧ R s' t' := by
  cases op with
  | finish result => exact .inl ⟨rfl, rfl⟩
  | transact body next =>
      rcases alike.1 turn.moment s t moment like with
        ⟨b, s', t', here, there, like'⟩ | ⟨e, here, there⟩
      · exact .inr ⟨_, _, next b, s', t', step?_eq_some.mpr (.committed here),
          step?_eq_some.mpr (.committed there), like'⟩
      · exact .inr ⟨_, _, _, s, t, step?_eq_some.mpr (.failed here),
          step?_eq_some.mpr (.failed there), like⟩
  | await bounded request next =>
      cases replied : turn.reply request with
      | some reply =>
          exact .inr ⟨_, _, _, s, t, step?_eq_some.mpr (.answered replied),
            step?_eq_some.mpr (.answered replied), like⟩
      | none =>
          cases bounded with
          | true =>
              exact .inr ⟨_, _, _, s, t, step?_eq_some.mpr (.unanswered replied),
                step?_eq_some.mpr (.unanswered replied), like⟩
          | false => exact .inl (by simp [step?, replied])
  | checkpoint next =>
      cases reached : turn.late with
      | true =>
          exact .inr ⟨_, _, _, s, t, step?_eq_some.mpr (.late reached),
            step?_eq_some.mpr (.late reached), like⟩
      | false =>
          exact .inr ⟨_, _, _, s, t, step?_eq_some.mpr (.passed reached),
            step?_eq_some.mpr (.passed reached), like⟩

theorem map {f : α → β} (alike : op.Alike drawn R) : (op.map f).Alike drawn R := by
  induction op with
  | finish result => trivial
  | transact body next ih =>
      exact ⟨alike.1, fun m s b s' moment here => ih b (alike.2 m s b s' moment here)⟩
  | await bounded request next ih => exact fun reply => ih reply (alike reply)
  | checkpoint next ih => exact ih alike

theorem single {body : Transaction α}
    (works : ∀ m s t, drawn m → R s t → body.Alike R body m s t) :
    (single body : Operation I α).Alike drawn R :=
  ⟨works, fun _ _ _ _ _ _ => trivial⟩

theorem bounded {x : Fetch I α} {next : α → Operation I β}
    (each : ∀ a, (next a).Alike drawn R) : (x.bounded next).Alike drawn R := by
  induction x with
  | done result =>
      cases result with
      | error e => trivial
      | ok a => exact each a
  | ask request k ih => exact ih
  | pause k ih => exact ih

/-- What the first phase reads is dropped, so the stores stay as alike as they were. -/
theorem twoPhase {read : Transaction σ} {fetch : σ → Fetch I φ} {write : σ → φ → Transaction α}
    (reads : ∀ m s t, drawn m → R s t → read.Alike R read m s t)
    (writes : ∀ snapshot fetched m s t, drawn m → R s t →
      (write snapshot fetched).Alike R (write snapshot fetched) m s t) :
    (twoPhase read fetch write : Operation I α).Alike drawn R := by
  constructor
  · intro m s t moment like
    refine Transaction.alike_get_bind.mpr ((reads m s t moment like).bind ?_)
    intro snapshot s' t' _ _ _
    exact Transaction.alike_set_bind.mpr (Transaction.alike_pure.mpr ⟨rfl, like⟩)
  · exact fun _ _ snapshot _ _ _ => bounded fun fetched => single (writes snapshot fetched)

end Alike

end Operation

end Vestibule
