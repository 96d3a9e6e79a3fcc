import Vestibule.Proofs.Gate
import Vestibule.Token.Jwt

/-! How a transaction fails. Each rule says for one way to build a transaction which of its parts
fails, so that the failures of a body are read off by rewriting. -/

namespace Vestibule

namespace Transaction

variable {α β : Type} {m : Moment} {s : Store} {e : RequestError}

/-- Under `m`, the work on `s` fails with `e`. -/
def Fails (t : Transaction α) (m : Moment) (s : Store) (e : RequestError) : Prop :=
  t.run m s = .error e

@[simp] theorem fails_pure {a : α} : ¬ (pure a : Transaction α).Fails m s e := by
  intro failed
  cases failed

@[simp] theorem fails_bind {t : Transaction α} {f : α → Transaction β} :
    (t >>= f).Fails m s e ↔ t.Fails m s e ∨ ∃ a s', t.Commits m s a s' ∧ (f a).Fails m s' e := by
  cases ran : t.run m s with
  | error e' =>
      have never : ∀ a s', ¬ t.Commits m s a s' := by
        intro a s' commits
        cases ran.symm.trans commits
      simp only [Fails, run_bind_of_error ran, ran, never, false_and, exists_false, or_false]
      constructor
      · rintro ⟨⟩
        rfl
      · rintro ⟨⟩
        rfl
  | ok done =>
      obtain ⟨a, s'⟩ := done
      have commits : t.Commits m s a s' := ran
      simp only [Fails, commits.run_bind, ran, reduceCtorEq, false_or]
      constructor
      · intro failed
        exact ⟨a, s', commits, failed⟩
      · rintro ⟨b, s₁, again, failed⟩
        cases ran.symm.trans again
        exact failed

@[simp] theorem fails_fail {e' : RequestError} :
    (fail e' : Transaction α).Fails m s e ↔ e' = e := by
  constructor
  · intro failed
    cases failed
    rfl
  · rintro rfl
    rfl

@[simp] theorem fails_deny {reason : Precondition} :
    (deny reason : Transaction α).Fails m s e ↔ .failedPrecondition reason = e := fails_fail

@[simp] theorem fails_refuse {reason : InvalidArgument} :
    (refuse reason : Transaction α).Fails m s e ↔ .invalidArgument reason = e := fails_fail

@[simp] theorem fails_get : ¬ (get : Transaction Store).Fails m s e := by
  intro failed
  cases failed

@[simp] theorem fails_set {t : Store} : ¬ (set t : Transaction PUnit).Fails m s e := by
  intro failed
  cases failed

@[simp] theorem fails_modify {f : Store → Store} :
    ¬ (modify f : Transaction PUnit).Fails m s e := by
  intro failed
  cases failed

@[simp] theorem fails_read : ¬ (read : Transaction Moment).Fails m s e := by
  intro failed
  cases failed

@[simp] theorem fails_now : ¬ now.Fails m s e := by
  intro failed
  cases failed

@[simp] theorem fails_need {x : Option α} {e' : RequestError} :
    (need x e').Fails m s e ↔ x = none ∧ e' = e := by
  cases x <;> simp [need]

@[simp] theorem fails_reach {d : Span} :
    (reach d).Fails m s e ↔ m.now.add? d = none ∧ .brokenOff = e := by
  simp only [reach, fails_bind, fails_now, commits_now, fails_need, false_or, and_assoc,
    exists_and_left, exists_eq_left]

@[simp] theorem fails_ofExcept {x : Except RequestError α} :
    (Transaction.ofExcept x).Fails m s e ↔ x = .error e := by
  cases x <;> simp [Transaction.ofExcept]

@[simp] theorem fails_write {f : Store → Except StoreError Store} :
    (write f).Fails m s e ↔ ∃ cause, f s = .error cause ∧ .ofStore cause = e := by
  simp only [write, fails_bind, fails_get, commits_get, false_or, and_assoc, exists_and_left,
    exists_eq_left]
  cases f s <;> simp

@[simp] theorem fails_ite {c : Prop} [Decidable c] {t u : Transaction α} :
    (if c then t else u).Fails m s e ↔ if c then t.Fails m s e else u.Fails m s e := by
  split <;> rfl

end Transaction

namespace TokenIssuer

variable {t : TokenIssuer} {claims : AccessClaims} {e : RequestError}

/-- A token is refused where its key cannot sign, which only a key pair may turn out not to. -/
theorem encode_eq_error (failed : t.encode claims = .error e) :
    e = .internal .encodeToken ∧
      (t.config.algorithm = .rs256 ∨ t.config.algorithm = .es256) ∧
        ∃ message, t.config.algorithm.sign? t.keys message = none := by
  simp only [encode] at failed
  split at failed
  · cases failed
  · rename_i unsigned
    cases failed
    refine ⟨rfl, ?_, _, unsigned⟩
    cases algorithm : t.config.algorithm with
    | hs256 | hs384 | hs512 => simp [algorithm, JwtAlgorithm.sign?] at unsigned
    | rs256 => exact .inl rfl
    | es256 => exact .inr rfl

end TokenIssuer

end Vestibule
