import Vestibule.Proofs.FailedLogin
import Vestibule.Proofs.KeyStream
import Vestibule.Proofs.Refusal

/-! What a check of a password decides. Where what is stored guards a key stream, the check accepts
the texts with this stream and rejects the others: against the password that waits on the session,
and against the user's. -/

namespace Vestibule

/-- These texts pass a stored hash exactly where they have the key stream. -/
def CredentialMatcher.Guards (k : CredentialMatcher) (texts : String → Prop)
    (stream : List UInt8) (hash : String) : Prop :=
  ∀ q, texts q → k.verifyHash q hash = .ok (Bcrypt.stream q == stream)

/-- The user has a stored hash that guards the key stream. -/
def User.Guarded (u : User) (k : CredentialMatcher) (texts : String → Prop)
    (stream : List UInt8) : Prop :=
  ∃ hash, u.passwordHash = some hash ∧ k.Guards texts stream hash

namespace Service

/-- A check of the password, begun in this store, ends well. -/
def Accepts (v : Service) (c : RequestContext) (email : Option String) (password : String)
    (m : Moment) (s : Store) : Prop :=
  ∃ r s', (v.verifyPasswordBody c email password).Commits m s (.ok r) s'

/-- A check of the password ends in a mismatch, whether it is counted or not. One whose lockout
would outlast the calendar is not answered. -/
def Rejects (v : Service) (c : RequestContext) (email : Option String) (password : String)
    (m : Moment) (s : Store) : Prop :=
  ∃ reason, (reason = .incorrectPassword ∨ reason = .failedPrecondition .lockedOut ∨
      reason = .brokenOff ∧ m.now.add? v.matcher.lockoutDuration = none) ∧
    ((v.verifyPasswordBody c email password).Fails m s reason ∨
      ∃ s', (v.verifyPasswordBody c email password).Commits m s (.error reason) s')

/-- Of these texts a check accepts those with the key stream and rejects the others. -/
def Decides (v : Service) (c : RequestContext) (email : Option String) (m : Moment) (s : Store)
    (texts : String → Prop) (stream : List UInt8) : Prop :=
  ∀ q, texts q → (v.Accepts c email q m s ↔ Bcrypt.stream q = stream) ∧
    (v.Rejects c email q m s ↔ Bcrypt.stream q ≠ stream)

end Service

variable {v : Service} {k : CredentialMatcher} {texts : String → Prop} {stream : List UInt8}
  {digest : Nat → List UInt8 → List UInt8 → List UInt8} {p q hash : String} {salt : List UInt8}
  {s s' : Store} {u : User}

namespace CredentialMatcher

/-- What is stored of a text guards the text's stream. -/
theorem guards_of_hash (keyed : k.scheme.Keyed digest) (apart : Bcrypt.Separates digest texts)
    (listed : texts p) (salted : salt.length = 16) (hashed : k.hash salt p = .ok hash) :
    k.Guards texts (Bcrypt.stream p) hash := by
  intro q listed'
  have same : (digest k.cost salt (Bcrypt.stream q) == digest k.cost salt (Bcrypt.stream p)) =
      (Bcrypt.stream q == Bcrypt.stream p) := by
    rw [Bool.eq_iff_iff, beq_iff_eq, beq_iff_eq]
    exact ⟨apart k.cost salt p q listed listed', fun same => same ▸ rfl⟩
  rw [verifyHash, keyed.verifies salted (Service.mapError_eq_ok.mp hashed), same]
  rfl

theorem Guards.stream_eq (guards : k.Guards texts stream hash) (listed : texts q)
    (compared : k.verifyHash q hash = .ok true) : Bcrypt.stream q = stream := by
  have same := (guards q listed).symm.trans compared
  simpa using same

end CredentialMatcher

namespace Service

open Transaction

variable {c : RequestContext} {email : Option String} {m : Moment} {l : Loaded} {o : Organization}

/-- A check ends in one way. -/
theorem Accepts.not_rejects (accepts : v.Accepts c email q m s) : ¬ v.Rejects c email q m s := by
  obtain ⟨r, s', committed⟩ := accepts
  rintro ⟨reason, _, failed | ⟨s'', committed'⟩⟩
  · cases (show _ = Except.ok _ from committed).symm.trans failed
  · cases (show _ = Except.ok _ from committed).symm.trans committed'

/-- A check decides by the key stream where it accepts the texts that have it and rejects the
others. -/
theorem decides_of (accepts : ∀ q, texts q → Bcrypt.stream q = stream → v.Accepts c email q m s)
    (rejects : ∀ q, texts q → Bcrypt.stream q ≠ stream → v.Rejects c email q m s) :
    v.Decides c email m s texts stream := by
  intro q listed
  by_cases same : Bcrypt.stream q = stream
  · have accepted := accepts q listed same
    exact ⟨iff_of_true accepted same, iff_of_false accepted.not_rejects (not_not_intro same)⟩
  · have rejected := rejects q listed same
    exact ⟨iff_of_false (fun accepted => accepted.not_rejects rejected) same,
      iff_of_true rejected same⟩

/-- A password that matched is accepted once the session can be written. -/
theorem accepts_of_check {r : IntermediateSession} {change : Audit.IntermediateSessionChange}
    (admitted : Loaded.Admitted c m.now s l) (writable : m.auditWritable = true)
    (checked : (v.check c l q email).Commits m s (.ok (r, change)) s')
    (present : s'.intermediateSessions.contains r.id = true) : v.Accepts c email q m s := by
  have loads : (Loaded.load c).Commits m s l s := Loaded.load_commits.mpr ⟨rfl, admitted⟩
  have persists : (persist c (Lesson.apply r .passwordMatched) change).Commits m s' ()
      (s'.persisted c m (Lesson.apply r .passwordMatched) change) :=
    persist_commits.mpr ⟨by rw [Lesson.apply_id, present], writable, rfl⟩
  refine ⟨Lesson.apply r .passwordMatched,
    s'.persisted c m (Lesson.apply r .passwordMatched) change, ?_⟩
  cases email <;>
    exact commits_bind.mpr ⟨l, s, loads, commits_bind.mpr ⟨_, s', checked,
      commits_bind.mpr ⟨(), _, persists, commits_pure.mpr ⟨rfl, rfl⟩⟩⟩⟩

/-- A mismatch is the answer, with what it wrote. -/
theorem commits_of_check {reason : RequestError} (admitted : Loaded.Admitted c m.now s l)
    (checked : (v.check c l q email).Commits m s (.error reason) s') :
    (v.verifyPasswordBody c email q).Commits m s (.error reason) s' := by
  have loads : (Loaded.load c).Commits m s l s := Loaded.load_commits.mpr ⟨rfl, admitted⟩
  cases email <;>
    exact commits_bind.mpr ⟨l, s, loads, commits_bind.mpr ⟨_, s', checked,
      commits_pure.mpr ⟨rfl, rfl⟩⟩⟩

theorem fails_of_check {reason : RequestError} (admitted : Loaded.Admitted c m.now s l)
    (failed : (v.check c l q email).Fails m s reason) :
    (v.verifyPasswordBody c email q).Fails m s reason := by
  have loads : (Loaded.load c).Commits m s l s := Loaded.load_commits.mpr ⟨rfl, admitted⟩
  cases email <;> exact fails_bind.mpr (.inr ⟨l, s, loads, fails_bind.mpr (.inl failed)⟩)

/-- On a session on which a password waits, the check compares with that. -/
theorem decides_of_staged (admitted : Loaded.Admitted c m.now s l) (checked : PasswordStep s l o)
    (writable : m.auditWritable = true) (waiting : l.session.stagedPasswordHash = some hash)
    (guards : v.matcher.Guards texts stream hash) : v.Decides c none m s texts stream := by
  have compares {q : String} {same : Bool} (compared : v.matcher.verifyHash q hash = .ok same) :
      (v.check c l q none).run m s =
        if same then .ok (.ok (l.session, .passwordVerified l.session.id o.id), s)
        else .error .incorrectPassword := by
    unfold check verifyChallenge
    rw [(Loaded.requireOrganization_commits.mpr ⟨checked.organization, rfl⟩).run_bind,
      (Loaded.requireMethod_commits (a := ()) |>.mpr ⟨checked.method, rfl⟩).run_bind,
      (Loaded.requireEmailVerified_commits (a := ()) |>.mpr ⟨checked.verified, rfl⟩).run_bind]
    simp only [checked.unmatched, waiting, Bool.false_eq_true, if_false]
    rw [(commits_ofExcept.mpr ⟨compared, rfl⟩).run_bind]
    cases same <;> rfl
  have present : s.intermediateSessions.contains l.session.id = true :=
    admitted.session_id.symm ▸ Table.contains_of_get? admitted.stored
  refine decides_of (fun q listed same => ?_) fun q listed apart => ?_
  · have matched : v.matcher.verifyHash q hash = .ok true := by
      rw [guards q listed, same, beq_self_eq_true]
    exact accepts_of_check admitted writable (compares matched) present
  · have missed : v.matcher.verifyHash q hash = .ok false := by
      rw [guards q listed, beq_eq_false_iff_ne.mpr apart]
    exact ⟨_, .inl rfl, .inl (fails_of_check admitted (compares missed))⟩

/-- Against a user, a check ends as the match with the user's hash does. -/
theorem check_of_owner {result : Except RequestError User} (owner : HashOwner s l email u)
    (ran : (v.matchAndRehash c u q).Commits m s result s') :
    ∃ f : User → IntermediateSession × Audit.IntermediateSessionChange,
      (∀ w, (f w).1.id = l.session.id) ∧ (v.check c l q email).Commits m s (result.map f) s' := by
  obtain ⟨f, own, checks⟩ := owner.run_check v c q
  exact ⟨f, own, checks.trans (commits_bind.mpr ⟨result, s', ran, commits_pure.mpr ⟨rfl, rfl⟩⟩)⟩

/-- A mismatch that cannot be counted, since the calendar ends before the lockout would, breaks the
check off. -/
theorem check_breaksOff (owner : HashOwner s l email u)
    (missed : v.matcher.Compares m.now u q false) (uncounted : v.matcher.miss? m.now u = none) :
    m.now.add? v.matcher.lockoutDuration = none ∧ (v.check c l q email).Fails m s .brokenOff := by
  obtain ⟨unlocked, hash, set, compared⟩ := missed
  have endless : m.now.add? v.matcher.lockoutDuration = none := by
    unfold CredentialMatcher.miss? at uncounted
    dsimp only at uncounted
    split at uncounted
    · exact Option.map_eq_none_iff.mp uncounted
    · cases uncounted
  have broken : (v.matcher.matchPassword c.projectId c.actor u q).Fails m s .brokenOff := by
    simp only [CredentialMatcher.matchPassword, fails_bind]
    exact .inr ⟨m, s, commits_read.mpr ⟨rfl, rfl⟩, .inr ⟨hash, s, commits_need.mpr ⟨set, rfl⟩, by
      simp [unlocked, compared, uncounted, fails_bind, commits_ofExcept]⟩⟩
  obtain ⟨_, _, checks⟩ := owner.run_check v c q
  exact ⟨endless, checks.trans (run_bind_of_error (run_bind_of_error broken))⟩

/-- Against a user who is not locked out, the check compares with the user's hash. -/
theorem decides_of_owner (admitted : Loaded.Admitted c m.now s l) (owner : HashOwner s l email u)
    (unlocked : u.isLockedOut m.now = false) (writable : m.auditWritable = true)
    (hashes : ∀ q, ∃ hash, v.matcher.hash m.salt q = .ok hash)
    (guarded : u.Guarded v.matcher texts stream) : v.Decides c email m s texts stream := by
  obtain ⟨hash, set, guards⟩ := guarded
  have present : s.users.contains u.id = true := Table.contains_of_get? owner.stored.1
  refine decides_of (fun q listed same => ?_) fun q listed apart => ?_
  · have matched : v.matcher.Compares m.now u q true :=
      ⟨unlocked, hash, set, by rw [guards q listed, same, beq_self_eq_true]⟩
    obtain ⟨new, hashed⟩ := hashes q
    obtain ⟨f, own, checked⟩ := check_of_owner owner
      (matchAndRehash_commits.mpr (.inl ⟨new, matched, hashed, present, rfl, rfl⟩))
    refine accepts_of_check admitted writable checked ?_
    rw [own, admitted.session_id]
    exact Table.contains_of_get? admitted.stored
  · have missed : v.matcher.Compares m.now u q false :=
      ⟨unlocked, hash, set, by rw [guards q listed, beq_eq_false_iff_ne.mpr apart]⟩
    cases counted : v.matcher.miss? m.now u with
    | some w =>
        have ran : (v.matchAndRehash c u q).Commits m s (.error w.reason) (s.missed c m w) :=
          matchAndRehash_commits.mpr (.inr ⟨missed, w, counted, present, writable, rfl, rfl⟩)
        obtain ⟨f, _, checked⟩ := check_of_owner owner ran
        obtain ⟨_, told⟩ := CredentialMatcher.miss?_counts counted
        exact ⟨_, told.imp_right .inl, .inr ⟨_, commits_of_check admitted checked⟩⟩
    | none =>
        obtain ⟨endless, broken⟩ := check_breaksOff owner missed counted
        exact ⟨_, .inr (.inr ⟨rfl, endless⟩), .inl (fails_of_check admitted broken)⟩

end Service

end Vestibule
