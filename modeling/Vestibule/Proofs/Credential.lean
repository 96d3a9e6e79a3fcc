import Vestibule.Flow.Password
import Vestibule.Proofs.Gate

/-! Which users a step finds, and what a password check makes of the one it is made against. -/

namespace Vestibule

namespace Store

variable {s s' : Store} {organizationId projectId : Uuid} {email : String} {u : User}

theorem userByEmail?_eq_some (found : s.userByEmail? organizationId email = some u) :
    s.users.get? u.id = some u ∧ u.organizationId = organizationId ∧ u.email = email ∧
      u.isActive = true := by
  have member := List.mem_of_find?_eq_some found
  have chosen := List.find?_some found
  simp only [Bool.and_eq_true, beq_iff_eq, and_assoc] at chosen
  exact ⟨Table.get?_of_mem member, chosen⟩

theorem userBySubject?_eq_some {provider : OAuthProvider} {subject : String}
    (found : s.userBySubject? organizationId provider subject = some u) :
    s.users.get? u.id = some u ∧ u.organizationId = organizationId ∧ u.isActive = true ∧
      u.providerSubject provider = some subject := by
  have member := List.mem_of_find?_eq_some found
  have chosen := List.find?_some found
  simp only [Bool.and_eq_true, beq_iff_eq, and_assoc] at chosen
  exact ⟨Table.get?_of_mem member, chosen⟩

theorem mem_passwordLoginCandidates :
    u ∈ s.passwordLoginCandidates projectId email ↔
      u ∈ s.users.rows ∧ u.email = email ∧ u.isActive = true ∧ u.passwordHash.isSome = true ∧
        s.allowsPasswordLogin projectId u.organizationId = true := by
  simp [passwordLoginCandidates, List.mem_mergeSort, and_assoc]

theorem filter_passwordLoginCandidates :
    ((s.passwordLoginCandidates projectId email).filter fun u =>
      u.isActive && u.passwordHash.isSome) = s.passwordLoginCandidates projectId email := by
  refine List.filter_eq_self.mpr fun u member => ?_
  obtain ⟨_, _, active, set, _⟩ := mem_passwordLoginCandidates.mp member
  simp [active, set]

/-- The user of the first redeemed account that is linked to one. -/
def linkedUser? (s : Store) (organizationId : Uuid) (r : IntermediateSession) : Option User :=
  r.providerSubjects.findSome? fun account => s.userBySubject? organizationId account.1 account.2

/-- The user that an exchange is for: whom a redeemed account is linked to, else the user with the
session's email. -/
def userForExchange? (s : Store) (organizationId : Uuid) (r : IntermediateSession) : Option User :=
  (s.linkedUser? organizationId r).or (r.email.bind (s.userByEmail? organizationId))

/-- The store with a user's record replaced. -/
def withUser (s : Store) (u : User) : Store := { s with users := s.users.replace u }

theorem updateUser_eq_ok :
    s.updateUser u = .ok s' ↔ s.users.contains u.id = true ∧ s' = s.withUser u := by
  cases present : s.users.contains u.id with
  | false => simp [updateUser, present]
  | true =>
      simp only [updateUser, present, if_true, Except.ok.injEq, true_and, withUser]
      exact eq_comm

/-- The store after a mismatch: the count of the user, and the entry that audits it. -/
def missed (s : Store) (c : RequestContext) (m : Moment) (missed : Mismatch) : Store :=
  (s.withUser missed.user).logged
    (missed.change.toEvent m.eventId m.now c.projectId c.actor)

end Store

namespace Linking

open Transaction

variable {m : Moment} {s s' : Store} {organizationId projectId : Uuid} {email : String}
  {r : IntermediateSession}

/-- Users that are looked up are active, so looking at it once more drops none. -/
theorem filter_isActive_userByEmail? :
    (s.userByEmail? organizationId email).filter User.isActive =
      s.userByEmail? organizationId email := by
  cases found : s.userByEmail? organizationId email with
  | none => rfl
  | some u => simp [Option.filter, (Store.userByEmail?_eq_some found).2.2.2]

theorem filter_isActive_userBySubject? {provider : OAuthProvider} {subject : String} :
    (s.userBySubject? organizationId provider subject).filter User.isActive =
      s.userBySubject? organizationId provider subject := by
  cases found : s.userBySubject? organizationId provider subject with
  | none => rfl
  | some u => simp [Option.filter, (Store.userBySubject?_eq_some found).2.2.1]

@[simp] theorem byEmail_commits {found : Option User} :
    (byEmail organizationId email).Commits m s found s' ↔
      found = s.userByEmail? organizationId email ∧ s' = s := by
  simp only [byEmail, bind_pure_comp, commits_map, commits_get, filter_isActive_userByEmail?]
  constructor
  · rintro ⟨_, ⟨rfl, rfl⟩, rfl⟩
    exact ⟨rfl, rfl⟩
  · rintro ⟨rfl, rfl⟩
    exact ⟨_, ⟨rfl, rfl⟩, rfl⟩

theorem any_password_eq_false {found : Option User} :
    found.any (·.passwordHash.isSome) = false ↔ ∀ u ∈ found, u.passwordHash = none := by
  cases found <;> simp

@[simp] theorem forRegistration_commits {found : Option User} :
    (forRegistration organizationId r).Commits m s found s' ↔
      ∃ email, r.email = some email ∧ found = s.userByEmail? organizationId email ∧
        (r.resetCodeVerified = true ∨
          r.stagedPasswordHash = none ∧ ∀ u ∈ found, u.passwordHash = none) ∧ s' = s := by
  simp only [forRegistration, commits_bind, commits_need, byEmail_commits, commits_ite,
    commits_deny, commits_pure, and_assoc, exists_and_left, exists_eq_left]
  constructor
  · rintro ⟨email, known, allowed⟩
    split at allowed
    · exact absurd allowed not_false
    · rename_i licensed
      obtain ⟨rfl, rfl⟩ := allowed
      refine ⟨email, known, rfl, ?_, rfl⟩
      by_cases verified : r.resetCodeVerified = true
      · exact .inl verified
      · right
        rw [← any_password_eq_false]
        simpa [verified] using licensed
  · rintro ⟨email, known, rfl, licensed, rfl⟩
    refine ⟨email, known, ?_⟩
    rw [if_neg]
    · exact ⟨rfl, rfl⟩
    · rcases licensed with verified | ⟨unstaged, unset⟩
      · simp [verified]
      · simp [unstaged, any_password_eq_false.mpr unset]

@[simp] theorem uniqueForPassword_commits {u : User} :
    (uniqueForPassword projectId email).Commits m s u s' ↔
      s.passwordLoginCandidates projectId email = [u] ∧ s' = s := by
  simp only [uniqueForPassword, commits_bind, commits_get, and_assoc, exists_and_left,
    exists_eq_left, Store.filter_passwordLoginCandidates]
  cases s.passwordLoginCandidates projectId email with
  | nil => simp
  | cons v rest =>
      cases rest with
      | nil => simp [eq_comm]
      | cons w rest => simp

@[simp] theorem forExchange_commits {found : Option User} :
    (forExchange organizationId r).Commits m s found s' ↔
      found = s.userForExchange? organizationId r ∧ s' = s := by
  simp only [forExchange, Store.userForExchange?, Store.linkedUser?,
    filter_isActive_userBySubject?, commits_bind, commits_get, and_assoc, exists_and_left,
    exists_eq_left]
  cases r.providerSubjects.findSome? fun account =>
      s.userBySubject? organizationId account.1 account.2 with
  | some u => simp
  | none => cases r.email <;> simp

end Linking

/-- The parts of a user that no step on a session changes. -/
structure User.SameIdentity (u u' : User) : Prop where
  id : u'.id = u.id
  organizationId : u'.organizationId = u.organizationId
  email : u'.email = u.email
  isOwner : u'.isOwner = u.isOwner
  deactivateTime : u'.deactivateTime = u.deactivateTime
  createTime : u'.createTime = u.createTime

theorem User.SameIdentity.refl (u : User) : u.SameIdentity u := ⟨rfl, rfl, rfl, rfl, rfl, rfl⟩

theorem User.SameIdentity.trans {u u' u'' : User} (first : u.SameIdentity u')
    (second : u'.SameIdentity u'') : u.SameIdentity u'' :=
  ⟨second.id.trans first.id, second.organizationId.trans first.organizationId,
    second.email.trans first.email, second.isOwner.trans first.isOwner,
    second.deactivateTime.trans first.deactivateTime, second.createTime.trans first.createTime⟩

/-- The user after a match: hashed anew, with nothing left of earlier mismatches. -/
def User.rehashed (u : User) (now : Instant) (hash : String) : User :=
  { u with
    passwordHash := some hash
    failedPasswordAttempts := 0
    lockoutExpireTime := none
    updateTime := now }

theorem User.rehashed_sameIdentity {u : User} {now : Instant} {hash : String} :
    u.SameIdentity (u.rehashed now hash) := ⟨rfl, rfl, rfl, rfl, rfl, rfl⟩

namespace CredentialMatcher

open Transaction

variable {k : CredentialMatcher} {c : RequestContext} {m : Moment} {s s' : Store} {now : Instant}
  {u : User} {w : Mismatch} {password : String}

/-- A check reaches the hash of a user who is not locked out, and this is how it compares. -/
structure Compares (k : CredentialMatcher) (now : Instant) (u : User) (password : String)
    (same : Bool) : Prop where
  unlocked : u.isLockedOut now = false
  compared : ∃ hash, u.passwordHash = some hash ∧ k.verifyHash password hash = .ok same

/-- A mismatch is counted, or it fills the allowance and locks the user out for the length of a
lockout. -/
theorem miss?_eq_some (missed : k.miss? now u = some w) :
    (¬ k.lockoutAttempts ≤ u.failedPasswordAttempts + 1 ∧
      w = ⟨{ u with
          failedPasswordAttempts := u.failedPasswordAttempts + 1
          updateTime := now },
        .passwordAttemptFailed u.id u.organizationId, .incorrectPassword⟩) ∨
    k.lockoutAttempts ≤ u.failedPasswordAttempts + 1 ∧
      ∃ expire, now.add? k.lockoutDuration = some expire ∧
        w = ⟨{ u with
            failedPasswordAttempts := 0
            lockoutExpireTime := some expire
            updateTime := now },
          .passwordLockedOut u.id u.organizationId expire, .failedPrecondition .lockedOut⟩ := by
  unfold miss? at missed
  dsimp only at missed
  split at missed
  · rename_i filled
    obtain ⟨expire, ends, rfl⟩ := Option.map_eq_some_iff.mp missed
    exact .inr ⟨filled, expire, ends, rfl⟩
  · rename_i allowed
    cases missed
    exact .inl ⟨allowed, rfl⟩

theorem miss?_sameIdentity (missed : k.miss? now u = some w) : u.SameIdentity w.user := by
  rcases miss?_eq_some missed with ⟨_, rfl⟩ | ⟨_, _, _, rfl⟩ <;>
    exact ⟨rfl, rfl, rfl, rfl, rfl, rfl⟩

theorem miss?_id (missed : k.miss? now u = some w) : w.user.id = u.id :=
  (miss?_sameIdentity missed).id

theorem matchPassword_commits {outcome : User × MatchOutcome} :
    (k.matchPassword c.projectId c.actor u password).Commits m s outcome s' ↔
      k.Compares m.now u password true ∧
          outcome = ({ u with failedPasswordAttempts := 0, lockoutExpireTime := none }, .matched) ∧
          s' = s ∨
        k.Compares m.now u password false ∧ ∃ w, k.miss? m.now u = some w ∧
          outcome = (w.user, .rejected w.reason) ∧
          s.users.contains u.id = true ∧ m.auditWritable = true ∧ s' = s.missed c m w := by
  simp only [matchPassword, commits_bind, commits_read, commits_need, commits_ite, commits_deny,
    commits_ofExcept, commits_pure, commits_write, recordEvent_commits, Store.updateUser_eq_ok,
    and_assoc, exists_and_left, exists_eq_left, exists_const]
  constructor
  · rintro ⟨hash, set, ran⟩
    split at ran
    · exact absurd ran not_false
    · rename_i unlocked
      obtain ⟨same, compared, ran⟩ := ran
      cases same with
      | true =>
          obtain ⟨rfl, rfl⟩ := ran
          exact .inl ⟨⟨by simpa using unlocked, hash, set, compared⟩, rfl, rfl⟩
      | false =>
          obtain ⟨w, missed, present, writable, rfl, rfl⟩ := ran
          exact .inr ⟨⟨by simpa using unlocked, hash, set, compared⟩, w, missed, rfl,
            miss?_id missed ▸ present, writable, rfl⟩
  · rintro (⟨⟨unlocked, hash, set, compared⟩, rfl, rfl⟩ |
      ⟨⟨unlocked, hash, set, compared⟩, w, missed, rfl, present, writable, rfl⟩)
    · exact ⟨hash, set, by simp [unlocked, compared]⟩
    · refine ⟨hash, set, ?_⟩
      simp only [unlocked, Bool.false_eq_true, if_false]
      exact ⟨false, compared, w, missed, miss?_id missed ▸ present, writable, rfl, rfl⟩

end CredentialMatcher

namespace Service

open Transaction

/-- A match is hashed anew and a mismatch is counted; both are committed. -/
theorem matchAndRehash_commits {v : Service} {c : RequestContext} {m : Moment} {s s' : Store}
    {u : User} {password : String} {result : Except RequestError User} :
    (v.matchAndRehash c u password).Commits m s result s' ↔
      (∃ hash, v.matcher.Compares m.now u password true ∧
          v.matcher.hash m.salt password = .ok hash ∧ s.users.contains u.id = true ∧
          result = .ok (u.rehashed m.now hash) ∧ s' = s.withUser (u.rehashed m.now hash)) ∨
        v.matcher.Compares m.now u password false ∧ ∃ w, v.matcher.miss? m.now u = some w ∧
          s.users.contains u.id = true ∧ m.auditWritable = true ∧ result = .error w.reason ∧
          s' = s.missed c m w := by
  simp only [matchAndRehash, commits_bind, CredentialMatcher.matchPassword_commits]
  constructor
  · rintro ⟨_, _, ⟨matched, rfl, rfl⟩ | ⟨mismatched, w, missed, rfl, present, writable, rfl⟩, ran⟩
    · simp only [commits_bind, commits_read, commits_ofExcept, commits_write, commits_pure,
        Store.updateUser_eq_ok, and_assoc, exists_and_left, exists_eq_left, exists_const] at ran
      obtain ⟨hash, hashed, present, rfl, _, rfl, rfl⟩ := ran
      exact .inl ⟨hash, matched, hashed, present, rfl, rfl⟩
    · obtain ⟨rfl, rfl⟩ := commits_pure.mp ran
      exact .inr ⟨mismatched, w, missed, present, writable, rfl, rfl⟩
  · rintro (⟨hash, matched, hashed, present, rfl, rfl⟩ |
      ⟨mismatched, w, missed, present, writable, rfl, rfl⟩)
    · refine ⟨_, s, .inl ⟨matched, rfl, rfl⟩, ?_⟩
      simp only [commits_bind, commits_read, commits_ofExcept, commits_write, commits_pure,
        Store.updateUser_eq_ok, and_assoc, exists_and_left, exists_eq_left, exists_const]
      exact ⟨hash, hashed, present, rfl, rfl⟩
    · exact ⟨_, _, .inr ⟨mismatched, w, missed, rfl, present, writable, rfl⟩, by simp⟩

end Service

end Vestibule
