import Vestibule.Flow.Exchange
import Vestibule.Proofs.Credential
import Vestibule.Proofs.Lesson
import Vestibule.Proofs.Turn

/-! What an exchange that is committed checked, and the three records that it writes: a user, the
intermediate session and a new session. -/

namespace Vestibule

/-- What lets an admitted session be exchanged. -/
structure Exchangeable (s : Store) (l : Loaded) (o : Organization) (factor : PrimaryAuthFactor) :
    Prop where
  organization : l.organization = some o
  founded : l.session.primaryAuthFactor = some factor
  method : l.allows factor.loginMethod = true
  verified : Loaded.isEmailVerified s l.project.id l.session = true
  satisfied : l.session.primaryFactorSatisfied = true
  second : o.mfaEnforceable = true → l.session.secondFactorSatisfied = true

/-- The user that a session stands for, whether it is created, and the store with it. -/
inductive Resolves (m : Moment) (s : Store) (organizationId : Uuid) (r : IntermediateSession) :
    User → Bool → Store → Prop where
  | found {old u : User} (found : s.userForExchange? organizationId r = some old)
      (attached : attachIdentity m.now old r = .ok u) :
      Resolves m s organizationId r u false (s.withUser u)
  | created {email : String} {u : User} (absent : s.userForExchange? organizationId r = none)
      (known : r.email = some email)
      (attached : attachIdentity m.now (User.new m.userId m.now organizationId email) r = .ok u)
      (unique : ∀ v ∈ s.users.rows, ¬ (v.organizationId = u.organizationId ∧ v.email = u.email))
      (fresh : s.users.contains u.id = false) :
      Resolves m s organizationId r u true { s with users := s.users.add u }

theorem Resolves.written {m : Moment} {s written : Store} {organizationId : Uuid}
    {r : IntermediateSession} {u : User} {created : Bool}
    (resolves : Resolves m s organizationId r u created written) :
    ∃ users, written = { s with users := users } := by
  cases resolves with
  | found => exact ⟨_, rfl⟩
  | created => exact ⟨_, rfl⟩

/-- The session that an exchange creates. -/
def IssuedSession.of (m : Moment) (u : User) (factor : PrimaryAuthFactor) (expire : Instant) :
    IssuedSession :=
  ⟨.new m.sessionId m.now u.id m.secret.digest factor expire, m.secret.token .sessionRefreshToken⟩

/-- The store after an exchange, from the one that its user was written to. -/
def Store.exchanged (s : Store) (c : RequestContext) (m : Moment) (r : IntermediateSession)
    (u : User) (created : Bool) (factor : PrimaryAuthFactor) (expire : Instant) : Store :=
  { s.withIntermediateSession (Lesson.apply r (.exchanged m.now)) with
    sessions := s.sessions.add (IssuedSession.of m u factor expire).session }.logged
    ((Audit.SessionChange.created m.sessionId u.id u.organizationId r.id factor created).toEvent
      m.eventId m.now r.projectId c.actor)

namespace Service

/-- An exchange that was committed: from `s` to `s'`. -/
def Exchanged (v : Service) (c : RequestContext) (m : Moment) (s s' : Store)
    (result : IssuedSession × User × Bool) : Prop :=
  ∃ l o factor u created written expire, Loaded.Admitted c m.now s l ∧ Exchangeable s l o factor ∧
    Resolves m s o.id l.session u created written ∧
      m.now.add? v.config.sessionLifetime = some expire ∧
        s.sessions.contains m.sessionId = false ∧ m.auditWritable = true ∧
          result = (.of m u factor expire, u, created) ∧
            s' = written.exchanged c m l.session u created factor expire

end Service

section

open Transaction

variable {v : Service} {c : RequestContext} {m : Moment} {s s' : Store} {l : Loaded}
  {r : IntermediateSession} {u u' : User} {now : Instant} {accounts : List (OAuthProvider × String)}

theorem User.setProviderSubject_sameIdentity {p : OAuthProvider} {subject : String} :
    u.SameIdentity (u.setProviderSubject p subject) := by
  cases p <;> exact ⟨rfl, rfl, rfl, rfl, rfl, rfl⟩

theorem User.setProviderSubject_passwordHash {p : OAuthProvider} {subject : String} :
    (u.setProviderSubject p subject).passwordHash = u.passwordHash := by
  cases p <;> rfl

/-- Linking accounts touches nothing but the accounts. -/
theorem linkAccounts_sameIdentity (linked : linkAccounts u accounts = .ok u') :
    u.SameIdentity u' ∧ u'.passwordHash = u.passwordHash := by
  induction accounts generalizing u with
  | nil =>
      cases linked
      exact ⟨⟨rfl, rfl, rfl, rfl, rfl, rfl⟩, rfl⟩
  | cons account rest ih =>
      obtain ⟨provider, subject⟩ := account
      simp only [linkAccounts] at linked
      split at linked
      · split at linked
        · exact ih linked
        · cases linked
      · obtain ⟨same, kept⟩ := ih linked
        exact ⟨User.setProviderSubject_sameIdentity.trans same,
          kept.trans User.setProviderSubject_passwordHash⟩

/-- The user that an exchange is for stays who it was. A password that waited is its password
now. -/
theorem attachIdentity_sameIdentity (attached : attachIdentity now u r = .ok u') :
    u.SameIdentity u' ∧ u'.passwordHash = r.stagedPasswordHash.or u.passwordHash := by
  cases linked : linkAccounts u r.providerSubjects with
  | error provider =>
      simp [attachIdentity, linked, bind, Except.bind] at attached
  | ok w =>
      obtain ⟨⟨id, organizationId, email, isOwner, deactivateTime, createTime⟩, kept⟩ :=
        linkAccounts_sameIdentity linked
      simp only [attachIdentity, linked, bind, Except.bind, pure, Except.pure,
        Except.ok.injEq] at attached
      subst attached
      cases r.stagedPasswordHash with
      | none => exact ⟨⟨id, organizationId, email, isOwner, deactivateTime, createTime⟩, kept⟩
      | some hash => exact ⟨⟨id, organizationId, email, isOwner, deactivateTime, createTime⟩, rfl⟩

theorem attachIdentityIn_commits :
    (attachIdentityIn u r).Commits m s u' s' ↔ attachIdentity m.now u r = .ok u' ∧ s' = s := by
  simp only [attachIdentityIn, commits_bind, commits_now, and_assoc, exists_and_left,
    exists_eq_left]
  cases attachIdentity m.now u r with
  | error provider => simp
  | ok w => simp [eq_comm]

theorem Store.createUser_eq_ok :
    s.createUser u = .ok s' ↔
      (∀ v ∈ s.users.rows, ¬ (v.organizationId = u.organizationId ∧ v.email = u.email)) ∧
        s.users.contains u.id = false ∧ s' = { s with users := s.users.add u } := by
  unfold createUser
  split
  · rename_i taken
    simp only [Bool.or_eq_true, List.any_eq_true, Bool.and_eq_true, beq_iff_eq] at taken
    constructor
    · intro failed
      cases failed
    · rintro ⟨unique, fresh, -⟩
      rcases taken with ⟨v, member, same⟩ | present
      · exact absurd same (unique v member)
      · rw [fresh] at present
        cases present
  · rename_i free
    simp only [Bool.or_eq_true, List.any_eq_true, Bool.and_eq_true, beq_iff_eq, not_or, not_exists,
      Bool.not_eq_true] at free
    obtain ⟨unique, fresh⟩ := free
    constructor
    · intro added
      cases added
      exact ⟨fun v member same => unique v ⟨member, same⟩, fresh, rfl⟩
    · rintro ⟨_, _, rfl⟩
      rfl

theorem Store.createSession_eq_ok {x : Session} :
    s.createSession x = .ok s' ↔
      s.sessions.contains x.id = false ∧ s' = { s with sessions := s.sessions.add x } := by
  cases present : s.sessions.contains x.id with
  | true => simp [createSession, present]
  | false =>
      simp only [createSession, present, Bool.false_eq_true, if_false, Except.ok.injEq, true_and]
      exact eq_comm

theorem resolveUser_commits {organizationId : Uuid} {created : Bool}
    (committed : (resolveUser organizationId r).Commits m s (u, created) s') :
    Resolves m s organizationId r u created s' := by
  simp only [resolveUser, commits_bind, Linking.forExchange_commits, and_assoc, exists_and_left,
    exists_eq_left] at committed
  cases resolved : s.userForExchange? organizationId r with
  | some old =>
      simp only [resolved, commits_bind, attachIdentityIn_commits, commits_write,
        Store.updateUser_eq_ok, commits_pure, and_assoc, exists_and_left, exists_eq_left,
        exists_const] at committed
      obtain ⟨w, attached, _, same, rfl⟩ := committed
      cases same
      exact .found resolved attached
  | none =>
      simp only [resolved, commits_bind, commits_need, commits_read, attachIdentityIn_commits,
        commits_write, Store.createUser_eq_ok, commits_pure, and_assoc, exists_and_left,
        exists_eq_left, exists_const] at committed
      obtain ⟨email, known, w, attached, unique, fresh, same, rfl⟩ := committed
      cases same
      exact .created resolved known attached unique fresh

theorem issueSession_commits {actor : Audit.Actor} {created : Bool} {lifetime : Span}
    {issued : IssuedSession} :
    (issueSession actor r u created lifetime).Commits m s issued s' ↔
      ∃ factor, r.primaryAuthFactor = some factor ∧
        ∃ expire, m.now.add? lifetime = some expire ∧
        s.sessions.contains m.sessionId = false ∧ m.auditWritable = true ∧
        issued = .of m u factor expire ∧
        s' = { s with sessions := s.sessions.add issued.session }.logged
          ((Audit.SessionChange.created m.sessionId u.id u.organizationId r.id factor
            created).toEvent m.eventId m.now r.projectId actor) := by
  simp only [issueSession, commits_bind, commits_need, commits_read, commits_reach, commits_write,
    Store.createSession_eq_ok, recordEvent_commits, commits_pure, and_assoc, exists_and_left,
    exists_eq_left, exists_const]
  constructor
  · rintro ⟨factor, founded, expire, lasts, fresh, writable, rfl, rfl⟩
    exact ⟨factor, founded, expire, lasts, fresh, writable, rfl, rfl⟩
  · rintro ⟨factor, founded, expire, lasts, fresh, writable, rfl, rfl⟩
    exact ⟨factor, founded, expire, lasts, fresh, writable, rfl, rfl⟩

namespace Service

theorem exchangeBody_exchanged {result : IssuedSession × User × Bool}
    (committed : (v.exchangeBody c).Commits m s result s') : v.Exchanged c m s s' result := by
  simp only [exchangeBody, commits_bind, Loaded.load_commits, Loaded.requireOrganization_commits,
    commits_need, Loaded.requireMethod_commits, Loaded.requireEmailVerified_commits, commits_ite,
    commits_deny, commits_now, commits_write, Store.updateIntermediateSession_eq_ok,
    issueSession_commits, commits_pure, and_assoc, exists_and_left, exists_eq_left, exists_const,
    false_and, if_false_left, Bool.not_eq_true', Bool.not_eq_false, Bool.and_eq_true,
    not_and] at committed
  obtain ⟨l, admitted, o, organization, factor, founded, method, verified, satisfied, second,
    ⟨u, created⟩, written, resolved, _, issued, _,
    ⟨factor', founded', expire, lasts, fresh, writable, rfl, rfl⟩, rfl, rfl⟩ := committed
  cases founded.symm.trans founded'
  have resolves := resolveUser_commits resolved
  obtain ⟨users, rfl⟩ := resolves.written
  exact ⟨l, o, factor, u, created, _, expire, admitted,
    ⟨organization, founded, method, verified, satisfied, second⟩, resolves, lasts, fresh, writable,
    rfl, rfl⟩

end Service

end

end Vestibule
