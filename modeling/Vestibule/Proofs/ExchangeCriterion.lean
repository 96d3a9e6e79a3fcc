import Vestibule.Proofs.EmailProvenance
import Vestibule.Proofs.Noninterference
import Vestibule.Proofs.TenantPolicy

/-! When a session is exchanged. What the records of the session, its tenants and the users say
decides it: the exchange commits exactly where they allow it, and writes exactly what they call
for. -/

namespace Vestibule

/-- The email of a session counts as verified: by a mailed code, a SAML assertion or an OIDC
connection, or because the provider of a redeemed account vouched for it. -/
def Store.CountsVerified (s : Store) (r : IntermediateSession) : Prop :=
  r.emailChallengeCompleted = true ∨ r.verifiedSamlConnectionId ≠ none ∨
    r.verifiedOidcConnectionId ≠ none ∨
      ∃ e ∈ s.verifiedEmails, e.projectId = r.projectId ∧ r.email = some e.email ∧
        ∃ provider subject, e.provider = some provider ∧ e.providerSubject = some subject ∧
          r.providerSubject provider = some subject

/-- What the records say of a session that may be exchanged for one founded on `factor`, whoever it
stands for. -/
structure Store.Ready (s : Store) (c : RequestContext) (now : Instant) (r : IntermediateSession)
    (p : Project) (o : Organization) (factor : PrimaryAuthFactor) : Prop where
  session : r ∈ s.intermediateSessions.rows ∧ r.id = c.intermediateSessionId ∧
    r.projectId = c.projectId
  unexchanged : r.exchangeTime = none
  unexpired : now < r.expireTime
  project : p ∈ s.projects.rows ∧ p.id = c.projectId
  projectOpen : p.loginsDisabled = false
  bound : r.organizationId = some o.id
  organization : o ∈ s.organizations.rows ∧ o.projectId = c.projectId
  organizationOpen : o.loginsDisabled = false
  founded : r.primaryAuthFactor = some factor
  enabled : p.loginMethods.allows factor.loginMethod = true
  enabledThere : o.loginMethods.allows factor.loginMethod = true
  evidence : r.hasEvidence factor = true
  verified : s.CountsVerified r
  second : o.requireMfa = true →
    o.loginMethods.passkey = true ∨ o.loginMethods.authenticatorApp = true →
      r.passkeyVerified = true ∧ factor ≠ .passkey ∨
        r.authenticatorAppVerified = true ∧ factor ≠ .authenticatorApp

/-- An active user of the organization has the account that was redeemed at the provider. -/
def Store.Holds (s : Store) (organizationId : Uuid) (r : IntermediateSession)
    (provider : OAuthProvider) (u : User) : Prop :=
  u ∈ s.users.rows ∧ u.organizationId = organizationId ∧ u.isActive = true ∧
    ∃ subject, r.providerSubject provider = some subject ∧
      u.providerSubject provider = some subject

/-- The user of an organization that a session stands for: who has the account at Google, failing
that at Microsoft, failing that at GitHub, else the active user with the session's email. -/
inductive Store.StandsFor (s : Store) (organizationId : Uuid) (r : IntermediateSession) :
    User → Prop where
  | google {u : User} (holds : s.Holds organizationId r .google u) : StandsFor s organizationId r u
  | microsoft {u : User} (google : ∀ w, ¬ s.Holds organizationId r .google w)
      (holds : s.Holds organizationId r .microsoft u) : StandsFor s organizationId r u
  | github {u : User} (google : ∀ w, ¬ s.Holds organizationId r .google w)
      (microsoft : ∀ w, ¬ s.Holds organizationId r .microsoft w)
      (holds : s.Holds organizationId r .github u) : StandsFor s organizationId r u
  | email {u : User} (unlinked : ∀ provider w, ¬ s.Holds organizationId r provider w)
      (listed : u ∈ s.users.rows) (member : u.organizationId = organizationId)
      (active : u.isActive = true) (named : r.email = some u.email) :
      StandsFor s organizationId r u

/-- The user has no other account at a provider than the one that was redeemed there. -/
def User.Accepts (u : User) (r : IntermediateSession) : Prop :=
  ∀ provider linked subject, u.providerSubject provider = some linked →
    r.providerSubject provider = some subject → linked = subject

/-- The active user with the account that was redeemed at the provider. -/
def Store.holder? (s : Store) (organizationId : Uuid) (r : IntermediateSession)
    (provider : OAuthProvider) : Option User :=
  (r.providerSubject provider).bind (s.userBySubject? organizationId provider)

/-- No user of the organization has the email, deactivated or not. -/
def Store.Vacant (s : Store) (organizationId : Uuid) (email : String) : Prop :=
  ∀ w ∈ s.users.rows, ¬ (w.organizationId = organizationId ∧ w.email = email)

/-- The user with what the session learned. Accounts and a staged password are the session's, a name
and a picture stay the user's. -/
def User.merged (u : User) (now : Instant) (r : IntermediateSession) : User :=
  { u with
    googleUserId := r.googleUserId.or u.googleUserId
    microsoftUserId := r.microsoftUserId.or u.microsoftUserId
    githubUserId := r.githubUserId.or u.githubUserId
    passwordHash := r.stagedPasswordHash.or u.passwordHash
    failedPasswordAttempts :=
      if r.stagedPasswordHash.isSome then 0 else u.failedPasswordAttempts
    lockoutExpireTime := if r.stagedPasswordHash.isSome then none else u.lockoutExpireTime
    displayName := u.displayName.or r.displayName
    profilePictureUrl := u.profilePictureUrl.or r.profilePictureUrl
    updateTime := now }

/-- The user that an exchange is for as it writes it, whether it is new, and the users then. -/
inductive Store.WritesUser (s : Store) (m : Moment) (organizationId : Uuid)
    (r : IntermediateSession) : User → Bool → Table User User.id → Prop where
  | merged {u : User} (standsFor : s.StandsFor organizationId r u) (accepts : u.Accepts r) :
      WritesUser s m organizationId r (u.merged m.now r) false
        (s.users.replace (u.merged m.now r))
  | created {email : String} (nobody : ∀ u, ¬ s.StandsFor organizationId r u)
      (known : r.email = some email) (vacant : s.Vacant organizationId email) :
      WritesUser s m organizationId r
        ((User.new m.userId m.now organizationId email).merged m.now r) true
        (s.users.add ((User.new m.userId m.now organizationId email).merged m.now r))

section

variable {s : Store} {u u' : User} {r : IntermediateSession} {now : Instant} {id : Uuid}
  {accounts : List (OAuthProvider × String)} {p : OAuthProvider} {subject email : String}

namespace User

theorem setProviderSubject_self (held : u.providerSubject p = some subject) :
    u.setProviderSubject p subject = u := by
  obtain ⟨_, _, _, _, googleUserId, microsoftUserId, githubUserId, _, _, _, _, _, _, _, _⟩ := u
  cases p <;> cases held <;> rfl

end User

/-- An account is linked where the user has none at the provider, or this one. -/
theorem linkAccounts_cons_eq_ok {rest : List (OAuthProvider × String)} :
    linkAccounts u ((p, subject) :: rest) = .ok u' ↔
      (∀ linked, u.providerSubject p = some linked → linked = subject) ∧
        linkAccounts (u.setProviderSubject p subject) rest = .ok u' := by
  cases held : u.providerSubject p with
  | none => simp [linkAccounts, held]
  | some linked =>
      by_cases same : linked = subject
      · subst same
        simp [linkAccounts, held, User.setProviderSubject_self held]
      · simp [linkAccounts, held, same]

theorem linkAccounts_eq_ok (distinct : (accounts.map Prod.fst).Nodup) :
    linkAccounts u accounts = .ok u' ↔
      (∀ account ∈ accounts, ∀ linked, u.providerSubject account.1 = some linked →
        linked = account.2) ∧
        u' = accounts.foldl (fun u account => u.setProviderSubject account.1 account.2) u := by
  induction accounts generalizing u with
  | nil => simp [linkAccounts, eq_comm]
  | cons account rest ih =>
      obtain ⟨p, subject⟩ := account
      obtain ⟨apart, distinct⟩ := List.nodup_cons.mp distinct
      rw [linkAccounts_cons_eq_ok, ih distinct, List.forall_mem_cons, List.foldl_cons, and_assoc]
      refine and_congr_right fun _ => and_congr_left fun _ => ?_
      refine forall₂_congr fun account member => ?_
      have other : p ≠ account.1 := by
        rintro rfl
        exact apart (List.mem_map.mpr ⟨account, member, rfl⟩)
      rw [User.providerSubject_set, if_neg other]

namespace IntermediateSession

theorem nodup_providerSubjects : (r.providerSubjects.map Prod.fst).Nodup := by
  have order : (OAuthProvider.all.filter fun p => (r.providerSubject p).isSome) =
      r.providerSubjects.map Prod.fst := by
    rw [providerSubjects, List.map_filterMap, ← List.filterMap_eq_filter]
    refine List.filterMap_congr fun p _ => ?_
    cases redeemed : r.providerSubject p <;> simp [Option.guard, redeemed]
  have distinct : OAuthProvider.all.Nodup := by decide
  rw [← order]
  exact distinct.sublist List.filter_sublist

/-- A user with all accounts of the session linked. -/
theorem foldl_providerSubjects :
    r.providerSubjects.foldl (fun u account => u.setProviderSubject account.1 account.2) u =
      { u with
        googleUserId := r.googleUserId.or u.googleUserId
        microsoftUserId := r.microsoftUserId.or u.microsoftUserId
        githubUserId := r.githubUserId.or u.githubUserId } := by
  have each : r.providerSubjects = (r.googleUserId.map (OAuthProvider.google, ·)).toList ++
      ((r.microsoftUserId.map (OAuthProvider.microsoft, ·)).toList ++
        (r.githubUserId.map (OAuthProvider.github, ·)).toList) := by
    simp only [providerSubjects, OAuthProvider.all, providerSubject, List.filterMap_cons,
      List.filterMap_nil]
    cases r.googleUserId <;> cases r.microsoftUserId <;> cases r.githubUserId <;> rfl
  rw [each]
  cases r.googleUserId <;> cases r.microsoftUserId <;> cases r.githubUserId <;> rfl

end IntermediateSession

/-- What a session learned is attached to every user that accepts its accounts. -/
theorem attachIdentity_eq_ok :
    attachIdentity now u r = .ok u' ↔ u.Accepts r ∧ u' = u.merged now r := by
  have accepts : u.Accepts r ↔ ∀ account ∈ r.providerSubjects, ∀ linked,
      u.providerSubject account.1 = some linked → linked = account.2 := by
    constructor
    · rintro accepts ⟨provider, subject⟩ member linked held
      exact accepts provider linked subject held
        (IntermediateSession.mem_providerSubjects.mp member)
    · intro accepts provider linked subject held redeemed
      exact accepts (provider, subject) (IntermediateSession.mem_providerSubjects.mpr redeemed)
        linked held
  have linking : ∀ w, linkAccounts u r.providerSubjects = .ok w ↔ _ :=
    fun w => linkAccounts_eq_ok r.nodup_providerSubjects
  simp only [← accepts, IntermediateSession.foldl_providerSubjects] at linking
  by_cases accepted : u.Accepts r
  · have linked := (linking _).mpr ⟨accepted, rfl⟩
    simp only [attachIdentity, linked, bind, Except.bind, pure, Except.pure, Except.ok.injEq,
      accepted, true_and]
    cases staged : r.stagedPasswordHash with
    | none => simp [User.merged, staged, eq_comm]
    | some hash => simp [User.merged, staged, eq_comm]
  · cases linked : linkAccounts u r.providerSubjects with
    | error provider => simp [attachIdentity, linked, bind, Except.bind, accepted]
    | ok w => exact absurd ((linking w).mp linked).1 accepted

namespace Store

theorem AccountsUnique.holder?_eq_some (unique : s.AccountsUnique) :
    s.holder? id r p = some u ↔ s.Holds id r p u := by
  rw [holder?, Option.bind_eq_some_iff]
  constructor
  · rintro ⟨subject, redeemed, found⟩
    obtain ⟨stored, member, active, held⟩ := userBySubject?_eq_some found
    exact ⟨Table.mem_of_get? stored, member, active, subject, redeemed, held⟩
  · rintro ⟨listed, rfl, active, subject, redeemed, held⟩
    exact ⟨subject, redeemed, unique.userBySubject? (Table.get?_of_mem listed) active held⟩

theorem AccountsUnique.holder?_eq_none (unique : s.AccountsUnique) :
    s.holder? id r p = none ↔ ∀ u, ¬ s.Holds id r p u := by
  simp only [Option.eq_none_iff_forall_ne_some, ne_eq, unique.holder?_eq_some]

theorem UsersUnique.named_eq_some (unique : s.UsersUnique) :
    r.email.bind (s.userByEmail? id) = some u ↔ u ∈ s.users.rows ∧ u.organizationId = id ∧
      u.isActive = true ∧ r.email = some u.email := by
  rw [Option.bind_eq_some_iff]
  constructor
  · rintro ⟨email, known, found⟩
    obtain ⟨stored, member, rfl, active⟩ := userByEmail?_eq_some found
    exact ⟨Table.mem_of_get? stored, member, active, known⟩
  · rintro ⟨listed, rfl, active, known⟩
    exact ⟨u.email, known, unique.userByEmail? (Table.get?_of_mem listed) active⟩

theorem linkedUser?_eq :
    s.linkedUser? id r =
      (s.holder? id r .google).or ((s.holder? id r .microsoft).or (s.holder? id r .github)) := by
  have each : s.linkedUser? id r = OAuthProvider.all.findSome? (s.holder? id r) := by
    rw [linkedUser?, ← List.head?_filterMap, IntermediateSession.providerSubjects,
      List.filterMap_filterMap, List.head?_filterMap]
    refine congrArg (OAuthProvider.all.findSome? ·) (funext fun p => ?_)
    rw [holder?]
    cases r.providerSubject p <;> rfl
  rw [each]
  simp only [OAuthProvider.all, List.findSome?_cons, List.findSome?_nil]
  cases s.holder? id r .google <;> cases s.holder? id r .microsoft <;>
    cases s.holder? id r .github <;> rfl

/-- Where users are unique by email and by account, the user that an exchange looks up is the one
that the session stands for. -/
theorem userForExchange?_eq_some_iff (users : s.UsersUnique) (accounts : s.AccountsUnique) :
    s.userForExchange? id r = some u ↔ s.StandsFor id r u := by
  simp only [userForExchange?, linkedUser?_eq, Option.or_eq_some_iff, Option.or_eq_none_iff,
    accounts.holder?_eq_some, accounts.holder?_eq_none, users.named_eq_some]
  constructor
  · rintro ((google | ⟨google, microsoft | ⟨microsoft, github⟩⟩) |
      ⟨⟨google, microsoft, github⟩, listed, member, active, named⟩)
    · exact .google google
    · exact .microsoft google microsoft
    · exact .github google microsoft github
    · refine .email (fun provider => ?_) listed member active named
      cases provider with
      | google => exact google
      | microsoft => exact microsoft
      | github => exact github
  · intro standsFor
    cases standsFor with
    | google holds => exact .inl (.inl holds)
    | microsoft google holds => exact .inl (.inr ⟨google, .inl holds⟩)
    | github google microsoft holds => exact .inl (.inr ⟨google, .inr ⟨microsoft, holds⟩⟩)
    | email unlinked listed member active named =>
        exact .inr ⟨⟨unlinked .google, unlinked .microsoft, unlinked .github⟩, listed, member,
          active, named⟩

theorem userForExchange?_eq_none_iff (users : s.UsersUnique) (accounts : s.AccountsUnique) :
    s.userForExchange? id r = none ↔ ∀ u, ¬ s.StandsFor id r u := by
  simp only [Option.eq_none_iff_forall_ne_some, ne_eq,
    userForExchange?_eq_some_iff users accounts]

/-- The user that an exchange resolves to is written as the records call for. -/
theorem resolves_iff {m : Moment} {created : Bool} {written : Store} (users : s.UsersUnique)
    (accounts : s.AccountsUnique) (fresh : s.users.contains m.userId = false) :
    Resolves m s id r u created written ↔
      ∃ users, s.WritesUser m id r u created users ∧ written = { s with users := users } := by
  constructor
  · intro resolves
    cases resolves with
    | found found attached =>
        obtain ⟨accepts, rfl⟩ := attachIdentity_eq_ok.mp attached
        exact ⟨_, .merged ((userForExchange?_eq_some_iff users accounts).mp found) accepts, rfl⟩
    | created absent known attached unique fresh =>
        obtain ⟨_, rfl⟩ := attachIdentity_eq_ok.mp attached
        exact ⟨_, .created ((userForExchange?_eq_none_iff users accounts).mp absent) known unique,
          rfl⟩
  · rintro ⟨_, written, rfl⟩
    cases written with
    | merged standsFor accepts =>
        exact .found ((userForExchange?_eq_some_iff users accounts).mpr standsFor)
          (attachIdentity_eq_ok.mpr ⟨accepts, rfl⟩)
    | created nobody known vacant =>
        refine .created ((userForExchange?_eq_none_iff users accounts).mpr nobody) known
          (attachIdentity_eq_ok.mpr ⟨fun provider linked _ held => ?_, rfl⟩) vacant fresh
        cases provider <;> cases held

theorem isEmailVerified_iff :
    Loaded.isEmailVerified s r.projectId r = true ↔ s.CountsVerified r := by
  simp only [Loaded.isEmailVerified, CountsVerified, Bool.or_eq_true, or_assoc,
    Option.isSome_iff_ne_none, Option.any_eq_true, List.any_eq_true, isEmailVerifiedByProvider,
    Bool.and_eq_true, beq_iff_eq, Prod.exists, IntermediateSession.mem_providerSubjects, and_assoc]
  refine or_congr_right (or_congr_right (or_congr_right ?_))
  constructor
  · rintro ⟨email, known, provider, subject, redeemed, e, listed, project, rfl, by', of⟩
    exact ⟨e, listed, project, known, provider, subject, by', of, redeemed⟩
  · rintro ⟨e, listed, project, known, provider, subject, by', of, redeemed⟩
    exact ⟨e.email, known, provider, subject, redeemed, e, listed, project, rfl, by', of⟩

end Store

theorem IntermediateSession.isExchanged_eq_false :
    r.isExchanged = false ↔ r.exchangeTime = none := by
  simp [isExchanged]

theorem IntermediateSession.isExpired_eq_false : r.isExpired now = false ↔ now < r.expireTime := by
  simp [isExpired]

/-- A second factor counts where it is not what the session is founded on. -/
theorem IntermediateSession.secondFactorSatisfied_iff {factor : PrimaryAuthFactor}
    (founded : r.primaryAuthFactor = some factor) :
    r.secondFactorSatisfied = true ↔ r.passkeyVerified = true ∧ factor ≠ .passkey ∨
      r.authenticatorAppVerified = true ∧ factor ≠ .authenticatorApp := by
  simp [secondFactorSatisfied, founded]

theorem Organization.mfaEnforceable_iff {o : Organization} :
    o.mfaEnforceable = true ↔ o.requireMfa = true ∧
      (o.loginMethods.passkey = true ∨ o.loginMethods.authenticatorApp = true) := by
  simp [mfaEnforceable, LoginMethods.hasSecondFactor, or_comm]

theorem Store.organization?_eq_some_iff {o : Organization} {p id : Uuid} :
    s.organization? p id = some o ↔ o ∈ s.organizations.rows ∧ o.id = id ∧ o.projectId = p := by
  simp [organization?, Option.filter_eq_some_iff, Table.get?_eq_some_iff, and_assoc]

/-- What the records say is what the gates of an exchange check. -/
theorem Store.ready_iff {c : RequestContext} {project : Project} {o : Organization}
    {factor : PrimaryAuthFactor} :
    s.Ready c now r project o factor ↔
      Loaded.Admitted c now s ⟨r, project, some o⟩ ∧
        Exchangeable s ⟨r, project, some o⟩ o factor := by
  constructor
  · intro ready
    obtain ⟨listed, own, home⟩ := ready.session
    have located : s.organization? c.projectId o.id = some o :=
      organization?_eq_some_iff.mpr ⟨ready.organization.1, rfl, ready.organization.2⟩
    have owner : project.id = r.projectId := ready.project.2.trans home.symm
    constructor
    · exact {
        session := intermediateSession?_eq_some.mpr
          ⟨Table.get?_eq_some_iff.mpr ⟨listed, own⟩, home⟩
        unexchanged := IntermediateSession.isExchanged_eq_false.mpr ready.unexchanged
        unexpired := IntermediateSession.isExpired_eq_false.mpr ready.unexpired
        project := Table.get?_eq_some_iff.mpr ready.project
        projectOpen := ready.projectOpen
        organization := by simp [ready.bound, located]
        bound := fun _ => rfl
        organizationOpen := by simpa using ready.organizationOpen }
    · exact {
        organization := rfl
        founded := ready.founded
        method := Loaded.allows_iff.mpr ⟨ready.enabled, fun _ loaded => by
          cases loaded
          exact Loaded.organizationRefuses?_eq_none.mpr
            ⟨ready.organizationOpen, ready.enabledThere⟩⟩
        verified := by
          rw [owner]
          exact isEmailVerified_iff.mpr ready.verified
        satisfied := by simp [IntermediateSession.primaryFactorSatisfied, ready.founded,
          ready.evidence]
        second := fun enforceable => by
          obtain ⟨required, offered⟩ := Organization.mfaEnforceable_iff.mp enforceable
          exact (IntermediateSession.secondFactorSatisfied_iff ready.founded).mpr
            (ready.second required offered) }
  · rintro ⟨admitted, exchangeable⟩
    obtain ⟨bound, located⟩ := admitted.organization_eq_some rfl
    obtain ⟨listed, _, home⟩ := organization?_eq_some_iff.mp located
    obtain ⟨enabled, accepts⟩ := Loaded.allows_iff.mp exchangeable.method
    obtain ⟨organizationOpen, enabledThere⟩ :=
      Loaded.organizationRefuses?_eq_none.mp (accepts o rfl)
    have founded : r.primaryAuthFactor = some factor := exchangeable.founded
    have satisfied : r.primaryFactorSatisfied = true := exchangeable.satisfied
    have verified := exchangeable.verified
    rw [admitted.project_id, ← admitted.session_projectId] at verified
    exact {
      session := ⟨Table.mem_of_get? admitted.stored, admitted.session_id,
        admitted.session_projectId⟩
      unexchanged := IntermediateSession.isExchanged_eq_false.mp admitted.unexchanged
      unexpired := IntermediateSession.isExpired_eq_false.mp admitted.unexpired
      project := Table.get?_eq_some_iff.mp admitted.project
      projectOpen := admitted.projectOpen
      bound := bound
      organization := ⟨listed, home⟩
      organizationOpen := organizationOpen
      founded := founded
      enabled := enabled
      enabledThere := enabledThere
      evidence := by simpa [IntermediateSession.primaryFactorSatisfied, founded] using satisfied
      verified := isEmailVerified_iff.mp verified
      second := fun required offered =>
        (IntermediateSession.secondFactorSatisfied_iff founded).mp
          (exchangeable.second (Organization.mfaEnforceable_iff.mpr ⟨required, offered⟩)) }

open Transaction

variable {v : Service} {c : RequestContext} {m : Moment} {s' : Store}

/-- Resolving a user comes to whatever it may. -/
theorem Resolves.commits {organizationId : Uuid} {created : Bool}
    (resolves : Resolves m s organizationId r u created s') :
    (resolveUser organizationId r).Commits m s (u, created) s' := by
  simp only [resolveUser, commits_bind, Linking.forExchange_commits, and_assoc, exists_and_left,
    exists_eq_left]
  cases resolves with
  | found found attached =>
      obtain ⟨stored, _⟩ := Store.userForExchange?_eq_some found
      obtain ⟨same, _⟩ := attachIdentity_sameIdentity attached
      have present := same.id ▸ Table.contains_of_get? stored
      simp only [found, commits_bind, attachIdentityIn_commits, commits_write,
        Store.updateUser_eq_ok, commits_pure, and_assoc, exists_and_left, exists_eq_left,
        exists_const]
      exact ⟨u, attached, present, rfl, rfl⟩
  | created absent known attached unique fresh =>
      simp only [absent, commits_bind, commits_need, commits_read, attachIdentityIn_commits,
        commits_write, Store.createUser_eq_ok, commits_pure, and_assoc, exists_and_left,
        exists_eq_left, exists_const]
      exact ⟨_, known, u, attached, unique, fresh, rfl, rfl⟩

namespace Service

/-- An exchange is committed wherever its gates are open and its user is resolved. -/
theorem exchangeBody_commits {result : IssuedSession × User × Bool} :
    (v.exchangeBody c).Commits m s result s' ↔ v.Exchanged c m s s' result := by
  refine ⟨exchangeBody_exchanged, ?_⟩
  rintro ⟨l, o, factor, u, created, written, expire, admitted, exchangeable, resolves, lasts, fresh,
    writable, rfl, rfl⟩
  obtain ⟨organization, founded, method, verified, satisfied, second⟩ := exchangeable
  have resolved := resolves.commits
  obtain ⟨users, rfl⟩ := resolves.written
  simp only [exchangeBody, commits_bind, Loaded.load_commits, Loaded.requireOrganization_commits,
    commits_need, Loaded.requireMethod_commits, Loaded.requireEmailVerified_commits, commits_ite,
    commits_deny, commits_now, commits_write, Store.updateIntermediateSession_eq_ok,
    issueSession_commits, commits_pure, and_assoc, exists_and_left, exists_eq_left, exists_const,
    false_and, if_false_left, Bool.not_eq_true', Bool.not_eq_false, Bool.and_eq_true,
    not_and]
  have present : s.intermediateSessions.contains l.session.id = true := by
    rw [admitted.session_id]
    exact Table.contains_of_get? admitted.stored
  exact ⟨l, admitted, o, organization, factor, founded, method, verified, satisfied, second,
    ⟨u, created⟩, _, resolved, present, _, _,
    ⟨factor, founded, expire, lasts, fresh, writable, rfl, rfl⟩, rfl, rfl⟩

/-- What an exchange does is what the records call for. -/
theorem exchanged_iff {result : IssuedSession × User × Bool} (users : s.UsersUnique)
    (accounts : s.AccountsUnique) (writable : m.auditWritable = true)
    (newUser : s.users.contains m.userId = false)
    (newSession : s.sessions.contains m.sessionId = false) :
    v.Exchanged c m s s' result ↔
      ∃ r p o factor u created users expire, s.Ready c m.now r p o factor ∧
        s.WritesUser m o.id r u created users ∧ m.now.add? v.config.sessionLifetime = some expire ∧
          result = (.of m u factor expire, u, created) ∧
            s' = { s with users := users }.exchanged c m r u created factor expire := by
  constructor
  · rintro ⟨⟨r, p, loaded⟩, o, factor, u, created, written, expire, admitted, exchangeable,
      resolves, lasts, _, _, rfl, rfl⟩
    cases exchangeable.organization
    obtain ⟨written, writes, rfl⟩ := (Store.resolves_iff users accounts newUser).mp resolves
    exact ⟨r, p, o, factor, u, created, written, expire,
      Store.ready_iff.mpr ⟨admitted, exchangeable⟩, writes, lasts, rfl, rfl⟩
  · rintro ⟨r, p, o, factor, u, created, written, expire, ready, writes, lasts, rfl, rfl⟩
    obtain ⟨admitted, exchangeable⟩ := Store.ready_iff.mp ready
    exact ⟨_, o, factor, u, created, _, expire, admitted, exchangeable,
      (Store.resolves_iff users accounts newUser).mpr ⟨written, writes, rfl⟩, lasts, newSession,
      writable, rfl, rfl⟩

theorem exchange_step_iff {t : Turn serviceInterface} :
    (∃ rest, (v.serve c .exchange).step? t s = some (.committed t.moment s s', rest, s')) ↔
      ∃ result, v.Exchanged c t.moment s s' result := by
  constructor
  · rintro ⟨rest, stepped⟩
    cases Operation.step?_eq_some.mp stepped with
    | committed committed => exact ⟨_, exchangeBody_commits.mp committed⟩
  · rintro ⟨result, exchanged⟩
    exact ⟨_, Operation.step?_eq_some.mpr (.committed (exchangeBody_commits.mpr exchanged))⟩

/-- Exactly when an exchange commits, and what it writes. Where users are unique by email and by
account in each organization, it commits if and only if the session is ready, the calendar does not
end before the new session would, and either the user that the session stands for accepts its
accounts, or it stands for nobody and has an email that nobody of the organization has. It then
writes that user with what the session learned, or a new one, marks the session exchanged, and adds
one session and one entry to the audit log. -/
theorem exchange_criterion {t : Turn serviceInterface} (users : s.UsersUnique)
    (accounts : s.AccountsUnique) (writable : t.moment.auditWritable = true)
    (newUser : s.users.contains t.moment.userId = false)
    (newSession : s.sessions.contains t.moment.sessionId = false) :
    ((∃ s' rest, (v.serve c .exchange).step? t s = some (.committed t.moment s s', rest, s')) ↔
      ∃ r p o factor, s.Ready c t.moment.now r p o factor ∧
        (t.moment.now.add? v.config.sessionLifetime).isSome = true ∧
        ((∃ u, s.StandsFor o.id r u ∧ u.Accepts r) ∨
          (∀ u, ¬ s.StandsFor o.id r u) ∧ ∃ email, r.email = some email ∧ s.Vacant o.id email)) ∧
    ∀ s' rest, (v.serve c .exchange).step? t s = some (.committed t.moment s s', rest, s') →
      ∃ r p o factor u created users expire, s.Ready c t.moment.now r p o factor ∧
        s.WritesUser t.moment o.id r u created users ∧
          t.moment.now.add? v.config.sessionLifetime = some expire ∧
            s' = { s with users := users }.exchanged c t.moment r u created factor expire := by
  have commits : ∀ s', (∃ rest, (v.serve c .exchange).step? t s =
      some (.committed t.moment s s', rest, s')) ↔
        ∃ r p o factor u created users expire, s.Ready c t.moment.now r p o factor ∧
          s.WritesUser t.moment o.id r u created users ∧
            t.moment.now.add? v.config.sessionLifetime = some expire ∧
              s' = { s with users := users }.exchanged c t.moment r u created factor expire := by
    intro s'
    simp only [exchange_step_iff, exchanged_iff users accounts writable newUser newSession]
    constructor
    · rintro ⟨_, r, p, o, factor, u, created, written, expire, ready, writes, lasts, _, after⟩
      exact ⟨r, p, o, factor, u, created, written, expire, ready, writes, lasts, after⟩
    · rintro ⟨r, p, o, factor, u, created, written, expire, ready, writes, lasts, after⟩
      exact ⟨_, r, p, o, factor, u, created, written, expire, ready, writes, lasts, rfl, after⟩
  refine ⟨⟨?_, ?_⟩, fun s' rest stepped => (commits s').mp ⟨rest, stepped⟩⟩
  · rintro ⟨s', committed⟩
    obtain ⟨r, p, o, factor, u, created, written, expire, ready, writes, lasts, _⟩ :=
      (commits s').mp committed
    refine ⟨r, p, o, factor, ready, Option.isSome_of_mem lasts, ?_⟩
    cases writes with
    | merged standsFor accepts => exact .inl ⟨_, standsFor, accepts⟩
    | created nobody known vacant => exact .inr ⟨nobody, _, known, vacant⟩
  · rintro ⟨r, p, o, factor, ready, lasts, decided⟩
    obtain ⟨expire, lasts⟩ := Option.isSome_iff_exists.mp lasts
    rcases decided with ⟨u, standsFor, accepts⟩ | ⟨nobody, email, known, vacant⟩
    · exact ⟨_, (commits _).mpr
        ⟨r, p, o, factor, _, _, _, expire, ready, .merged standsFor accepts, lasts, rfl⟩⟩
    · exact ⟨_, (commits _).mpr
        ⟨r, p, o, factor, _, _, _, expire, ready, .created nobody known vacant, lasts, rfl⟩⟩

end Service

end

namespace Deployment

def patron : User := { user with googleUserId := some "g-1" }

/-- A session of a visitor who logged in with the patron's account at Google. -/
def patronSession : IntermediateSession :=
  { session with
    organizationId := some organization.id
    email := some "ann@home.test"
    emailChallengeCompleted := true
    primaryAuthFactor := some .google
    googleUserId := some "g-1" }

def returning : Store :=
  { store (only patron) none with intermediateSessions := { rows := [patronSession] } }

end Deployment

open Deployment in
theorem Service.exchange_criterion_of_patron :
    ∃ s' rest, (service.serve context .exchange).step? firstTurn returning =
      some (.committed firstTurn.moment returning s', rest, s') := by
  have users : returning.UsersUnique := show (store (only patron) none).UsersUnique from usersUnique
  have accounts : returning.AccountsUnique := by
    intro u listed w listed' _ _ _ _ _
    cases List.mem_singleton.mp listed
    cases List.mem_singleton.mp listed'
    rfl
  have ready : returning.Ready context firstTurn.moment.now patronSession project organization
      .google :=
    ⟨⟨by decide +kernel, rfl, rfl⟩, rfl, by decide +kernel, ⟨by decide +kernel, rfl⟩, rfl, rfl,
      ⟨by decide +kernel, rfl⟩, rfl, rfl, rfl, rfl, rfl, .inl rfl, nofun⟩
  have holds : returning.Holds organization.id patronSession .google patron :=
    ⟨by decide +kernel, rfl, rfl, "g-1", rfl, rfl⟩
  refine (Service.exchange_criterion (v := service) (c := context) (t := firstTurn) users accounts
    rfl (by decide +kernel) (by decide +kernel)).1.mpr
    ⟨patronSession, project, organization, .google, ready, by decide +kernel,
      .inl ⟨patron, .google holds, ?_⟩⟩
  intro provider linked subject held redeemed
  cases provider <;> cases held
  cases redeemed
  rfl

end Vestibule
