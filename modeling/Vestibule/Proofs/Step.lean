import Vestibule.Flow.Request
import Vestibule.Proofs.Credential
import Vestibule.Proofs.Lesson
import Vestibule.Proofs.Turn

/-! The steps of a login. A step that is committed found its session admitted, checked what its kind
checks, taught the session one lesson and audited it; nothing else is written but what is said here
for its kind. -/

namespace Vestibule

abbrev ServiceDeed := Deed serviceInterface

/-- The provider is known, or was discovered. -/
def Discovered (heard : List ServiceDeed) : SpecSource → ProviderSpec → Prop
  | .known known, spec => spec = known
  | .discover url, spec => Deed.answered (I := serviceInterface) (.discover url)
    (.ok spec : Except ProviderError ProviderSpec) ∈ heard

/-- The provider gave this identity for the code. -/
def Redeemed (heard : List ServiceDeed) (source : SpecSource) (code : String)
    (identity : RedeemedIdentity) : Prop :=
  ∃ spec app, Discovered heard source spec ∧
    Deed.answered (I := serviceInterface) (.redeem spec app code)
      (.ok identity : Except ProviderError RedeemedIdentity) ∈ heard

theorem Discovered.mono {heard more : List ServiceDeed} {source : SpecSource} {spec : ProviderSpec}
    (discovered : Discovered heard source spec) (among : ∀ d ∈ heard, d ∈ more) :
    Discovered more source spec := by
  cases source with
  | known known => exact discovered
  | discover url => exact among _ discovered

theorem Redeemed.mono {heard more : List ServiceDeed} {source : SpecSource} {code : String}
    {identity : RedeemedIdentity} (redeemed : Redeemed heard source code identity)
    (among : ∀ d ∈ heard, d ∈ more) : Redeemed more source code identity := by
  obtain ⟨spec, app, discovered, answered⟩ := redeemed
  exact ⟨spec, app, discovered.mono among, among _ answered⟩

/-- The assertion was found valid for the connection, and named this email. -/
def Validated (heard : List ServiceDeed) (connectionId : Uuid) (response email : String) : Prop :=
  ∃ connection : SamlConnection, connection.id = connectionId ∧
    Deed.answered (I := serviceInterface) (.validateAssertion connection response)
      (.ok email : Except String String) ∈ heard

namespace Service

/-- What reading the state of an OAuth login found, when it was read. -/
structure Planned (v : Service) (c : RequestContext) (heard : List ServiceDeed)
    (target : OAuthTarget) (state : String) (redirectUrl : Option String)
    (digest : List UInt8) (client : ResolvedClient) (m : Moment) (s : Store) (l : Loaded) :
    Prop where
  first : .committed m s s ∈ heard
  admitted : Loaded.Admitted c m.now s l
  presented : SecretTokenKind.oauthState.digest? state = some digest
  outstanding : l.session.oauthStateSha256 = some digest
  aimed : l.session.oauthStateTarget = some target
  resolved : (v.resolveClient l target redirectUrl).Commits m s client s

/-- The emails that a project has sent today, counting the one that is being charged, are within
its quota. -/
structure Charged (v : Service) (m : Moment) (s : Store) (p : Project) (s' : Store)
    (usage : Int64) : Prop where
  counted : s' = s.countEmail p.id m.now.date
  used : usage = s'.emailUsageOn p.id m.now.date
  within : usage ≤ p.effectiveEmailQuota v.config.defaultEmailQuotaDaily

/-- What every step with a password needs. -/
structure PasswordStep (s : Store) (l : Loaded) (o : Organization) : Prop where
  organization : l.organization = some o
  method : l.allows .password = true
  verified : Loaded.isEmailVerified s l.project.id l.session = true
  unmatched : l.session.passwordVerified = false

/-- The user whose hash a password is checked against: on a session that is bound, the one with its
email; with an email as a login, the only one in the project who may log in so. -/
inductive HashOwner (s : Store) (l : Loaded) : Option String → User → Prop where
  | bound {email : String} {o : Organization} {u : User}
      (checked : PasswordStep s l o)
      (unstaged : l.session.stagedPasswordHash = none)
      (known : l.session.email = some email)
      (found : s.userByEmail? o.id email = some u) : HashOwner s l none u
  | direct {email : String} {u : User}
      (unbound : l.session.organizationId = none)
      (method : l.allows .password = true)
      (known : ∀ known ∈ l.session.email, known = email)
      (found : s.passwordLoginCandidates l.project.id email = [u]) : HashOwner s l (some email) u

theorem mem_of_candidates {s : Store} {projectId : Uuid} {email : String} {u : User}
    (found : s.passwordLoginCandidates projectId email = [u]) :
    u ∈ s.users.rows ∧ u.email = email ∧ u.isActive = true := by
  have member : u ∈ s.passwordLoginCandidates projectId email := found ▸ List.mem_singleton_self u
  obtain ⟨listed, named, active, _⟩ := Store.mem_passwordLoginCandidates.mp member
  exact ⟨listed, named, active⟩

/-- The user whose hash is compared is an active user of the store. -/
theorem HashOwner.stored {s : Store} {l : Loaded} {email : Option String} {u : User}
    (owner : HashOwner s l email u) : s.users.get? u.id = some u ∧ u.isActive = true := by
  cases owner with
  | bound checked unstaged known found =>
      obtain ⟨stored, _, _, active⟩ := Store.userByEmail?_eq_some found
      exact ⟨stored, active⟩
  | direct unbound method known found =>
      obtain ⟨listed, _, active⟩ := mem_of_candidates found
      exact ⟨Table.get?_of_mem listed, active⟩

theorem HashOwner.unique {s : Store} {l : Loaded} {email : Option String} {u u' : User}
    (owner : HashOwner s l email u) (again : HashOwner s l email u') : u = u' := by
  cases owner with
  | bound checked unstaged known found =>
      obtain ⟨checked', _, known', found'⟩ := again
      cases checked.organization.symm.trans checked'.organization
      cases known.symm.trans known'
      cases found.symm.trans found'
      rfl
  | direct unbound method known found =>
      obtain _ | ⟨_, _, _, found'⟩ := again
      cases found.symm.trans found'
      rfl

/-- The steps by the request that asks for them: the lesson, the store with what else is written,
what is audited, and what is left to do. -/
inductive Step (v : Service) (c : RequestContext) (salt : List UInt8) (heard : List ServiceDeed)
    (m : Moment) (s : Store) (l : Loaded) : LoginRequest → Lesson → Store →
      Audit.IntermediateSessionChange → ServiceOperation LoginReply → Prop where
  | challengeIssued {email : String} {s' : Store} {usage : Int64}
      (methods : challengeMethods.any l.allows = true)
      (known : ∀ known ∈ l.session.email, known = email)
      (unproved : l.session.emailChallengeCompleted = false)
      (charged : v.Charged m s l.project s' usage) :
      Step v c salt heard m s l (.issueEmailChallenge email)
        (.challengeIssued email m.secret.digest) s'
        (.emailVerificationChallengeIssued l.session.id email usage.toInt)
        ((ServiceOperation.send (.verificationCode l.project.emailFromAddress email
          (m.secret.token .emailVerificationCode)) .sendVerificationEmail).map fun _ => .sent)
  | emailProved {code email : String} {digest : List UInt8}
      (methods : challengeMethods.any l.allows = true)
      (outstanding : l.session.emailChallengeSha256 = some digest)
      (presented : SecretTokenKind.emailVerificationCode.digest? code = some digest)
      (known : l.session.email = some email) :
      Step v c salt heard m s l (.verifyEmailChallenge code)
        (.emailProved (l.allows .email))
        (s.recordVerifiedEmail (.byChallenge m.verifiedEmailId m.now l.project.id email))
        (.emailVerified l.session.id email)
        (.finish (.ok (.proved (Lesson.apply l.session (.emailProved (l.allows .email))))))
  | resetCodeIssued {email : String} {s' : Store} {usage : Int64}
      (method : l.allows .password = true)
      (verified : Loaded.isEmailVerified s l.project.id l.session = true)
      (known : l.session.email = some email)
      (charged : v.Charged m s l.project s' usage) :
      Step v c salt heard m s l .issueResetCode (.resetCodeIssued m.secret.digest) s'
        (.passwordResetCodeIssued l.session.id usage.toInt)
        ((ServiceOperation.send (.passwordResetCode l.project.emailFromAddress email
          (m.secret.token .passwordResetCode)) .sendResetEmail).map fun _ => .sent)
  | resetCodeRedeemed {code : String} {digest : List UInt8}
      (method : l.allows .password = true)
      (outstanding : l.session.resetCodeSha256 = some digest)
      (presented : SecretTokenKind.passwordResetCode.digest? code = some digest) :
      Step v c salt heard m s l (.verifyResetCode code) .resetCodeRedeemed s
        (.passwordResetCodeVerified l.session.id)
        (.finish (.ok (.proved (Lesson.apply l.session .resetCodeRedeemed))))
  | passwordStaged {password hash email : String} {o : Organization}
      (checked : PasswordStep s l o)
      (known : l.session.email = some email)
      (licensed : l.session.resetCodeVerified = true ∨ l.session.stagedPasswordHash = none ∧
        ∀ u ∈ s.userByEmail? o.id email, u.passwordHash = none)
      (hashed : v.matcher.hash salt password = .ok hash) :
      Step v c salt heard m s l (.registerPassword password) (.passwordStaged hash) s
        (.passwordRegistered l.session.id o.id)
        (.finish (.ok (.proved (Lesson.apply l.session (.passwordStaged hash)))))
  | stagedMatched {password staged : String} {o : Organization}
      (checked : PasswordStep s l o)
      (waiting : l.session.stagedPasswordHash = some staged)
      (compared : v.matcher.verifyHash password staged = .ok true) :
      Step v c salt heard m s l (.verifyPassword none password) .passwordMatched s
        (.passwordVerified l.session.id o.id)
        (.finish (.ok (.proved (Lesson.apply l.session .passwordMatched))))
  | passwordMatched {password hash : String} {o : Organization} {u : User}
      (organization : l.organization = some o)
      (owner : HashOwner s l none u)
      (compared : v.matcher.Compares m.now u password true)
      (hashed : v.matcher.hash m.salt password = .ok hash) :
      Step v c salt heard m s l (.verifyPassword none password) .passwordMatched
        (s.withUser (u.rehashed m.now hash)) (.passwordVerified l.session.id o.id)
        (.finish (.ok (.proved (Lesson.apply l.session .passwordMatched))))
  | loggedIn {password email hash : String} {u : User}
      (owner : HashOwner s l (some email) u)
      (compared : v.matcher.Compares m.now u password true)
      (hashed : v.matcher.hash m.salt password = .ok hash) :
      Step v c salt heard m s l (.verifyPassword (some email) password)
        (.loggedIn u.organizationId u.email) (s.withUser (u.rehashed m.now hash))
        (.passwordLogin l.session.id u.organizationId u.id)
        (.finish (.ok (.proved (Lesson.apply l.session (.loggedIn u.organizationId u.email)))))
  | redirected {target : OAuthTarget} {redirectUrl : Option String} {url : String}
      (resolved : ∃ client, (v.resolveClient l target redirectUrl).Commits m s client s)
      (addressed : ∃ spec client redirectUri,
        m.authorizeUrl spec client redirectUri (m.secret.token .oauthState) = .ok url) :
      Step v c salt heard m s l (.oauthRedirect target redirectUrl)
        (.redirected target m.secret.digest) s (.oauthRedirectIssued l.session.id target)
        (.finish (.ok (.visit url)))
  | accountRedeemed {provider : OAuthProvider} {code state : String} {redirectUrl : Option String}
      {digest : List UInt8} {client : ResolvedClient} {identity : RedeemedIdentity}
      (planned : ∃ m₀ s₀ l₀,
        v.Planned c heard (.provider provider) state redirectUrl digest client m₀ s₀ l₀)
      (redeemed : Redeemed heard client.spec code identity)
      (outstanding : l.session.oauthStateSha256 = some digest)
      (known : ∀ known ∈ l.session.email, known = identity.email) :
      Step v c salt heard m s l (.redeemOAuth (.provider provider) code state redirectUrl)
        (.accountRedeemed provider identity)
        (if identity.emailVerified then
          s.recordVerifiedEmail (.byProvider m.verifiedEmailId m.now l.project.id identity.email
            provider identity.subject)
          else s)
        (.oauthCodeRedeemed l.session.id (.provider provider) identity.email identity.emailVerified)
        (.finish (.ok (.proved (Lesson.apply l.session (.accountRedeemed provider identity)))))
  | connectionRedeemed {id : Uuid} {code state : String} {redirectUrl : Option String}
      {digest : List UInt8} {client : ResolvedClient} {identity : RedeemedIdentity}
      {o : Organization}
      (planned : ∃ m₀ s₀ l₀,
        v.Planned c heard (.oidcConnection id) state redirectUrl digest client m₀ s₀ l₀)
      (owner : client.organization = some o)
      (redeemed : Redeemed heard client.spec code identity)
      (outstanding : l.session.oauthStateSha256 = some digest)
      (known : ∀ known ∈ l.session.email, known = identity.email)
      (bound : ∀ id ∈ l.session.organizationId, id = o.id) :
      Step v c salt heard m s l (.redeemOAuth (.oidcConnection id) code state redirectUrl)
        (.connectionRedeemed id o.id identity) s
        (.oauthCodeRedeemed l.session.id (.oidcConnection id) identity.email identity.emailVerified)
        (.finish (.ok (.proved (Lesson.apply l.session (.connectionRedeemed id o.id identity)))))
  | asserted {id : Uuid} {response email : String} {connection : SamlConnection} {o : Organization}
      (resolved : (resolveSaml l id).Commits m s (connection, o) s)
      (validated : Validated heard id response email)
      (known : ∀ known ∈ l.session.email, known = email)
      (bound : ∀ id ∈ l.session.organizationId, id = o.id) :
      Step v c salt heard m s l (.redeemSaml id response) (.asserted connection.id o.id email) s
        (.samlAssertionRedeemed l.session.id connection.id email)
        (.finish (.ok (.proved (Lesson.apply l.session (.asserted connection.id o.id email)))))

/-- A step that was committed: from `s` to `s'`. -/
def Took (v : Service) (c : RequestContext) (salt : List UInt8) (heard : List ServiceDeed)
    (m : Moment) (s s' : Store) (request : LoginRequest) (rest : ServiceOperation LoginReply) :
    Prop :=
  ∃ l lesson written change, Loaded.Admitted c m.now s l ∧
    v.Step c salt heard m s l request lesson written change rest ∧ m.auditWritable = true ∧
      s' = written.persisted c m (lesson.apply l.session) change

section

open Transaction

variable {v : Service} {c : RequestContext} {salt : List UInt8} {heard : List ServiceDeed}
  {m : Moment} {s s' : Store} {l : Loaded}

theorem not_any_ne_iff {α : Type} [DecidableEq α] {x : Option α} {a : α} :
    ¬ x.any (· ≠ a) = true ↔ ∀ b ∈ x, b = a := by
  cases x <;> simp

theorem mapError_eq_ok {α ε δ : Type} {f : ε → δ} {x : Except ε α} {a : α} :
    x.mapError f = .ok a ↔ x = .ok a := by
  cases x with
  | error e =>
      constructor
      · intro failed
        cases failed
      · intro failed
        cases failed
  | ok b =>
      constructor
      · intro same
        cases same
        rfl
      · intro same
        cases same
        rfl

theorem digestMatches_iff {stored : Option (List UInt8)} {digest : List UInt8} :
    digestMatches stored digest = true ↔ stored = some digest := beq_iff_eq

theorem chargeEmailQuota_commits {p : Project} {usage : Int64} :
    (chargeEmailQuota p v.config.defaultEmailQuotaDaily).Commits m s usage s' ↔
      v.Charged m s p s' usage := by
  simp only [chargeEmailQuota, commits_bind, commits_now, commits_get, commits_set, commits_ite,
    commits_deny, commits_pure, and_assoc, exists_and_left, exists_eq_left, exists_const]
  constructor
  · intro ran
    split at ran
    · exact absurd ran not_false
    · rename_i within
      obtain ⟨rfl, rfl⟩ := ran
      exact ⟨rfl, rfl, Int64.not_lt.mp within⟩
  · rintro ⟨rfl, rfl, within⟩
    rw [if_neg (Int64.not_lt.mpr within)]
    exact ⟨rfl, rfl⟩

theorem issueEmailChallengeBody_took {email : String} {message : EmailMessage}
    (committed : (v.issueEmailChallengeBody c email).Commits m s message s') :
    v.Took c salt heard m s s' (.issueEmailChallenge email)
      ((ServiceOperation.send message .sendVerificationEmail).map fun _ => .sent) := by
  simp only [issueEmailChallengeBody, commits_bind, Loaded.load_commits,
    Loaded.requireAnyMethod_commits, Loaded.bindEmail_commits, commits_ite, commits_deny,
    commits_read, chargeEmailQuota_commits, persist_commits, commits_pure, and_assoc,
    exists_and_left, exists_eq_left, exists_const, false_and, if_false_left,
    Bool.not_eq_true] at committed
  obtain ⟨l, admitted, methods, known, unproved, usage, s₁, charged, _, writable, rfl, rfl⟩ :=
    committed
  exact ⟨l, _, s₁, _, admitted, .challengeIssued methods known unproved charged, writable, rfl⟩

theorem verifyEmailChallengeBody_took {code : String} {r : IntermediateSession}
    (committed : (verifyEmailChallengeBody c code).Commits m s r s') :
    v.Took c salt heard m s s' (.verifyEmailChallenge code) (.finish (.ok (.proved r))) := by
  simp only [verifyEmailChallengeBody, commits_bind, Loaded.load_commits,
    Loaded.requireAnyMethod_commits, Loaded.requireEmail_commits, commits_need, commits_ite,
    commits_refuse, commits_read, commits_modify, persist_commits, commits_pure, and_assoc,
    exists_and_left, exists_eq_left, exists_const, false_and, if_false_left, Bool.not_eq_true',
    Bool.not_eq_false, digestMatches_iff] at committed
  obtain ⟨l, admitted, methods, stored, outstanding, digest, presented, same, email, known, _,
    writable, rfl, rfl⟩ := committed
  cases same
  have taught : Lesson.apply l.session (.emailProved (l.allows .email)) =
      let r := { l.session with emailChallengeCompleted := true, emailChallengeSha256 := none }
      if l.allows .email then r.fixPrimaryAuthFactor .email else r := rfl
  rw [← taught, Lesson.apply_id]
  exact ⟨l, _, _, _, admitted, .emailProved methods outstanding presented known, writable, rfl⟩

theorem issueResetCodeBody_took {message : EmailMessage}
    (committed : (v.issueResetCodeBody c).Commits m s message s') :
    v.Took c salt heard m s s' .issueResetCode
      ((ServiceOperation.send message .sendResetEmail).map fun _ => .sent) := by
  simp only [issueResetCodeBody, commits_bind, Loaded.load_commits, Loaded.requireMethod_commits,
    Loaded.requireEmailVerified_commits, Loaded.requireEmail_commits, commits_read,
    chargeEmailQuota_commits, persist_commits, commits_pure, and_assoc, exists_and_left,
    exists_eq_left, exists_const] at committed
  obtain ⟨l, admitted, method, verified, email, known, usage, s₁, charged, _, writable, rfl, rfl⟩ :=
    committed
  exact ⟨l, _, s₁, _, admitted, .resetCodeIssued method verified known charged, writable, rfl⟩

theorem verifyResetCodeBody_took {code : String} {r : IntermediateSession}
    (committed : (verifyResetCodeBody c code).Commits m s r s') :
    v.Took c salt heard m s s' (.verifyResetCode code) (.finish (.ok (.proved r))) := by
  simp only [verifyResetCodeBody, commits_bind, Loaded.load_commits, Loaded.requireMethod_commits,
    commits_need, commits_ite, commits_refuse, persist_commits, commits_pure, and_assoc,
    exists_and_left, exists_eq_left, exists_const, false_and, if_false_left, Bool.not_eq_true',
    Bool.not_eq_false, digestMatches_iff] at committed
  obtain ⟨l, admitted, method, stored, outstanding, digest, presented, same, _, writable, rfl,
    rfl⟩ := committed
  cases same
  exact ⟨l, _, s, _, admitted, .resetCodeRedeemed method outstanding presented, writable, rfl⟩

theorem checkRegistration_commits {o : Organization} :
    (checkRegistration l).Commits m s o s' ↔ PasswordStep s l o ∧
      (∃ email, l.session.email = some email ∧ (l.session.resetCodeVerified = true ∨
        l.session.stagedPasswordHash = none ∧
          ∀ u ∈ s.userByEmail? o.id email, u.passwordHash = none)) ∧ s' = s := by
  simp only [checkRegistration, commits_bind, Loaded.requireOrganization_commits,
    Loaded.requireMethod_commits, Loaded.requireEmailVerified_commits, commits_ite, commits_deny,
    Linking.forRegistration_commits, commits_pure, and_assoc, exists_and_left, exists_eq_left,
    exists_const, false_and, if_false_left, Bool.not_eq_true]
  constructor
  · rintro ⟨o, organization, method, verified, unmatched, found, _, ⟨email, known, rfl, licensed,
      rfl⟩, rfl, rfl⟩
    exact ⟨⟨organization, method, verified, unmatched⟩, ⟨email, known, licensed⟩, rfl⟩
  · rintro ⟨⟨organization, method, verified, unmatched⟩, ⟨email, known, licensed⟩, rfl⟩
    exact ⟨o, organization, method, verified, unmatched, _, s', ⟨email, known, rfl, licensed, rfl⟩,
      rfl, rfl⟩

theorem registerPasswordWrite_took {password hash : String} {r : IntermediateSession}
    (hashed : v.matcher.hash salt password = .ok hash)
    (committed : (registerPasswordWrite c hash).Commits m s r s') :
    v.Took c salt heard m s s' (.registerPassword password) (.finish (.ok (.proved r))) := by
  simp only [registerPasswordWrite, commits_bind, Loaded.load_commits, checkRegistration_commits,
    persist_commits, commits_pure, and_assoc, exists_and_left, exists_eq_left,
    exists_const] at committed
  obtain ⟨l, admitted, o, checked, ⟨email, known, licensed⟩, _, writable, rfl, rfl⟩ := committed
  exact ⟨l, _, _, _, admitted, .passwordStaged checked known licensed hashed, writable, rfl⟩

/-- A password check that ends in a mismatch: the count of the user whose hash was compared is
written, and the session is not. -/
def Missed (v : Service) (c : RequestContext) (m : Moment) (s s' : Store) (email : Option String)
    (password : String) (reason : RequestError) : Prop :=
  ∃ l u w, Loaded.Admitted c m.now s l ∧ HashOwner s l email u ∧
    v.matcher.Compares m.now u password false ∧ v.matcher.miss? m.now u = some w ∧
      m.auditWritable = true ∧ reason = w.reason ∧ s' = s.missed c m w

theorem verifyChallenge_commits {password : String}
    {result : Except RequestError (IntermediateSession × Audit.IntermediateSessionChange)}
    (committed : (v.verifyChallenge c l password).Commits m s result s') :
    (∃ o, result = .ok (l.session, .passwordVerified l.session.id o.id) ∧
      l.organization = some o ∧
      ((∃ staged, PasswordStep s l o ∧ l.session.stagedPasswordHash = some staged ∧
          v.matcher.verifyHash password staged = .ok true ∧ s' = s) ∨
        ∃ u hash, HashOwner s l none u ∧ v.matcher.Compares m.now u password true ∧
          v.matcher.hash m.salt password = .ok hash ∧ s' = s.withUser (u.rehashed m.now hash))) ∨
    ∃ u w, HashOwner s l none u ∧ v.matcher.Compares m.now u password false ∧
      v.matcher.miss? m.now u = some w ∧ m.auditWritable = true ∧ result = .error w.reason ∧
      s' = s.missed c m w := by
  simp only [verifyChallenge, commits_bind, Loaded.requireOrganization_commits,
    Loaded.requireMethod_commits, Loaded.requireEmailVerified_commits, commits_ite, commits_deny,
    and_assoc, exists_and_left, exists_eq_left, exists_const, false_and, if_false_left,
    Bool.not_eq_true] at committed
  obtain ⟨o, organization, method, verified, unmatched, committed⟩ := committed
  have checked : PasswordStep s l o := ⟨organization, method, verified, unmatched⟩
  cases waiting : l.session.stagedPasswordHash with
  | some staged =>
      simp only [waiting, commits_bind, commits_ofExcept, commits_ite, commits_pure, commits_fail,
        and_assoc, exists_and_left, exists_eq_left] at committed
      obtain ⟨same, compared, committed⟩ := committed
      cases same with
      | false => exact absurd committed not_false
      | true =>
          obtain ⟨rfl, rfl⟩ := committed
          exact .inl ⟨o, rfl, organization, .inl ⟨staged, checked, rfl, compared, rfl⟩⟩
  | none =>
      simp only [waiting, commits_bind, Loaded.requireEmail_commits, Linking.byEmail_commits,
        commits_need, matchAndRehash_commits, commits_pure, and_assoc, exists_and_left,
        exists_eq_left] at committed
      obtain ⟨email, known, u, found, checkedUser, _, matched, rfl, rfl⟩ := committed
      have owner : HashOwner s l none u := .bound checked waiting known found
      rcases matched with ⟨compared, hash, hashed, _, rfl, rfl⟩ |
        ⟨compared, w, missed, _, writable, rfl, rfl⟩
      · exact .inl ⟨o, rfl, organization, .inr ⟨u, hash, owner, compared, hashed, rfl⟩⟩
      · exact .inr ⟨u, w, owner, compared, missed, writable, rfl, rfl⟩

theorem verifyDirect_commits {email password : String}
    {result : Except RequestError (IntermediateSession × Audit.IntermediateSessionChange)}
    (committed : (v.verifyDirect c l email password).Commits m s result s') :
    (∃ u hash, HashOwner s l (some email) u ∧ v.matcher.Compares m.now u password true ∧
      v.matcher.hash m.salt password = .ok hash ∧ s' = s.withUser (u.rehashed m.now hash) ∧
      result = .ok ({ l.session with
        organizationId := some u.organizationId
        email := some u.email
        emailChallengeCompleted := true }, .passwordLogin l.session.id u.organizationId u.id)) ∨
    ∃ u w, HashOwner s l (some email) u ∧ v.matcher.Compares m.now u password false ∧
      v.matcher.miss? m.now u = some w ∧ m.auditWritable = true ∧ result = .error w.reason ∧
      s' = s.missed c m w := by
  simp only [verifyDirect, commits_bind, Loaded.requireMethod_commits, commits_ite, commits_deny,
    commits_refuse, Linking.uniqueForPassword_commits, matchAndRehash_commits, commits_pure,
    and_assoc, exists_and_left, exists_eq_left, exists_const, false_and, if_false_left,
    not_any_ne_iff] at committed
  obtain ⟨unbound, method, known, u, found, checkedUser, _, matched, rfl, rfl⟩ := committed
  have owner : HashOwner s l (some email) u := .direct (by simpa using unbound) method known found
  rcases matched with ⟨compared, hash, hashed, _, rfl, rfl⟩ |
    ⟨compared, w, missed, _, writable, rfl, rfl⟩
  · exact .inl ⟨u, hash, owner, compared, hashed, rfl, rfl⟩
  · exact .inr ⟨u, w, owner, compared, missed, writable, rfl, rfl⟩

/-- The part of a check that compares. -/
def check (v : Service) (c : RequestContext) (l : Loaded) (password : String) :
    Option String →
      Transaction (Except RequestError (IntermediateSession × Audit.IntermediateSessionChange))
  | none => v.verifyChallenge c l password
  | some email => v.verifyDirect c l email password

/-- Against a user this is the match with the user's hash. -/
theorem HashOwner.run_check {email : Option String} {u : User} (owner : HashOwner s l email u)
    (v : Service) (c : RequestContext) (password : String) :
    ∃ f : User → IntermediateSession × Audit.IntermediateSessionChange,
      (∀ w, (f w).1.id = l.session.id) ∧ (v.check c l password email).run m s =
        (v.matchAndRehash c u password >>= fun result => pure (result.map f)).run m s := by
  cases owner with
  | @bound email o _ checked unstaged known found =>
      refine ⟨fun _ => (l.session, .passwordVerified l.session.id o.id), fun _ => rfl, ?_⟩
      unfold check verifyChallenge
      rw [(Loaded.requireOrganization_commits.mpr ⟨checked.organization, rfl⟩).run_bind,
        (Loaded.requireMethod_commits (a := ()) |>.mpr ⟨checked.method, rfl⟩).run_bind,
        (Loaded.requireEmailVerified_commits (a := ()) |>.mpr ⟨checked.verified, rfl⟩).run_bind]
      simp only [checked.unmatched, unstaged, Bool.false_eq_true, if_false]
      rw [(Loaded.requireEmail_commits.mpr ⟨known, rfl⟩).run_bind,
        (Linking.byEmail_commits.mpr ⟨found.symm, rfl⟩).run_bind,
        (commits_need.mpr ⟨rfl, rfl⟩ : Commits _ m s u s).run_bind]
  | @direct email _ unbound method known found =>
      refine ⟨fun w => ({ l.session with
        organizationId := some w.organizationId
        email := some w.email
        emailChallengeCompleted := true }, .passwordLogin l.session.id w.organizationId w.id),
        fun _ => rfl, ?_⟩
      unfold check verifyDirect
      simp only [unbound, Option.isSome_none, Bool.false_eq_true, if_false]
      rw [(Loaded.requireMethod_commits (a := ()) |>.mpr ⟨method, rfl⟩).run_bind,
        if_neg (not_any_ne_iff.mpr known),
        (Linking.uniqueForPassword_commits.mpr ⟨found, rfl⟩).run_bind]

theorem verifyPasswordBody_took {email : Option String} {password : String}
    {result : Except RequestError IntermediateSession}
    (committed : (v.verifyPasswordBody c email password).Commits m s result s') :
    (∃ r, result = .ok r ∧ v.Took c salt heard m s s' (.verifyPassword email password)
      (.finish (.ok (.proved r)))) ∨
    ∃ reason, result = .error reason ∧ v.Missed c m s s' email password reason := by
  cases email with
  | none =>
      simp only [verifyPasswordBody, commits_bind, Loaded.load_commits, and_assoc,
        exists_eq_left] at committed
      obtain ⟨l, admitted, checked, s₁, ended, committed⟩ := committed
      rcases verifyChallenge_commits ended with ⟨o, rfl, organization, proved⟩ |
        ⟨u, w, owner, compared, missed, writable, rfl, rfl⟩
      · simp only [commits_bind, persist_commits, commits_pure, and_assoc, exists_and_left,
          exists_eq_left, exists_const] at committed
        obtain ⟨_, writable, rfl, rfl⟩ := committed
        refine .inl ⟨_, rfl, ?_⟩
        rcases proved with ⟨staged, checked, waiting, compared, rfl⟩ |
          ⟨u, hash, owner, compared, hashed, rfl⟩
        · exact ⟨l, _, _, _, admitted, .stagedMatched checked waiting compared, writable, rfl⟩
        · exact ⟨l, _, _, _, admitted, .passwordMatched organization owner compared hashed,
            writable, rfl⟩
      · obtain ⟨rfl, rfl⟩ := commits_pure.mp committed
        exact .inr ⟨_, rfl, l, u, w, admitted, owner, compared, missed, writable, rfl, rfl⟩
  | some email =>
      simp only [verifyPasswordBody, commits_bind, Loaded.load_commits, and_assoc,
        exists_eq_left] at committed
      obtain ⟨l, admitted, checked, s₁, ended, committed⟩ := committed
      rcases verifyDirect_commits ended with ⟨u, hash, owner, compared, hashed, rfl, rfl⟩ |
        ⟨u, w, owner, compared, missed, writable, rfl, rfl⟩
      · simp only [commits_bind, persist_commits, commits_pure, and_assoc, exists_and_left,
          exists_eq_left, exists_const] at committed
        obtain ⟨_, writable, rfl, rfl⟩ := committed
        exact .inl ⟨_, rfl, l, _, _, _, admitted, .loggedIn owner compared hashed, writable, rfl⟩
      · obtain ⟨rfl, rfl⟩ := commits_pure.mp committed
        exact .inr ⟨_, rfl, l, u, w, admitted, owner, compared, missed, writable, rfl, rfl⟩

theorem verifyPasswordBody_missed {email : Option String} {password : String}
    {reason : RequestError}
    (committed : (v.verifyPasswordBody c email password).Commits m s (.error reason) s') :
    v.Missed c m s s' email password reason := by
  obtain ⟨_, ended, _⟩ | ⟨_, ended, missed⟩ :=
    @verifyPasswordBody_took v c [] [] m s s' email password _ committed
  · cases ended
  · cases ended
    exact missed

theorem tenantRedirect_unchanged {redirectUrl : Option String} {url : String}
    (committed : (tenantRedirect redirectUrl).Commits m s url s') : s' = s :=
  (commits_need.mp committed).2

/-- Finding the client of a login writes nothing. -/
theorem resolveClient_unchanged {target : OAuthTarget} {redirectUrl : Option String}
    {client : ResolvedClient}
    (committed : (v.resolveClient l target redirectUrl).Commits m s client s') : s' = s := by
  cases target with
  | provider provider =>
      simp only [resolveClient, resolveProvider, commits_bind,
        Loaded.requireMethod_commits] at committed
      obtain ⟨_, _, ⟨_, rfl⟩, committed⟩ := committed
      cases tenant : l.project.oauthClient provider with
      | some tenant =>
          simp only [tenant, commits_bind, commits_pure] at committed
          obtain ⟨_, _, redirected, _, rfl⟩ := committed
          exact tenantRedirect_unchanged redirected
      | none =>
          simp only [tenant, commits_pure] at committed
          exact committed.2
  | oidcConnection id =>
      simp only [resolveClient, resolveConnection, commits_bind, Loaded.requireMethod_commits,
        commits_get, commits_need, Loaded.checkOrganization_commits, commits_ite, commits_refuse,
        commits_pure, and_assoc, exists_and_left, exists_eq_left, exists_const, false_and,
        if_false_left] at committed
      obtain ⟨_, _, _, _, _, _, _, _, _, redirected, _, rfl⟩ := committed
      exact tenantRedirect_unchanged redirected

/-- The client of a provider goes to that provider. -/
theorem resolveClient_provider {provider : OAuthProvider} {redirectUrl : Option String}
    {client : ResolvedClient}
    (committed : (v.resolveClient l (.provider provider) redirectUrl).Commits m s client s') :
    client.spec = .known (v.providers.spec provider) := by
  simp only [resolveClient, resolveProvider, commits_bind,
    Loaded.requireMethod_commits] at committed
  obtain ⟨_, _, _, committed⟩ := committed
  cases tenant : l.project.oauthClient provider with
  | some tenant =>
      simp only [tenant, commits_bind, commits_pure] at committed
      obtain ⟨_, _, _, rfl, _⟩ := committed
      rfl
  | none =>
      simp only [tenant, commits_pure] at committed
      obtain ⟨rfl, _⟩ := committed
      rfl

/-- The client of a connection goes to where the connection says, and belongs to the connection's
organization. -/
theorem resolveClient_connection {id : Uuid} {redirectUrl : Option String}
    {client : ResolvedClient}
    (committed : (v.resolveClient l (.oidcConnection id) redirectUrl).Commits m s client s') :
    ∃ connection o, s.oidcConnection? l.project.id id = some connection ∧
      s.organization? l.project.id connection.organizationId = some o ∧
      client.spec = .discover connection.configurationUrl ∧ client.organization = some o := by
  simp only [resolveClient, resolveConnection, commits_bind, Loaded.requireMethod_commits,
    commits_get, commits_need, Loaded.checkOrganization_commits, commits_ite, commits_refuse,
    commits_pure, and_assoc, exists_and_left, exists_eq_left, exists_const, false_and,
    if_false_left] at committed
  obtain ⟨_, connection, found, o, owner, _, _, _, _, _, rfl, _⟩ := committed
  exact ⟨connection, o, found, owner, rfl, rfl⟩

/-- The connection of an assertion belongs to the organization that is returned with it, which is
the one that the session is bound to, if it is bound. -/
theorem resolveSaml_commits {id : Uuid} {connection : SamlConnection} {o : Organization} :
    (resolveSaml l id).Commits m s (connection, o) s' ↔ l.allows .saml = true ∧
      s.samlConnection? l.project.id id = some connection ∧
      s.organization? l.project.id connection.organizationId = some o ∧
      Loaded.organizationRefuses? o .saml = none ∧
      (∀ bound ∈ l.session.organizationId, bound = o.id) ∧ s' = s := by
  simp only [resolveSaml, commits_bind, Loaded.requireMethod_commits, commits_get, commits_need,
    Loaded.checkOrganization_commits, commits_ite, commits_refuse, commits_pure, and_assoc,
    exists_and_left, exists_eq_left, exists_const, false_and, if_false_left, not_any_ne_iff]
  constructor
  · rintro ⟨method, connection, found, o, owner, accepts, bound, same, rfl⟩
    cases same
    exact ⟨method, found, owner, accepts, bound, rfl⟩
  · rintro ⟨method, found, owner, accepts, bound, rfl⟩
    exact ⟨method, connection, found, o, owner, accepts, bound, rfl, rfl⟩

theorem oauthRedirectWrite_took {target : OAuthTarget} {redirectUrl : Option String}
    {client : ResolvedClient} {spec : ProviderSpec} {url : String}
    (committed : (v.oauthRedirectWrite c target redirectUrl client spec).Commits m s url s') :
    v.Took c salt heard m s s' (.oauthRedirect target redirectUrl)
      (.finish (.ok (.visit url))) := by
  simp only [oauthRedirectWrite, commits_bind, Loaded.load_commits, commits_read, commits_ofExcept,
    persist_commits, commits_pure, and_assoc, exists_and_left, exists_eq_left,
    exists_const] at committed
  obtain ⟨l, admitted, again, _, resolved, _, addressed, _, writable, rfl, rfl⟩ := committed
  cases resolveClient_unchanged resolved
  exact ⟨l, _, _, _, admitted, .redirected ⟨again, resolved⟩
    ⟨spec, client.clientId, client.redirectUri, mapError_eq_ok.mp addressed⟩, writable, rfl⟩

theorem redeemOAuthRead_planned {target : OAuthTarget} {state : String}
    {redirectUrl : Option String} {plan : List UInt8 × ResolvedClient}
    (first : .committed m s s ∈ heard)
    (committed : (v.redeemOAuthRead c target state redirectUrl).Commits m s plan s') :
    ∃ l, v.Planned c heard target state redirectUrl plan.1 plan.2 m s l := by
  simp only [redeemOAuthRead, commits_bind, Loaded.load_commits, commits_need, commits_ite,
    commits_refuse, commits_pure, and_assoc, exists_and_left, exists_eq_left, exists_const,
    false_and, if_false_left, Bool.or_eq_true, Bool.not_eq_true', bne_iff_ne, not_or,
    Bool.not_eq_false, digestMatches_iff, ne_eq, Decidable.not_not] at committed
  obtain ⟨l, admitted, digest, presented, outstanding, aimed, client, s₁, resolved, rfl, rfl⟩ :=
    committed
  cases resolveClient_unchanged resolved
  exact ⟨l, first, admitted, presented, outstanding, aimed, resolved⟩

theorem recordProviderIdentity_commits {provider : OAuthProvider} {identity : RedeemedIdentity}
    {l' : Loaded} :
    (recordProviderIdentity l provider identity).Commits m s l' s' ↔
      l' = { l with session := Lesson.link l.session provider identity } ∧
        s' = if identity.emailVerified then
          s.recordVerifiedEmail (.byProvider m.verifiedEmailId m.now l.project.id identity.email
            provider identity.subject)
          else s := by
  cases verified : identity.emailVerified with
  | false =>
      simp only [recordProviderIdentity, verified, Bool.false_eq_true, if_false, commits_pure]
      rfl
  | true =>
      simp only [recordProviderIdentity, verified, if_true, commits_bind, commits_read,
        commits_modify, commits_pure, and_assoc, exists_and_left, exists_eq_left, exists_const]
      rfl

theorem redeemOAuthWrite_took {target : OAuthTarget} {code state : String}
    {redirectUrl : Option String} {digest : List UInt8} {client : ResolvedClient}
    {identity : RedeemedIdentity} {r : IntermediateSession}
    (planned : ∃ m₀ s₀ l₀, v.Planned c heard target state redirectUrl digest client m₀ s₀ l₀)
    (redeemed : Redeemed heard client.spec code identity)
    (committed : (redeemOAuthWrite c target digest client identity).Commits m s r s') :
    v.Took c salt heard m s s' (.redeemOAuth target code state redirectUrl)
      (.finish (.ok (.proved r))) := by
  cases target with
  | provider provider =>
      simp only [redeemOAuthWrite, commits_bind, Loaded.load_commits, commits_ite, commits_deny,
        Loaded.bindEmail_commits, recordProviderIdentity_commits, persist_commits, commits_pure,
        and_assoc, exists_and_left, exists_eq_left, exists_const, false_and, if_false_left,
        Bool.not_eq_true', Bool.not_eq_false, digestMatches_iff] at committed
      obtain ⟨l, admitted, outstanding, known, _, writable, ended, written⟩ := committed
      have taught : r = Lesson.apply l.session (.accountRedeemed provider identity) := ended
      rw [← ended, taught, Lesson.apply_id] at written
      rw [taught]
      exact ⟨l, _, _, _, admitted, .accountRedeemed planned redeemed outstanding known, writable,
        written⟩
  | oidcConnection id =>
      simp only [redeemOAuthWrite, recordConnectionIdentity, commits_bind, Loaded.load_commits,
        commits_ite, commits_deny, commits_need, Loaded.bindEmail_commits,
        Loaded.bindOrganization_commits, persist_commits, commits_pure, and_assoc,
        exists_and_left, exists_eq_left, exists_const, false_and, if_false_left,
        Bool.not_eq_true', Bool.not_eq_false, digestMatches_iff] at committed
      obtain ⟨l, admitted, outstanding, known, _, _, ⟨o, owner, bound, rfl, rfl⟩, _, writable,
        ended, written⟩ := committed
      have taught : r = Lesson.apply l.session (.connectionRedeemed id o.id identity) := ended
      rw [← ended, taught, Lesson.apply_id] at written
      rw [taught]
      exact ⟨l, _, _, _, admitted,
        .connectionRedeemed planned owner redeemed outstanding known bound, writable, written⟩

theorem redeemSamlRead_asks {id : Uuid} {connection : SamlConnection}
    (committed : (redeemSamlRead c id).Commits m s connection s') : connection.id = id := by
  simp only [redeemSamlRead, commits_bind, Loaded.load_commits, commits_pure] at committed
  obtain ⟨l, _, _, ⟨connection', o⟩, _, resolved, rfl, rfl⟩ := committed
  obtain ⟨_, found, _⟩ := resolveSaml_commits.mp resolved
  exact Table.key_of_get? (Option.filter_eq_some_iff.mp found).1

theorem redeemSamlWrite_took {id : Uuid} {response email : String} {r : IntermediateSession}
    (validated : Validated heard id response email)
    (committed : (redeemSamlWrite c id email).Commits m s r s') :
    v.Took c salt heard m s s' (.redeemSaml id response) (.finish (.ok (.proved r))) := by
  simp only [redeemSamlWrite, commits_bind, Loaded.load_commits, Loaded.bindEmail_commits,
    Loaded.bindOrganization_commits, persist_commits, commits_pure, and_assoc, exists_and_left,
    exists_eq_left, exists_const] at committed
  obtain ⟨l, admitted, ⟨connection, o⟩, s₁, resolved, known, bound, _, writable, ended, written⟩ :=
    committed
  have unchanged := (resolveSaml_commits.mp resolved).2.2.2.2.2
  subst unchanged
  have taught : r = Lesson.apply l.session (.asserted connection.id o.id email) := ended
  rw [← ended, taught, Lesson.apply_id] at written
  rw [taught]
  exact ⟨l, _, _, _, admitted, .asserted resolved validated known bound, writable, written⟩

section

variable {deeds : List ServiceDeed}

theorem ofProvider_yields {α : Type} {reply : Except ProviderError α}
    {failure : ProviderError → RequestError} {a : α}
    (yields : (ServiceFetch.ofProvider reply failure).Yields deeds a) :
    reply = .ok a ∧ deeds = [] := by
  cases reply with
  | error e => cases yields
  | ok b =>
      cases yields
      exact ⟨rfl, rfl⟩

theorem registerPasswordFetch_yields {password hash : String}
    (yields : (v.registerPasswordFetch salt password).Yields deeds hash) :
    v.matcher.hash salt password = .ok hash := by
  obtain ⟨_, _, breached, _, rest, rfl⟩ := Fetch.yields_bind yields
  cases breached with
  | true => cases rest
  | false =>
      generalize v.matcher.hash salt password = result at rest
      obtain _ | _ | ended := rest
      cases ended
      rfl

theorem fetchSpec_yields {source : SpecSource} {spec : ProviderSpec}
    (yields : (fetchSpec source).Yields deeds spec) : Discovered deeds source spec := by
  cases source with
  | known known =>
      obtain ⟨_, same⟩ := Fetch.yields_pure.mp yields
      exact same
  | discover url =>
      obtain _ | ⟨reply, accepted⟩ := yields
      obtain ⟨rfl, rfl⟩ := ofProvider_yields accepted
      exact List.mem_singleton.mpr rfl

theorem redeemOAuthFetch_yields {code : String} {client : ResolvedClient}
    {identity : RedeemedIdentity}
    (yields : (v.redeemOAuthFetch code client).Yields deeds identity) :
    Redeemed deeds client.spec code identity := by
  have asked : ∀ secret deeds, Fetch.Yields (do
      let spec ← fetchSpec client.spec
      ServiceFetch.redeem spec ⟨client.clientId, secret, client.redirectUri⟩ code)
        deeds identity → Redeemed deeds client.spec code identity := by
    intro secret deeds yields
    obtain ⟨first, _, spec, found, answered, rfl⟩ := Fetch.yields_bind yields
    obtain _ | ⟨reply, accepted⟩ := answered
    obtain ⟨rfl, rfl⟩ := ofProvider_yields accepted
    exact ⟨spec, ⟨client.clientId, secret, client.redirectUri⟩,
      (fetchSpec_yields found).mono fun _ => List.mem_append_left _, by simp⟩
  unfold redeemOAuthFetch at yields
  cases source : client.secret with
  | platform secret =>
      rw [source] at yields
      exact asked secret deeds yields
  | sealed ciphertext =>
      rw [source] at yields
      obtain ⟨first, second, secret, _, rest, rfl⟩ := Fetch.yields_bind yields
      exact (asked secret second rest).mono fun _ => List.mem_append_right _

theorem validateAssertion_yields {connection : SamlConnection} {response email : String}
    (yields : (ServiceFetch.validateAssertion connection response).Yields deeds email) :
    Validated deeds connection.id response email := by
  obtain _ | ⟨reply, yields⟩ := yields
  match reply with
  | .error reason => cases yields
  | .ok email =>
      cases yields
      exact ⟨connection, rfl, List.mem_singleton.mpr rfl⟩

end

/-- Whether a request asks outside services between a transaction that reads and one that writes. -/
def twoPhase : LoginRequest → Bool
  | .registerPassword _ | .oauthRedirect .. | .redeemOAuth .. | .redeemSaml .. => true
  | _ => false

/-- What a commit of a login request did: it was the first of two and only read, or it took the
step that was asked for, or it counted a mismatch. -/
inductive LoginCommit (v : Service) (c : RequestContext) (salt : List UInt8) :
    LoginRequest → List ServiceDeed → Moment → Store → Store → ServiceOperation LoginReply →
      Prop where
  | read {request : LoginRequest} {m : Moment} {s : Store} {rest : ServiceOperation LoginReply}
      (phases : twoPhase request = true) (unfinished : rest.Unfinished) :
      LoginCommit v c salt request [] m s s rest
  | took {request : LoginRequest} {heard : List ServiceDeed} {m : Moment} {s s' : Store}
      {rest : ServiceOperation LoginReply} (took : v.Took c salt heard m s s' request rest) :
      LoginCommit v c salt request heard m s s' rest
  | missed {email : Option String} {password : String} {reason : RequestError}
      {heard : List ServiceDeed} {m : Moment} {s s' : Store}
      (missed : v.Missed c m s s' email password reason) :
      LoginCommit v c salt (.verifyPassword email password) heard m s s' (.finish (.error reason))

/-- A request that succeeds takes its step. -/
theorem LoginCommit.of_answer {request : LoginRequest} {rest : ServiceOperation LoginReply}
    {reply : LoginReply} (commit : v.LoginCommit c salt request heard m s s' rest)
    (ended : rest.answer? = some (.ok reply)) : v.Took c salt heard m s s' request rest := by
  cases commit with
  | read _ unfinished => exact absurd ended (unfinished reply)
  | took took => exact took
  | missed => cases ended

theorem LoginCommit.reads {α : Type} {f : α → LoginReply} {request : LoginRequest}
    (phases : twoPhase request = true) (m : Moment) (s : Store) (rest : ServiceOperation α)
    (unfinished : rest.Unfinished) : v.LoginCommit c salt request [] m s s (rest.map f) :=
  .read phases unfinished.map

/-- Sending a message commits nothing. -/
theorem always_send {G : List ServiceDeed → Moment → Store → Store → ServiceOperation Unit → Prop}
    {message : EmailMessage} {call : ProviderCall} :
    (ServiceOperation.send message call).Always G heard := by
  intro reply
  match reply with
  | .ok _ => trivial
  | .error _ => trivial

/-- Everything that a login request commits. -/
theorem perform_always (request : LoginRequest) :
    (v.perform c salt request).Always (LoginCommit v c salt request) [] := by
  cases request with
  | issueEmailChallenge email =>
      refine Operation.always_map ?_
      unfold issueEmailChallenge
      split
      · intro m s message s' committed
        exact ⟨.took (issueEmailChallengeBody_took committed), always_send⟩
      · trivial
  | verifyEmailChallenge code =>
      exact Operation.always_map <| Operation.always_single fun m s r s' committed =>
        .took (verifyEmailChallengeBody_took committed)
  | registerPassword password =>
      refine Operation.always_map ?_
      unfold registerPassword
      dsimp only
      split
      · trivial
      split
      · trivial
      refine Operation.always_twoPhase (LoginCommit.reads rfl) ?_
      intro m₀ s₀ _ s₁ deeds hash m s r s' _ yields committed
      exact .took (registerPasswordWrite_took (registerPasswordFetch_yields yields) committed)
  | verifyPassword email password =>
      refine Operation.always_map fun m s result s' committed => ⟨?_, trivial⟩
      rcases verifyPasswordBody_took committed with ⟨r, rfl, took⟩ | ⟨reason, rfl, missed⟩
      · exact .took took
      · exact .missed missed
  | issueResetCode =>
      exact Operation.always_map fun m s message s' committed =>
        ⟨.took (issueResetCodeBody_took committed), always_send⟩
  | verifyResetCode code =>
      exact Operation.always_map <| Operation.always_single fun m s r s' committed =>
        .took (verifyResetCodeBody_took committed)
  | oauthRedirect target redirectUrl =>
      refine Operation.always_map <| Operation.always_twoPhase (LoginCommit.reads rfl) ?_
      intro m₀ s₀ client s₁ deeds spec m s url s' _ _ committed
      exact .took (oauthRedirectWrite_took committed)
  | redeemOAuth target code state redirectUrl =>
      refine Operation.always_map <| Operation.always_twoPhase (LoginCommit.reads rfl) ?_
      intro m₀ s₀ plan s₁ deeds identity m s r s' read yields committed
      obtain ⟨l₀, planned⟩ := redeemOAuthRead_planned
        (List.mem_cons_self : .committed m₀ s₀ s₀ ∈ .committed m₀ s₀ s₀ :: deeds) read
      exact .took (redeemOAuthWrite_took ⟨m₀, s₀, l₀, planned⟩
        ((redeemOAuthFetch_yields yields).mono fun _ => List.mem_cons_of_mem _) committed)
  | redeemSaml connectionId response =>
      refine Operation.always_map <| Operation.always_twoPhase (LoginCommit.reads rfl) ?_
      intro m₀ s₀ connection s₁ deeds email m s r s' read yields committed
      obtain ⟨asked, same, heard⟩ := validateAssertion_yields yields
      exact .took (redeemSamlWrite_took
        ⟨asked, same.trans (redeemSamlRead_asks read), List.mem_cons_of_mem _ heard⟩ committed)

/-- No step gives its session another email or another organization. -/
theorem Step.fits {request : LoginRequest} {lesson : Lesson} {written : Store}
    {change : Audit.IntermediateSessionChange} {rest : ServiceOperation LoginReply}
    (step : v.Step c salt heard m s l request lesson written change rest) :
    lesson.Fits l.session := by
  cases step with
  | challengeIssued _ known => exact known
  | loggedIn owner =>
      cases owner with
      | direct unbound method known found =>
          obtain ⟨_, rfl, _⟩ := mem_of_candidates found
          exact ⟨known, by simp [unbound]⟩
  | accountRedeemed _ _ _ known => exact known
  | connectionRedeemed _ _ _ _ known bound => exact ⟨known, bound⟩
  | asserted _ _ known bound => exact ⟨known, bound⟩
  | emailProved | resetCodeIssued | resetCodeRedeemed | passwordStaged | stagedMatched
  | passwordMatched | redirected => trivial

end

end Service

end Vestibule
