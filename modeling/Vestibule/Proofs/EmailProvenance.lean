import Vestibule.Proofs.MatchedUser
import Vestibule.Proofs.Secret

/-! Where the email of a session comes from. Whoever exchanges a session has proved its email in
one of five ways, each of which is a turn taken earlier in the run. -/

namespace Vestibule

/-- On whose behalf the steps of a session run. -/
def IntermediateSession.context (r : IntermediateSession) : RequestContext := ⟨r.projectId, r.id⟩

namespace Entry

/-- The turn issued a code for the session, and what is left is to mail it. -/
def Mails (x : Entry) (c : RequestContext) (email : String) (secret : Secret) : Prop :=
  x.context = c ∧ ∃ m before after sender, x.deed = .committed m before after ∧ m.secret = secret ∧
    x.rest.question? = some (.sendMail (.verificationCode sender email
      (secret.token .emailVerificationCode)))

/-- The turn logged the session in with the email and the password of an active user of the
project. -/
def LogsIn (x : Entry) (v : Service) (c : RequestContext) (email : String) : Prop :=
  x.context = c ∧ ∃ password m s s' u,
    x.performed? = some (.verifyPassword (some email) password) ∧ x.matchedUser? = some u ∧
      x.deed = .committed m s s' ∧ v.matcher.Compares m.now u password true ∧
        u ∈ s.users.rows ∧ u.email = email ∧ u.isActive = true ∧
          (s.organization? c.projectId u.organizationId).isSome

/-- The turn redeemed an assertion that was found to name the email, for a connection of the
organization. -/
def Asserts (x : Entry) (c : RequestContext) (organizationId : Uuid) (email : String) : Prop :=
  x.context = c ∧ ∃ connection response m s s',
    x.performed? = some (.redeemSaml connection.id response) ∧ x.deed = .committed m s s' ∧
      s.samlConnection? c.projectId connection.id = some connection ∧
        connection.organizationId = organizationId ∧ Validated x.heard connection.id response email

/-- The turn redeemed a code for an identity with the email, through a connection of the
organization. -/
def Connects (x : Entry) (c : RequestContext) (organizationId : Uuid) (email : String) : Prop :=
  x.context = c ∧ ∃ connection code state redirectUrl identity m s,
    x.performed? = some (.redeemOAuth (.oidcConnection connection.id) code state redirectUrl) ∧
      .committed m s s ∈ x.heard ∧ s.oidcConnection? c.projectId connection.id = some connection ∧
        connection.organizationId = organizationId ∧
          Redeemed x.heard (.discover connection.configurationUrl) code identity ∧
            identity.email = email

/-- The turn redeemed a code that the provider gave this identity for. -/
def Redeems (x : Entry) (v : Service) (provider : OAuthProvider) (identity : RedeemedIdentity) :
    Prop :=
  ∃ code state redirectUrl,
    x.performed? = some (.redeemOAuth (.provider provider) code state redirectUrl) ∧
      Redeemed x.heard (.known (v.providers.spec provider)) code identity

end Entry

/-- A code for the session was mailed to the address. -/
def Mailed (past : List Entry) (c : RequestContext) (email : String) (secret : Secret) : Prop :=
  ∃ x ∈ past, x.Mails c email secret

/-- A code that was mailed to the address was verified. The code that was presented is that code, or
SHA-256 collides. -/
def CodeVerified (past : List Entry) (c : RequestContext) (email : String) : Prop :=
  ∃ earlier x later code secret, past = earlier ++ x :: later ∧ x.context = c ∧
    x.performed? = some (.verifyEmailChallenge code) ∧ Mailed earlier c email secret ∧
      (code = secret.token .emailVerificationCode ∨ ∃ other, other ≠ secret.bytes ∧
        code = SecretTokenKind.emailVerificationCode.render other ∧
          Sha256.digest other = secret.digest)

/-- A provider has told in some session of the project that the email of an account is verified. -/
def Vouched (v : Service) (past : List Entry) (projectId : Uuid) (provider : OAuthProvider)
    (subject email : String) : Prop :=
  ∃ x ∈ past, ∃ identity, x.context.projectId = projectId ∧ x.Redeems v provider identity ∧
    identity.emailVerified = true ∧ identity.subject = subject ∧ identity.email = email

/-- The account was redeemed on the session, with the email. -/
def AccountRedeemed (v : Service) (past : List Entry) (c : RequestContext)
    (provider : OAuthProvider) (subject email : String) : Prop :=
  ∃ x ∈ past, ∃ identity, x.context = c ∧ x.Redeems v provider identity ∧
    identity.subject = subject ∧ identity.email = email

/-- How a session of an organization has proved to have the email. -/
inductive EmailProved (v : Service) (past : List Entry) (c : RequestContext)
    (organizationId : Uuid) (email : String) : Prop where
  | code (verified : CodeVerified past c email)
  | password {x : Entry} (member : x ∈ past) (logsIn : x.LogsIn v c email)
  | assertion {x : Entry} (member : x ∈ past) (asserts : x.Asserts c organizationId email)
  | connection {x : Entry} (member : x ∈ past) (connects : x.Connects c organizationId email)
  | account {provider : OAuthProvider} {subject : String}
      (vouched : Vouched v past c.projectId provider subject email)
      (redeemed : AccountRedeemed v past c provider subject email)

/-- What the record of a session knows of its email was learnt in the run. -/
structure EmailHistory (v : Service) (past : List Entry) (r : IntermediateSession) : Prop where
  outstanding : ∀ digest, r.emailChallengeSha256 = some digest →
    ∃ email secret, r.email = some email ∧ Mailed past r.context email secret ∧
      secret.digest = digest
  completed : r.emailChallengeCompleted = true → ∃ email, r.email = some email ∧
    (CodeVerified past r.context email ∨ ∃ x ∈ past, x.LogsIn v r.context email)
  asserted : r.verifiedSamlConnectionId.isSome = true → ∃ email organizationId,
    r.email = some email ∧ r.organizationId = some organizationId ∧
      ∃ x ∈ past, x.Asserts r.context organizationId email
  connected : r.verifiedOidcConnectionId.isSome = true → ∃ email organizationId,
    r.email = some email ∧ r.organizationId = some organizationId ∧
      ∃ x ∈ past, x.Connects r.context organizationId email
  redeemed : ∀ provider subject, r.providerSubject provider = some subject →
    ∃ email, r.email = some email ∧ AccountRedeemed v past r.context provider subject email

/-- An attestation of a provider was made in the run. -/
def VerifiedEmail.Earned (v : Service) (past : List Entry) (e : VerifiedEmail) : Prop :=
  ∀ provider subject, e.provider = some provider → e.providerSubject = some subject →
    Vouched v past e.projectId provider subject e.email

/-- A session that has proved nothing: as it is created, with or without an organization and an
email. -/
def IntermediateSession.Fresh (r : IntermediateSession) : Prop :=
  ∃ id now projectId expire organizationId email, r = { new id now projectId expire with
    organizationId := organizationId
    email := email }

variable {v : Service} {past : List Entry} {x : Entry} {c : RequestContext} {s s' : Store}
  {r r' : IntermediateSession} {email : String}

section append

variable {P : Entry → Prop}

theorem exists_append (before : ∃ y ∈ past, P y) : ∃ y ∈ past ++ [x], P y := by
  obtain ⟨y, member, holds⟩ := before
  exact ⟨y, List.mem_append_left _ member, holds⟩

theorem exists_last (holds : P x) : ∃ y ∈ past ++ [x], P y :=
  ⟨x, List.mem_append_right _ (List.mem_singleton_self x), holds⟩

theorem CodeVerified.append (verified : CodeVerified past c email) :
    CodeVerified (past ++ [x]) c email := by
  obtain ⟨earlier, z, later, code, secret, rfl, rest⟩ := verified
  exact ⟨earlier, z, later ++ [x], code, secret, by simp, rest⟩

/-- Nothing that was learnt is undone by later turns. -/
theorem EmailHistory.append (history : EmailHistory v past r) : EmailHistory v (past ++ [x]) r where
  outstanding digest known := by
    obtain ⟨email, secret, named, mailed, same⟩ := history.outstanding digest known
    exact ⟨email, secret, named, exists_append mailed, same⟩
  completed done := by
    obtain ⟨email, named, verified | logsIn⟩ := history.completed done
    · exact ⟨email, named, .inl verified.append⟩
    · exact ⟨email, named, .inr (exists_append logsIn)⟩
  asserted known := by
    obtain ⟨email, organizationId, named, bound, asserts⟩ := history.asserted known
    exact ⟨email, organizationId, named, bound, exists_append asserts⟩
  connected known := by
    obtain ⟨email, organizationId, named, bound, connects⟩ := history.connected known
    exact ⟨email, organizationId, named, bound, exists_append connects⟩
  redeemed provider subject known := by
    obtain ⟨email, named, redeemed⟩ := history.redeemed provider subject known
    exact ⟨email, named, exists_append redeemed⟩

end append

@[simp] theorem Lesson.apply_context {lesson : Lesson} :
    (lesson.apply r).context = r.context := by
  simp [IntermediateSession.context]

theorem Loaded.Admitted.context {now : Instant} {l : Loaded} (admitted : Admitted c now s l) :
    c = l.session.context := by
  rw [IntermediateSession.context, admitted.session_projectId, admitted.session_id]

section

variable {salt : List UInt8} {m : Moment} {l : Loaded} {request : LoginRequest} {lesson : Lesson}
  {written : Store} {change : Audit.IntermediateSessionChange}
  {rest : ServiceOperation LoginReply}

/-- A step that issues a code has it mailed to the session's email. -/
theorem Entry.Takes.outstanding (takes : x.Takes v s s' salt m l request lesson written change rest)
    (history : EmailHistory v past l.session) {digest : List UInt8}
    (known : (lesson.apply l.session).emailChallengeSha256 = some digest) :
    ∃ email secret, (lesson.apply l.session).email = some email ∧
      Mailed (past ++ [x]) l.session.context email secret ∧ secret.digest = digest := by
  have fits := takes.step.fits
  rw [Lesson.apply_emailChallengeSha256] at known
  cases takes.step with
  | @challengeIssued email _ _ _ _ _ charged =>
      cases known
      refine ⟨email, m.secret, rfl, exists_last ⟨takes.admitted.context, m, s, s',
        l.project.emailFromAddress, takes.deed, rfl, ?_⟩, rfl⟩
      rw [takes.left]
      rfl
  | emailProved => cases known
  | _ =>
      obtain ⟨email, secret, named, mailed, same⟩ := history.outstanding digest known
      exact ⟨email, secret, fits.email named, exists_append mailed, same⟩

/-- A step that completes the challenge of the email either verified a code that was mailed to it,
or matched the password of its user. -/
theorem Entry.Takes.completed (takes : x.Takes v s s' salt m l request lesson written change rest)
    (history : EmailHistory v past l.session)
    (done : (lesson.apply l.session).emailChallengeCompleted = true) :
    ∃ email, (lesson.apply l.session).email = some email ∧
      (CodeVerified (past ++ [x]) l.session.context email ∨
        ∃ y ∈ past ++ [x], y.LogsIn v l.session.context email) := by
  have fits := takes.step.fits
  rw [Lesson.apply_emailChallengeCompleted] at done
  cases takes.step with
  | @emailProved code email digest _ outstanding presented known =>
      obtain ⟨email', secret, named, mailed, rfl⟩ := history.outstanding digest outstanding
      cases known.symm.trans named
      refine ⟨email, fits.email known, .inl ⟨past, x, [], code, secret, by simp,
        takes.admitted.context, takes.performed?, mailed, Secret.token_of_digest? presented⟩⟩
  | @loggedIn password email hash u owner compared =>
      have matched := takes.matchedUser? takes.performed?
      rw [owner.hashOwner?] at matched
      cases owner with
      | direct unbound method known found =>
          have candidate : u ∈ s.passwordLoginCandidates l.project.id email :=
            found ▸ List.mem_singleton_self u
          obtain ⟨listed, rfl, active, _, allowed⟩ := Store.mem_passwordLoginCandidates.mp candidate
          have organization : (s.organization? x.context.projectId u.organizationId).isSome := by
            rw [← takes.admitted.project_id]
            unfold Store.allowsPasswordLogin at allowed
            cases found : s.organization? l.project.id u.organizationId with
            | none => simp [found] at allowed
            | some o => rfl
          rw [takes.admitted.context] at organization
          exact ⟨u.email, by simp,
            .inr (exists_last ⟨takes.admitted.context, password, m, s, s', u, takes.performed?,
              matched, takes.deed, compared, listed, rfl, active, organization⟩)⟩
  | _ =>
      obtain ⟨email, named, verified | logsIn⟩ := history.completed done
      · exact ⟨email, fits.email named, .inl verified.append⟩
      · exact ⟨email, fits.email named, .inr (exists_append logsIn)⟩

/-- A step that records a SAML connection redeemed an assertion for one of the organization. -/
theorem Entry.Takes.asserted (takes : x.Takes v s s' salt m l request lesson written change rest)
    (history : EmailHistory v past l.session)
    (known : (lesson.apply l.session).verifiedSamlConnectionId.isSome = true) :
    ∃ email organizationId, (lesson.apply l.session).email = some email ∧
      (lesson.apply l.session).organizationId = some organizationId ∧
        ∃ y ∈ past ++ [x], y.Asserts l.session.context organizationId email := by
  have fits := takes.step.fits
  rw [Lesson.apply_verifiedSamlConnectionId] at known
  cases takes.step with
  | @asserted id response email connection o resolved validated =>
      obtain ⟨_, found, owner, _⟩ := Service.resolveSaml_commits.mp resolved
      obtain ⟨stored, _⟩ := Option.filter_eq_some_iff.mp found
      have named := Table.key_of_get? stored
      subst named
      obtain ⟨_, same, _⟩ := Store.organization?_eq_some owner
      rw [takes.admitted.project_id, takes.admitted.context] at found
      exact ⟨email, o.id, by simp, by simp,
        exists_last ⟨takes.admitted.context, connection, response, m, s, s', takes.performed?,
          takes.deed, found, same.symm, validated⟩⟩
  | _ =>
      obtain ⟨email, organizationId, named, bound, asserts⟩ := history.asserted known
      exact ⟨email, organizationId, fits.email named, fits.organizationId bound,
        exists_append asserts⟩

/-- A step that records an OIDC connection redeemed a code through one of the organization. -/
theorem Entry.Takes.connected (takes : x.Takes v s s' salt m l request lesson written change rest)
    (history : EmailHistory v past l.session)
    (known : (lesson.apply l.session).verifiedOidcConnectionId.isSome = true) :
    ∃ email organizationId, (lesson.apply l.session).email = some email ∧
      (lesson.apply l.session).organizationId = some organizationId ∧
        ∃ y ∈ past ++ [x], y.Connects l.session.context organizationId email := by
  have fits := takes.step.fits
  rw [Lesson.apply_verifiedOidcConnectionId] at known
  cases takes.step with
  | @connectionRedeemed id code state redirectUrl digest client identity o planned owner redeemed =>
      obtain ⟨m₀, s₀, l₀, first, admitted, _, _, _, resolved⟩ := planned
      obtain ⟨connection, o', found, located, source, owner'⟩ :=
        Service.resolveClient_connection resolved
      cases owner.symm.trans owner'
      obtain ⟨stored, _⟩ := Option.filter_eq_some_iff.mp found
      have named := Table.key_of_get? stored
      subst named
      obtain ⟨_, same, _⟩ := Store.organization?_eq_some located
      rw [admitted.project_id, takes.admitted.context] at found
      rw [source] at redeemed
      exact ⟨identity.email, o.id, by simp, by simp,
        exists_last ⟨takes.admitted.context, connection, code, state, redirectUrl, identity, m₀, s₀,
          takes.performed?, first, found, same.symm, redeemed, rfl⟩⟩
  | _ =>
      obtain ⟨email, organizationId, named, bound, connects⟩ := history.connected known
      exact ⟨email, organizationId, fits.email named, fits.organizationId bound,
        exists_append connects⟩

/-- A step that redeems a code for an account asked the provider of that account. -/
theorem Entry.Takes.redeems {provider : OAuthProvider} {code state : String}
    {redirectUrl : Option String} {identity : RedeemedIdentity}
    (takes : x.Takes v s s' salt m l (.redeemOAuth (.provider provider) code state redirectUrl)
      (.accountRedeemed provider identity) written change rest) :
    x.Redeems v provider identity := by
  cases takes.step with
  | accountRedeemed planned redeemed =>
      obtain ⟨m₀, s₀, l₀, planned⟩ := planned
      rw [Service.resolveClient_provider planned.resolved] at redeemed
      exact ⟨code, state, redirectUrl, takes.performed?, redeemed⟩

/-- A step that records an account has its email from the same identity. -/
theorem Entry.Takes.redeemed (takes : x.Takes v s s' salt m l request lesson written change rest)
    (history : EmailHistory v past l.session) {provider : OAuthProvider} {subject : String}
    (known : (lesson.apply l.session).providerSubject provider = some subject) :
    ∃ email, (lesson.apply l.session).email = some email ∧
      AccountRedeemed v (past ++ [x]) l.session.context provider subject email := by
  have fits := takes.step.fits
  have kept : l.session.providerSubject provider = some subject →
      ∃ email, (lesson.apply l.session).email = some email ∧
        AccountRedeemed v (past ++ [x]) l.session.context provider subject email := by
    intro known
    obtain ⟨email, named, redeemed⟩ := history.redeemed provider subject known
    exact ⟨email, fits.email named, exists_append redeemed⟩
  rw [Lesson.apply_providerSubject] at known
  cases takes.step with
  | @accountRedeemed redeemed code state redirectUrl digest client identity =>
      simp only at known
      split at known
      · rename_i same
        cases known
        subst same
        exact ⟨identity.email, by simp,
          exists_last ⟨identity, takes.admitted.context, takes.redeems, rfl, rfl⟩⟩
      · exact kept known
  | _ => exact kept known

theorem EmailHistory.taught (history : EmailHistory v past l.session)
    (takes : x.Takes v s s' salt m l request lesson written change rest) :
    EmailHistory v (past ++ [x]) (lesson.apply l.session) where
  outstanding _ known := by simpa using takes.outstanding history known
  completed done := by simpa using takes.completed history done
  asserted known := by simpa using takes.asserted history known
  connected known := by simpa using takes.connected history known
  redeemed _ _ known := by simpa using takes.redeemed history known

/-- An attestation is added by a step that verified a code, which names no provider, or by one that
redeemed an account whose email the provider says is verified. -/
theorem Entry.Takes.earned (takes : x.Takes v s s' salt m l request lesson written change rest)
    {e : VerifiedEmail} (member : e ∈ s'.verifiedEmails) :
    e ∈ s.verifiedEmails ∨ e.Earned v (past ++ [x]) := by
  rw [takes.after] at member
  change e ∈ written.verifiedEmails at member
  have kept : written.verifiedEmails = s.verifiedEmails →
      e ∈ s.verifiedEmails ∨ e.Earned v (past ++ [x]) := by
    intro same
    exact .inl (same ▸ member)
  cases takes.step with
  | challengeIssued _ _ _ charged | resetCodeIssued _ _ _ charged =>
      have counted := charged.counted.trans Store.countEmail_eq
      exact kept (by rw [counted])
  | emailProved =>
      rcases Store.mem_recordVerifiedEmail member with before | rfl
      · exact .inl before
      · exact .inr fun provider subject named => by cases named
  | @accountRedeemed provider code state redirectUrl digest client identity =>
      split at member
      · rename_i verified
        rcases Store.mem_recordVerifiedEmail member with before | rfl
        · exact .inl before
        · right
          intro provider' subject named numbered
          cases named
          cases numbered
          exact exists_last ⟨identity, takes.admitted.project_id.symm, takes.redeems, verified, rfl,
            rfl⟩
      · exact .inl member
  | _ => exact kept rfl

end

theorem IntermediateSession.mem_providerSubjects {provider : OAuthProvider} {subject : String} :
    (provider, subject) ∈ r.providerSubjects ↔ r.providerSubject provider = some subject := by
  simp only [IntermediateSession.providerSubjects, List.mem_filterMap, Option.map_eq_some_iff,
    Prod.mk.injEq]
  constructor
  · rintro ⟨_, _, _, redeemed, rfl, rfl⟩
    exact redeemed
  · intro redeemed
    exact ⟨provider, by cases provider <;> decide, subject, redeemed, rfl, rfl⟩

theorem VerifiedEmail.Earned.append {e : VerifiedEmail} (earned : e.Earned v past) :
    e.Earned v (past ++ [x]) :=
  fun provider subject named numbered => exists_append (earned provider subject named numbered)

theorem IntermediateSession.Fresh.emailHistory (fresh : r.Fresh) : EmailHistory v [] r := by
  obtain ⟨id, now, projectId, lifetime, organizationId, email, rfl⟩ := fresh
  refine ⟨?_, ?_, ?_, ?_, ?_⟩
  · intro digest known
    cases known
  · intro done
    cases done
  · intro known
    cases known
  · intro known
    cases known
  · intro provider subject known
    cases provider <;> cases known

/-- What is known of emails, in the records of sessions and among the attestations, was learnt in
the run. -/
structure EmailsLearnt (v : Service) (past : List Entry) (s : Store) : Prop where
  records : ∀ id r, s.intermediateSessions.get? id = some r → EmailHistory v past r
  attested : ∀ e ∈ s.verifiedEmails, e.Earned v past

theorem EmailsLearnt.turn (learnt : EmailsLearnt v past s) (did : x.Did v s s') :
    EmailsLearnt v (past ++ [x]) s' where
  records id r' stored := by
    obtain ⟨r, before, learns⟩ := did.learns stored
    have history := learnt.records id r before
    cases learns with
    | kept => exact history.append
    | taught own record takes =>
        subst record
        exact history.taught takes
    | exchanged time =>
        obtain ⟨outstanding, completed, asserted, connected, redeemed⟩ :=
          history.append (x := x)
        exact ⟨outstanding, completed, asserted, connected, redeemed⟩
  attested e member := by
    rcases did.takes_of_attested member with before | ⟨_, _, _, _, _, _, _, _, takes⟩
    · exact (learnt.attested e before).append
    · rcases takes.earned member with before | earned
      · exact (learnt.attested e before).append
      · exact earned

theorem Run.emailsLearnt {start : Store} {sys : System}
    (fresh : ∀ r ∈ start.intermediateSessions.rows, r.Fresh) (blank : start.verifiedEmails = [])
    (run : Run TenantChange v { store := start } past sys) : EmailsLearnt v past sys.store := by
  refine run.invariant System.sound_idle (P := EmailsLearnt v) ⟨?_, ?_⟩ ?_ ?_
  · intro id r stored
    exact (fresh r (Table.mem_of_get? stored)).emailHistory
  · intro e member
    simp [blank] at member
  · exact fun past s x s' learnt did => learnt.turn did
  · rintro past s s' ⟨records, attested⟩ changed
    refine ⟨?_, ?_⟩
    · rw [changed.intermediateSessions]
      exact records
    · rw [changed.verifiedEmails]
      exact attested

/-- Whoever exchanges a session has proved its email: a code that was mailed to it was verified, its
user's password was matched, a connection of the organization named it in an assertion or for a
code, or a provider vouched for it in the project and the session redeemed the same account. -/
theorem Run.exchanged_email_proved {start : Store} {sys : System} {later : List Entry} {y : Entry}
    {id : Uuid} {m : Moment} (fresh : ∀ r ∈ start.intermediateSessions.rows, r.Fresh)
    (blank : start.verifiedEmails = [])
    (run : Run TenantChange v { store := start } (past ++ y :: later) sys)
    (exchanges : y.exchanges id = true) (deed : y.deed = .committed m s s') :
    ∃ r organizationId email, s.intermediateSessions.get? id = some r ∧ y.context = r.context ∧
      r.organizationId = some organizationId ∧ r.email = some email ∧
        EmailProved v past y.context organizationId email := by
  obtain ⟨sys₁, sys₂, t, i, before, took, _⟩ := run.split
  obtain ⟨_, did⟩ := (before.sound System.sound_idle).turn took
  obtain ⟨m', result, deed', own, exchanged⟩ := did.exchanged exchanges
  cases deed.symm.trans deed'
  obtain ⟨l, o, _, _, _, _, _, admitted, exchangeable, _⟩ := exchanged
  obtain ⟨bound, _⟩ := admitted.organization_eq_some exchangeable.organization
  obtain ⟨records, attested⟩ := before.emailsLearnt fresh blank
  have history := records _ _ admitted.stored
  have context := admitted.context
  suffices proved : ∃ email, l.session.email = some email ∧
      EmailProved v past y.context o.id email by
    obtain ⟨email, known, proved⟩ := proved
    exact ⟨l.session, o.id, email, own ▸ admitted.stored, context, bound, known, proved⟩
  have verified := exchangeable.verified
  simp only [Loaded.isEmailVerified, Bool.or_eq_true, or_assoc] at verified
  rw [context]
  rcases verified with done | saml | oidc | attestation
  · obtain ⟨email, known, verified | ⟨x, member, logsIn⟩⟩ := history.completed done
    · exact ⟨email, known, .code verified⟩
    · exact ⟨email, known, .password member logsIn⟩
  · obtain ⟨email, organizationId, known, bound', x, member, asserts⟩ := history.asserted saml
    cases bound.symm.trans bound'
    exact ⟨email, known, .assertion member asserts⟩
  · obtain ⟨email, organizationId, known, bound', x, member, connects⟩ := history.connected oidc
    cases bound.symm.trans bound'
    exact ⟨email, known, .connection member connects⟩
  · obtain ⟨email, known, attestation⟩ := (Option.any_eq_true _ _).mp attestation
    obtain ⟨⟨provider, subject⟩, listed, attestation⟩ := List.any_eq_true.mp attestation
    obtain ⟨e, member, states⟩ := List.any_eq_true.mp attestation
    simp only [Bool.and_eq_true, beq_iff_eq, and_assoc] at states
    obtain ⟨project, rfl, named, numbered⟩ := states
    have vouched := attested e member provider subject named numbered
    rw [project, admitted.project_id, context] at vouched
    obtain ⟨email, known', redeemed⟩ :=
      history.redeemed provider subject (IntermediateSession.mem_providerSubjects.mp listed)
    cases known.symm.trans known'
    exact ⟨e.email, known, .account vouched redeemed⟩

namespace Deployment

theorem fresh {users : Table User User.id} {organizationId : Option Uuid} :
    ∀ r ∈ (store users organizationId).intermediateSessions.rows, r.Fresh := by
  intro r member
  cases List.mem_singleton.mp member
  exact ⟨.ofNat 4, now, project.id, soon, organizationId, none, rfl⟩

/-- A visitor logs in with a code that was mailed. -/
def loginByMail : List Entry × System :=
  System.play service
    [.arrive context (.login [] (.issueEmailChallenge user.email)), turn none 0 0, turn none 1 0,
      .arrive context (.login [] (.verifyEmailChallenge (code .emailVerificationCode 0))),
      turn none 2 1, .arrive context .exchange, turn none 3 2]
    { store := store (only user) (some organization.id) }

end Deployment

theorem Run.exchanged_email_proved_of_mail :
    ∃ past y organizationId email, Deployment.loginByMail.1 = past ++ [y] ∧
      y.exchanges Deployment.session.id = true ∧
        EmailProved Deployment.service past y.context organizationId email := by
  have run : Run TenantChange Deployment.service
      { store := Deployment.store (Deployment.only Deployment.user)
          (some Deployment.organization.id) }
      Deployment.loginByMail.1 Deployment.loginByMail.2 := System.run_play _ _
  have turns : Deployment.loginByMail.1.map (·.exchanges Deployment.session.id) =
      [false, false, false] ++ [true] := by
    decide +kernel
  obtain ⟨past, ended, whole, _, ends⟩ := List.map_eq_append_iff.mp turns
  obtain ⟨y, rfl, exchanges⟩ := List.map_eq_singleton_iff.mp ends
  obtain ⟨m, s, s', deed⟩ : ∃ m s s', y.deed = .committed m s s' := by
    unfold Entry.exchanges at exchanges
    split at exchanges
    · exact ⟨_, _, _, ‹_›⟩
    · cases exchanges
  obtain ⟨_, organizationId, email, _, _, _, _, proved⟩ :=
    Run.exchanged_email_proved Deployment.fresh rfl (whole ▸ run) exchanges deed
  exact ⟨past, y, organizationId, email, whole, exchanges, proved⟩

end Vestibule
