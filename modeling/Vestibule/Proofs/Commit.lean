import Vestibule.Proofs.Exchange
import Vestibule.Proofs.Step

/-! What one commit of any request may write, table by table. -/

namespace Vestibule

/-- A request of a client: a step of a login, the exchange that ends one, or an access token. -/
inductive Call where
  | login (salt : List UInt8) (request : LoginRequest)
  | exchange
  | accessToken (refreshToken : String)
  deriving DecidableEq, Repr

inductive Answer where
  | login (reply : LoginReply)
  | exchanged (exchanged : ExchangedSession)
  | accessToken (token : String)
  deriving DecidableEq, Repr

/-- Whether a commit of a call that has done so much before is the one that exchanges its
session. -/
def Call.exchanges : Call → List ServiceDeed → Bool
  | exchange, [] => true
  | _, _ => false

/-- The claims of an access token for a session and its user. There are none where the calendar ends
before they would expire. -/
def TokenIssuer.claims? (t : TokenIssuer) (m : Moment) (x : Session) (u : User) :
    Option AccessClaims :=
  (m.now.add? t.config.lifetime).map fun expire =>
    { AccessClaims.new m.claimsId m.now x u t.config.issuer expire with
      audience := t.config.audience }

namespace Service

def serve (v : Service) (c : RequestContext) : Call → ServiceOperation Answer
  | .login salt request => (v.perform c salt request).map .login
  | .exchange => (v.exchange c).map .exchanged
  | .accessToken refreshToken => (v.issueAccessToken refreshToken).map .accessToken

/-- What a commit of a request did, by what the request had done before. The token that follows an
exchange is only read. -/
inductive Wrote (v : Service) (c : RequestContext) : Call → List ServiceDeed → Moment → Store →
    Store → ServiceOperation Answer → Prop where
  | login {salt : List UInt8} {request : LoginRequest} {heard : List ServiceDeed} {m : Moment}
      {s s' : Store} {rest : ServiceOperation LoginReply}
      (commit : v.LoginCommit c salt request heard m s s' rest) :
      Wrote v c (.login salt request) heard m s s' (rest.map .login)
  | exchanged {m : Moment} {s s' : Store} {result : IssuedSession × User × Bool}
      {rest : ServiceOperation Answer} (exchanged : v.Exchanged c m s s' result) :
      Wrote v c .exchange [] m s s' rest
  | minted {first : ServiceDeed} {heard : List ServiceDeed} {m : Moment} {s : Store}
      {rest : ServiceOperation Answer} : Wrote v c .exchange (first :: heard) m s s rest
  | refreshed {refreshToken : String} {heard : List ServiceDeed} {m : Moment} {s : Store}
      {rest : ServiceOperation Answer} : Wrote v c (.accessToken refreshToken) heard m s s rest

section

open Transaction

variable {v : Service} {c : RequestContext} {m : Moment} {s s' : Store}

theorem refreshOwner_unchanged {refreshToken : String} {owner : Session × User}
    (committed : (refreshOwner refreshToken).Commits m s owner s') : s' = s := by
  simp only [refreshOwner, commits_bind, commits_need, commits_get, commits_now, commits_pure,
    and_assoc, exists_and_left, exists_eq_left] at committed
  obtain ⟨_, _, _, _, _, _, _, rfl⟩ := committed
  rfl

/-- The claims are those of the session and the user that the refresh token is for. -/
theorem refreshedClaims_commits {t : TokenIssuer} {refreshToken : String} {claims : AccessClaims} :
    (refreshedClaims t refreshToken).Commits m s claims s' ↔
      ∃ x u, (refreshOwner refreshToken).Commits m s (x, u) s' ∧ t.claims? m x u = some claims := by
  simp only [refreshedClaims, commits_bind, commits_read, commits_reach, commits_pure,
    TokenIssuer.claims?, Option.map_eq_some_iff, and_assoc, exists_and_left, exists_eq_left,
    Prod.exists]
  constructor
  · rintro ⟨x, u, _, owner, expire, lasts, rfl, rfl⟩
    exact ⟨x, u, owner, expire, lasts, rfl⟩
  · rintro ⟨x, u, owner, expire, lasts, rfl⟩
    exact ⟨x, u, _, owner, expire, lasts, rfl, rfl⟩

theorem accessTokenBody_unchanged {t : TokenIssuer} {refreshToken token : String}
    (committed : (accessTokenBody t refreshToken).Commits m s token s') : s' = s := by
  simp only [accessTokenBody, commits_bind, refreshedClaims_commits, commits_ofExcept] at committed
  obtain ⟨_, _, ⟨_, _, owner, _⟩, _, rfl⟩ := committed
  exact refreshOwner_unchanged owner

/-- Everything that a request commits. -/
theorem serve_always (call : Call) : (v.serve c call).Always (v.Wrote c call) [] := by
  cases call with
  | login salt request =>
      exact Operation.always_map ((perform_always request).imp fun _ _ _ _ _ => .login)
  | exchange =>
      refine Operation.always_map fun m s result s' committed =>
        ⟨.exchanged (exchangeBody_exchanged committed), ?_⟩
      intro m s token s' minted
      cases accessTokenBody_unchanged minted
      exact ⟨.minted, trivial⟩
  | accessToken refreshToken =>
      refine Operation.always_map <| Operation.always_single fun m s token s' committed => ?_
      cases accessTokenBody_unchanged committed
      exact .refreshed

end

end Service

namespace Store

variable {s : Store}

theorem countEmail_eq {projectId : Uuid} {date : Date} :
    s.countEmail projectId date =
      { s with emailUsage := (s.countEmail projectId date).emailUsage } := by
  simp only [countEmail]
  split <;> rfl

theorem recordVerifiedEmail_eq {e : VerifiedEmail} :
    s.recordVerifiedEmail e =
      { s with verifiedEmails := (s.recordVerifiedEmail e).verifiedEmails } := by
  unfold recordVerifiedEmail
  split <;> rfl

theorem recordVerifiedEmail_append (s : Store) (e : VerifiedEmail) :
    ∃ attested, attested.length ≤ 1 ∧ (∀ f ∈ attested, f = e) ∧
      s.recordVerifiedEmail e = { s with verifiedEmails := s.verifiedEmails ++ attested } := by
  unfold recordVerifiedEmail
  split
  · exact ⟨[], by simp, by simp, by simp⟩
  · exact ⟨[e], by simp, by simp, rfl⟩

theorem mem_recordVerifiedEmail {e f : VerifiedEmail}
    (member : f ∈ (s.recordVerifiedEmail e).verifiedEmails) : f ∈ s.verifiedEmails ∨ f = e := by
  unfold recordVerifiedEmail at member
  split at member
  · exact .inl member
  · simpa using member

end Store

/-- A lesson is read back from the table that it was written to. -/
theorem Loaded.Admitted.get?_taught {c : RequestContext} {now : Instant} {s : Store} {l : Loaded}
    (admitted : Loaded.Admitted c now s l) (lesson : Lesson) :
    (s.intermediateSessions.replace (lesson.apply l.session)).get? c.intermediateSessionId =
      some (lesson.apply l.session) := by
  have stored := admitted.stored
  have same : (lesson.apply l.session).id = l.session.id := Lesson.apply_id
  rw [← admitted.session_id, ← same] at stored ⊢
  exact Table.get?_replace_self stored

/-- What a commit makes of the users: nothing, one record that stays the same person, or one
more. -/
inductive UserWrite (s : Store) : Table User User.id → Prop where
  | kept : UserWrite s s.users
  | replaced {u u' : User} (stored : s.users.get? u.id = some u) (same : u.SameIdentity u') :
      UserWrite s (s.users.replace u')
  | added {u : User}
      (unique : ∀ v ∈ s.users.rows, ¬ (v.organizationId = u.organizationId ∧ v.email = u.email))
      (fresh : s.users.contains u.id = false) : UserWrite s (s.users.add u)

namespace UserWrite

variable {s : Store} {users : Table User User.id} {id : Uuid} {u : User}

/-- A user keeps its place and stays the same person. -/
theorem successor (write : UserWrite s users) (stored : s.users.get? id = some u) :
    ∃ u', users.get? id = some u' ∧ u.SameIdentity u' := by
  cases write with
  | kept => exact ⟨u, stored, .refl u⟩
  | @replaced w w' present same =>
      by_cases own : w.id = id
      · subst own
        cases stored.symm.trans present
        refine ⟨w', ?_, same⟩
        rw [← same.id] at stored ⊢
        exact Table.get?_replace_self stored
      · refine ⟨u, ?_, .refl u⟩
        rw [Table.get?_replace_of_ne (same.id ▸ own), stored]
  | added unique fresh => exact ⟨u, Table.get?_add_of_some stored fresh, .refl u⟩

/-- Whoever is found among the users was there before, or is new, last, and with an email of its
own. -/
theorem origin (write : UserWrite s users) (listed : u ∈ users.rows) :
    (∃ old ∈ s.users.rows, old.SameIdentity u) ∨ users.rows = s.users.rows ++ [u] ∧
      ∀ v ∈ s.users.rows, ¬ (v.organizationId = u.organizationId ∧ v.email = u.email) := by
  cases write with
  | kept => exact .inl ⟨u, listed, .refl u⟩
  | @replaced w w' present same =>
      rw [Table.rows_replace] at listed
      obtain ⟨x, member, rfl⟩ := List.mem_map.mp listed
      left
      split
      · exact ⟨w, Table.mem_of_get? present, same⟩
      · exact ⟨x, member, .refl x⟩
  | @added w unique fresh =>
      rw [Table.rows_add fresh] at listed ⊢
      rcases List.mem_append.mp listed with old | new
      · exact .inl ⟨u, old, .refl u⟩
      · cases List.mem_singleton.mp new
        exact .inr ⟨rfl, unique⟩

end UserWrite

namespace Service

variable {v : Service} {c : RequestContext} {salt : List UInt8} {heard : List ServiceDeed}
  {m : Moment} {s s' written : Store} {l : Loaded} {u : User} {request : LoginRequest}
  {lesson : Lesson} {change : Audit.IntermediateSessionChange} {call : Call}

/-- Besides its session's record and the audit log, a step writes at most users, verified emails
and the quota. -/
theorem Step.frame {rest : ServiceOperation LoginReply}
    (step : v.Step c salt heard m s l request lesson written change rest) :
    ∃ users verifiedEmails emailUsage, UserWrite s users ∧ written =
      { s with users := users, verifiedEmails := verifiedEmails, emailUsage := emailUsage } := by
  cases step with
  | challengeIssued _ _ _ charged | resetCodeIssued _ _ _ charged =>
      exact ⟨_, _, _, .kept, charged.counted.trans Store.countEmail_eq⟩
  | emailProved => exact ⟨_, _, _, .kept, Store.recordVerifiedEmail_eq⟩
  | passwordMatched _ owner | loggedIn owner =>
      exact ⟨_, _, _, .replaced owner.stored.1 User.rehashed_sameIdentity, rfl⟩
  | accountRedeemed =>
      split
      · exact ⟨_, _, _, .kept, Store.recordVerifiedEmail_eq⟩
      · exact ⟨_, _, _, .kept, rfl⟩
  | resetCodeRedeemed | passwordStaged | stagedMatched | redirected | connectionRedeemed
  | asserted => exact ⟨_, _, _, .kept, rfl⟩

theorem Took.frame {rest : ServiceOperation LoginReply}
    (took : v.Took c salt heard m s s' request rest) :
    ∃ l lesson users verifiedEmails emailUsage change, Loaded.Admitted c m.now s l ∧
      Lesson.Fits l.session lesson ∧ UserWrite s users ∧
      s' = { s with
        users := users
        verifiedEmails := verifiedEmails
        emailUsage := emailUsage
        intermediateSessions := s.intermediateSessions.replace (Lesson.apply l.session lesson)
        auditLog := s.auditLog ++ [Audit.IntermediateSessionChange.toEvent change m.eventId m.now
          c.projectId c.actor] } := by
  obtain ⟨l, lesson, written, change, admitted, step, _, rfl⟩ := took
  obtain ⟨users, verifiedEmails, emailUsage, write, rfl⟩ := step.frame
  exact ⟨l, lesson, users, verifiedEmails, emailUsage, change, admitted, step.fits, write, rfl⟩

theorem Missed.frame {email : Option String} {password : String} {reason : RequestError}
    (missed : v.Missed c m s s' email password reason) :
    ∃ l users change, Loaded.Admitted c m.now s l ∧ UserWrite s users ∧
      s' = { s with
        users := users
        auditLog := s.auditLog ++ [Audit.UserChange.toEvent change m.eventId m.now c.projectId
          c.actor] } := by
  obtain ⟨l, u, w, admitted, owner, _, missed, _, _, rfl⟩ := missed
  have same := CredentialMatcher.miss?_sameIdentity missed
  exact ⟨l, _, _, admitted, .replaced owner.stored.1 same, rfl⟩

end Service

/-- The user that an exchange is for is active and of the session's organization. -/
theorem Store.userForExchange?_eq_some {s : Store} {organizationId : Uuid}
    {r : IntermediateSession} {u : User} (found : s.userForExchange? organizationId r = some u) :
    s.users.get? u.id = some u ∧ u.organizationId = organizationId ∧ u.isActive = true := by
  rcases Option.or_eq_some_iff.mp found with linked | ⟨_, named⟩
  · obtain ⟨account, _, linked⟩ := List.exists_of_findSome?_eq_some linked
    obtain ⟨stored, owner, active, _⟩ := userBySubject?_eq_some linked
    exact ⟨stored, owner, active⟩
  · obtain ⟨email, _, named⟩ := Option.bind_eq_some_iff.mp named
    obtain ⟨stored, owner, _, active⟩ := userByEmail?_eq_some named
    exact ⟨stored, owner, active⟩

theorem Resolves.userWrite {m : Moment} {s written : Store} {organizationId : Uuid}
    {r : IntermediateSession} {u : User} {created : Bool}
    (resolves : Resolves m s organizationId r u created written) : UserWrite s written.users := by
  cases resolves with
  | found found attached =>
      obtain ⟨stored, _⟩ := Store.userForExchange?_eq_some found
      exact .replaced stored (attachIdentity_sameIdentity attached).1
  | created _ _ _ unique fresh => exact .added unique fresh

namespace Service

variable {v : Service} {c : RequestContext} {heard : List ServiceDeed} {m : Moment}
  {s s' : Store} {call : Call} {rest : ServiceOperation Answer}

theorem Wrote.of_login {salt : List UInt8} {request : LoginRequest}
    (wrote : v.Wrote c (.login salt request) heard m s s' rest) :
    ∃ onward, v.LoginCommit c salt request heard m s s' onward ∧ rest = onward.map .login := by
  cases wrote with
  | login commit => exact ⟨_, commit, rfl⟩

theorem Wrote.of_exchanges (wrote : v.Wrote c call heard m s s' rest)
    (exchanging : call.exchanges heard = true) : ∃ result, v.Exchanged c m s s' result := by
  cases wrote with
  | login | minted | refreshed => cases exchanging
  | exchanged exchanged => exact ⟨_, exchanged⟩

theorem Exchanged.frame {result : IssuedSession × User × Bool}
    (exchanged : v.Exchanged c m s s' result) :
    ∃ l users issued event, Loaded.Admitted c m.now s l ∧ UserWrite s users ∧
      s.sessions.contains (Session.id issued) = false ∧
      Audit.Event.actor event = c.actor ∧ event.name = "sessions.create" ∧
      s' = { s with
        users := users
        intermediateSessions :=
          s.intermediateSessions.replace (Lesson.apply l.session (.exchanged m.now))
        sessions := s.sessions.add issued
        auditLog := s.auditLog ++ [event] } := by
  obtain ⟨l, o, factor, u, created, written, expire, admitted, _, resolves, _, fresh, _, _, rfl⟩ :=
    exchanged
  have write := resolves.userWrite
  obtain ⟨users, rfl⟩ := resolves.written
  exact ⟨l, users, _, _, admitted, write, fresh, rfl, rfl, rfl⟩

/-- A commit that writes anything is on behalf of a session that it found admitted. -/
theorem Wrote.unchanged_or_admitted (wrote : v.Wrote c call heard m s s' rest) :
    s' = s ∨ ∃ l, Loaded.Admitted c m.now s l := by
  cases wrote with
  | login commit =>
      cases commit with
      | read => exact .inl rfl
      | took took =>
          obtain ⟨l, _, _, _, _, _, admitted, _⟩ := took.frame
          exact .inr ⟨l, admitted⟩
      | missed missed =>
          obtain ⟨l, _, _, admitted, _⟩ := missed.frame
          exact .inr ⟨l, admitted⟩
  | exchanged exchanged =>
      obtain ⟨l, _, _, _, admitted, _⟩ := exchanged.frame
      exact .inr ⟨l, admitted⟩
  | minted | refreshed => exact .inl rfl

/-- The record of a session is written on its own behalf, as one lesson. -/
theorem Wrote.records (wrote : v.Wrote c call heard m s s' rest) :
    s'.intermediateSessions = s.intermediateSessions ∨
      ∃ l lesson, Loaded.Admitted c m.now s l ∧ Lesson.Fits l.session lesson ∧
        s'.intermediateSessions =
          s.intermediateSessions.replace (Lesson.apply l.session lesson) := by
  cases wrote with
  | login commit =>
      cases commit with
      | read => exact .inl rfl
      | took took =>
          obtain ⟨l, lesson, _, _, _, _, admitted, fits, _, rfl⟩ := took.frame
          exact .inr ⟨l, lesson, admitted, fits, rfl⟩
      | missed missed =>
          obtain ⟨_, _, _, _, _, rfl⟩ := missed.frame
          exact .inl rfl
  | exchanged exchanged =>
      obtain ⟨l, _, _, _, admitted, _, _, _, _, rfl⟩ := exchanged.frame
      exact .inr ⟨l, .exchanged m.now, admitted, trivial, rfl⟩
  | minted | refreshed => exact .inl rfl

theorem Wrote.userWrite (wrote : v.Wrote c call heard m s s' rest) : UserWrite s s'.users := by
  cases wrote with
  | login commit =>
      cases commit with
      | read => exact .kept
      | took took =>
          obtain ⟨_, _, _, _, _, _, _, _, write, rfl⟩ := took.frame
          exact write
      | missed missed =>
          obtain ⟨_, _, _, _, write, rfl⟩ := missed.frame
          exact write
  | exchanged exchanged =>
      obtain ⟨_, _, _, _, _, write, _, _, _, rfl⟩ := exchanged.frame
      exact write
  | minted | refreshed => exact .kept

/-- A session that is exchanged is never written again, and nothing is on its behalf. -/
theorem Wrote.unchanged (wrote : v.Wrote c call heard m s s' rest) {r : IntermediateSession}
    (stored : s.intermediateSessions.get? c.intermediateSessionId = some r)
    (spent : r.isExchanged = true) : s' = s := by
  rcases wrote.unchanged_or_admitted with unchanged | ⟨l, admitted⟩
  · exact unchanged
  · have same := stored.symm.trans admitted.stored
    cases same
    exact absurd (spent.symm.trans admitted.unexchanged) (by decide)

/-- The records of other sessions are left alone. -/
theorem Wrote.get?_of_ne (wrote : v.Wrote c call heard m s s' rest) {id : Uuid}
    (apart : c.intermediateSessionId ≠ id) :
    s'.intermediateSessions.get? id = s.intermediateSessions.get? id := by
  rcases wrote.records with unchanged | ⟨l, lesson, admitted, _, written⟩
  · rw [unchanged]
  · rw [written, Table.get?_replace_of_ne]
    rw [Lesson.apply_id, admitted.session_id]
    exact apart

/-- No event of another family is named like the one that tells of a new session. -/
theorem eventName_ne_created {family : String} (tag : String)
    (apart : family.toList.take 1 ≠ ['s']) (named : 1 ≤ family.toList.length) :
    family ++ tag ≠ "sessions.create" := by
  intro same
  have start : (family ++ tag).toList.take 1 = ['s'] := by
    rw [same]
    rfl
  rw [String.toList_append, List.take_append_of_le_length named] at start
  exact apart start

theorem intermediateSessionChange_eventName {change : Audit.IntermediateSessionChange} :
    change.eventName ≠ "sessions.create" :=
  eventName_ne_created change.tag (by decide) (by decide)

theorem userChange_eventName {change : Audit.UserChange} :
    change.eventName ≠ "sessions.create" :=
  eventName_ne_created change.tag (by decide) (by decide)

/-- Sessions are only ever added, one by each exchange. -/
theorem Wrote.sessions (wrote : v.Wrote c call heard m s s' rest) :
    ∃ added, s'.sessions.rows = s.sessions.rows ++ added ∧
      added.length = if call.exchanges heard then 1 else 0 := by
  cases wrote with
  | login commit =>
      cases commit with
      | read => exact ⟨[], by simp, rfl⟩
      | took took =>
          obtain ⟨_, _, _, _, _, _, _, _, _, rfl⟩ := took.frame
          exact ⟨[], by simp, rfl⟩
      | missed missed =>
          obtain ⟨_, _, _, _, _, rfl⟩ := missed.frame
          exact ⟨[], by simp, rfl⟩
  | exchanged exchanged =>
      obtain ⟨_, _, issued, _, _, _, fresh, _, _, rfl⟩ := exchanged.frame
      exact ⟨[issued], Table.rows_add fresh, rfl⟩
  | minted | refreshed => exact ⟨[], by simp, rfl⟩

/-- Entries are only ever added to the audit log, in the name of the session; those that tell of a
new session, by exchanges. -/
theorem Wrote.auditLog (wrote : v.Wrote c call heard m s s' rest) :
    ∃ added, s'.auditLog = s.auditLog ++ added ∧ (∀ e ∈ added, e.actor = c.actor) ∧
      added.countP (·.name == "sessions.create") = if call.exchanges heard then 1 else 0 := by
  cases wrote with
  | login commit =>
      cases commit with
      | read => exact ⟨[], by simp, by simp, rfl⟩
      | took took =>
          obtain ⟨_, _, _, _, _, change, _, _, _, rfl⟩ := took.frame
          refine ⟨_, rfl, by simp [Audit.IntermediateSessionChange.toEvent, Audit.Event.new], ?_⟩
          simp [Audit.IntermediateSessionChange.toEvent, Audit.Event.new, Call.exchanges,
            intermediateSessionChange_eventName]
      | missed missed =>
          obtain ⟨_, _, change, _, _, rfl⟩ := missed.frame
          refine ⟨_, rfl, by simp [Audit.UserChange.toEvent, Audit.Event.new,
            Audit.Event.withOrganization, Audit.Event.withResource], ?_⟩
          simp [Audit.UserChange.toEvent, Audit.Event.new, Audit.Event.withOrganization,
            Audit.Event.withResource, Call.exchanges, userChange_eventName]
  | exchanged exchanged =>
      obtain ⟨_, _, _, event, _, _, _, actor, name, rfl⟩ := exchanged.frame
      exact ⟨[event], rfl, by simpa using actor, by simp [name, Call.exchanges]⟩
  | minted | refreshed => exact ⟨[], by simp, by simp, rfl⟩

/-- The commit that exchanges a session leaves its record exchanged. -/
theorem Wrote.exchanges (wrote : v.Wrote c call heard m s s' rest)
    (exchanging : call.exchanges heard = true) :
    ∃ l r, Loaded.Admitted c m.now s l ∧
      s'.intermediateSessions.get? c.intermediateSessionId = some r ∧ r.isExchanged = true := by
  obtain ⟨_, exchanged⟩ := wrote.of_exchanges exchanging
  obtain ⟨l, _, _, _, admitted, _, _, _, _, rfl⟩ := exchanged.frame
  exact ⟨l, _, admitted, admitted.get?_taught (.exchanged m.now), rfl⟩

end Service

end Vestibule
