import Vestibule.Proofs.Likeness
import Vestibule.Proofs.TenantFrame

/-! Likenesses of stores that take in the users of a project. Every request on a session goes alike
on stores that are alike in this sense, whichever user it finds or writes; an exchange does where
the accounts of the session are linked to the same users. -/

namespace Vestibule

/-- A likeness that does not show in the users of the project either, nor in what is drawn for new
records, and that is kept by what a request writes of users and sessions. -/
structure Store.UserLikeness (p : Uuid) (drawn : Moment → Prop) (R : Store → Store → Prop) : Prop
    extends Store.Likeness p R where
  userByEmail? : ∀ {s t}, R s t → ∀ id email, (s.organization? p id).isSome = true →
    s.userByEmail? id email = t.userByEmail? id email
  passwordLoginCandidates : ∀ {s t}, R s t → ∀ email,
    s.passwordLoginCandidates p email = t.passwordLoginCandidates p email
  withUser : ∀ {s t}, R s t → ∀ u u' : User, s.users.get? u.id = some u → u.isActive = true →
    s.Owns p u → u.SameIdentity u' →
      t.users.contains u.id = true ∧ R (s.withUser u') (t.withUser u')
  createUser : ∀ {s t m}, R s t → drawn m → ∀ u : User, u.id = m.userId → s.Owns p u →
    Transaction.WritesAlike R (·.createUser u) s t
  createSession : ∀ {s t m}, R s t → drawn m → ∀ (x : Session) (u : User), x.id = m.sessionId →
    x.refreshTokenSha256 = m.secret.digest → s.users.get? x.userId = some u → u.isActive = true →
      s.Owns p u → Transaction.WritesAlike R (·.createSession x) s t
  sessionByRefreshDigest? : ∀ {s t m}, R s t → drawn m →
    s.sessionByRefreshDigest? m.secret.digest = t.sessionByRefreshDigest? m.secret.digest
  sessionOwner : ∀ {s t m x}, R s t → drawn m →
    s.sessionByRefreshDigest? m.secret.digest = some x →
      (s.user? x.userId).filter User.isActive = (t.user? x.userId).filter User.isActive

/-- The accounts of a session are linked to the same users of an organization. -/
def Store.LinksAlike (s t : Store) (id : Uuid) : Prop :=
  ∀ provider subject, s.userBySubject? id provider subject = t.userBySubject? id provider subject

/-- The user can be added: nobody of the organization has the email, and the identifier is new. -/
structure Store.HasRoom (s : Store) (u : User) : Prop where
  email : ∀ w ∈ s.users.rows, ¬ (w.organizationId = u.organizationId ∧ w.email = u.email)
  id : s.users.contains u.id = false

open Transaction

section

variable {R : Store → Store → Prop} {drawn : Moment → Prop} {v : Service} {c : RequestContext}
  {m : Moment} {s t : Store} {r : IntermediateSession} {l : Loaded} {u : User} {id : Uuid}
  {email password : String}

namespace Store

theorem hasRoom_iff : s.HasRoom u ↔
    (s.users.rows.any fun w => w.organizationId == u.organizationId && w.email == u.email) = false ∧
      s.users.contains u.id = false := by
  constructor
  · rintro ⟨email, id⟩
    exact ⟨by simpa using email, id⟩
  · rintro ⟨email, id⟩
    exact ⟨by simpa using email, id⟩

theorem createUser_of_not_hasRoom (full : ¬ s.HasRoom u) :
    s.createUser u = .error (.conflict .user) := by
  rw [hasRoom_iff, not_and_or, Bool.not_eq_false, Bool.not_eq_false] at full
  rw [createUser, if_pos (by rwa [Bool.or_eq_true])]

/-- Where both stores have room for a user or neither has, the user is added to both or refused. -/
theorem createUser_writesAlike (room : s.HasRoom u ↔ t.HasRoom u)
    (added : s.HasRoom u → t.HasRoom u →
      R { s with users := s.users.add u } { t with users := t.users.add u }) :
    WritesAlike R (·.createUser u) s t := by
  by_cases here : s.HasRoom u
  · have there := room.mp here
    exact .inl ⟨_, _, createUser_eq_ok.mpr ⟨here.email, here.id, rfl⟩,
      createUser_eq_ok.mpr ⟨there.email, there.id, rfl⟩, added here there⟩
  · exact .inr ⟨_, createUser_of_not_hasRoom here,
      createUser_of_not_hasRoom fun there => here (room.mpr there)⟩

theorem createSession_writesAlike {x : Session}
    (known : s.sessions.contains x.id = t.sessions.contains x.id)
    (added : s.sessions.contains x.id = false → t.sessions.contains x.id = false →
      R { s with sessions := s.sessions.add x } { t with sessions := t.sessions.add x }) :
    WritesAlike R (·.createSession x) s t := by
  cases here : s.sessions.contains x.id with
  | false =>
      have there := known.symm.trans here
      exact .inl ⟨_, _, createSession_eq_ok.mpr ⟨here, rfl⟩, createSession_eq_ok.mpr ⟨there, rfl⟩,
        added here there⟩
  | true =>
      exact .inr ⟨.conflict .session, by simp [createSession, here],
        by simp [createSession, known.symm.trans here]⟩

end Store

namespace Linking

theorem byEmail_alike (same : s.userByEmail? id email = t.userByEmail? id email) (like : R s t) :
    Alike R (byEmail id email) (byEmail id email) m s t := by
  simp only [byEmail, alike_get_bind, ← same, alike_pure, like, and_self]

theorem forRegistration_alike (same : ∀ email, s.userByEmail? id email = t.userByEmail? id email)
    (like : R s t) : Alike R (forRegistration id r) (forRegistration id r) m s t := by
  refine alike_need_bind.mpr fun email _ => ?_
  refine (byEmail_alike (same email) ⟨rfl, rfl⟩).bind_unchanged fun user _ _ => ?_
  exact alike_ite.mpr ⟨fun _ => alike_deny, fun _ => alike_pure.mpr ⟨rfl, like⟩⟩

theorem uniqueForPassword_alike
    (same : s.passwordLoginCandidates id email = t.passwordLoginCandidates id email)
    (like : R s t) : Alike R (uniqueForPassword id email) (uniqueForPassword id email) m s t := by
  simp only [uniqueForPassword, alike_get_bind, ← same]
  split
  · exact alike_pure.mpr ⟨rfl, like⟩
  · exact alike_fail

theorem forExchange_alike (same : ∀ email, s.userByEmail? id email = t.userByEmail? id email)
    (links : s.LinksAlike t id) (like : R s t) :
    Alike R (forExchange id r) (forExchange id r) m s t := by
  simp only [forExchange, alike_get_bind, ← links _ _]
  split
  · exact alike_pure.mpr ⟨rfl, like⟩
  · exact byEmail_alike (same _) like
  · exact alike_pure.mpr ⟨rfl, like⟩

end Linking

theorem attachIdentityIn_detached : (attachIdentityIn u r).Detached := by
  intro m
  cases attached : attachIdentity m.now u r with
  | error provider =>
      refine .inr ⟨.failedPrecondition (.accountConflict provider), fun s => ?_⟩
      simp [attachIdentityIn, attached]
  | ok u' => exact .inl ⟨u', fun s => attachIdentityIn_commits.mpr ⟨attached, rfl⟩⟩

namespace Store.UserLikeness

/-- The record of an active user of the project is written to both stores. -/
theorem updateUser {u' : User} (likeness : Store.UserLikeness c.projectId drawn R) (like : R s t)
    (stored : s.users.get? u.id = some u) (active : u.isActive = true) (own : s.Owns c.projectId u)
    (same : u.SameIdentity u') : WritesAlike R (·.updateUser u') s t := by
  obtain ⟨there, written⟩ := likeness.withUser like u u' stored active own same
  refine .inl ⟨_, _, Store.updateUser_eq_ok.mpr ⟨?_, rfl⟩, Store.updateUser_eq_ok.mpr ⟨?_, rfl⟩,
    written⟩
  · exact same.id ▸ Table.contains_of_get? stored
  · exact same.id ▸ there

end Store.UserLikeness

/-- A session that was loaded is bound to an organization of the project, if to any. -/
theorem Loaded.Admitted.owned {o : Organization} (admitted : Loaded.Admitted c m.now s l)
    (loaded : l.organization = some o) :
    (s.organization? c.projectId o.id).isSome = true := by
  obtain ⟨_, found⟩ := admitted.organization_eq_some loaded
  rw [found, Option.isSome_some]

variable (likeness : Store.UserLikeness c.projectId drawn R)
include likeness

/-- A password is checked alike, whoever's it is among the active users of the project. -/
theorem CredentialMatcher.matchPassword_alike {k : CredentialMatcher} (like : R s t)
    (stored : s.users.get? u.id = some u) (active : u.isActive = true)
    (own : s.Owns c.projectId u) :
    Alike R (k.matchPassword c.projectId c.actor u password)
      (k.matchPassword c.projectId c.actor u password) m s t := by
  refine alike_read_bind.mpr (alike_need_bind.mpr fun hash _ => ?_)
  refine alike_ite.mpr ⟨fun _ => alike_deny, fun _ => ?_⟩
  refine alike_ofExcept_bind.mpr fun same _ => alike_ite.mpr ⟨fun _ => ?_, fun _ => ?_⟩
  · exact alike_pure.mpr ⟨rfl, like⟩
  refine alike_need_bind.mpr fun w missed => ?_
  have same := CredentialMatcher.miss?_sameIdentity missed
  have written := likeness.updateUser like stored active own same
  refine written.alike.bind fun _ s' t' _ _ like' => ?_
  refine (recordEvent_alike (likeness.logged like' _)).bind fun _ _ _ _ _ like'' => ?_
  exact alike_pure.mpr ⟨rfl, like''⟩

namespace Service

theorem matchAndRehash_alike (like : R s t) (stored : s.users.get? u.id = some u)
    (active : u.isActive = true) (own : s.Owns c.projectId u) :
    Alike R (v.matchAndRehash c u password) (v.matchAndRehash c u password) m s t := by
  refine (CredentialMatcher.matchPassword_alike likeness like stored active own).bind ?_
  rintro _ s' t' here there like'
  rcases CredentialMatcher.matchPassword_commits.mp here with
    ⟨_, rfl, rfl⟩ | ⟨_, _, _, rfl, _⟩
  · obtain ⟨_, _, rfl⟩ | ⟨_, _, _, ended, _⟩ := CredentialMatcher.matchPassword_commits.mp there
    · refine alike_read_bind.mpr (alike_ofExcept_bind.mpr fun hash _ => ?_)
      have same : u.SameIdentity (u.rehashed m.now hash) := User.rehashed_sameIdentity
      have written := likeness.updateUser like' stored active own same
      exact written.alike.bind fun _ _ _ _ _ like'' => alike_pure.mpr ⟨rfl, like''⟩
    · cases (Prod.mk.inj ended).2
  · exact alike_pure.mpr ⟨rfl, like'⟩

theorem checkRegistration_alike (like : R s t) (admitted : Loaded.Admitted c m.now s l) :
    Alike (fun s' t' => s' = s ∧ t' = t) (checkRegistration l) (checkRegistration l) m s t := by
  refine alike_need_bind.mpr fun o loaded => Loaded.requireMethod_detached.alike_bind fun _ _ => ?_
  refine likeness.alike_requireEmailVerified like admitted.stands ?_
  refine alike_ite.mpr ⟨fun _ => alike_deny_bind, fun _ => ?_⟩
  refine (Linking.forRegistration_alike (fun email => ?_) ⟨rfl, rfl⟩).bind_unchanged fun _ _ _ => ?_
  · exact likeness.userByEmail? like _ _ (admitted.owned loaded)
  · exact alike_pure.mpr ⟨rfl, rfl, rfl⟩

theorem registerPasswordRead_alike (like : R s t) :
    Alike R (registerPasswordRead c) (registerPasswordRead c) m s t := by
  refine likeness.alike_load like fun l admitted => ?_
  refine (checkRegistration_alike likeness like admitted).bind_unchanged fun _ _ _ => ?_
  exact alike_pure.mpr ⟨rfl, like⟩

theorem registerPasswordWrite_alike {hash : String} (like : R s t) :
    Alike R (registerPasswordWrite c hash) (registerPasswordWrite c hash) m s t := by
  refine likeness.alike_load like fun l admitted => ?_
  refine (checkRegistration_alike likeness like admitted).bind_unchanged fun _ _ _ => ?_
  exact likeness.alike_persist like admitted.stands rfl rfl

theorem verifyChallenge_alike (like : R s t) (admitted : Loaded.Admitted c m.now s l) :
    Alike R (v.verifyChallenge c l password) (v.verifyChallenge c l password) m s t := by
  refine alike_need_bind.mpr fun o loaded => Loaded.requireMethod_detached.alike_bind fun _ _ => ?_
  refine likeness.alike_requireEmailVerified like admitted.stands ?_
  refine alike_ite.mpr ⟨fun _ => alike_deny_bind, fun _ => ?_⟩
  cases l.session.stagedPasswordHash with
  | some staged =>
      refine alike_ofExcept_bind.mpr fun same _ => alike_ite.mpr ⟨fun _ => ?_, fun _ => alike_fail⟩
      exact alike_pure.mpr ⟨rfl, like⟩
  | none =>
      refine alike_need_bind.mpr fun email _ => ?_
      have same := likeness.userByEmail? like o.id email (admitted.owned loaded)
      refine (Linking.byEmail_alike same ⟨rfl, rfl⟩).bind_unchanged fun user found _ => ?_
      refine alike_need_bind.mpr fun u known => ?_
      obtain ⟨named, _⟩ := Linking.byEmail_commits.mp found
      obtain ⟨stored, of, _, active⟩ := Store.userByEmail?_eq_some (named.symm.trans known)
      refine (matchAndRehash_alike likeness like stored active (admitted.owns loaded of)).bind ?_
      exact fun _ _ _ _ _ like' => alike_pure.mpr ⟨rfl, like'⟩

theorem verifyDirect_alike (like : R s t) (admitted : Loaded.Admitted c m.now s l) :
    Alike R (v.verifyDirect c l email password) (v.verifyDirect c l email password) m s t := by
  refine alike_ite.mpr ⟨fun _ => alike_deny_bind, fun unbound => ?_⟩
  refine Loaded.requireMethod_detached.alike_bind fun _ allowed => ?_
  refine alike_ite.mpr ⟨fun _ => alike_refuse_bind, fun known => ?_⟩
  have same := likeness.passwordLoginCandidates like email
  rw [← admitted.project_id] at same
  refine (Linking.uniqueForPassword_alike same ⟨rfl, rfl⟩).bind_unchanged fun u found _ => ?_
  obtain ⟨candidates, _⟩ := Linking.uniqueForPassword_commits.mp found
  have owner : HashOwner s l (some email) u :=
    .direct (by simpa using unbound) (Loaded.requireMethod_commits.mp allowed).1
      (not_any_ne_iff.mp known) candidates
  obtain ⟨stored, active⟩ := owner.stored
  refine (matchAndRehash_alike likeness like stored active (owner.owns admitted)).bind ?_
  exact fun _ _ _ _ _ like' => alike_pure.mpr ⟨rfl, like'⟩

theorem verifyPasswordBody_alike {email : Option String} (like : R s t) :
    Alike R (v.verifyPasswordBody c email password) (v.verifyPasswordBody c email password)
      m s t := by
  refine likeness.alike_load like fun l admitted => ?_
  cases email with
  | none =>
      refine (verifyChallenge_alike likeness like admitted).bind ?_
      intro checked s' t' here _ like'
      rcases verifyChallenge_commits here with ⟨o, rfl, _, proved⟩ | ⟨_, _, _, _, _, _, rfl, rfl⟩
      · have stands : l.Stands c s' := by
          rcases proved with ⟨_, _, _, _, rfl⟩ | ⟨_, _, _, _, _, rfl⟩
          · exact admitted.stands
          · exact admitted.stands.of_eq rfl
        exact likeness.alike_persist like' stands IntermediateSession.fixPrimaryAuthFactor_id
          IntermediateSession.fixPrimaryAuthFactor_projectId
      · exact alike_pure.mpr ⟨rfl, like'⟩
  | some email =>
      refine (verifyDirect_alike likeness like admitted).bind ?_
      intro checked s' t' here _ like'
      rcases verifyDirect_commits here with
        ⟨_, _, _, _, _, rfl, rfl⟩ | ⟨_, _, _, _, _, _, rfl, rfl⟩
      · exact likeness.alike_persist like' (admitted.stands.of_eq rfl)
          IntermediateSession.fixPrimaryAuthFactor_id
          IntermediateSession.fixPrimaryAuthFactor_projectId
      · exact alike_pure.mpr ⟨rfl, like'⟩

end Service

/-- The user that a session stands for is found on both stores, or created on both. -/
theorem resolveUser_alike (moment : drawn m) (like : R s t)
    (owned : (s.organization? c.projectId id).isSome = true) (links : s.LinksAlike t id) :
    Alike R (resolveUser id r) (resolveUser id r) m s t := by
  have same := fun email => likeness.userByEmail? like id email owned
  refine (Linking.forExchange_alike same links ⟨rfl, rfl⟩).bind_unchanged fun found here _ => ?_
  obtain ⟨rfl, _⟩ := Linking.forExchange_commits.mp here
  cases resolved : s.userForExchange? id r with
  | some u =>
      obtain ⟨stored, of, active⟩ := Store.userForExchange?_eq_some resolved
      have own : s.Owns c.projectId u := by rwa [Store.Owns, of]
      refine attachIdentityIn_detached.alike_bind fun u' attached => ?_
      obtain ⟨identity, _⟩ := attachIdentity_sameIdentity (attachIdentityIn_commits.mp attached).1
      have written := likeness.updateUser like stored active own identity
      exact written.alike.bind fun _ _ _ _ _ like' => alike_pure.mpr ⟨rfl, like'⟩
  | none =>
      refine alike_need_bind.mpr fun email _ => alike_read_bind.mpr ?_
      refine attachIdentityIn_detached.alike_bind fun u attached => ?_
      obtain ⟨identity, _⟩ := attachIdentity_sameIdentity (attachIdentityIn_commits.mp attached).1
      have own : s.Owns c.projectId u := by rwa [Store.Owns, identity.organizationId]
      have written := likeness.createUser like moment u identity.id own
      exact written.alike.bind fun _ _ _ _ _ like' => alike_pure.mpr ⟨rfl, like'⟩

theorem issueSession_alike {actor : Audit.Actor} {created : Bool} {lifetime : Span}
    (moment : drawn m) (like : R s t) (stored : s.users.get? u.id = some u)
    (active : u.isActive = true) (own : s.Owns c.projectId u) :
    Alike R (issueSession actor r u created lifetime) (issueSession actor r u created lifetime)
      m s t := by
  refine alike_need_bind.mpr fun factor _ => alike_read_bind.mpr ?_
  refine alike_reach_bind.mpr fun expire _ => ?_
  have written := likeness.createSession like moment
    (.new m.sessionId m.now u.id m.secret.digest factor expire) u rfl rfl stored active own
  refine written.alike.bind fun _ s' t' _ _ like' => ?_
  refine (recordEvent_alike (likeness.logged like' _)).bind fun _ _ _ _ _ like'' => ?_
  exact alike_pure.mpr ⟨rfl, like''⟩

namespace Service

/-- An exchange goes alike where the accounts of the session are linked to the same users. -/
theorem exchangeBody_alike (moment : drawn m) (like : R s t)
    (links : ∀ id, (s.organization? c.projectId id).isSome = true → s.LinksAlike t id) :
    Alike R (v.exchangeBody c) (v.exchangeBody c) m s t := by
  refine likeness.alike_load like fun l admitted => ?_
  refine alike_need_bind.mpr fun o loaded => alike_need_bind.mpr fun factor _ => ?_
  refine Loaded.requireMethod_detached.alike_bind fun _ _ => ?_
  refine likeness.alike_requireEmailVerified like admitted.stands ?_
  refine alike_ite.mpr ⟨fun _ => alike_deny_bind, fun _ => ?_⟩
  refine alike_ite.mpr ⟨fun _ => alike_deny_bind, fun _ => ?_⟩
  have owned := admitted.owned loaded
  refine (resolveUser_alike likeness moment like owned (links _ owned)).bind ?_
  rintro ⟨u, created⟩ s₁ t₁ here _ like₁
  have resolves := resolveUser_commits here
  have own := admitted.owns loaded resolves.organizationId
  obtain ⟨stored, active⟩ := resolves.stored
  obtain ⟨users, rfl⟩ := resolves.written
  have stands : l.Stands c { s with users := users } := admitted.stands.of_eq rfl
  have written := likeness.updateIntermediateSession like₁ stands
    (r := { l.session with exchangeTime := some m.now }) rfl rfl
  refine alike_now_bind.mpr (written.alike.bind fun _ s₂ t₂ wrote _ like₂ => ?_)
  obtain ⟨_, rfl⟩ := Store.updateIntermediateSession_eq_ok.mp (commits_write.mp wrote)
  refine (issueSession_alike likeness moment like₂ stored active own).bind ?_
  exact fun _ _ _ _ _ like₃ => alike_pure.mpr ⟨rfl, like₃⟩

omit likeness in
/-- An access token is issued alike where the session of its refresh token is the same, and so is
the owner, if it is active. -/
theorem accessTokenBody_alike {issuer : TokenIssuer} {token : String} (like : R s t)
    (found : ∀ digest, SecretTokenKind.sessionRefreshToken.digest? token = some digest →
      s.sessionByRefreshDigest? digest = t.sessionByRefreshDigest? digest ∧
        ∀ x, s.sessionByRefreshDigest? digest = some x →
          (s.user? x.userId).filter User.isActive = (t.user? x.userId).filter User.isActive) :
    Alike R (accessTokenBody issuer token) (accessTokenBody issuer token) m s t := by
  have owner : Alike R (refreshOwner token) (refreshOwner token) m s t := by
    refine alike_need_bind.mpr fun digest presented => ?_
    obtain ⟨sessions, owners⟩ := found digest presented
    simp only [alike_get_bind, alike_now_bind, ← sessions, alike_need_bind]
    intro session live
    obtain ⟨listed, _⟩ := Option.filter_eq_some_iff.mp live
    rw [← owners session listed]
    exact alike_need_bind.mpr fun _ _ => alike_pure.mpr ⟨rfl, like⟩
  have claims : Alike R (refreshedClaims issuer token) (refreshedClaims issuer token) m s t :=
    owner.bind fun _ _ _ _ _ like' => alike_read_bind.mpr
      (alike_reach_bind.mpr fun _ _ => alike_pure.mpr ⟨rfl, like'⟩)
  refine claims.bind fun claims _ _ _ _ like' => ?_
  cases issuer.encode claims with
  | error e => exact alike_fail
  | ok token => exact alike_pure.mpr ⟨rfl, like'⟩

/-- A login goes alike: whatever it asks, reads, writes and answers. -/
theorem perform_alike (salt : List UInt8) (request : LoginRequest) :
    (v.perform c salt request).Alike drawn R := by
  cases userless : request.looksUpUsers with
  | false => exact perform_alike_of_userless likeness.toLikeness salt userless
  | true =>
      cases request with
      | registerPassword password =>
          refine Operation.Alike.map ?_
          unfold registerPassword
          dsimp only
          split
          · trivial
          split
          · trivial
          exact .twoPhase (fun _ _ _ _ => registerPasswordRead_alike likeness)
            fun _ _ _ _ _ _ => registerPasswordWrite_alike likeness
      | verifyPassword email password =>
          refine Operation.Alike.map ?_
          exact ⟨fun _ _ _ _ => verifyPasswordBody_alike likeness, fun _ _ _ _ _ _ => trivial⟩
      | _ => cases userless

/-- After its first commit an exchange goes alike, too: it presents the refresh token of a secret
that was drawn. -/
theorem exchange_alike_onward {s' : Store} {result : IssuedSession × User × Bool}
    (moment : drawn m) (committed : (v.exchangeBody c).Commits m s result s') :
    (Operation.transact (accessTokenBody v.issuer result.1.refreshToken) fun token =>
      Operation.finish (.ok (Answer.exchanged
        ⟨result.1.session, result.2.1, result.2.2, result.1.refreshToken, token⟩)) :
          ServiceOperation Answer).Alike drawn R := by
  obtain ⟨_, _, _, _, _, _, _, _, _, _, _, _, _, rfl, _⟩ := exchangeBody_exchanged committed
  refine ⟨fun _ s t _ like => accessTokenBody_alike like fun digest presented => ?_,
    fun _ _ _ _ _ _ => trivial⟩
  cases Secret.digest?_token.symm.trans presented
  exact ⟨likeness.sessionByRefreshDigest? like moment, fun _ => likeness.sessionOwner like moment⟩

/-- Every request on a session goes alike, an exchange if accounts are linked alike as long as the
stores are alike. -/
theorem serve_alike {call : Call} (onSession : call.onSession = true)
    (links : call = .exchange → ∀ s t, R s t → ∀ id,
      (s.organization? c.projectId id).isSome = true → s.LinksAlike t id) :
    (v.serve c call).Alike drawn R := by
  cases call with
  | login salt request => exact (perform_alike likeness salt request).map
  | exchange =>
      exact ⟨fun m s t moment like => exchangeBody_alike likeness moment like (links rfl s t like),
        fun _ _ _ _ => exchange_alike_onward likeness⟩
  | accessToken => cases onSession

end Service

end

end Vestibule
