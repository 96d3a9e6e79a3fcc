import Vestibule.Proofs.AuditOnce
import Vestibule.Proofs.Continuity
import Vestibule.Proofs.Ending
import Vestibule.Proofs.Refusal
import Vestibule.Proofs.Secret

/-! What an exchange that failed leaves behind. Where its first transaction fails it has written
nothing. Once that is committed only the access token may be refused, and only because the new
session's lifetime has run out, its refresh token is not the only one of its digest, or the key
cannot sign; or the work breaks off, because the token would outlast the calendar. -/

namespace Vestibule

/-- Why there is no access token for a session that was just created: it is refused for one of three
reasons, or the work breaks off. -/
inductive TokenRefused (v : Service) (m : Moment) (s : Store) (issued : Session) :
    RequestError → Prop where
  | lapsed (ended : ¬ m.now < issued.expireTime) :
      TokenRefused v m s issued (.unauthenticated .refreshToken)
  | shadowed {other : Session} (listed : other ∈ s.sessions.rows) (apart : other.id ≠ issued.id)
      (same : other.refreshTokenSha256 = issued.refreshTokenSha256) :
      TokenRefused v m s issued (.unauthenticated .refreshToken)
  | unsigned {message : List UInt8}
      (asymmetric : v.issuer.config.algorithm = .rs256 ∨ v.issuer.config.algorithm = .es256)
      (unsigned : v.issuer.config.algorithm.sign? v.issuer.keys message = none) :
      TokenRefused v m s issued (.internal .encodeToken)
  | endless (endless : m.now.add? v.issuer.config.lifetime = none) :
      TokenRefused v m s issued .brokenOff

/-- What the turns of an exchange did that failed for this reason. -/
inductive FailedExchange (v : Service) (c : RequestContext) : List Entry → RequestError → Prop where
  | unchanged {x : Entry} {m : Moment} {s : Store} {reason : RequestError}
      (deed : x.deed = .failed m s reason) : FailedExchange v c [x] reason
  | unminted {x y : Entry} {m m' : Moment} {s s' later : Store} {issued : IssuedSession} {u : User}
      {created : Bool} {reason : RequestError} (deed : x.deed = .committed m s s')
      (exchanged : v.Exchanged c m s s' (issued, u, created))
      (failed : y.deed = .failed m' later reason)
      (refused : TokenRefused v m' later issued.session reason) : FailedExchange v c [x, y] reason

section

open Transaction

variable {v : Service} {m : Moment} {s : Store} {e : RequestError} {token : String}
  {digest : List UInt8} {w : Session}

theorem Service.refreshOwner_fails
    (presented : SecretTokenKind.sessionRefreshToken.digest? token = some digest)
    (found : s.sessionByRefreshDigest? digest = some w)
    (failed : (refreshOwner token).Fails m s e) : e = .unauthenticated .refreshToken ∧
      (w.isLive m.now = false ∨ ∀ u, s.users.get? w.userId = some u → u.isActive = false) := by
  simp only [refreshOwner, fails_bind, fails_need, fails_get, fails_now, fails_pure, commits_need,
    commits_get, commits_now, presented, found, reduceCtorEq, false_and, false_or, or_false,
    and_assoc, exists_and_left, exists_eq_left, Option.some.injEq, and_false, exists_false,
    exists_eq_left', Option.filter_eq_none_iff, Option.filter_eq_some_iff, Store.user?,
    Bool.not_eq_true] at failed
  rcases failed with ⟨dead, rfl⟩ | ⟨_, inactive, rfl⟩
  · exact ⟨rfl, .inl (dead w rfl)⟩
  · exact ⟨rfl, .inr inactive⟩

/-- An access token is refused with its refresh token, or it would outlast the calendar, or it
cannot be signed. -/
theorem Service.accessTokenBody_fails {t : TokenIssuer}
    (presented : SecretTokenKind.sessionRefreshToken.digest? token = some digest)
    (found : s.sessionByRefreshDigest? digest = some w)
    (failed : (accessTokenBody t token).Fails m s e) :
    (e = .unauthenticated .refreshToken ∧
      (w.isLive m.now = false ∨ ∀ u, s.users.get? w.userId = some u → u.isActive = false)) ∨
    (m.now.add? t.config.lifetime = none ∧ e = .brokenOff) ∨
    ∃ claims, t.encode claims = .error e := by
  simp only [accessTokenBody, refreshedClaims, fails_bind, fails_read, fails_reach, fails_pure,
    fails_ofExcept, and_false, exists_false, false_or, or_false] at failed
  rcases failed with (refused | ⟨_, _, _, _, _, _, endless, rfl⟩) | ⟨claims, _, _, unsigned⟩
  · exact .inl (refreshOwner_fails presented found refused)
  · exact .inr (.inl ⟨endless, rfl⟩)
  · exact .inr (.inr ⟨claims, unsigned⟩)

end

variable {v : Service} {m : Moment} {s s' : Store} {u : User} {c : RequestContext}
  {first sys : System} {past : List Entry}

/-- The user that an exchange is for is stored with what it learned, and active. -/
theorem Resolves.stored {written : Store} {organizationId : Uuid} {r : IntermediateSession}
    {created : Bool} (resolves : Resolves m s organizationId r u created written) :
    written.users.get? u.id = some u ∧ u.isActive = true := by
  cases resolves with
  | found found attached =>
      obtain ⟨stored, _, active⟩ := Store.userForExchange?_eq_some found
      have same := (attachIdentity_sameIdentity attached).1
      rw [← same.id] at stored
      refine ⟨Table.get?_replace_self stored, ?_⟩
      rw [User.isActive, same.deactivateTime]
      exact active
  | created _ _ attached unique fresh =>
      have same := (attachIdentity_sameIdentity attached).1
      refine ⟨?_, by rw [User.isActive, same.deactivateTime]; rfl⟩
      apply Table.get?_of_mem
      rw [Table.rows_add fresh]
      exact List.mem_append_right _ (List.mem_singleton_self u)

/-- An exchange that is committed leaves its session and the active user it is for in the store. -/
theorem Service.Exchanged.leaves {issued : IssuedSession} {created : Bool}
    (exchanged : v.Exchanged c m s s' (issued, u, created)) :
    issued.session ∈ s'.sessions.rows ∧ s'.users.get? u.id = some u ∧ u.isActive = true ∧
      issued.session.userId = u.id ∧ issued.session.revoked = false ∧
        SecretTokenKind.sessionRefreshToken.digest? issued.refreshToken =
          some issued.session.refreshTokenSha256 := by
  obtain ⟨l, o, factor, w, _, written, expire, admitted, _, resolves, _, fresh, _, same, rfl⟩ :=
    exchanged
  cases same
  obtain ⟨stored, active⟩ := resolves.stored
  obtain ⟨users, rfl⟩ := resolves.written
  refine ⟨?_, stored, active, rfl, rfl, Secret.digest?_token⟩
  change _ ∈ (s.sessions.add _).rows
  rw [Table.rows_add fresh]
  exact List.mem_append_right _ (List.mem_singleton_self _)

/-- Sessions stay in the store. -/
theorem Run.session_stays {issued : Session} (run : Run TenantChange v first past sys)
    (sound : first.Sound v) (listed : issued ∈ first.store.sessions.rows) :
    issued ∈ sys.store.sessions.rows := by
  refine run.invariant sound (P := fun _ s => issued ∈ s.sessions.rows) listed ?_ ?_
  · rintro past s x s' listed (⟨m, _, wrote⟩ | ⟨rfl, _⟩)
    · obtain ⟨added, rows, _⟩ := wrote.sessions
      rw [rows]
      exact List.mem_append_left _ listed
    · exact listed
  · intro past s s' listed changed
    rwa [changed.sessions]

/-- Where the session and its user are still stored, there is no token for one of these reasons. -/
theorem TokenRefused.of_fails {token : String} {issued : Session} {e : RequestError}
    (presented : SecretTokenKind.sessionRefreshToken.digest? token =
      some issued.refreshTokenSha256)
    (listed : issued ∈ s.sessions.rows) (valid : issued.revoked = false)
    (stored : s.users.get? issued.userId = some u) (active : u.isActive = true)
    (failed : (Service.accessTokenBody v.issuer token).Fails m s e) :
    TokenRefused v m s issued e := by
  have present : (s.sessionByRefreshDigest? issued.refreshTokenSha256).isSome = true := by
    rw [Store.sessionByRefreshDigest?, List.find?_isSome]
    exact ⟨issued, listed, by simp⟩
  obtain ⟨w, found⟩ := Option.isSome_iff_exists.mp present
  have member := List.mem_of_find?_eq_some found
  have digest : w.refreshTokenSha256 = issued.refreshTokenSha256 := by
    simpa using List.find?_some found
  rcases Service.accessTokenBody_fails presented found failed with
    ⟨rfl, refused⟩ | ⟨endless, rfl⟩ | ⟨claims, unsigned⟩
  · by_cases own : w.id = issued.id
    · have same : w = issued := by
        have here := Table.get?_of_mem member
        rw [own, Table.get?_of_mem listed] at here
        exact (Option.some.inj here).symm
      subst same
      rcases refused with dead | inactive
      · exact .lapsed (by simpa [Session.isLive, valid] using dead)
      · exact absurd (active.symm.trans (inactive u stored)) (by decide)
    · exact .shadowed member own digest
  · exact .endless endless
  · obtain ⟨rfl, asymmetric, message, unsigned⟩ := TokenIssuer.encode_eq_error unsigned
    exact .unsigned asymmetric unsigned

/-- An exchange that failed has written nothing, or it was committed as a whole and only the access
token was refused, for one of three reasons that the commit cannot rule out, or the work broke off
at a token that would outlast the calendar. -/
theorem Run.failed_exchange {start : Store} {i : Nat} {f : Flight} {reason : RequestError}
    (run : Run TenantChange v { store := start } past sys) (flying : sys.flights[i]? = some f)
    (asked : f.call = .exchange) (failed : f.rest.failure? = some reason) :
    FailedExchange v f.context (past.filter (·.flight == i)) reason := by
  have leads := run.leads i f flying
  rw [asked, Operation.failure?_eq_some.mp failed] at leads
  generalize turns : past.filter (·.flight == i) = mine at leads ⊢
  rcases leads.of_transact with ⟨x, m, s, e, rfl, deed, _, ended⟩ |
    ⟨x, later, m, s, ⟨issued, u, created⟩, s', rfl, deed, _, committed, onward⟩
  · cases ended
    exact .unchanged deed
  rcases onward.of_transact with ⟨y, m', s'', e, rfl, deed', ran, ended⟩ |
    ⟨y, last, m', s'', token, _, rfl, _, _, _, onward⟩
  · cases ended
    have exchanged : v.Exchanged f.context m s s' (issued, u, created) :=
      Service.exchangeBody_exchanged committed
    refine .unminted deed exchanged deed' ?_
    obtain ⟨earlier, between, rfl, _, _, rest⟩ := List.filter_eq_cons_iff.mp turns
    obtain ⟨meanwhile, after, rfl, _, _, _⟩ := List.filter_eq_cons_iff.mp rest
    obtain ⟨sys₁, sys₂, t₁, i₁, begun, took, onward⟩ := run.split
    obtain ⟨sys₃, sys₄, t₂, i₂, waited, took', _⟩ := onward.split
    obtain ⟨sound, did⟩ := (begun.sound System.sound_idle).turn took
    obtain ⟨_, rfl, _⟩ := did.wrote deed
    obtain ⟨rfl, _⟩ := System.turn?_failed took' deed'
    obtain ⟨listed, stored, active, owner, valid, presented⟩ := exchanged.leaves
    obtain ⟨u', stored', same⟩ := waited.user_stays sound stored
    rw [← owner] at stored'
    refine TokenRefused.of_fails presented (waited.session_stays sound listed) valid stored' ?_ ran
    rw [User.isActive, same.deactivateTime]
    exact active
  · cases onward.of_finish.2

namespace Deployment

/-- The service with sessions that are over as soon as they begin. -/
def instantly : Service := { service with config := { sessionSeconds := 0 } }

/-- A login with a password, and the exchange. -/
def exchangedInVain : List Entry × System :=
  System.play instantly
    [.arrive context (.login [] (.verifyPassword (some user.email) "correct horse")),
      turn none 0 0, .arrive context .exchange, turn none 1 1, turn none 2 1]
    { store := store (only user) none }

theorem exchangedInVain_run : Run TenantChange instantly { store := store (only user) none }
    exchangedInVain.1 exchangedInVain.2 := System.run_play _ _

theorem exchangedInVain_flight : ∃ f, exchangedInVain.2.flights[1]? = some f ∧
    f.context = context ∧ f.call = .exchange ∧
      f.rest.failure? = some (.unauthenticated .refreshToken) := by
  have ended : exchangedInVain.2.flights[1]?.map (fun f => (f.context, f.call, f.rest.failure?)) =
      some (context, .exchange, some (.unauthenticated .refreshToken)) := by
    decide +kernel
  obtain ⟨f, flying, fact⟩ := Option.map_eq_some_iff.mp ended
  simp only [Prod.mk.injEq] at fact
  exact ⟨f, flying, fact⟩

end Deployment

theorem Run.failed_exchange_of_instant :
    FailedExchange Deployment.instantly Deployment.context
      (Deployment.exchangedInVain.1.filter (·.flight == 1)) (.unauthenticated .refreshToken) ∧
    (Deployment.exchangedInVain.1.filter (·.flight == 1)).length = 2 := by
  obtain ⟨f, flying, context, asked, failed⟩ := Deployment.exchangedInVain_flight
  exact ⟨context ▸ Run.failed_exchange Deployment.exchangedInVain_run flying asked failed,
    by decide +kernel⟩

/-- Without the second case it fails: where sessions are over as soon as they begin, an exchange
fails after it was committed. -/
theorem Run.failed_exchange_persisted :
    ¬ ∀ (v : Service) (start : Store) (past : List Entry) (sys : System) (i : Nat) (f : Flight)
      (reason : RequestError), Run TenantChange v { store := start } past sys →
        sys.flights[i]? = some f → f.call = .exchange → f.rest.failure? = some reason →
          ∀ x ∈ past.filter (·.flight == i), x.deed.Unchanged := by
  intro claim
  obtain ⟨f, flying, _, asked, failed⟩ := Deployment.exchangedInVain_flight
  have unchanged := claim _ _ _ _ 1 f _ Deployment.exchangedInVain_run flying asked failed
  have created : (Deployment.exchangedInVain.1.filter (·.flight == 1)).map
      (fun x => x.sessions.length) = [1, 0] := by
    decide +kernel
  obtain ⟨x, rest, turns, first, _⟩ := List.map_eq_cons_iff.mp created
  have same := unchanged x (turns ▸ List.mem_cons_self)
  cases deed : x.deed with
  | committed m before after =>
      rw [deed, Deed.unchanged_committed] at same
      simp [Entry.sessions, deed, same] at first
  | failed | answered | overdue | passed => simp [Entry.sessions, deed] at first

end Vestibule
