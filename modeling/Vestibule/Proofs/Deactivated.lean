import Vestibule.Proofs.MatchedUser
import Vestibule.Proofs.UserLikeness

/-! Users who are deactivated. A turn of a request goes the same whatever the record of such a user
holds, and leaves it as it is. -/

namespace Vestibule

theorem Store.countEmail_withUser {s : Store} {u : User} {p : Uuid} {date : Date} :
    (s.withUser u).countEmail p date = (s.countEmail p date).withUser u := by
  by_cases counted : s.emailUsage.any fun x => x.projectId == p && x.date == date
  · simp only [countEmail, withUser, counted, if_true]
  · simp only [countEmail, withUser, counted, Bool.false_eq_true, if_false]

theorem Store.recordVerifiedEmail_withUser {s : Store} {u : User} {e : VerifiedEmail} :
    (s.withUser u).recordVerifiedEmail e = (s.recordVerifiedEmail e).withUser u := by
  by_cases known : s.verifiedEmails.any (·.sameClaim e)
  · simp only [recordVerifiedEmail, withUser, known, if_true]
  · simp only [recordVerifiedEmail, withUser, known, Bool.false_eq_true, if_false]

/-- The stores hold the same, but that one has the record `u` of a deactivated user where the other
has `u'`. The sessions of the user are these. -/
structure Store.Swapped (u u' : User) (issued : List Session) (s t : Store) : Prop where
  same : u.SameIdentity u'
  inactive : u.isActive = false
  stored : s.users.get? u.id = some u
  swapped : t = s.withUser u'
  sessions : s.sessions.rows.filter (·.userId == u.id) = issued

namespace Store.Swapped

variable {u u' w w' : User} {issued : List Session} {s t : Store} {p id : Uuid} {email : String}
  {q : User → Bool}

theorem place (like : Swapped u u' issued s t) : s.users.get? u'.id = some u :=
  like.same.id ▸ like.stored

theorem inactive' (like : Swapped u u' issued s t) : u'.isActive = false := by
  rw [User.isActive, like.same.deactivateTime]
  exact like.inactive

/-- Active users are found alike. -/
theorem find? (like : Swapped u u' issued s t) (active : ∀ w, q w = true → w.isActive = true) :
    s.users.rows.find? q = t.users.rows.find? q := by
  have blind : ∀ w : User, w.isActive = false → q w = false := by
    intro w idle
    by_contra found
    rw [active w (by simpa using found)] at idle
    cases idle
  rw [like.swapped]
  exact (Table.find?_replace like.place (blind u like.inactive) (blind u' like.inactive')).symm

theorem userByEmail? (like : Swapped u u' issued s t) :
    s.userByEmail? id email = t.userByEmail? id email :=
  like.find? fun w chosen => by
    simp only [Bool.and_eq_true] at chosen
    exact chosen.2

theorem linksAlike (like : Swapped u u' issued s t) : s.LinksAlike t id := fun _ _ =>
  like.find? fun w chosen => by
    simp only [Bool.and_eq_true] at chosen
    exact chosen.1.2

theorem passwordLoginCandidates (like : Swapped u u' issued s t) :
    s.passwordLoginCandidates p email = t.passwordLoginCandidates p email := by
  rw [like.swapped]
  have rows := Table.filter_replace (q := fun w => w.email == email && w.isActive &&
    w.passwordHash.isSome && s.allowsPasswordLogin p w.organizationId) like.place
    (by simp [like.inactive]) (by simp [like.inactive'])
  exact congrArg (List.mergeSort · _) rows.symm

theorem owner (like : Swapped u u' issued s t) :
    (s.user? id).filter User.isActive = (t.user? id).filter User.isActive := by
  rw [like.swapped, Store.user?, Store.user?, Store.withUser, Table.get?_replace]
  split
  · rename_i own
    rw [← own, like.place]
    simp [Option.filter, like.inactive, like.inactive']
  · rfl

/-- An active user is somebody else. -/
theorem apart (like : Swapped u u' issued s t) (stored : s.users.get? w.id = some w)
    (active : w.isActive = true) : w.id ≠ u.id := by
  intro own
  rw [own, like.stored] at stored
  cases stored
  rw [like.inactive] at active
  cases active

/-- What is written besides users and sessions is written to both. -/
theorem imp {s' t' : Store} (like : Swapped u u' issued s t) (users : s'.users = s.users)
    (sessions : s'.sessions = s.sessions) (swapped : t' = s'.withUser u') :
    Swapped u u' issued s' t' :=
  { like with
    stored := users ▸ like.stored
    swapped := swapped
    sessions := sessions ▸ like.sessions }

theorem createUser (like : Swapped u u' issued s t) :
    Transaction.WritesAlike (Swapped u u' issued) (·.createUser w) s t := by
  have named : (t.users.rows.any fun x => x.organizationId == w.organizationId &&
      x.email == w.email) = s.users.rows.any fun x => x.organizationId == w.organizationId &&
        x.email == w.email := by
    rw [like.swapped]
    exact Table.any_replace like.place (by rw [like.same.organizationId, like.same.email])
  have known : t.users.contains w.id = s.users.contains w.id := by
    rw [like.swapped]
    exact Table.contains_replace
  refine Store.createUser_writesAlike (by rw [Store.hasRoom_iff, Store.hasRoom_iff, named, known])
    fun room _ => { like with stored := ?_, swapped := ?_ }
  · exact Table.get?_add_of_some like.stored room.id
  · have apart : w.id ≠ u'.id := by
      intro own
      have absent := room.id
      rw [own, Table.contains_of_get? like.place] at absent
      cases absent
    rw [like.swapped]
    exact congrArg (fun users => { s with users := users }) (Table.add_replace room.id apart).symm

/-- A session is created for somebody else. -/
theorem createSession {x : Session} (like : Swapped u u' issued s t)
    (stored : s.users.get? x.userId = some w) (active : w.isActive = true) :
    Transaction.WritesAlike (Swapped u u' issued) (·.createSession x) s t := by
  have own : w.id = x.userId := Table.key_of_get? stored
  have apart : x.userId ≠ u.id := own ▸ like.apart (own ▸ stored) active
  have known : t.sessions = s.sessions := by
    rw [like.swapped]
    rfl
  refine Store.createSession_writesAlike (by rw [known])
    fun fresh _ => { like with swapped := ?_, sessions := ?_ }
  · rw [like.swapped]
    rfl
  · rw [Table.rows_add fresh, List.filter_append, like.sessions]
    simp [apart]

theorem withUser (like : Swapped u u' issued s t) (stored : s.users.get? w.id = some w)
    (active : w.isActive = true) (same : w.SameIdentity w') :
    Swapped u u' issued (s.withUser w') (t.withUser w') := by
  have apart : w'.id ≠ u.id := same.id ▸ like.apart stored active
  refine { like with stored := ?_, swapped := ?_ }
  · exact (Table.get?_replace_of_ne apart).trans like.stored
  · rw [like.swapped]
    have commute : (s.users.replace u').replace w' = (s.users.replace w').replace u' :=
      Table.replace_comm (by rw [like.same.id]; exact apart.symm)
    exact congrArg (fun users => { s with users := users }) commute

/-- No request sees which of the records there is. -/
theorem userLikeness {drawn : Moment → Prop} :
    Store.UserLikeness p drawn (Swapped u u' issued) where
  project? like := by rw [like.swapped]; rfl
  organization? like _ := by rw [like.swapped]; rfl
  samlConnection? like _ := by rw [like.swapped]; rfl
  oidcConnection? like _ := by rw [like.swapped]; rfl
  intermediateSession? like _ := by rw [like.swapped]; rfl
  isEmailVerifiedByProvider like _ _ _ := by rw [like.swapped]; rfl
  emailUsageOn like _ := by rw [like.swapped]; rfl
  countEmail like _ := like.imp (by rw [Store.countEmail_eq]) (by rw [Store.countEmail_eq])
    (by rw [like.swapped, Store.countEmail_withUser])
  recordVerifiedEmail like _ _ := like.imp (by rw [Store.recordVerifiedEmail_eq])
    (by rw [Store.recordVerifiedEmail_eq])
    (by rw [like.swapped, Store.recordVerifiedEmail_withUser])
  withIntermediateSession like _ _ _ _ := like.imp rfl rfl (by rw [like.swapped]; rfl)
  logged like _ := like.imp rfl rfl (by rw [like.swapped]; rfl)
  userByEmail? like _ _ _ := like.userByEmail?
  passwordLoginCandidates like _ := like.passwordLoginCandidates
  withUser like w w' stored active _ same := by
    refine ⟨?_, like.withUser stored active same⟩
    rw [like.swapped]
    exact Table.contains_replace.trans (Table.contains_of_get? stored)
  createUser like _ _ _ _ := like.createUser
  createSession like _ _ _ _ _ stored active _ := like.createSession stored active
  sessionByRefreshDigest? like _ := by rw [like.swapped]; rfl
  sessionOwner like _ _ := like.owner

end Store.Swapped

section

open Transaction

variable {m : Moment} {s s' : Store} {issuer : TokenIssuer} {refreshToken token : String}
  {digest : List UInt8} {x : Session}

/-- A refresh token is that of a session that is live and whose user is active. -/
theorem Service.refreshOwner_commits {u : User} :
    (refreshOwner refreshToken).Commits m s (x, u) s' ↔
      (∃ digest, SecretTokenKind.sessionRefreshToken.digest? refreshToken = some digest ∧
        s.sessionByRefreshDigest? digest = some x) ∧ x.isLive m.now = true ∧
        s.users.get? x.userId = some u ∧ u.isActive = true ∧ s' = s := by
  simp only [refreshOwner, commits_bind, commits_need, commits_get, commits_now, commits_pure,
    and_assoc, exists_and_left, exists_eq_left, Option.filter_eq_some_iff, Store.user?,
    Prod.mk.injEq]
  constructor
  · rintro ⟨digest, presented, x, found, live, u, stored, active, rfl, rfl, rfl⟩
    exact ⟨⟨digest, presented, found⟩, live, stored, active, rfl⟩
  · rintro ⟨⟨digest, presented, found⟩, live, stored, active, rfl⟩
    exact ⟨digest, presented, x, found, live, u, stored, active, rfl, rfl, rfl⟩

/-- An access token is for an active user. -/
theorem Service.accessTokenBody_commits
    (committed : (accessTokenBody issuer refreshToken).Commits m s token s') :
    ∃ x u claims, s.users.get? u.id = some u ∧ u.isActive = true ∧ x.userId = u.id ∧
      issuer.claims? m x u = some claims ∧ issuer.encode claims = .ok token := by
  obtain ⟨claims, s₁, claimed, encoded⟩ := commits_bind.mp committed
  obtain ⟨x, u, owner, stated⟩ := refreshedClaims_commits.mp claimed
  obtain ⟨_, _, stored, active, _⟩ := refreshOwner_commits.mp owner
  have own : u.id = x.userId := Table.key_of_get? stored
  exact ⟨x, u, claims, own ▸ stored, active, own.symm, stated, (commits_ofExcept.mp encoded).1⟩

/-- The refresh token of somebody who is not active is refused. -/
theorem Service.accessTokenBody_refused
    (presented : SecretTokenKind.sessionRefreshToken.digest? refreshToken = some digest)
    (found : s.sessionByRefreshDigest? digest = some x)
    (idle : ∀ u, s.users.get? x.userId = some u → u.isActive = false) :
    (accessTokenBody issuer refreshToken).Fails m s (.unauthenticated .refreshToken) := by
  have owner : (refreshOwner refreshToken).Fails m s (.unauthenticated .refreshToken) := by
    have inactive : (s.user? x.userId).filter User.isActive = none := by
      rw [Option.filter_eq_none_iff]
      exact fun u stored => by simp [idle u stored]
    simp only [refreshOwner, fails_bind, fails_need, fails_get, fails_now, fails_pure,
      commits_need, commits_get, commits_now, presented, and_assoc, exists_and_left, exists_eq_left]
    refine .inr ⟨digest, rfl, .inr (.inr ?_)⟩
    rw [found]
    cases live : x.isLive m.now with
    | false => exact .inl ⟨by simp [Option.filter, live], trivial⟩
    | true => exact .inr ⟨x, by simp [Option.filter, live], .inl ⟨inactive, trivial⟩⟩
  exact fails_bind.mpr (.inl (fails_bind.mpr (.inl owner)))

end

variable {others : Store → Store → Prop} {v : Service} {c : RequestContext} {start : Store}
  {sys sys' : System} {past : List Entry} {x : Entry} {u u' : User} {i : Nat} {f : Flight}
  {t : Turn serviceInterface} {drawn : Moment → Prop} {R : Store → Store → Prop}

/-- What goes alike from its start goes alike at every stage. -/
theorem Run.alike (run : Run others v { store := start } past sys) (every : ∀ m, drawn m)
    (serves : ∀ c call, (v.serve c call).Alike drawn R) :
    ∀ f ∈ sys.flights, f.rest.Alike drawn R := by
  generalize begun : ({ store := start } : System) = first at run
  induction run with
  | start =>
      cases begun
      simp
  | arrive run c call ih =>
      intro f flying
      rcases List.mem_append.mp flying with before | new
      · exact ih f before
      · cases List.mem_singleton.mp new
        exact serves c call
  | turn run t i taken ih =>
      obtain ⟨g, deed, rest, s', flying, stepped, _, rfl⟩ := System.turn?_eq_some.mp taken
      intro f member
      rcases List.mem_or_eq_of_mem_set member with before | rfl
      · exact ih f before
      · exact (ih g (List.mem_of_getElem? flying)).onward (every _) stepped
  | change run changed ih => exact ih

theorem Store.Swapped.serve_alike {issued : List Session} (call : Call) :
    (v.serve c call).Alike drawn (Swapped u u' issued) := by
  cases call with
  | login | exchange =>
      exact Service.serve_alike userLikeness rfl fun _ _ _ like _ _ => like.linksAlike
  | accessToken refreshToken =>
      refine Operation.Alike.map (.single fun m s t _ like => ?_)
      refine Service.accessTokenBody_alike like fun digest _ => ⟨?_, fun _ _ => like.owner⟩
      rw [like.swapped]
      rfl

/-- The access token that the turn ended its request with. -/
def Entry.accessToken? (x : Entry) : Option String :=
  match x.call, x.rest.answer? with
  | .accessToken _, some (.ok (.accessToken token)) => some token
  | .exchange, some (.ok (.exchanged result)) => some result.accessToken
  | _, _ => none

/-- A request that is not over is still at its first transaction, or has it behind it. -/
theorem Leads.pending {β : Type} {body : Transaction β} {next : β → ServiceOperation Answer}
    {rest : ServiceOperation Answer} {turns : List Entry}
    (leads : Leads (.transact body next) turns rest) (pending : rest.answer? = none) :
    rest = .transact body next ∨ ∃ b later, Leads (next b) later rest := by
  cases turns with
  | nil => exact .inl leads
  | cons x later =>
      obtain ⟨⟨t, s, s', stepped⟩, onward⟩ := leads
      generalize x.deed = deed at stepped
      generalize x.rest = middle at stepped onward
      cases Operation.step?_eq_some.mp stepped with
      | committed => exact .inr ⟨_, later, onward⟩
      | failed =>
          rw [onward.of_finish.2] at pending
          cases pending

theorem Leads.not_pending {rest : ServiceOperation Answer} {turns : List Entry}
    {result : Except RequestError Answer} (leads : Leads (.finish result) turns rest) :
    rest.answer? ≠ none := by
  rw [leads.of_finish.2]
  simp [Operation.answer?]

/-- With the record of a deactivated user swapped the turn is taken just so, and the record stays
swapped. -/
theorem Run.swapped_turn (run : Run others v { store := start } past sys)
    (taken : sys.turn? t i = some (x, sys')) (stored : sys.store.users.get? u.id = some u)
    (inactive : u.isActive = false) (same : u.SameIdentity u') :
    ∃ y sys'', System.turn? t i { sys with store := sys.store.withUser u' } = some (y, sys'') ∧
      y.rest = x.rest ∧ Store.Swapped u u' (sys.store.sessions.rows.filter (·.userId == u.id))
        sys'.store sys''.store := by
  obtain ⟨f, deed, rest, s', flying, stepped, rfl, rfl⟩ := System.turn?_eq_some.mp taken
  generalize own : sys.store.sessions.rows.filter (·.userId == u.id) = issued
  have like : Store.Swapped u u' issued sys.store (sys.store.withUser u') :=
    ⟨same, inactive, stored, rfl, own⟩
  have alike : f.rest.Alike (fun _ => True) (Store.Swapped u u' issued) :=
    run.alike (fun _ => trivial) (fun _ call => Store.Swapped.serve_alike call) f
      (List.mem_of_getElem? flying)
  rcases alike.step trivial like with ⟨idle, _⟩ | ⟨_, d, _, _, t', here, there, like'⟩
  · cases idle.symm.trans stepped
  · cases here.symm.trans stepped
    exact ⟨_, _, System.turn?_eq_some.mpr ⟨f, d, _, t', flying, there, rfl, rfl⟩, rfl, like'⟩

/-- An access token that ends a request is for a user who is active. -/
theorem Run.accessToken_active {token : String} (run : Run others v { store := start } past sys)
    (taken : sys.turn? t i = some (x, sys')) (issued : x.accessToken? = some token) :
    ∃ m y w claims, sys.store.users.get? w.id = some w ∧ w.isActive = true ∧ y.userId = w.id ∧
      v.issuer.claims? m y w = some claims ∧ v.issuer.encode claims = .ok token := by
  obtain ⟨f, deed, rest, s', flying, stepped, rfl, rfl⟩ := System.turn?_eq_some.mp taken
  have leads := run.leads i f flying
  have pending := Operation.answer?_of_step? stepped
  cases call : f.call with
  | login => simp [Entry.accessToken?, call] at issued
  | accessToken refreshToken =>
      rw [call] at leads
      rcases leads.pending pending with stage | ⟨_, _, leads⟩
      · rw [stage] at stepped
        cases Operation.step?_eq_some.mp stepped with
        | committed committed =>
            simp only [Entry.accessToken?, call, Operation.answer?, Operation.map, Except.map,
              Option.some.injEq] at issued
            subst issued
            exact ⟨t.moment, Service.accessTokenBody_commits committed⟩
        | failed => simp [Entry.accessToken?, call, Operation.answer?] at issued
      · exact absurd pending leads.not_pending
  | exchange =>
      rw [call] at leads
      rcases leads.pending pending with stage | ⟨_, _, leads⟩
      · rw [stage] at stepped
        cases Operation.step?_eq_some.mp stepped <;>
          simp [Entry.accessToken?, call, Operation.answer?, Operation.map] at issued
      rcases leads.pending pending with stage | ⟨_, _, leads⟩
      · rw [stage] at stepped
        cases Operation.step?_eq_some.mp stepped with
        | committed committed =>
            simp only [Entry.accessToken?, call, Operation.answer?, Operation.map, Except.map,
              Option.some.injEq] at issued
            subst issued
            exact ⟨t.moment, Service.accessTokenBody_commits committed⟩
        | failed => simp [Entry.accessToken?, call, Operation.answer?] at issued
      · exact absurd pending leads.not_pending

/-- The refresh token of somebody who is not active is refused, however old it is. -/
theorem Run.refreshToken_refused {refreshToken : String} {digest : List UInt8} {y : Session}
    (run : Run others v { store := start } past sys) (taken : sys.turn? t i = some (x, sys'))
    (asked : x.call = .accessToken refreshToken)
    (presented : SecretTokenKind.sessionRefreshToken.digest? refreshToken = some digest)
    (found : sys.store.sessionByRefreshDigest? digest = some y)
    (idle : ∀ w, sys.store.users.get? y.userId = some w → w.isActive = false) :
    x.rest = .finish (.error (.unauthenticated .refreshToken)) := by
  obtain ⟨f, deed, rest, s', flying, stepped, rfl, rfl⟩ := System.turn?_eq_some.mp taken
  have leads := run.leads i f flying
  have pending := Operation.answer?_of_step? stepped
  have refused : (Service.accessTokenBody v.issuer refreshToken).Fails t.moment sys.store _ :=
    Service.accessTokenBody_refused presented found idle
  rw [show f.call = .accessToken refreshToken from asked] at leads
  rcases leads.pending pending with stage | ⟨_, _, leads⟩
  · rw [stage] at stepped
    cases Operation.step?_eq_some.mp stepped with
    | committed committed => cases refused.symm.trans committed
    | failed failed =>
        cases refused.symm.trans failed
        rfl
  · exact absurd pending leads.not_pending

/-- A session that stands for nobody who is active is not exchanged while its email is taken. -/
theorem Service.exchangeBody_taken {m : Moment} {s s' : Store} {r : IntermediateSession}
    {result : IssuedSession × User × Bool}
    (found : s.intermediateSession? c.projectId c.intermediateSessionId = some r)
    (bound : r.organizationId = some u.organizationId) (known : r.email = some u.email)
    (absent : s.userForExchange? u.organizationId r = none) (listed : u ∈ s.users.rows) :
    ¬ (v.exchangeBody c).Commits m s result s' := by
  intro committed
  obtain ⟨l, o, factor, w, created, written, _, admitted, exchangeable, resolves, _⟩ :=
    exchangeBody_exchanged committed
  cases found.symm.trans admitted.session
  obtain ⟨owner, _⟩ := admitted.organization_eq_some exchangeable.organization
  rw [← Option.some.inj (bound.symm.trans owner)] at resolves
  cases resolves with
  | found resolved => cases absent.symm.trans resolved
  | created _ known' attached unique =>
      rw [← Option.some.inj (known.symm.trans known')] at attached
      obtain ⟨same, _⟩ := attachIdentity_sameIdentity attached
      exact unique u listed ⟨same.organizationId.symm, same.email.symm⟩

/-- What a turn of a request from `sys` to `sys'` does for a user: nothing. -/
structure Entry.Ignores (x : Entry) (v : Service) (t : Turn serviceInterface) (sys sys' : System)
    (u : User) : Prop where
  record : sys'.store.users.get? u.id = some u
  sessions : sys'.store.sessions.rows.filter (·.userId == u.id) =
    sys.store.sessions.rows.filter (·.userId == u.id)
  /-- Whatever password hash and count of mismatches the record held, and whichever accounts, the
  turn would have been the same. -/
  unseen : ∀ u', u.SameIdentity u' → ∃ y sys'',
    System.turn? t x.flight { sys with store := sys.store.withUser u' } = some (y, sys'') ∧
      y.rest = x.rest ∧ sys''.store = sys'.store.withUser u'
  accessToken : ∀ token, x.accessToken? = some token → ∃ m y w claims,
    v.issuer.claims? m y w = some claims ∧ v.issuer.encode claims = .ok token ∧ y.userId = w.id ∧
      sys.store.users.get? w.id = some w ∧ w.id ≠ u.id
  refused : ∀ refreshToken digest y, x.call = .accessToken refreshToken →
    SecretTokenKind.sessionRefreshToken.digest? refreshToken = some digest →
      sys.store.sessionByRefreshDigest? digest = some y → y.userId = u.id →
        x.rest = .finish (.error (.unauthenticated .refreshToken))
  unexchanged : ∀ r, x.call = .exchange → x.heard = [] →
    sys.store.intermediateSession? x.context.projectId x.context.intermediateSessionId = some r →
      r.organizationId = some u.organizationId → r.email = some u.email →
        sys.store.userForExchange? u.organizationId r = none →
          (∃ reason, x.rest = .finish (.error reason)) ∧ sys'.store = sys.store

/-- Deactivated users are inert. Whoever deactivated them and when, a turn of any request leaves the
record of a user as it is who is deactivated in the store that the turn reads. It creates no session
for the user, goes the same whatever the record holds, so that a password is not compared with the
user's hash, and ends with no access token for the user, even if the refresh token was issued
before. An exchange whose session has the user's email fails where nobody who is active matches
it, and leaves everything as it was. -/
theorem Run.deactivated_inert (run : Run others v { store := start } past sys)
    (taken : sys.turn? t i = some (x, sys')) (stored : sys.store.users.get? u.id = some u)
    (inactive : u.isActive = false) : x.Ignores v t sys sys' u where
  record := by
    obtain ⟨_, _, _, _, swapped⟩ := run.swapped_turn taken stored inactive (.refl u)
    exact swapped.stored
  sessions := by
    obtain ⟨_, _, _, _, swapped⟩ := run.swapped_turn taken stored inactive (.refl u)
    exact swapped.sessions
  unseen u' same := by
    obtain ⟨y, sys'', taken', left, swapped⟩ := run.swapped_turn taken stored inactive same
    obtain ⟨_, _, _, _, _, _, rfl, _⟩ := System.turn?_eq_some.mp taken
    exact ⟨y, sys'', taken', left, swapped.swapped⟩
  accessToken token issued := by
    obtain ⟨m, y, w, claims, present, active, owner, stated, encoded⟩ :=
      run.accessToken_active taken issued
    refine ⟨m, y, w, claims, stated, encoded, owner, present, fun own => ?_⟩
    rw [own, stored] at present
    cases present
    rw [inactive] at active
    cases active
  refused refreshToken digest y asked presented found owner := by
    refine run.refreshToken_refused taken asked presented found fun w present => ?_
    rw [owner, stored] at present
    cases present
    exact inactive
  unexchanged r asked unheard found bound known absent := by
    obtain ⟨f, deed, rest, s', flying, stepped, rfl, rfl⟩ := System.turn?_eq_some.mp taken
    have follows := run.follows.2 i f flying
    have turns : past.filter (·.flight == i) = [] :=
      List.map_eq_nil_iff.mp (follows.heard.symm.trans unheard)
    have leads := run.leads i f flying
    rw [turns, show f.call = .exchange from asked] at leads
    rw [show f.rest = _ from leads] at stepped
    cases Operation.step?_eq_some.mp stepped with
    | committed committed =>
        exact absurd committed (Service.exchangeBody_taken found bound known absent
          (Table.mem_of_get? stored))
    | failed => exact ⟨⟨_, rfl⟩, rfl⟩

/-- Somebody deactivates a user. -/
def Store.Deactivates (s s' : Store) : Prop :=
  ∃ u time, s.users.get? u.id = some u ∧ s' = s.withUser { u with deactivateTime := some time }

namespace Deployment

def former : User := { user with deactivateTime := some now }

def refreshToken : String := (Secret.ofNat 1005).token .sessionRefreshToken

/-- The user has logged in and was deactivated since. Now the refresh token of the login is
presented. -/
def lateRefresh : System :=
  System.arrive service
    { loginThenExchange.2 with store := loginThenExchange.2.store.withUser former } context
    (.accessToken refreshToken)

def lateTurn : Turn serviceInterface :=
  ⟨.ofDraws now (2000 + ·) true fun _ _ _ state => .ok state, fun _ => none, false⟩

end Deployment

theorem Run.deactivated_inert_of_refresh :
    ∃ x sys' y, Deployment.lateRefresh.turn? Deployment.lateTurn 2 = some (x, sys') ∧
      Deployment.lateRefresh.store.sessionByRefreshDigest? (Secret.ofNat 1005).digest = some y ∧
      y.userId = Deployment.former.id ∧
      x.rest = .finish (.error (.unauthenticated .refreshToken)) ∧
      sys'.store.users.get? Deployment.former.id = some Deployment.former := by
  have begun : Run Store.Deactivates Deployment.service
      { store := Deployment.store (Deployment.only Deployment.user) none }
      Deployment.loginThenExchange.1 Deployment.loginThenExchange.2 := System.run_play _ _
  have run : Run Store.Deactivates Deployment.service
      { store := Deployment.store (Deployment.only Deployment.user) none }
      Deployment.loginThenExchange.1 Deployment.lateRefresh :=
    (begun.change ⟨Deployment.user, Deployment.now, by decide +kernel, rfl⟩).arrive _ _
  have asked : (Deployment.lateRefresh.turn? Deployment.lateTurn 2).map (·.1.call) =
      some (.accessToken Deployment.refreshToken) := by decide +kernel
  have owner : (Deployment.lateRefresh.store.sessionByRefreshDigest?
      (Secret.ofNat 1005).digest).map (·.userId) = some Deployment.former.id := by decide +kernel
  obtain ⟨⟨x, sys'⟩, taken, asked⟩ := Option.map_eq_some_iff.mp asked
  obtain ⟨y, found, owner⟩ := Option.map_eq_some_iff.mp owner
  have ignores := Run.deactivated_inert run taken (u := Deployment.former) (by decide +kernel) rfl
  exact ⟨x, sys', y, taken, found, owner,
    ignores.refused _ _ y asked Secret.digest?_token found owner, ignores.record⟩

end Vestibule
