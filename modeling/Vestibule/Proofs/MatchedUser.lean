import Vestibule.Proofs.Continuity

/-! Whose password was matched, and who gets the session. A login with a password binds its session
to the organization and the email of the user it matched; the exchange goes by them, unless an
account that was redeemed on the session is linked to somebody. -/

namespace Vestibule

/-- The user whose stored hash a check of a password is against, if it is against one. -/
def Loaded.hashOwner? (s : Store) (l : Loaded) : Option String → Option User
  | none =>
    if l.session.stagedPasswordHash.isSome then none
    else l.organization.bind fun o => l.session.email.bind (s.userByEmail? o.id)
  | some email =>
    match s.passwordLoginCandidates l.project.id email with
    | [u] => some u
    | _ => none

/-- The user whose stored hash the turn matched: it checked a password, with success. -/
def Entry.matchedUser? (x : Entry) : Option User :=
  match x.performed?, x.deed with
  | some (.verifyPassword email _), .committed m before _ =>
    ((Loaded.load x.context).run m before).toOption.bind fun loaded =>
      loaded.1.hashOwner? before email
  | _, _ => none

variable {v : Service} {first sys : System} {x y : Entry} {u : User} {s s' : Store}

theorem Service.HashOwner.hashOwner? {l : Loaded} {email : Option String}
    (owner : HashOwner s l email u) : l.hashOwner? s email = some u := by
  cases owner with
  | bound checked unstaged known found =>
      simp [Loaded.hashOwner?, unstaged, checked.organization, known, found]
  | direct unbound method known found => simp [Loaded.hashOwner?, found]

theorem Entry.Takes.matchedUser? {salt : List UInt8} {m : Moment} {l : Loaded}
    {email : Option String} {password : String} {lesson : Lesson} {written : Store}
    {change : Audit.IntermediateSessionChange} {rest : ServiceOperation LoginReply}
    (takes : x.Takes v s s' salt m l (.verifyPassword email password) lesson written change rest)
    (performed : x.performed? = some (.verifyPassword email password)) :
    x.matchedUser? = l.hashOwner? s email := by
  have loads : (Loaded.load x.context).Commits m s l s :=
    Loaded.load_commits.mpr ⟨rfl, takes.admitted⟩
  simp only [Entry.matchedUser?, performed, takes.deed]
  rw [loads]
  rfl

/-- The turn that matched the hash of a user took a step, and the comparison with that user's hash
is what it went by. -/
theorem Entry.Did.matched (did : x.Did v s s') (matched : x.matchedUser? = some u) :
    ∃ salt email password m l lesson written change rest,
      x.Takes v s s' salt m l (.verifyPassword email password) lesson written change rest ∧
        Service.HashOwner s l email u ∧ v.matcher.Compares m.now u password true := by
  have request : ∃ email password, x.performed? = some (.verifyPassword email password) := by
    unfold Entry.matchedUser? at matched
    split at matched
    · exact ⟨_, _, ‹_›⟩
    · cases matched
  obtain ⟨email, password, performed⟩ := request
  obtain ⟨salt, m, l, lesson, written, change, rest, takes⟩ := did.performed performed
  rw [takes.matchedUser? performed] at matched
  refine ⟨salt, email, password, m, l, lesson, written, change, rest, takes, ?_⟩
  cases takes.step with
  | stagedMatched checked waiting compared => simp [Loaded.hashOwner?, waiting] at matched
  | passwordMatched organization owner compared hashed =>
      cases owner.hashOwner?.symm.trans matched
      exact ⟨owner, compared⟩
  | loggedIn owner compared hashed =>
      cases owner.hashOwner?.symm.trans matched
      exact ⟨owner, compared⟩

/-- A session whose user's hash is compared is bound to that user's organization and has that user's
email, unless it logs in with an email and is bound by it. -/
theorem Service.Step.binds {c : RequestContext} {salt : List UInt8} {heard : List ServiceDeed}
    {m : Moment} {l : Loaded} {email : Option String} {password : String} {lesson : Lesson}
    {written : Store} {change : Audit.IntermediateSessionChange}
    {rest : ServiceOperation LoginReply} (admitted : Loaded.Admitted c m.now s l)
    (step : v.Step c salt heard m s l (.verifyPassword email password) lesson written change rest)
    (owner : HashOwner s l email u) :
    (lesson.apply l.session).organizationId = some u.organizationId ∧
      (lesson.apply l.session).email = some u.email := by
  cases owner with
  | bound checked unstaged known found =>
      obtain ⟨_, organization, named, _⟩ := Store.userByEmail?_eq_some found
      obtain ⟨bound, _⟩ := admitted.organization_eq_some checked.organization
      rw [← organization] at bound
      rw [← named] at known
      exact ⟨step.fits.organizationId bound, step.fits.email known⟩
  | direct unbound method known found =>
      cases step with
      | loggedIn owner =>
          cases owner.unique (.direct unbound method known found)
          simp

/-- A match leaves the session bound to the organization and the email of the user. -/
theorem Entry.Did.binds (did : x.Did v s s') (matched : x.matchedUser? = some u) :
    ∃ r u', s'.intermediateSessions.get? x.context.intermediateSessionId = some r ∧
      r.organizationId = some u.organizationId ∧ r.email = some u.email ∧
        s'.users.get? u.id = some u' ∧ u.SameIdentity u' ∧ u.isActive = true := by
  obtain ⟨salt, email, password, m, l, lesson, written, change, rest, takes, owner, _⟩ :=
    did.matched matched
  obtain ⟨asked, deed, left, admitted, step, after⟩ := takes
  obtain ⟨_, _, wrote⟩ := did.wrote deed
  obtain ⟨stored, active⟩ := owner.stored
  obtain ⟨u', kept, same⟩ := wrote.userWrite.successor stored
  obtain ⟨bound, named⟩ := step.binds admitted owner
  obtain ⟨users, verifiedEmails, emailUsage, _, framed⟩ := step.frame
  refine ⟨lesson.apply l.session, u', ?_, bound, named, kept, same, active⟩
  rw [after, framed]
  exact admitted.get?_taught lesson

/-- An exchange creates one session, for the user that it wrote. -/
theorem Service.Exchanged.sessions {c : RequestContext} {m : Moment}
    {result : IssuedSession × User × Bool} (exchanged : v.Exchanged c m s s' result)
    (deed : x.deed = .committed m s s') :
    ∃ issued, x.sessions = [issued] ∧ issued.userId = result.2.1.id := by
  obtain ⟨l, o, factor, w, created, written, expire, _, _, resolves, _, fresh, _, rfl, rfl⟩ :=
    exchanged
  obtain ⟨users, rfl⟩ := resolves.written
  refine ⟨(IssuedSession.of m w factor expire).session, ?_, rfl⟩
  have rows : (s.sessions.add (IssuedSession.of m w factor expire).session).rows =
      s.sessions.rows ++ [(IssuedSession.of m w factor expire).session] := Table.rows_add fresh
  simp only [Entry.sessions, deed]
  change (s.sessions.add (IssuedSession.of m w factor expire).session).rows.drop _ = _
  rw [rows, List.drop_left]

/-- An exchange creates one session: for the user that a redeemed account is linked to, else for the
user with the session's email. -/
theorem Entry.Did.exchanged_for {id organizationId : Uuid} {r : IntermediateSession}
    {email : String} (did : y.Did v s s') (exchanges : y.exchanges id = true)
    (stored : s.intermediateSessions.get? id = some r)
    (bound : r.organizationId = some organizationId) (known : r.email = some email)
    (found : s.userByEmail? organizationId email = some u) :
    ∃ m issued, y.deed = .committed m s s' ∧ y.sessions = [issued] ∧
      issued.userId = ((s.linkedUser? organizationId r).getD u).id := by
  obtain ⟨m, result, deed, rfl, exchanged⟩ := did.exchanged exchanges
  obtain ⟨issued, only, whose⟩ := exchanged.sessions deed
  obtain ⟨l, o, factor, w, created, written, expire, admitted, exchangeable, resolves, _, _, _,
    rfl, rfl⟩ := exchanged
  cases stored.symm.trans admitted.stored
  obtain ⟨owner, _⟩ := admitted.organization_eq_some exchangeable.organization
  cases bound.symm.trans owner
  have standsFor : s.userForExchange? o.id l.session =
      some ((s.linkedUser? o.id l.session).getD u) := by
    rw [Store.userForExchange?, known, Option.bind_some, found, Option.or_some]
  have same : w.id = ((s.linkedUser? o.id l.session).getD u).id := by
    cases resolves with
    | found resolved attached =>
        cases resolved.symm.trans standsFor
        exact (attachIdentity_sameIdentity attached).1.id
    | created absent => cases absent.symm.trans standsFor
  exact ⟨m, issued, deed, only, whose.trans same⟩

/-- The user whose password was matched is the user who gets the session, unless an account that was
redeemed on the session is linked to an active user of the same organization: then it is theirs. -/
theorem Run.matched_user_gets_session {start : Store} {before between after : List Entry}
    (unique : start.UsersUnique)
    (run : Run TenantChange v { store := start } (before ++ x :: between ++ y :: after) sys)
    (matched : x.matchedUser? = some u)
    (exchanges : y.exchanges x.context.intermediateSessionId = true) :
    ∃ m s s' r issued, y.deed = .committed m s s' ∧
      s.intermediateSessions.get? x.context.intermediateSessionId = some r ∧
        y.sessions = [issued] ∧
          issued.userId = ((s.linkedUser? u.organizationId r).getD u).id := by
  have whole : before ++ x :: between ++ y :: after = before ++ x :: (between ++ y :: after) := by
    simp
  obtain ⟨sys₁, sys₂, t₁, i₁, earlier, took, onward⟩ := Run.split (whole ▸ run)
  obtain ⟨sys₃, sys₄, t₂, i₂, meanwhile, took', _⟩ := onward.split
  obtain ⟨sound, did⟩ := (earlier.sound System.sound_idle).turn took
  obtain ⟨_, did'⟩ := (meanwhile.sound sound).turn took'
  obtain ⟨r, u', stored, bound, known, present, same, active⟩ := did.binds matched
  obtain ⟨r', stored', continues⟩ := meanwhile.session_continues sound stored
  obtain ⟨w, present', same'⟩ := meanwhile.user_stays sound present
  have person := same.trans same'
  have unique' : sys₃.store.UsersUnique :=
    ((earlier.turn t₁ i₁ took).trans meanwhile).usersUnique System.sound_idle unique
  have found := unique'.userByEmail? present' (by
    rw [User.isActive, person.deactivateTime]
    exact active)
  rw [person.organizationId, person.email] at found
  obtain ⟨m, issued, deed, created, owner⟩ := did'.exchanged_for exchanges stored'
    (continues.organizationId _ bound) (continues.email _ known) found
  refine ⟨m, sys₃.store, sys₄.store, r', issued, deed, stored', created, ?_⟩
  rw [owner]
  cases sys₃.store.linkedUser? u.organizationId r' with
  | some linked => rfl
  | none => exact person.id

namespace Deployment

/-- A login with a password, and the exchange. -/
def loginThenExchange : List Entry × System :=
  System.play service
    [.arrive context (.login [] (.verifyPassword (some user.email) "correct horse")),
      .arrive context .exchange, turn none 0 0, turn none 1 1]
    { store := store (only user) none }

end Deployment

theorem Run.matched_user_gets_session_of_login :
    ∃ x y s r issued, Deployment.loginThenExchange.1 = [x, y] ∧ y.sessions = [issued] ∧
      issued.userId =
        ((Store.linkedUser? s Deployment.user.organizationId r).getD Deployment.user).id := by
  have run : Run TenantChange Deployment.service
      { store := Deployment.store (Deployment.only Deployment.user) none }
      Deployment.loginThenExchange.1 Deployment.loginThenExchange.2 := System.run_play _ _
  have turns : Deployment.loginThenExchange.1.map (fun x =>
      (x.context, x.matchedUser?, x.exchanges Deployment.session.id)) =
        [(Deployment.context, some Deployment.user, false), (Deployment.context, none, true)] := by
    decide +kernel
  obtain ⟨x, _, whole, first, rest⟩ := List.map_eq_cons_iff.mp turns
  obtain ⟨y, _, rfl, second, ended⟩ := List.map_eq_cons_iff.mp rest
  cases List.map_eq_nil_iff.mp ended
  simp only [Prod.mk.injEq] at first second
  rw [whole] at run
  obtain ⟨_, s, _, r, issued, _, _, created, owner⟩ :=
    Run.matched_user_gets_session Deployment.usersUnique
      (show Run _ _ _ ([] ++ x :: [] ++ y :: []) _ from run) first.2.1
      (by rw [first.1]; exact second.2.2)
  exact ⟨x, y, s, r, issued, whole, created, owner⟩

namespace Deployment

/-- Another user of the organization, with an account at Google that goes by another email. -/
def colleague : User :=
  { User.new (.ofNat 5) now organization.id "bob@buyers.test" with googleUserId := some "g-1" }

def colleagues : Table User User.id where
  rows := [user, colleague]
  distinct := by decide +kernel

/-- A login with the password of one user, to which the account of the other is added. -/
def loginThenAccount : List Entry × System :=
  System.play service
    ([.arrive context (.login [] (.verifyPassword (some user.email) "correct horse")),
      turn none 0 0] ++
      viaGoogle ⟨"g-1", user.email, true, none, none, none⟩ 1 1 ++
      [.arrive context .exchange, turn none 7 3])
    { store := store colleagues none }

end Deployment

/-- Without the exception it fails: the account of a colleague may be redeemed after the match, if
it has the user's email by now. -/
theorem Run.matched_user_loses_session :
    ¬ ∀ (v : Service) (start : Store) (sys : System) (before between after : List Entry)
      (x y : Entry) (u : User), start.UsersUnique →
        Run TenantChange v { store := start } (before ++ x :: between ++ y :: after) sys →
          x.matchedUser? = some u → y.exchanges x.context.intermediateSessionId = true →
            ∀ issued ∈ y.sessions, issued.userId = u.id := by
  intro claim
  have run : Run TenantChange Deployment.service
      { store := Deployment.store Deployment.colleagues none }
      Deployment.loginThenAccount.1 Deployment.loginThenAccount.2 := System.run_play _ _
  have turns : Deployment.loginThenAccount.1.map (fun x =>
      (x.context, x.matchedUser?, x.exchanges Deployment.session.id, x.sessions.map (·.userId))) =
        ((Deployment.context, some Deployment.user, false, []) ::
          List.replicate 5 (Deployment.context, none, false, [])) ++
          [(Deployment.context, none, true, [Deployment.colleague.id])] := by
    decide +kernel
  obtain ⟨most, ended, whole, begins, ends⟩ := List.map_eq_append_iff.mp turns
  obtain ⟨x, between, rfl, first, _⟩ := List.map_eq_cons_iff.mp begins
  obtain ⟨y, rfl, last⟩ := List.map_eq_singleton_iff.mp ends
  simp only [Prod.mk.injEq, List.map_eq_singleton_iff] at first last
  obtain ⟨context, matched, _⟩ := first
  obtain ⟨_, _, exchanges, issued, created, owner⟩ := last
  have unique : Store.UsersUnique (Deployment.store Deployment.colleagues none) := by
    unfold Store.UsersUnique
    decide +kernel
  have same : Deployment.colleague.id = Deployment.user.id := by
    rw [← owner]
    refine claim _ _ _ [] between [] x y _ unique (whole ▸ run) matched ?_ issued ?_
    · rw [context]
      exact exchanges
    · simp [created]
  exact absurd same (by decide +kernel)

end Vestibule
