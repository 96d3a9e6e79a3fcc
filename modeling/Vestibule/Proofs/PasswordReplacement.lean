import Vestibule.Proofs.Continuity

/-! What it takes to replace a password. A password that an exchange gives to its user was
registered on the session before. Registering asks for a reset code where the user with the
session's email has a password; the exchange gives it to the user that it is for. -/

namespace Vestibule

/-- Whether the turn registered a password on the session. -/
def Entry.registersPassword (x : Entry) (id : Uuid) : Bool :=
  x.context.intermediateSessionId == id && x.performed?.any fun
    | .registerPassword _ => true
    | _ => false

/-- Whether the turn verified a reset code of the session. -/
def Entry.verifiesResetCode (x : Entry) (id : Uuid) : Bool :=
  x.context.intermediateSessionId == id && x.performed?.any fun
    | .verifyResetCode _ => true
    | _ => false

/-- A password may be registered on the session without a reset code: none waits there, and the
user with its email has none. -/
def Store.FreeOfPassword (s : Store) (id : Uuid) : Prop :=
  ∃ r organizationId email, s.intermediateSessions.get? id = some r ∧
    r.organizationId = some organizationId ∧ r.email = some email ∧ r.stagedPasswordHash = none ∧
      ∀ u ∈ s.userByEmail? organizationId email, u.passwordHash = none

/-- The hash is of the last password that was registered on the session, and that was allowed: a
reset code was verified before, or there was nothing to replace. -/
def Registered (id : Uuid) (past : List Entry) (hash : String) : Prop :=
  ∃ earlier x between m s s' r, past = earlier ++ x :: between ∧
    x.registersPassword id = true ∧ (∀ z ∈ between, z.registersPassword id = false) ∧
      x.deed = .committed m s s' ∧ s'.intermediateSessions.get? id = some r ∧
        r.stagedPasswordHash = some hash ∧
          ((∃ w ∈ earlier, w.verifiesResetCode id = true) ∨ s.FreeOfPassword id)

/-- What a session knows of passwords was learnt in the run. -/
structure PasswordHistory (id : Uuid) (past : List Entry) (s : Store) : Prop where
  staged : ∀ r hash, s.intermediateSessions.get? id = some r → r.stagedPasswordHash = some hash →
    Registered id past hash
  licensed : ∀ r, s.intermediateSessions.get? id = some r → r.resetCodeVerified = true →
    ∃ w ∈ past, w.verifiesResetCode id = true

/-- Nothing is known of passwords yet. -/
def IntermediateSession.Unlicensed (r : IntermediateSession) : Prop :=
  r.stagedPasswordHash = none ∧ r.resetCodeVerified = false

variable {v : Service} {id : Uuid} {past : List Entry} {x : Entry} {s s' : Store}

theorem Registered.append {hash : String} (registered : Registered id past hash)
    (other : x.registersPassword id = false) : Registered id (past ++ [x]) hash := by
  obtain ⟨earlier, z, between, m, s, s', r, rfl, registers, last, deed, stored, waiting, allowed⟩ :=
    registered
  refine ⟨earlier, z, between ++ [x], m, s, s', r, by simp, registers, fun w member => ?_, deed,
    stored, waiting, allowed⟩
  rcases List.mem_append.mp member with before | new
  · exact last w before
  · cases List.mem_singleton.mp new
    exact other

theorem Entry.registersPassword_iff :
    x.registersPassword id = true ↔ x.context.intermediateSessionId = id ∧
      ∃ password, x.performed? = some (.registerPassword password) := by
  unfold Entry.registersPassword
  simp only [Bool.and_eq_true, beq_iff_eq, Option.any_eq_true]
  refine and_congr_right fun _ => ⟨?_, ?_⟩
  · rintro ⟨request, performed, registers⟩
    split at registers
    · exact ⟨_, performed⟩
    · cases registers
  · rintro ⟨password, performed⟩
    exact ⟨_, performed, rfl⟩

/-- The turn that registers a password was allowed to, and its hash waits on the session since. -/
theorem PasswordHistory.registered (history : PasswordHistory id past s) (did : x.Did v s s')
    (registers : x.registersPassword id = true) :
    ∃ r hash, s'.intermediateSessions.get? id = some r ∧ r.stagedPasswordHash = some hash ∧
      r.resetCodeVerified = false ∧ Registered id (past ++ [x]) hash := by
  obtain ⟨rfl, password, performed⟩ := Entry.registersPassword_iff.mp registers
  obtain ⟨salt, m, l, lesson, written, change, rest, takes⟩ := did.performed performed
  obtain ⟨asked, deed, left, admitted, step, after⟩ := takes
  obtain ⟨_, _, _, _, framed⟩ := step.frame
  have taught := admitted.get?_taught lesson
  cases step with
  | @passwordStaged _ hash email o checked known licensed hashed =>
      have stored : s'.intermediateSessions.get? x.context.intermediateSessionId =
          some (Lesson.apply l.session (.passwordStaged hash)) := by
        rw [after]
        exact taught
      refine ⟨_, hash, stored, rfl, rfl, past, x, [], m, s, s', _, rfl, registers, by simp, deed,
        stored, rfl, ?_⟩
      rcases licensed with verified | ⟨unstaged, free⟩
      · exact .inl (history.licensed l.session admitted.stored verified)
      · obtain ⟨bound, _⟩ := admitted.organization_eq_some checked.organization
        exact .inr ⟨l.session, o.id, email, admitted.stored, bound, known, unstaged, free⟩

theorem PasswordHistory.turn (history : PasswordHistory id past s) (did : x.Did v s s') :
    PasswordHistory id (past ++ [x]) s' := by
  by_cases registers : x.registersPassword id = true
  · obtain ⟨r, hash, stored, waiting, used, registered⟩ := history.registered did registers
    refine ⟨fun r' hash' stored' waiting' => ?_, fun r' stored' verified => ?_⟩
    · cases stored.symm.trans stored'
      cases waiting.symm.trans waiting'
      exact registered
    · cases stored.symm.trans stored'
      cases used.symm.trans verified
  · have other := Bool.eq_false_iff.mpr registers
    refine ⟨fun r' hash stored waiting => ?_, fun r' stored verified => ?_⟩
    · obtain ⟨r, before, learns⟩ := did.learns stored
      cases learns with
      | kept => exact (history.staged _ hash before waiting).append other
      | exchanged time => exact (history.staged _ hash before waiting).append other
      | taught own _ takes =>
          rw [Lesson.apply_stagedPasswordHash] at waiting
          cases takes.step with
          | passwordStaged =>
              exact absurd (Entry.registersPassword_iff.mpr ⟨own, _, takes.performed?⟩) registers
          | _ => exact (history.staged _ hash before waiting).append other
    · obtain ⟨r, before, learns⟩ := did.learns stored
      have kept : r.resetCodeVerified = true →
          ∃ w ∈ past ++ [x], w.verifiesResetCode id = true := by
        intro verified
        obtain ⟨w, member, verifies⟩ := history.licensed r before verified
        exact ⟨w, List.mem_append_left _ member, verifies⟩
      cases learns with
      | kept => exact kept verified
      | exchanged time => exact kept verified
      | taught own _ takes =>
          rw [Lesson.apply_resetCodeVerified] at verified
          cases takes.step with
          | resetCodeRedeemed =>
              refine ⟨x, by simp, ?_⟩
              simp [Entry.verifiesResetCode, own, takes.performed?]
          | resetCodeIssued | passwordStaged => cases verified
          | _ => exact kept verified

theorem Run.passwordHistory {start : Store} {sys : System}
    (fresh : ∀ r ∈ start.intermediateSessions.rows, r.Unlicensed)
    (run : Run TenantChange v { store := start } past sys) (id : Uuid) :
    PasswordHistory id past sys.store := by
  refine run.invariant System.sound_idle (P := PasswordHistory id) ⟨?_, ?_⟩ ?_ ?_
  · intro r hash stored waiting
    cases (fresh r (Table.mem_of_get? stored)).1.symm.trans waiting
  · intro r stored verified
    cases (fresh r (Table.mem_of_get? stored)).2.symm.trans verified
  · exact fun past s x s' history did => history.turn did
  · rintro past s s' ⟨staged, licensed⟩ changed
    refine ⟨?_, ?_⟩
    · rw [changed.intermediateSessions]
      exact staged
    · rw [changed.intermediateSessions]
      exact licensed

/-- An exchange changes the password of a user it finds to the one that waits on the session, and
only the password of the user it is for. -/
theorem Service.Exchanged.replaces {c : RequestContext} {m : Moment} {userId : Uuid} {u u' : User}
    {result : IssuedSession × User × Bool} (exchanged : v.Exchanged c m s s' result)
    (stored : s.users.get? userId = some u) (stored' : s'.users.get? userId = some u')
    (replaced : u'.passwordHash ≠ u.passwordHash) :
    ∃ l o hash, Loaded.Admitted c m.now s l ∧ l.organization = some o ∧
      s.userForExchange? o.id l.session = some u ∧ l.session.stagedPasswordHash = some hash ∧
        u'.passwordHash = some hash := by
  obtain ⟨l, o, _, w, created, written, _, admitted, exchangeable, resolves, _, _, _, _, rfl⟩ :=
    exchanged
  change written.users.get? userId = some u' at stored'
  cases resolves with
  | @found old _ found attached =>
      obtain ⟨same, attached⟩ := attachIdentity_sameIdentity attached
      obtain ⟨present, _⟩ := Store.userForExchange?_eq_some found
      by_cases own : old.id = userId
      · subst own
        cases stored.symm.trans present
        have written : (s.users.replace w).get? w.id = some w := by
          rw [← same.id] at present
          exact Table.get?_replace_self present
        rw [same.id] at written
        cases written.symm.trans stored'
        cases waiting : l.session.stagedPasswordHash with
        | none =>
            rw [waiting, Option.none_or] at attached
            exact absurd attached replaced
        | some hash =>
            rw [waiting, Option.some_or] at attached
            exact ⟨l, o, hash, admitted, exchangeable.organization, found, waiting, attached⟩
      · have kept : (s.users.replace w).get? userId = some u := by
          rw [Table.get?_replace_of_ne (same.id ▸ own), stored]
        cases kept.symm.trans stored'
        exact absurd rfl replaced
  | created absent known attached unique fresh =>
      cases (Table.get?_add_of_some stored fresh).symm.trans stored'
      exact absurd rfl replaced

/-- Where a password could be registered without a reset code, the user that the exchange is for
goes by another email than the session's, or had no password then. -/
theorem Store.FreeOfPassword.spares {sys sys' : System} {later : List Entry}
    {r : IntermediateSession} {u : User} {organizationId : Uuid}
    (free : sys.store.FreeOfPassword id) (unique : sys.store.UsersUnique) (sound : sys.Sound v)
    (run : Run TenantChange v sys later sys')
    (stored : sys'.store.intermediateSessions.get? id = some r)
    (bound : r.organizationId = some organizationId)
    (found : sys'.store.userForExchange? organizationId r = some u) :
    r.email ≠ some u.email ∨ ∀ old ∈ sys.store.users.get? u.id, old.passwordHash = none := by
  by_cases known : r.email = some u.email
  · right
    intro old present
    obtain ⟨r₀, organizationId₀, email₀, stored₀, bound₀, known₀, _, none⟩ := free
    obtain ⟨r', stored', continues⟩ := run.session_continues sound stored₀
    cases stored.symm.trans stored'
    cases bound.symm.trans (continues.organizationId _ bound₀)
    cases known.symm.trans (continues.email _ known₀)
    obtain ⟨u', present', same⟩ := run.user_stays sound present
    obtain ⟨now, organization, active⟩ := Store.userForExchange?_eq_some found
    cases now.symm.trans present'
    refine none old ?_
    have byEmail := unique.userByEmail? present (by
      rw [User.isActive, ← same.deactivateTime]
      exact active)
    rw [← same.organizationId, ← same.email, organization] at byEmail
    exact byEmail
  · exact .inl known

/-- An exchange replaces a password only by the last one that was registered on the session. Before
that was registered a reset code was verified, or else registering needed none: no password waited
and the user with the session's email had none, and the user whose password is replaced goes by
another email or got the password in between. -/
theorem Run.replaced_password_registered {start : Store} {sys : System} {later : List Entry}
    {y : Entry} {m : Moment} {u u' : User}
    (fresh : ∀ r ∈ start.intermediateSessions.rows, r.Unlicensed) (unique : start.UsersUnique)
    (run : Run TenantChange v { store := start } (past ++ y :: later) sys)
    (exchanges : y.exchanges id = true) (deed : y.deed = .committed m s s')
    (stored : s.users.get? u.id = some u) (stored' : s'.users.get? u.id = some u')
    (replaced : u'.passwordHash ≠ u.passwordHash) :
    ∃ earlier x between m₀ s₀ s₁ r hash, past = earlier ++ x :: between ∧
      x.registersPassword id = true ∧ (∀ z ∈ between, z.registersPassword id = false) ∧
        x.deed = .committed m₀ s₀ s₁ ∧ s.intermediateSessions.get? id = some r ∧
          r.stagedPasswordHash = some hash ∧ u'.passwordHash = some hash ∧
            ((∃ w ∈ earlier, w.verifiesResetCode id = true) ∨ s₀.FreeOfPassword id ∧
              (r.email ≠ some u.email ∨ ∀ old ∈ s₀.users.get? u.id, old.passwordHash = none)) := by
  obtain ⟨sys₁, sys₂, t, i, before, took, _⟩ := run.split
  have sound := before.sound System.sound_idle
  obtain ⟨_, did⟩ := sound.turn took
  obtain ⟨m', result, deed', own, exchanged⟩ := did.exchanged exchanges
  cases deed.symm.trans deed'
  obtain ⟨l, o, hash, admitted, loaded, found, waiting, attached⟩ :=
    exchanged.replaces stored stored' replaced
  have record := own ▸ admitted.stored
  obtain ⟨bound, _⟩ := admitted.organization_eq_some loaded
  obtain ⟨earlier, x, between, m₀, s₀, s₁, r₁, rfl, registers, last, deed₀, _, _, allowed⟩ :=
    (Run.passwordHistory fresh before id).staged l.session hash record waiting
  refine ⟨earlier, x, between, m₀, s₀, s₁, l.session, hash, rfl, registers, last, deed₀, record,
    waiting, attached, ?_⟩
  rcases allowed with verified | free
  · exact .inl verified
  · obtain ⟨sys₃, sys₄, t', i', first, took', onward⟩ := before.split
    have sound' := first.sound System.sound_idle
    obtain ⟨rfl, rfl, _⟩ := (sound'.turn took').2.wrote deed₀
    have since := Run.trans (.turn .start t' i' took') onward
    exact .inr ⟨free, free.spares (first.usersUnique System.sound_idle unique) sound' since record
      bound found⟩

/-- The password hash of a user before and after the turn. -/
def Entry.passwordChange? (x : Entry) (userId : Uuid) : Option (Option String × Option String) :=
  match x.deed with
  | .committed _ before after => (before.users.get? userId).bind fun u =>
    (after.users.get? userId).map fun u' => (u.passwordHash, u'.passwordHash)
  | _ => none

theorem Entry.passwordChange?_eq_some {userId : Uuid} {old new : Option String}
    (change : x.passwordChange? userId = some (old, new)) :
    ∃ m s s' u u', x.deed = .committed m s s' ∧ u.id = userId ∧ s.users.get? u.id = some u ∧
      s'.users.get? u.id = some u' ∧ u.passwordHash = old ∧ u'.passwordHash = new := by
  unfold Entry.passwordChange? at change
  split at change
  · rename_i m before after deed
    obtain ⟨u, stored, change⟩ := Option.bind_eq_some_iff.mp change
    obtain ⟨u', stored', change⟩ := Option.map_eq_some_iff.mp change
    have named := Table.key_of_get? stored
    cases change
    exact ⟨m, before, after, u, u', deed, named, named ▸ stored, named ▸ stored', rfl, rfl⟩
  · cases change

namespace Deployment

theorem unlicensed {users : Table User User.id} {organizationId : Option Uuid} :
    ∀ r ∈ (store users organizationId).intermediateSessions.rows, r.Unlicensed := by
  intro r member
  cases List.mem_singleton.mp member
  exact ⟨rfl, rfl⟩

/-- A new password, as request number `i`. -/
def newPassword (n i : Nat) : List Move :=
  [.arrive context (.login [] (.registerPassword "battery staple")), turn none n i,
    turn none (n + 1) i, turn none (n + 2) i, turn none (n + 3) i]

/-- A visitor proves to have the user's email by a code, and once more to replace the password. -/
def passwordReset : List Entry × System :=
  System.play service
    ([.arrive context (.login [] (.issueEmailChallenge user.email)), turn none 0 0, turn none 1 0,
      .arrive context (.login [] (.verifyEmailChallenge (code .emailVerificationCode 0))),
      turn none 2 1,
      .arrive context (.login [] .issueResetCode), turn none 3 2, turn none 4 2,
      .arrive context (.login [] (.verifyResetCode (code .passwordResetCode 3))),
      turn none 5 3] ++
      newPassword 6 4 ++ [.arrive context .exchange, turn none 10 5])
    { store := store (only user) (some organization.id) }

end Deployment

theorem Run.replaced_password_registered_of_reset :
    ∃ past y, Deployment.passwordReset.1 = past ++ [y] ∧
      y.exchanges Deployment.session.id = true ∧
        y.passwordChange? Deployment.user.id = some (some "correct horse", some "battery staple") ∧
          ∃ x ∈ past, x.registersPassword Deployment.session.id = true := by
  have run : Run TenantChange Deployment.service
      { store := Deployment.store (Deployment.only Deployment.user)
          (some Deployment.organization.id) }
      Deployment.passwordReset.1 Deployment.passwordReset.2 := System.run_play _ _
  have turns : Deployment.passwordReset.1.map (fun x =>
      (x.exchanges Deployment.session.id, x.passwordChange? Deployment.user.id)) =
        Deployment.passwordReset.1.dropLast.map (fun x =>
          (x.exchanges Deployment.session.id, x.passwordChange? Deployment.user.id)) ++
          [(true, some (some "correct horse", some "battery staple"))] := by
    decide +kernel
  obtain ⟨past, ended, whole, _, ends⟩ := List.map_eq_append_iff.mp turns
  obtain ⟨y, rfl, last⟩ := List.map_eq_singleton_iff.mp ends
  simp only [Prod.mk.injEq] at last
  obtain ⟨exchanges, changed⟩ := last
  obtain ⟨m, s, s', u, u', deed, _, stored, stored', old, new⟩ :=
    Entry.passwordChange?_eq_some changed
  obtain ⟨earlier, x, between, _, _, _, _, _, split, registers, _⟩ :=
    Run.replaced_password_registered Deployment.unlicensed Deployment.usersUnique
      (whole ▸ run) exchanges deed stored stored' (by rw [old, new]; decide)
  exact ⟨past, y, whole, exchanges, changed, x, by simp [split], registers⟩

namespace Deployment

/-- A user with an account at Google. -/
def linked : User := { user with googleUserId := some "g-1" }

/-- A visitor with the user's account at Google, which has another email by now, chooses a
password. -/
def accountThenPassword : List Entry × System :=
  System.play service
    (viaGoogle ⟨"g-1", "ann@home.test", true, none, none, none⟩ 0 0 ++ newPassword 5 2 ++
      [.arrive context .exchange, turn none 9 3])
    { store := store (only linked) (some organization.id) }

end Deployment

/-- Without the exceptions it fails: the user of a redeemed account loses its password to one that
no reset code was verified for. -/
theorem Run.password_replaced_without_reset :
    ¬ ∀ (v : Service) (start : Store) (sys : System) (past later : List Entry) (y : Entry)
      (id : Uuid) (m : Moment) (s s' : Store) (u u' : User),
        (∀ r ∈ start.intermediateSessions.rows, r.Unlicensed) → start.UsersUnique →
          Run TenantChange v { store := start } (past ++ y :: later) sys →
            y.exchanges id = true → y.deed = .committed m s s' →
              s.users.get? u.id = some u → u.passwordHash.isSome = true →
                s'.users.get? u.id = some u' → u'.passwordHash ≠ u.passwordHash →
                  ∃ earlier x between, past = earlier ++ x :: between ∧
                    x.registersPassword id = true ∧
                      ∃ w ∈ earlier, w.verifiesResetCode id = true := by
  intro claim
  have run : Run TenantChange Deployment.service
      { store := Deployment.store (Deployment.only Deployment.linked)
          (some Deployment.organization.id) }
      Deployment.accountThenPassword.1 Deployment.accountThenPassword.2 := System.run_play _ _
  have turns : Deployment.accountThenPassword.1.map (fun x =>
      (x.exchanges Deployment.session.id, x.verifiesResetCode Deployment.session.id,
        x.passwordChange? Deployment.user.id)) =
        Deployment.accountThenPassword.1.dropLast.map (fun x => (false, false,
          x.passwordChange? Deployment.user.id)) ++
          [(true, false, some (some "correct horse", some "battery staple"))] := by
    decide +kernel
  obtain ⟨past, ended, whole, unverified, ends⟩ := List.map_eq_append_iff.mp turns
  obtain ⟨y, rfl, last⟩ := List.map_eq_singleton_iff.mp ends
  simp only [Prod.mk.injEq] at last
  obtain ⟨exchanges, _, changed⟩ := last
  obtain ⟨m, s, s', u, u', deed, _, stored, stored', old, new⟩ :=
    Entry.passwordChange?_eq_some changed
  obtain ⟨earlier, x, between, rfl, _, w, member, verifies⟩ :=
    claim _ _ _ _ _ _ _ _ _ _ u u' Deployment.unlicensed Deployment.usersUnique (whole ▸ run)
      exchanges deed stored (by rw [old]; rfl) stored' (by rw [old, new]; decide)
  have none : ∀ fact ∈ (earlier ++ x :: between).map (fun x =>
      (x.exchanges Deployment.session.id, x.verifiesResetCode Deployment.session.id,
        x.passwordChange? Deployment.user.id)), fact.2.1 = false := by
    rw [unverified]
    intro fact listed
    obtain ⟨_, _, rfl⟩ := List.mem_map.mp listed
    rfl
  have quiet := none _ (List.mem_map.mpr ⟨w, List.mem_append_left _ member, rfl⟩)
  exact absurd (quiet.symm.trans verifies) (by decide)

end Vestibule
