import Vestibule.Proofs.FailedLogin
import Vestibule.Proofs.PasswordReplacement

/-! A verified reset code licenses one registration of a password. The license is a flag that three
steps share, and a registration looks at it twice; what counts is that it is there when the
registration is written, which takes it away. -/

namespace Vestibule

/-- What a step has to do with the license to replace a password. -/
inductive LicenseUse where
  | codeIssued
  | codeVerified
  | registered
  deriving DecidableEq, Repr

/-- Whether a session holds the license after it. -/
def LicenseUse.licenses : LicenseUse → Bool
  | codeVerified => true
  | codeIssued | registered => false

def LoginRequest.licenseUse? : LoginRequest → Option LicenseUse
  | issueResetCode => some .codeIssued
  | verifyResetCode _ => some .codeVerified
  | registerPassword _ => some .registered
  | _ => none

/-- What the turn committed that has to do with the license of a session. -/
def Entry.licenseUse? (x : Entry) (id : Uuid) : Option LicenseUse :=
  if x.context.intermediateSessionId = id then x.taken?.bind LoginRequest.licenseUse? else none

/-- Everything that was committed that has to do with the license of a session. -/
def licenseUses (past : List Entry) (id : Uuid) : List LicenseUse :=
  past.filterMap (·.licenseUse? id)

/-- Whether the request has succeeded with what has to do with the license of a session. -/
def Flight.succeeded (f : Flight) (id : Uuid) (u : LicenseUse) : Bool :=
  match f.call, f.rest.answer? with
  | .login _ request, some (.ok _) =>
    f.context.intermediateSessionId == id && request.licenseUse? == some u
  | _, _ => false

/-- How many requests have succeeded with it. -/
def System.succeeded (sys : System) (id : Uuid) (u : LicenseUse) : Nat :=
  sys.flights.countP (·.succeeded id u)

/-- Whether there is a password that a registration on the session would replace: one waits there,
or the active user with its email in its organization has one. -/
def Store.holdsPassword (s : Store) (id : Uuid) : Bool :=
  (s.intermediateSessions.get? id).any fun r =>
    r.stagedPasswordHash.isSome || r.organizationId.any fun organizationId =>
      r.email.any fun email => (s.userByEmail? organizationId email).any (·.passwordHash.isSome)

/-- Whether the turn registered a password on the session while there was one to replace. -/
def Entry.replacesPassword (x : Entry) (id : Uuid) : Bool :=
  match x.deed with
  | .committed _ s _ => x.licenseUse? id == some .registered && s.holdsPassword id
  | _ => false

/-- The registration of turn `n` spends the license that the verification of turn `k` gave: nothing
that was committed between them has to do with the license. -/
structure Spends (past : List Entry) (id : Uuid) (k n : Nat) : Prop where
  before : k < n
  verified : ∃ w, past[k]? = some w ∧ w.licenseUse? id = some .codeVerified
  registered : ∃ x, past[n]? = some x ∧ x.licenseUse? id = some .registered
  between : ∀ j y, k < j → j < n → past[j]? = some y → y.licenseUse? id = none

/-- A license is spent by one registration. -/
theorem Spends.unique {past : List Entry} {id : Uuid} {k n n' : Nat} (first : Spends past id k n)
    (second : Spends past id k n') : n = n' := by
  have later : ∀ {n n'}, Spends past id k n → Spends past id k n' → ¬ n < n' := by
    intro n n' first second less
    obtain ⟨x, listed, registered⟩ := first.registered
    cases (second.between n x first.before less listed).symm.trans registered
  have := later first second
  have := later second first
  omega

theorem Spends.of_append {earlier between later : List Entry} {w x : Entry} {id : Uuid}
    (verified : w.licenseUse? id = some .codeVerified)
    (silent : ∀ z ∈ between, z.licenseUse? id = none)
    (registered : x.licenseUse? id = some .registered) :
    Spends ((earlier ++ w :: between) ++ x :: later) id earlier.length
      (earlier ++ w :: between).length where
  before := by simp
  verified := ⟨w, by simp, verified⟩
  registered := ⟨x, by simp, registered⟩
  between j y after before listed := by
    rw [List.getElem?_append_left before, List.getElem?_append_right (Nat.le_of_lt after)] at listed
    obtain ⟨d, apart⟩ := Nat.exists_eq_add_of_lt after
    rw [show j - earlier.length = d + 1 by omega, List.getElem?_cons_succ] at listed
    exact silent y (List.mem_of_getElem? listed)

variable {v : Service} {past : List Entry} {x : Entry} {s s' start : Store} {sys : System}
  {id : Uuid}

section

variable {salt : List UInt8} {m : Moment} {l : Loaded} {request : LoginRequest} {lesson : Lesson}
  {written : Store} {change : Audit.IntermediateSessionChange}
  {rest : ServiceOperation LoginReply}

/-- What a step makes of the license and of the password that waits. -/
theorem Service.Step.license {c : RequestContext} {heard : List ServiceDeed}
    (step : v.Step c salt heard m s l request lesson written change rest) :
    (lesson.apply l.session).resetCodeVerified =
        request.licenseUse?.elim l.session.resetCodeVerified LicenseUse.licenses ∧
      (lesson.apply l.session).stagedPasswordHash.isSome =
        if request.licenseUse? = some .registered then true
        else l.session.stagedPasswordHash.isSome := by
  cases step <;> simp [LoginRequest.licenseUse?, LicenseUse.licenses]

theorem Entry.Takes.licenseUse?
    (takes : x.Takes v s s' salt m l request lesson written change rest)
    (own : x.context.intermediateSessionId = id) : x.licenseUse? id = request.licenseUse? := by
  simp [Entry.licenseUse?, own, takes.taken?]

/-- A registration that is written has its license, or there is nothing that it replaces. -/
theorem Entry.Takes.licensed (takes : x.Takes v s s' salt m l request lesson written change rest)
    (registers : request.licenseUse? = some .registered)
    (holds : s.holdsPassword x.context.intermediateSessionId = true) :
    l.session.resetCodeVerified = true := by
  cases takes.step with
  | passwordStaged checked known licensed hashed =>
      rcases licensed with verified | ⟨unstaged, free⟩
      · exact verified
      · obtain ⟨bound, _⟩ := takes.admitted.organization_eq_some checked.organization
        simp only [Store.holdsPassword, takes.admitted.stored, bound, known, unstaged,
          Option.any_some, Option.isSome_none, Bool.false_or,
          Linking.any_password_eq_false.mpr free] at holds
        cases holds
  | _ => cases registers

end

theorem Entry.licenseUse?_eq_some {u : LicenseUse} (used : x.licenseUse? id = some u) :
    x.context.intermediateSessionId = id ∧
      ∃ request, x.taken? = some request ∧ request.licenseUse? = some u := by
  unfold Entry.licenseUse? at used
  split at used
  · rename_i own
    exact ⟨own, Option.bind_eq_some_iff.mp used⟩
  · cases used

/-- What a turn makes of the license and of the password that waits. -/
theorem Entry.Did.license {r' : IntermediateSession} (did : x.Did v s s')
    (stored : s'.intermediateSessions.get? id = some r') :
    ∃ r, s.intermediateSessions.get? id = some r ∧
      r'.resetCodeVerified =
        (x.licenseUse? id).elim r.resetCodeVerified LicenseUse.licenses ∧
      r'.stagedPasswordHash.isSome =
        if x.licenseUse? id = some .registered then true else r.stagedPasswordHash.isSome := by
  cases used : x.licenseUse? id with
  | some u =>
      obtain ⟨own, request, taken, _⟩ := Entry.licenseUse?_eq_some used
      obtain ⟨_, _, l, _, _, _, _, takes⟩ := did.taken taken
      have after := takes.taught
      rw [own] at after
      cases after.symm.trans stored
      refine ⟨l.session, own ▸ takes.admitted.stored, ?_⟩
      rw [← used, takes.licenseUse? own]
      exact takes.step.license
  | none =>
      obtain ⟨r, before, learns⟩ := did.learns stored
      refine ⟨r, before, ?_⟩
      cases learns with
      | kept | exchanged => simp
      | taught own record takes =>
          subst record
          rw [← used, takes.licenseUse? own]
          exact takes.step.license

theorem Entry.replacesPassword_iff :
    x.replacesPassword id = true ↔ x.licenseUse? id = some .registered ∧
      ∃ m s s', x.deed = .committed m s s' ∧ s.holdsPassword id = true := by
  unfold Entry.replacesPassword
  cases x.deed <;> simp [and_assoc]

theorem getLast?_licenseUses_append :
    (licenseUses (past ++ [x]) id).getLast? =
      (x.licenseUse? id).or (licenseUses past id).getLast? := by
  cases used : x.licenseUse? id <;> simp [licenseUses, used]

theorem count_licenseUses_append {u : LicenseUse} :
    (licenseUses (past ++ [x]) id).count u =
      (licenseUses past id).count u + if x.licenseUse? id = some u then 1 else 0 := by
  cases used : x.licenseUse? id with
  | none => simp [licenseUses, used]
  | some w => by_cases same : w = u <;> simp [licenseUses, used, same]

/-- A session holds the license where the last that had to do with it was a verification. Licenses
and registrations balance: a registration takes a license away, or it is the first. -/
structure LicenseKept (id : Uuid) (past : List Entry) (s : Store) : Prop where
  granted : ∀ r, s.intermediateSessions.get? id = some r → r.resetCodeVerified = true →
    (licenseUses past id).getLast? = some .codeVerified
  balance : ∀ r, s.intermediateSessions.get? id = some r →
    (licenseUses past id).count .registered + r.resetCodeVerified.toNat ≤
      (licenseUses past id).count .codeVerified + r.stagedPasswordHash.isSome.toNat
  bound : (licenseUses past id).count .registered ≤ (licenseUses past id).count .codeVerified + 1

namespace LicenseKept

/-- A registration that replaces a password finds the license. -/
theorem licensed (kept : LicenseKept id past s) (did : x.Did v s s')
    (registers : x.licenseUse? id = some .registered) (holds : s.holdsPassword id = true) :
    (licenseUses past id).getLast? = some .codeVerified := by
  obtain ⟨rfl, request, taken, used⟩ := Entry.licenseUse?_eq_some registers
  obtain ⟨_, _, l, _, _, _, _, takes⟩ := did.taken taken
  exact kept.granted l.session takes.admitted.stored (takes.licensed used holds)

/-- Before a registration there were no more of them than verifications: it finds the license, or no
password waits. -/
theorem room (kept : LicenseKept id past s) (did : x.Did v s s')
    (registers : x.licenseUse? id = some .registered) :
    (licenseUses past id).count .registered ≤ (licenseUses past id).count .codeVerified := by
  obtain ⟨rfl, request, taken, used⟩ := Entry.licenseUse?_eq_some registers
  obtain ⟨_, _, l, _, _, _, _, takes⟩ := did.taken taken
  have balance := kept.balance l.session takes.admitted.stored
  cases holds : s.holdsPassword x.context.intermediateSessionId with
  | true =>
      rw [takes.licensed used holds, Bool.toNat_true] at balance
      have := Bool.toNat_le l.session.stagedPasswordHash.isSome
      omega
  | false =>
      simp only [Store.holdsPassword, takes.admitted.stored, Option.any_some, Bool.or_eq_false_iff]
        at holds
      rw [holds.1, Bool.toNat_false] at balance
      omega

theorem turn (kept : LicenseKept id past s) (did : x.Did v s s') :
    LicenseKept id (past ++ [x]) s' := by
  constructor
  · intro r' stored' verified
    obtain ⟨r, stored, license, _⟩ := did.license stored'
    rw [verified] at license
    rw [getLast?_licenseUses_append]
    cases used : x.licenseUse? id with
    | none =>
        rw [used] at license
        exact kept.granted r stored license.symm
    | some u =>
        rw [used] at license
        cases u with
        | codeVerified => rfl
        | codeIssued | registered => cases license
  · intro r' stored'
    obtain ⟨r, stored, license, waits⟩ := did.license stored'
    have balance := kept.balance r stored
    have licenses := Bool.toNat_le r.resetCodeVerified
    rw [count_licenseUses_append, count_licenseUses_append, license, waits]
    cases used : x.licenseUse? id with
    | none => simpa using balance
    | some u =>
        cases u with
        | codeIssued | codeVerified =>
            simp [LicenseUse.licenses]
            omega
        | registered =>
            have room := kept.room did used
            simpa [LicenseUse.licenses] using room
  · have bound := kept.bound
    rw [count_licenseUses_append, count_licenseUses_append]
    split
    · rename_i registers
      have room := kept.room did registers
      omega
    · omega

end LicenseKept

theorem Run.licenseKept (run : Run TenantChange v { store := start } past sys)
    (blank : ∀ r, start.intermediateSessions.get? id = some r → r.Unlicensed) :
    LicenseKept id past sys.store := by
  refine run.invariant System.sound_idle (P := LicenseKept id) ⟨?_, ?_, ?_⟩ ?_ ?_
  · intro r stored verified
    cases (blank r stored).2.symm.trans verified
  · intro r stored
    simp [licenseUses, (blank r stored).1, (blank r stored).2]
  · simp [licenseUses]
  · exact fun past s x s' kept did => kept.turn did
  · rintro past s s' ⟨granted, balance, bound⟩ changed
    exact ⟨changed.intermediateSessions ▸ granted, changed.intermediateSessions ▸ balance, bound⟩

section

variable {others : Store → Store → Prop} {t : Turn serviceInterface} {i : Nat} {sys' : System}
  {f : Flight} {u : LicenseUse}

theorem Flight.succeeded_iff : f.succeeded id u = true ↔
    ∃ salt request reply, f.call = .login salt request ∧ f.rest.answer? = some (.ok reply) ∧
      f.context.intermediateSessionId = id ∧ request.licenseUse? = some u := by
  unfold succeeded
  constructor
  · intro succeeded
    split at succeeded
    · rename_i salt request reply asked ended
      simp only [Bool.and_eq_true, beq_iff_eq] at succeeded
      exact ⟨salt, request, reply, asked, ended, succeeded⟩
    · cases succeeded
  · rintro ⟨salt, request, reply, asked, ended, own, used⟩
    simp [asked, ended, own, used]

theorem LoginRequest.writesFirst_of_licenseUse? {request : LoginRequest}
    (used : request.licenseUse? = some u) (late : u ≠ .codeIssued) :
    request.writesFirst = false := by
  cases request with
  | issueResetCode =>
      cases used
      exact absurd rfl late
  | registerPassword | verifyResetCode => rfl
  | _ => cases used

/-- A registration or a verification succeeds in the turn that commits it. -/
theorem System.turn?_succeeded (id : Uuid) (run : Run others v { store := start } past sys)
    (taken : sys.turn? t i = some (x, sys')) (flying : sys'.flights[i]? = some f)
    (late : u ≠ .codeIssued) : f.succeeded id u = true ↔ x.licenseUse? id = some u := by
  have onward := run.turn t i taken
  obtain ⟨s, s', did⟩ : ∃ s s', x.Did v s s' := onward.did (by simp)
  obtain ⟨g, deed, rest, _, flew, _, rfl, rfl⟩ := System.turn?_eq_some.mp taken
  have bound : i < sys.flights.length := (List.getElem?_eq_some_iff.mp flew).1
  have left : f = { g with heard := g.heard ++ [deed], rest := rest } := by
    simpa [List.getElem?_set_self bound] using flying.symm
  subst left
  rw [Flight.succeeded_iff]
  constructor
  · rintro ⟨salt, request, reply, asked, ended, own, used⟩
    rcases onward.writes_last flying asked (LoginRequest.writesFirst_of_licenseUse? used late) with
      ⟨unfinished, _⟩ | ⟨before, y, answer, turns, _, ⟨m, s, s', committed, _⟩, _, _⟩
    · exact absurd ended (unfinished reply)
    · rw [List.filter_append, List.filter_cons_of_pos (by simp), List.filter_nil] at turns
      obtain ⟨_, same⟩ := List.append_inj' turns rfl
      cases same
      simp only at asked ended own committed
      simp [Entry.licenseUse?, Entry.taken?, asked, ended, own, committed, used]
  · intro used
    obtain ⟨own, request, taken, uses⟩ := Entry.licenseUse?_eq_some used
    obtain ⟨salt, m, l, lesson, written, change, op, takes⟩ := did.taken taken
    obtain ⟨reply, rfl⟩ :=
      takes.step.finished (LoginRequest.writesFirst_of_licenseUse? uses late)
    have ended := congrArg Operation.answer? takes.left
    exact ⟨salt, request, .login reply, takes.asked, ended, own, uses⟩

/-- So many requests have succeeded as were committed. -/
theorem Run.succeeded_eq (run : Run others v { store := start } past sys)
    (late : u ≠ .codeIssued) : sys.succeeded id u = (licenseUses past id).count u := by
  induction run with
  | start => rfl
  | @arrive past sys run c call ih =>
      have unanswered : Flight.succeeded ⟨c, call, [], v.serve c call⟩ id u = false := by
        rw [Bool.eq_false_iff, ne_eq, Flight.succeeded_iff]
        rintro ⟨salt, request, reply, asked, ended, _⟩
        have onSession : call.onSession = true := congrArg Call.onSession asked
        exact (Service.serve_writesOnce onSession).unfinished reply ended
      simpa [System.succeeded, System.arrive, unanswered] using ih
  | @turn past sys sys' x run t i taken ih =>
      obtain ⟨f, deed, rest, s', flying, stepped, rfl, rfl⟩ := System.turn?_eq_some.mp taken
      obtain ⟨bound, rfl⟩ := List.getElem?_eq_some_iff.mp flying
      have under : (sys.flights[i]).succeeded id u = false := by
        rw [Bool.eq_false_iff, ne_eq, Flight.succeeded_iff]
        rintro ⟨_, _, reply, _, ended, _⟩
        cases (Operation.answer?_of_step? stepped).symm.trans ended
      have after := System.turn?_succeeded id run taken (List.getElem?_set_self bound) late
      rw [count_licenseUses_append, ← ih, System.succeeded, List.countP_set bound, under,
        if_neg Bool.false_ne_true, Nat.sub_zero, ← System.succeeded]
      simp only [after]
  | change run changed ih => exact ih

end

/-- The last turn that had to do with the license. -/
theorem exists_of_getLast?_licenseUses {u : LicenseUse}
    (last : (licenseUses past id).getLast? = some u) :
    ∃ earlier w later, past = earlier ++ w :: later ∧ w.licenseUse? id = some u ∧
      ∀ z ∈ later, z.licenseUse? id = none := by
  obtain ⟨first, uses⟩ := List.getLast?_eq_some_iff.mp last
  obtain ⟨before, rest, rfl, _, onward⟩ := List.filterMap_eq_append_iff.mp uses
  obtain ⟨idle, w, later, rfl, _, used, silent⟩ := List.filterMap_eq_cons_iff.mp onward
  exact ⟨before ++ idle, w, later, by simp, used, List.filterMap_eq_nil_iff.mp silent⟩

theorem exists_append_of_getElem? {n : Nat} (listed : past[n]? = some x) :
    ∃ before after, past = before ++ x :: after ∧ before.length = n := by
  obtain ⟨bound, rfl⟩ := List.getElem?_eq_some_iff.mp listed
  refine ⟨past.take n, past.drop (n + 1), ?_, List.length_take_of_le (Nat.le_of_lt bound)⟩
  rw [List.getElem_cons_drop, List.take_append_drop]

/-- A license is spent once. On a session that starts without a license and without a password that
waits, no more requests succeed in registering a password than in verifying a reset code, and one;
and each registration that replaces a password, one that waits or one that the user with the
session's email has, spends the license of a verification that no other registration spends, with no
reset code issued in between. -/
theorem Run.license_spent_once (run : Run TenantChange v { store := start } past sys)
    (blank : ∀ r, start.intermediateSessions.get? id = some r → r.Unlicensed) :
    sys.succeeded id .registered ≤ sys.succeeded id .codeVerified + 1 ∧
    (∀ n x, past[n]? = some x → x.replacesPassword id = true → ∃ k, Spends past id k n) ∧
    ∀ k n n', Spends past id k n → Spends past id k n' → n = n' := by
  refine ⟨?_, ?_, fun _ _ _ => Spends.unique⟩
  · rw [run.succeeded_eq (by decide), run.succeeded_eq (by decide)]
    exact (run.licenseKept blank).bound
  · intro n x listed replaces
    obtain ⟨registers, m, s, s', deed, holds⟩ := Entry.replacesPassword_iff.mp replaces
    obtain ⟨before, after, rfl, rfl⟩ := exists_append_of_getElem? listed
    obtain ⟨sys₁, sys₂, t, i, begun, took, _⟩ := run.split
    obtain ⟨_, did⟩ := (begun.sound System.sound_idle).turn took
    obtain ⟨rfl, rfl, _⟩ := did.wrote deed
    obtain ⟨first, w, between, rfl, verified, silent⟩ :=
      exists_of_getLast?_licenseUses ((begun.licenseKept blank).licensed did registers holds)
    exact ⟨first.length, .of_append verified silent registers⟩

namespace Deployment

/-- Two requests register a password at once, with one license between them. -/
def rivals : List Entry × System :=
  System.play service
    [.arrive context (.login [] (.issueEmailChallenge user.email)), turn none 0 0, turn none 1 0,
      .arrive context (.login [] (.verifyEmailChallenge (code .emailVerificationCode 0))),
      turn none 2 1,
      .arrive context (.login [] .issueResetCode), turn none 3 2, turn none 4 2,
      .arrive context (.login [] (.verifyResetCode (code .passwordResetCode 3))), turn none 5 3,
      .arrive context (.login [] (.registerPassword "battery staple")),
      .arrive context (.login [] (.registerPassword "wrong horse")),
      turn none 6 4, turn none 7 5, turn none 8 4, turn none 9 5, turn none 10 4, turn none 11 5,
      turn none 12 4, turn none 13 5]
    { store := store (only user) (some organization.id) }

end Deployment

theorem Run.license_spent_once_of_rivals :
    (∃ k, Spends Deployment.rivals.1 Deployment.session.id k 12) ∧
      Deployment.rivals.2.flights.map (fun f => f.rest.answer?.map (·.isOk)) =
        [some true, some true, some true, some true, some true, some false] := by
  have run : Run TenantChange Deployment.service
      { store := Deployment.store (Deployment.only Deployment.user)
          (some Deployment.organization.id) }
      Deployment.rivals.1 Deployment.rivals.2 := System.run_play _ _
  have turn : Deployment.rivals.1[12]?.map (·.replacesPassword Deployment.session.id) =
      some true := by
    decide +kernel
  obtain ⟨x, listed, replaces⟩ := Option.map_eq_some_iff.mp turn
  have blank : ∀ r, (Deployment.store (Deployment.only Deployment.user)
      (some Deployment.organization.id)).intermediateSessions.get? Deployment.session.id = some r →
        r.Unlicensed :=
    fun r stored => Deployment.unlicensed r (Table.mem_of_get? stored)
  obtain ⟨_, spends, _⟩ := Run.license_spent_once run blank
  exact ⟨spends 12 x listed replaces, by decide +kernel⟩

end Vestibule
