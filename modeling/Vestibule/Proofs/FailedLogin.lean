import Vestibule.Proofs.AuditOnce
import Vestibule.Proofs.Ending

/-! What a login request that failed leaves behind. It has written nothing, with two exceptions: a
mismatch with a stored password is counted, and a code that could not be mailed stays issued. -/

namespace Vestibule

/-- A mismatch of one user is counted: nothing else is written but the count, the lockout and the
time of the update, and one event. -/
def Store.Counts (s s' : Store) (now : Instant) (u : User) : Prop :=
  ∃ attempts lockout event, s' = { s with
    users := s.users.replace { u with
      failedPasswordAttempts := attempts
      lockoutExpireTime := lockout
      updateTime := now }
    auditLog := s.auditLog ++ [event] }

/-- What the turns of a login request did that failed for this reason. -/
inductive FailedLogin (v : Service) (c : RequestContext) :
    LoginRequest → List Entry → RequestError → Prop where
  | unchanged {request : LoginRequest} {turns : List Entry} {reason : RequestError}
      (unchanged : ∀ x ∈ turns, x.deed.Unchanged) : FailedLogin v c request turns reason
  | mismatched {email : Option String} {password : String} {x : Entry} {m : Moment}
      {s s' : Store} {u : User} {reason : RequestError} (deed : x.deed = .committed m s s')
      (stored : s.users.get? u.id = some u) (compared : v.matcher.Compares m.now u password false)
      (told : reason = .incorrectPassword ∨ reason = .failedPrecondition .lockedOut)
      (counts : s.Counts s' m.now u) : FailedLogin v c (.verifyPassword email password) [x] reason
  | undelivered {request : LoginRequest} {x y : Entry} {m : Moment} {s s' : Store}
      {message : EmailMessage} {call : ProviderCall} {failure : ProviderError}
      (issues : (∃ email, request = .issueEmailChallenge email) ∨ request = .issueResetCode)
      (deed : x.deed = .committed m s s')
      (took : ∀ salt heard, v.Took c salt heard m s s' request
        ((ServiceOperation.send message call).map fun _ => .sent))
      (answered : y.deed = .answered (I := serviceInterface) (.sendMail message)
        (.error failure : Except ProviderError Unit))
      (alike : ∀ t store,
        (t.reply (.sendMail message) = some (.error failure : Except ProviderError Unit) →
          x.rest.step? t store = some (y.deed, y.rest, store)) ∧
        (t.reply (.sendMail message) = some (.ok () : Except ProviderError Unit) →
          ∃ deed, x.rest.step? t store = some (deed, .finish (.ok (.login .sent)), store))) :
      FailedLogin v c request [x, y] (.ofProvider call failure)

/-- Whether a request of this kind may still fail after it has written. -/
def LoginRequest.writesFirst : LoginRequest → Bool
  | issueEmailChallenge _ | verifyPassword .. | issueResetCode => true
  | _ => false

variable {others : Store → Store → Prop} {v : Service} {c : RequestContext} {start s s' : Store}
  {sys : System} {past turns : List Entry} {x : Entry} {salt : List UInt8}
  {request : LoginRequest} {reason : RequestError}

theorem Service.Audited.ne {m : Moment} (audited : v.Audited c m s s') : s' ≠ s := by
  rintro rfl
  obtain ⟨_, e, logged, _⟩ := audited
  simp at logged

theorem CredentialMatcher.miss?_counts {k : CredentialMatcher} {now : Instant} {u : User}
    {w : Mismatch} (missed : k.miss? now u = some w) :
    (∃ attempts lockout, w.user = { u with
      failedPasswordAttempts := attempts
      lockoutExpireTime := lockout
      updateTime := now }) ∧
    (w.reason = .incorrectPassword ∨ w.reason = .failedPrecondition .lockedOut) := by
  rcases miss?_eq_some missed with ⟨_, rfl⟩ | ⟨_, _, _, rfl⟩
  · exact ⟨⟨_, _, rfl⟩, .inl rfl⟩
  · exact ⟨⟨_, _, rfl⟩, .inr rfl⟩

theorem Service.Missed.counts {m : Moment} {email : Option String} {password : String}
    (missed : v.Missed c m s s' email password reason) :
    ∃ u, s.users.get? u.id = some u ∧ v.matcher.Compares m.now u password false ∧
      (reason = .incorrectPassword ∨ reason = .failedPrecondition .lockedOut) ∧
        s.Counts s' m.now u := by
  obtain ⟨l, u, w, admitted, owner, compared, missed, _, rfl, rfl⟩ := missed
  obtain ⟨⟨attempts, lockout, counted⟩, told⟩ := CredentialMatcher.miss?_counts missed
  refine ⟨u, owner.stored.1, compared, told, attempts, lockout,
    w.change.toEvent m.eventId m.now c.projectId c.actor, ?_⟩
  rw [Store.missed, counted]
  rfl

/-- The step of any other request is its last. -/
theorem Service.Step.finished {heard : List ServiceDeed} {m : Moment} {l : Loaded}
    {lesson : Lesson} {written : Store} {change : Audit.IntermediateSessionChange}
    {rest : ServiceOperation LoginReply}
    (step : v.Step c salt heard m s l request lesson written change rest)
    (late : request.writesFirst = false) : ∃ reply, rest = .finish (.ok reply) := by
  cases step with
  | challengeIssued | resetCodeIssued => cases late
  | _ => exact ⟨_, rfl⟩

/-- A turn of any other request that writes brings it to a success. -/
theorem Entry.Did.unchanged_or_finished (did : x.Did v s s') (asked : x.call = .login salt request)
    (late : request.writesFirst = false) :
    x.deed.Unchanged ∨ ∃ reply, x.rest = .finish (.ok reply) := by
  rcases did with ⟨m, deed, wrote⟩ | ⟨_, idle⟩
  · rw [asked] at wrote
    obtain ⟨rest, commit, left⟩ := wrote.of_login
    rw [deed, left]
    generalize x.heard = heard at commit
    cases commit with
    | read => exact .inl (by simp)
    | took took =>
        obtain ⟨l, lesson, written, change, _, step, _, _⟩ := took
        obtain ⟨reply, rfl⟩ := step.finished late
        exact .inr ⟨_, rfl⟩
    | missed => cases late
  · exact .inl (.of_ne idle)

/-- A code is issued, and the mail with it is not delivered. -/
theorem Leads.of_issue {body : Transaction EmailMessage} {call : ProviderCall}
    (issues : (∃ email, request = .issueEmailChallenge email) ∨ request = .issueResetCode)
    (took : ∀ m s message s', body.Commits m s message s' → ∀ salt heard,
      v.Took c salt heard m s s' request
        ((ServiceOperation.send message call).map fun _ => .sent))
    (leads : Leads (((Operation.transact body fun message =>
      ServiceOperation.send message call).map fun _ => .sent).map .login) turns
        (.finish (.error reason))) : FailedLogin v c request turns reason := by
  rcases leads.of_transact with ⟨x, m, s, e, rfl, deed, _⟩ |
    ⟨x, later, m, s, message, s', rfl, deed, left, committed, onward⟩
  · refine .unchanged fun y member => ?_
    cases List.mem_singleton.mp member
    exact .of_ne (by simp [deed])
  · obtain ⟨y, last, reply, rfl, answered, ended, onward⟩ := onward.of_await
    match reply with
    | .ok _ => cases onward.of_finish.2
    | .error failure =>
        obtain ⟨rfl, same⟩ := onward.of_finish
        cases same
        refine .undelivered issues deed (took m s message s' committed) answered
          fun t store => ⟨fun replied => ?_, fun replied => ?_⟩
        · rw [left, answered, ended]
          simp [ServiceOperation.send, Operation.map, Operation.step?, replied]
        · rw [left]
          simp [ServiceOperation.send, Operation.map, Operation.step?, replied, Except.map]

/-- The requests that may still fail after they have written. -/
theorem Leads.of_failed
    (leads : Leads (v.serve c (.login salt request)) turns (.finish (.error reason)))
    (early : request.writesFirst = true) : FailedLogin v c request turns reason := by
  cases request with
  | issueEmailChallenge email =>
      by_cases formed : email.toList.contains '@' = true
      · simp only [Service.serve, Service.perform, Service.issueEmailChallenge, formed,
          if_true] at leads
        exact leads.of_issue (.inl ⟨email, rfl⟩) fun _ _ _ _ committed _ _ =>
          Service.issueEmailChallengeBody_took committed
      · simp only [Service.serve, Service.perform, Service.issueEmailChallenge, formed] at leads
        obtain ⟨rfl, _⟩ := leads.of_finish
        exact .unchanged (by simp)
  | issueResetCode =>
      exact leads.of_issue (.inr rfl) fun _ _ _ _ committed _ _ =>
        Service.issueResetCodeBody_took committed
  | verifyPassword email password =>
      rcases leads.of_transact with ⟨x, m, s, e, rfl, deed, _⟩ |
        ⟨x, later, m, s, result, s', rfl, deed, _, committed, onward⟩
      · refine .unchanged fun y member => ?_
        cases List.mem_singleton.mp member
        exact .of_ne (by simp [deed])
      · obtain ⟨rfl, ended⟩ := onward.of_finish
        cases result with
        | ok => cases ended
        | error =>
            cases ended
            obtain ⟨u, stored, compared, told, counts⟩ :=
              (Service.verifyPasswordBody_missed committed).counts
            exact .mismatched deed stored compared told counts
  | _ => cases early

/-- A login request that failed has changed nothing, but for two exceptions. One that was answered
with a mismatch has counted it, for the user with the stored password. One that issued a code and
could not mail it has left what it would have left, had the mail been delivered. -/
theorem Run.failed_login (run : Run others v { store := start } past sys) {i : Nat} {f : Flight}
    (flying : sys.flights[i]? = some f) (asked : f.call = .login salt request)
    (failed : f.rest.failure? = some reason) :
    FailedLogin v f.context request (past.filter (·.flight == i)) reason := by
  have leads := run.leads i f flying
  have own := (run.follows.2 i f flying).own
  rw [asked, Operation.failure?_eq_some.mp failed] at leads
  by_cases early : request.writesFirst = true
  · exact leads.of_failed early
  · refine .unchanged fun x member => ?_
    obtain ⟨listed, same⟩ := List.mem_filter.mp member
    obtain ⟨s, s', did⟩ := run.did listed
    obtain ⟨_, call⟩ := own x listed (by simpa using same)
    rcases did.unchanged_or_finished (call.trans asked) (by simpa using early) with
      unchanged | ⟨reply, finished⟩
    · exact unchanged
    · obtain ⟨before, after, turns⟩ := List.append_of_mem member
      rw [turns] at leads
      have rest := leads.after
      rw [finished] at rest
      cases rest.of_finish.2

/-- Any other request writes last: it leaves the store as it is, until a turn that writes brings it
to a success. -/
theorem Run.writes_last (run : Run others v { store := start } past sys) {i : Nat} {f : Flight}
    (flying : sys.flights[i]? = some f) (asked : f.call = .login salt request)
    (late : request.writesFirst = false) :
    (f.rest.Unfinished ∧ ∀ x ∈ past.filter (·.flight == i), x.deed.Unchanged) ∨
    ∃ before x reply, past.filter (·.flight == i) = before ++ [x] ∧
      (∀ y ∈ before, y.deed.Unchanged) ∧ x.deed.Writes (v.Audited f.context) ∧
        x.rest = .finish (.ok reply) ∧ f.rest = .finish (.ok reply) := by
  rcases run.writes_once flying (asked ▸ rfl) with
    unwritten | ⟨before, x, after, turns, writes, unchanged⟩
  · exact .inl unwritten
  · have member : x ∈ past.filter (·.flight == i) := by simp [turns]
    obtain ⟨listed, same⟩ := List.mem_filter.mp member
    obtain ⟨s, s', did⟩ := run.did listed
    obtain ⟨_, call⟩ := (run.follows.2 i f flying).own x listed (by simpa using same)
    rcases did.unchanged_or_finished (call.trans asked) late with still | ⟨reply, finished⟩
    · obtain ⟨m, s, s', deed, audited⟩ := writes
      exact absurd (still m s s' deed) audited.ne
    · have leads := run.leads i f flying
      rw [turns] at leads
      have ended := leads.after
      rw [finished] at ended
      obtain ⟨rfl, left⟩ := ended.of_finish
      have idle : ∀ y ∈ before, y.deed.Unchanged := fun y member => unchanged y (by simp [member])
      exact .inr ⟨before, x, reply, turns, idle, writes, finished, left⟩

namespace Deployment

/-- A login with a wrong password. -/
def mistyped : List Entry × System :=
  System.play service
    [.arrive context (.login [] (.verifyPassword (some user.email) "battery staple")),
      turn none 0 0]
    { store := store (only user) none }

end Deployment

theorem Run.failed_login_of_mismatch :
    FailedLogin Deployment.service Deployment.context
      (.verifyPassword (some Deployment.user.email) "battery staple") Deployment.mistyped.1
      .incorrectPassword ∧
    Deployment.mistyped.2.store.users.rows.map (·.failedPasswordAttempts) = [1] := by
  have run : Run TenantChange Deployment.service
      { store := Deployment.store (Deployment.only Deployment.user) none }
      Deployment.mistyped.1 Deployment.mistyped.2 := System.run_play _ _
  have ended : Deployment.mistyped.2.flights.map (fun f => (f.context, f.call, f.rest.failure?)) =
      [(Deployment.context,
        .login [] (.verifyPassword (some Deployment.user.email) "battery staple"),
        some .incorrectPassword)] := by
    decide +kernel
  have own : Deployment.mistyped.1.map (·.flight) = [0] := by decide +kernel
  obtain ⟨f, flights, fact⟩ := List.map_eq_singleton_iff.mp ended
  obtain ⟨x, turns, first⟩ := List.map_eq_singleton_iff.mp own
  simp only [Prod.mk.injEq] at fact
  obtain ⟨context, asked, failed⟩ := fact
  have told := Run.failed_login run (show Deployment.mistyped.2.flights[0]? = some f by
    simp [flights]) asked failed
  rw [context, turns] at told
  refine ⟨?_, by decide +kernel⟩
  simpa [turns, first] using told

end Vestibule
