import Vestibule.Proofs.FailedLogin

/-! No update is lost. Between the transaction that reads and the one that writes any number of
other requests may commit; what they left stays, whether the request succeeds or fails. -/

namespace Vestibule

/-- The first record with what a request in two phases may write taken from the second. An email, an
organization and a factor are only written where there is none. -/
def LoginRequest.overlay (r r' : IntermediateSession) : LoginRequest → IntermediateSession
  | oauthRedirect .. =>
    { r with
      oauthStateSha256 := r'.oauthStateSha256
      oauthStateTarget := r'.oauthStateTarget }
  | redeemOAuth (.provider provider) .. =>
    { r with
      oauthStateSha256 := r'.oauthStateSha256
      oauthStateTarget := r'.oauthStateTarget
      email := r.email.or r'.email
      googleUserId := if provider = .google then r'.googleUserId else r.googleUserId
      googleHostedDomain :=
        if provider = .google then r'.googleHostedDomain else r.googleHostedDomain
      microsoftUserId := if provider = .microsoft then r'.microsoftUserId else r.microsoftUserId
      githubUserId := if provider = .github then r'.githubUserId else r.githubUserId
      displayName := r'.displayName
      profilePictureUrl := r'.profilePictureUrl
      primaryAuthFactor := r.primaryAuthFactor.or r'.primaryAuthFactor }
  | redeemOAuth (.oidcConnection _) .. =>
    { r with
      oauthStateSha256 := r'.oauthStateSha256
      oauthStateTarget := r'.oauthStateTarget
      email := r.email.or r'.email
      organizationId := r.organizationId.or r'.organizationId
      verifiedOidcConnectionId := r'.verifiedOidcConnectionId
      displayName := r'.displayName
      profilePictureUrl := r'.profilePictureUrl
      primaryAuthFactor := r.primaryAuthFactor.or r'.primaryAuthFactor }
  | registerPassword _ =>
    { r with
      stagedPasswordHash := r'.stagedPasswordHash
      resetCodeVerified := r'.resetCodeVerified }
  | redeemSaml .. =>
    { r with
      email := r.email.or r'.email
      organizationId := r.organizationId.or r'.organizationId
      verifiedSamlConnectionId := r'.verifiedSamlConnectionId
      primaryAuthFactor := r.primaryAuthFactor.or r'.primaryAuthFactor }
  | _ => r

/-- A request in two phases writes what it may in the record of its session, as the store has it,
one event and at most one attested email. -/
def Store.Updates (s : Store) (c : RequestContext) (request : LoginRequest) (s' : Store) : Prop :=
  ∃ r r' event attested, s.intermediateSessions.get? c.intermediateSessionId = some r ∧
    r' = request.overlay r r' ∧ attested.length ≤ 1 ∧
      s' = { s with
        intermediateSessions := s.intermediateSessions.replace r'
        auditLog := s.auditLog ++ [event]
        verifiedEmails := s.verifiedEmails ++ attested }

variable {others : Store → Store → Prop} {v : Service} {c : RequestContext} {start s s' : Store}
  {sys sys' aside : System} {past : List Entry} {x : Entry} {salt : List UInt8}
  {request : LoginRequest}

theorem LoginRequest.writesFirst_of_twoPhase (phases : Service.twoPhase request = true) :
    request.writesFirst = false := by
  cases request with
  | registerPassword | oauthRedirect | redeemOAuth | redeemSaml => rfl
  | _ => cases phases

section

variable {heard : List ServiceDeed} {m : Moment} {l : Loaded} {lesson : Lesson} {written : Store}
  {change : Audit.IntermediateSessionChange} {rest : ServiceOperation LoginReply}

theorem or_eq_of_known {α : Type} {known : Option α} {a : α} (same : ∀ b ∈ known, b = a) :
    known.or (some a) = some a := by
  cases known with
  | none => rfl
  | some b => rw [same b rfl, Option.some_or]

theorem getD_getD {α : Type} (known : Option α) (a : α) :
    known.getD (known.getD a) = known.getD a := by
  cases known <;> rfl

/-- A step in two phases keeps within its part of the record. -/
theorem Service.Step.overlay (step : v.Step c salt heard m s l request lesson written change rest)
    (phases : twoPhase request = true) :
    lesson.apply l.session = request.overlay l.session (lesson.apply l.session) := by
  cases step with
  | passwordStaged | redirected => simp [LoginRequest.overlay]
  | @accountRedeemed provider _ _ _ _ _ _ _ _ _ known =>
      cases provider <;> simp [LoginRequest.overlay, or_eq_of_known known, getD_getD]
  | connectionRedeemed _ _ _ _ known bound | asserted _ _ known bound =>
      simp [LoginRequest.overlay, or_eq_of_known known, or_eq_of_known bound, getD_getD]
  | _ => cases phases

theorem Service.Step.attests (step : v.Step c salt heard m s l request lesson written change rest)
    (phases : twoPhase request = true) :
    ∃ attested, attested.length ≤ 1 ∧
      written = { s with verifiedEmails := s.verifiedEmails ++ attested } := by
  cases step with
  | passwordStaged | redirected | connectionRedeemed | asserted =>
      exact ⟨[], by simp, by simp⟩
  | accountRedeemed =>
      split
      · obtain ⟨attested, few, _, appended⟩ := Store.recordVerifiedEmail_append s _
        exact ⟨attested, few, appended⟩
      · exact ⟨[], by simp, by simp⟩
  | _ => cases phases

theorem Service.Took.updates (took : v.Took c salt heard m s s' request rest)
    (phases : twoPhase request = true) : s.Updates c request s' := by
  obtain ⟨l, lesson, written, change, admitted, step, _, rfl⟩ := took
  obtain ⟨attested, few, rfl⟩ := step.attests phases
  exact ⟨l.session, lesson.apply l.session, _, attested, admitted.stored, step.overlay phases, few,
    rfl⟩

end

/-- Two systems that differ in one request at most. -/
structure System.ApartFrom (i : Nat) (sys aside : System) : Prop where
  store : aside.store = sys.store
  length : aside.flights.length = sys.flights.length
  others : ∀ j, j ≠ i → aside.flights[j]? = sys.flights[j]?

namespace System.ApartFrom

variable {i j : Nat} {t : Turn serviceInterface}

theorem arrive (apart : sys.ApartFrom i aside) (v : Service) (c : RequestContext) (call : Call) :
    (sys.arrive v c call).ApartFrom i (aside.arrive v c call) := by
  refine ⟨apart.store, ?_, fun j other => ?_⟩
  · simp [System.arrive, apart.length]
  · simp only [System.arrive, List.getElem?_append, apart.length, apart.others j other]

theorem change (apart : sys.ApartFrom i aside) (s : Store) :
    ApartFrom i { sys with store := s } { aside with store := s } :=
  ⟨rfl, apart.length, apart.others⟩

/-- The request may take a turn that leaves the store as it is. -/
theorem skip (apart : sys.ApartFrom i aside) (taken : sys.turn? t i = some (x, sys'))
    (idle : x.deed.Unchanged) : sys'.ApartFrom i aside := by
  have same : sys'.store = sys.store := by
    rcases System.turn?_store taken with committed | ⟨_, same⟩
    · exact idle _ _ _ committed
    · exact same
  obtain ⟨f, deed, rest, s', flying, _, rfl, rfl⟩ := System.turn?_eq_some.mp taken
  refine ⟨apart.store.trans same.symm, ?_, fun j other => ?_⟩
  · simp [apart.length]
  · rw [apart.others j other, List.getElem?_set_ne (Ne.symm other)]

/-- Any other request takes the same turn in both. -/
theorem turn (apart : sys.ApartFrom i aside) (taken : sys.turn? t j = some (x, sys'))
    (other : j ≠ i) : ∃ aside', aside.turn? t j = some (x, aside') ∧ sys'.ApartFrom i aside' := by
  obtain ⟨f, deed, rest, s', flying, stepped, rfl, rfl⟩ := System.turn?_eq_some.mp taken
  have flying' := (apart.others j other).trans flying
  rw [← apart.store] at stepped
  refine ⟨_, System.turn?_eq_some.mpr ⟨f, deed, rest, s', flying', stepped, rfl, rfl⟩, rfl, ?_, ?_⟩
  · simp [apart.length]
  · intro k apart'
    simp only [List.getElem?_set, apart.length, apart.others k apart']

end System.ApartFrom

/-- Had a request that left the store as it was taken no turn, the run would have led to the same
store. -/
theorem Run.without {i : Nat} (run : Run others v { store := start } past sys)
    (idle : ∀ x ∈ past.filter (·.flight == i), x.deed.Unchanged) :
    ∃ aside, Run others v { store := start } (past.filter (·.flight != i)) aside ∧
      sys.ApartFrom i aside := by
  induction run with
  | start => exact ⟨_, .start, rfl, rfl, fun _ _ => rfl⟩
  | arrive run c call ih =>
      obtain ⟨aside, alone, apart⟩ := ih idle
      exact ⟨aside.arrive v c call, alone.arrive c call, apart.arrive v c call⟩
  | change run changed ih =>
      obtain ⟨aside, alone, apart⟩ := ih idle
      exact ⟨_, alone.change (apart.store.symm ▸ changed), apart.change _⟩
  | @turn past sys sys' x run t j taken ih =>
      rw [List.filter_append] at idle ⊢
      obtain ⟨aside, alone, apart⟩ := ih fun y member => idle y (List.mem_append_left _ member)
      have flight : x.flight = j := by
        obtain ⟨_, _, _, _, _, _, rfl, _⟩ := System.turn?_eq_some.mp taken
        rfl
      by_cases own : j = i
      · subst own
        have skipped : [x].filter (·.flight != j) = [] := by simp [flight]
        rw [skipped, List.append_nil]
        exact ⟨aside, alone, apart.skip taken (idle x (by simp [flight]))⟩
      · obtain ⟨aside', took, apart'⟩ := apart.turn taken own
        have kept : [x].filter (·.flight != i) = [x] := by simp [flight, own]
        rw [kept]
        exact ⟨aside', alone.turn t j took, apart'⟩

/-- The turn that is the last of some. -/
theorem exists_append_of_filter {p : Entry → Bool} {before : List Entry}
    (turns : past.filter p = before ++ [x]) :
    ∃ earlier later, past = earlier ++ x :: later ∧ p x = true ∧ earlier.filter p = before ∧
      ∀ y ∈ later, ¬ p y = true := by
  obtain ⟨first, rest, rfl, same, onward⟩ := List.filter_eq_append_iff.mp turns
  obtain ⟨second, later, rfl, foreign, holds, last⟩ := List.filter_eq_cons_iff.mp onward
  refine ⟨first ++ second, later, by simp, holds, ?_, List.filter_eq_nil_iff.mp last⟩
  rw [List.filter_append, same, List.filter_eq_nil_iff.mpr foreign, List.append_nil]

/-- No update is lost to a request in two phases, whatever the other requests and the other parties
do in between. As long as it has not succeeded, also where it fails for good, the store is what the
others made of it: without its turns the run leads to the same store. Where it succeeds, one turn,
its last, writes; the store is what the others made of it until then, and of that store the turn
rewrites nothing but what a request of its kind may. -/
theorem Run.no_lost_update (run : Run others v { store := start } past sys) {i : Nat} {f : Flight}
    (flying : sys.flights[i]? = some f) (asked : f.call = .login salt request)
    (phases : Service.twoPhase request = true) :
    (f.rest.Unfinished →
      ∃ aside, Run others v { store := start } (past.filter (·.flight != i)) aside ∧
        aside.store = sys.store) ∧
    ∀ reply, f.rest.answer? = some (.ok reply) →
      ∃ earlier x later aside m s', past = earlier ++ x :: later ∧ x.flight = i ∧
        (∀ y ∈ later, y.flight ≠ i) ∧
        Run others v { store := start } (earlier.filter (·.flight != i)) aside ∧
        x.deed = .committed m aside.store s' ∧ aside.store.Updates f.context request s' := by
  have own := (run.follows.2 i f flying).own
  rcases run.writes_last flying asked (LoginRequest.writesFirst_of_twoPhase phases) with
    ⟨unfinished, idle⟩ | ⟨before, x, reply, turns, idle, ⟨m, s, s', deed, _⟩, left, finished⟩
  · constructor
    · intro _
      obtain ⟨aside, alone, apart⟩ := run.without idle
      exact ⟨aside, alone, apart.store⟩
    · intro reply answered
      exact absurd answered (unfinished reply)
  · constructor
    · intro unfinished
      rw [finished] at unfinished
      exact absurd rfl (unfinished reply)
    · intro _ _
      obtain ⟨earlier, later, rfl, same, rfl, foreign⟩ := exists_append_of_filter turns
      have flight : x.flight = i := by simpa using same
      obtain ⟨context, call⟩ := own x (by simp) flight
      obtain ⟨sys₁, sys₂, t, j, begun, took, _⟩ := run.split
      obtain ⟨_, did⟩ := (begun.sound System.sound_idle).turn took
      obtain ⟨rfl, rfl, wrote⟩ := did.wrote deed
      rw [call, asked, left, context] at wrote
      obtain ⟨onward, commit, ended⟩ := wrote.of_login
      obtain ⟨_, answered⟩ := Operation.answer?_of_map (ended ▸ rfl :
        (onward.map Answer.login).answer? = some (.ok reply))
      have updates := (commit.of_answer answered).updates phases
      obtain ⟨aside, alone, apart⟩ := begun.without idle
      rw [← apart.store] at updates deed
      exact ⟨earlier, x, later, aside, m, sys₂.store, rfl, flight, by simpa using foreign, alone,
        deed, updates⟩

namespace Deployment

/-- While a visitor is at Google, a code is mailed on the same session. -/
def mailedMeanwhile : List Entry × System :=
  let google : OAuthTarget := .provider .google
  let identity : RedeemedIdentity := ⟨"g-1", user.email, true, none, none, none⟩
  System.play service
    [.arrive context (.login [] (.oauthRedirect google none)), turn none 0 0, turn none 1 0,
      .arrive context (.login [] (.redeemOAuth google "code" (code .oauthState 1) none)),
      turn none 2 1, turn (some identity) 3 1,
      .arrive context (.login [] (.issueEmailChallenge user.email)), turn none 4 2, turn none 5 2,
      turn none 6 1]
    { store := store (only user) none }

end Deployment

theorem Run.no_lost_update_of_mail :
    ∃ earlier x later aside m s', Deployment.mailedMeanwhile.1 = earlier ++ x :: later ∧
      Run TenantChange Deployment.service
        { store := Deployment.store (Deployment.only Deployment.user) none }
        (earlier.filter (·.flight != 1)) aside ∧
      x.deed = .committed m aside.store s' ∧
      aside.store.Updates Deployment.context (.redeemOAuth (.provider .google) "code"
        (Deployment.code .oauthState 1) none) s' ∧
      (Deployment.mailedMeanwhile.2.store.intermediateSessions.get? Deployment.session.id).map
        (fun r => (r.emailChallengeSha256.isSome, r.googleUserId)) = some (true, some "g-1") := by
  have run : Run TenantChange Deployment.service
      { store := Deployment.store (Deployment.only Deployment.user) none }
      Deployment.mailedMeanwhile.1 Deployment.mailedMeanwhile.2 := System.run_play _ _
  have ended : Deployment.mailedMeanwhile.2.flights[1]?.map (fun f =>
      (f.context, f.call, f.rest.answer?.map (·.isOk))) =
        some (Deployment.context, .login [] (.redeemOAuth (.provider .google) "code"
          (Deployment.code .oauthState 1) none), some true) := by
    decide +kernel
  obtain ⟨f, flying, fact⟩ := Option.map_eq_some_iff.mp ended
  simp only [Prod.mk.injEq, Option.map_eq_some_iff] at fact
  obtain ⟨context, asked, answer, answered, succeeded⟩ := fact
  have updates := (Run.no_lost_update run flying asked rfl).2
  cases answer with
  | error e => cases succeeded
  | ok reply =>
      obtain ⟨earlier, x, later, aside, m, s', whole, _, _, alone, deed, updates⟩ :=
        updates reply answered
      rw [context] at updates
      exact ⟨earlier, x, later, aside, m, s', whole, alone, deed, updates, by decide +kernel⟩

end Vestibule
