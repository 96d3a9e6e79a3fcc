import Vestibule.Proofs.Course

/-! What the tenants of a session allow. Every step that is committed was allowed by the policy in
force when it was written, except that the redemption of an OAuth code goes by the policy that its
request had read before it asked the provider. -/

namespace Vestibule

namespace Store

/-- Logins are open in the project, and in the organization if there is one. -/
structure Open (s : Store) (projectId : Uuid) (organizationId : Option Uuid) : Prop where
  project : ∃ p, s.project? projectId = some p ∧ p.loginsDisabled = false
  organization : ∀ id ∈ organizationId, ∃ o, s.organization? projectId id = some o ∧
    o.loginsDisabled = false

/-- Logins with the method are open in the project, and in the organization if there is one. -/
structure Permits (s : Store) (projectId : Uuid) (organizationId : Option Uuid)
    (method : LoginMethod) : Prop where
  project : ∃ p, s.project? projectId = some p ∧ p.loginsDisabled = false ∧
    p.loginMethods.allows method = true
  organization : ∀ id ∈ organizationId, ∃ o, s.organization? projectId id = some o ∧
    o.loginsDisabled = false ∧ o.loginMethods.allows method = true

end Store

/-- The methods that a step exercises: one of them is enough. -/
def LoginRequest.methods : LoginRequest → List LoginMethod
  | issueEmailChallenge _ | verifyEmailChallenge _ => [.email, .password]
  | registerPassword _ | verifyPassword .. | issueResetCode | verifyResetCode _ => [.password]
  | oauthRedirect target _ | redeemOAuth target .. => [target.loginMethod]
  | redeemSaml .. => [.saml]

def LoginRequest.redeemsOAuth : LoginRequest → Bool
  | redeemOAuth .. => true
  | _ => false

/-- The policy that the redemption of an OAuth code goes by. When it is written logins are open, in
the organization that the session was bound to before. The method was enabled when an earlier turn
of the same request read the store; so it was in the organization of a connection, which the session
is bound to since. -/
structure Entry.RedeemsUnder (x : Entry) (earlier : List Entry) (s : Store) (target : OAuthTarget)
    (r' : IntermediateSession) : Prop where
  written : ∃ r, s.intermediateSessions.get? x.context.intermediateSessionId = some r ∧
    s.Open x.context.projectId r.organizationId
  read : ∃ y ∈ earlier, y.flight = x.flight ∧ y.context = x.context ∧ y.call = x.call ∧
    ∃ m₀ s₀ r₀, y.deed = .committed m₀ s₀ s₀ ∧
      s₀.intermediateSessions.get? x.context.intermediateSessionId = some r₀ ∧
        s₀.Permits x.context.projectId r₀.organizationId target.loginMethod ∧
          ∀ connectionId, target = .oidcConnection connectionId →
            s₀.Permits x.context.projectId r'.organizationId .oidc

variable {v : Service} {c : RequestContext} {m : Moment} {s s' : Store} {l : Loaded}
  {method : LoginMethod}

namespace Loaded

theorem organizationRefuses?_eq_none {o : Organization} :
    organizationRefuses? o method = none ↔
      o.loginsDisabled = false ∧ o.loginMethods.allows method = true := by
  unfold organizationRefuses?
  split
  · simp_all
  · split <;> simp_all

theorem allows_iff :
    l.allows method = true ↔ l.project.loginMethods.allows method = true ∧
      ∀ o ∈ l.organization, organizationRefuses? o method = none := by
  unfold allows refuses?
  cases l.project.loginMethods.allows method with
  | false => simp
  | true => cases l.organization <;> simp

namespace Admitted

theorem isOpen (admitted : Admitted c m.now s l) : s.Open c.projectId l.session.organizationId := by
  refine ⟨⟨l.project, admitted.project, admitted.projectOpen⟩, fun id bound => ?_⟩
  obtain ⟨o, loaded⟩ := Option.isSome_iff_exists.mp
    (admitted.bound (Option.isSome_iff_exists.mpr ⟨id, bound⟩))
  obtain ⟨own, found⟩ := admitted.organization_eq_some loaded
  cases bound.symm.trans own
  exact ⟨o, found, admitted.organizationOpen o loaded⟩

/-- What the gate lets through is what the tenants permit. -/
theorem permits (admitted : Admitted c m.now s l) (allowed : l.allows method = true) :
    s.Permits c.projectId l.session.organizationId method := by
  obtain ⟨enabled, accepts⟩ := allows_iff.mp allowed
  refine ⟨⟨l.project, admitted.project, admitted.projectOpen, enabled⟩, fun id bound => ?_⟩
  obtain ⟨o, loaded⟩ := Option.isSome_iff_exists.mp
    (admitted.bound (Option.isSome_iff_exists.mpr ⟨id, bound⟩))
  obtain ⟨own, found⟩ := admitted.organization_eq_some loaded
  cases bound.symm.trans own
  exact ⟨o, found, organizationRefuses?_eq_none.mp (accepts o loaded)⟩

/-- A session is bound only to an organization that permits the method itself. -/
theorem permits_bound (admitted : Admitted c m.now s l) (allowed : l.allows method = true)
    {o : Organization} (found : s.organization? c.projectId o.id = some o)
    (accepts : organizationRefuses? o method = none) :
    s.Permits c.projectId (some o.id) method := by
  refine ⟨(admitted.permits allowed).project, fun id bound => ?_⟩
  cases bound
  exact ⟨o, found, organizationRefuses?_eq_none.mp accepts⟩

end Admitted

end Loaded

namespace Service

open Transaction

variable {salt : List UInt8} {heard : List ServiceDeed} {request : LoginRequest} {lesson : Lesson}
  {written : Store} {change : Audit.IntermediateSessionChange}
  {rest : ServiceOperation LoginReply} {target : OAuthTarget}

/-- Whoever finds the client of a login has checked the method, and the organization of a
connection. -/
theorem resolveClient_allowed {redirectUrl : Option String} {client : ResolvedClient}
    (committed : (v.resolveClient l target redirectUrl).Commits m s client s') :
    l.allows target.loginMethod = true ∧ ∀ o ∈ client.organization,
      s.organization? l.project.id o.id = some o ∧
        Loaded.organizationRefuses? o target.loginMethod = none := by
  cases target with
  | provider provider =>
      simp only [resolveClient, resolveProvider, commits_bind,
        Loaded.requireMethod_commits] at committed
      obtain ⟨_, _, ⟨allowed, rfl⟩, committed⟩ := committed
      refine ⟨allowed, ?_⟩
      cases tenant : l.project.oauthClient provider with
      | some tenant =>
          simp only [tenant, commits_bind, commits_pure] at committed
          obtain ⟨_, _, _, rfl, _⟩ := committed
          simp
      | none =>
          simp only [tenant, commits_pure] at committed
          obtain ⟨rfl, _⟩ := committed
          simp
  | oidcConnection id =>
      simp only [resolveClient, resolveConnection, commits_bind, Loaded.requireMethod_commits,
        commits_get, commits_need, Loaded.checkOrganization_commits, commits_ite, commits_refuse,
        commits_pure, and_assoc, exists_and_left, exists_eq_left, exists_const, false_and,
        if_false_left] at committed
      obtain ⟨allowed, connection, _, o, found, accepts, _, _, _, _, rfl, _⟩ := committed
      refine ⟨allowed, fun o' own => ?_⟩
      cases own
      obtain ⟨_, same, _⟩ := Store.organization?_eq_some found
      rw [← same] at found
      exact ⟨found, accepts⟩

/-- What a redemption read before it asked the provider was permitted then. -/
theorem Planned.permits {state : String} {redirectUrl : Option String} {digest : List UInt8}
    {client : ResolvedClient}
    (planned : v.Planned c heard target state redirectUrl digest client m s l) :
    s.Permits c.projectId l.session.organizationId target.loginMethod ∧
      ∀ o ∈ client.organization, s.Permits c.projectId (some o.id) target.loginMethod := by
  obtain ⟨allowed, accepts⟩ := resolveClient_allowed planned.resolved
  refine ⟨planned.admitted.permits allowed, fun o own => ?_⟩
  obtain ⟨found, accepts⟩ := accepts o own
  rw [planned.admitted.project_id] at found
  exact planned.admitted.permits_bound allowed found accepts

/-- The user of a login with an email is of an organization that lets its users log in so. -/
theorem HashOwner.permits {email : String} {u : User} (admitted : Loaded.Admitted c m.now s l)
    (owner : HashOwner s l (some email) u) :
    s.Permits c.projectId (some u.organizationId) .password := by
  cases owner with
  | direct unbound method known found =>
      refine ⟨(admitted.permits method).project, fun id bound => ?_⟩
      cases bound
      have member : u ∈ s.passwordLoginCandidates l.project.id email :=
        found ▸ List.mem_singleton_self u
      obtain ⟨_, _, _, _, allowed⟩ := Store.mem_passwordLoginCandidates.mp member
      rw [admitted.project_id, Store.allowsPasswordLogin, Option.any_eq_true] at allowed
      obtain ⟨o, found, allowed⟩ := allowed
      simp only [Bool.and_eq_true, Bool.not_eq_true'] at allowed
      exact ⟨o, found, allowed.1, allowed.2⟩

/-- A step other than the redemption of an OAuth code is permitted where it is written. -/
theorem Step.permitted (admitted : Loaded.Admitted c m.now s l)
    (step : v.Step c salt heard m s l request lesson written change rest)
    (other : request.redeemsOAuth = false) :
    ∃ method ∈ request.methods,
      s.Permits c.projectId (lesson.apply l.session).organizationId method := by
  cases step with
  | challengeIssued methods | emailProved methods =>
      obtain ⟨method, listed, allowed⟩ := List.any_eq_true.mp methods
      exact ⟨method, listed, by simpa using admitted.permits allowed⟩
  | resetCodeIssued method | resetCodeRedeemed method =>
      exact ⟨_, List.mem_singleton_self _, by simpa using admitted.permits method⟩
  | passwordStaged checked | stagedMatched checked =>
      exact ⟨_, List.mem_singleton_self _, by simpa using admitted.permits checked.method⟩
  | passwordMatched _ owner =>
      cases owner with
      | bound checked =>
          exact ⟨_, List.mem_singleton_self _, by simpa using admitted.permits checked.method⟩
  | loggedIn owner =>
      exact ⟨_, List.mem_singleton_self _, by simpa using owner.permits admitted⟩
  | redirected resolved =>
      obtain ⟨client, resolved⟩ := resolved
      exact ⟨_, List.mem_singleton_self _,
        by simpa using admitted.permits (resolveClient_allowed resolved).1⟩
  | accountRedeemed | connectionRedeemed => cases other
  | asserted resolved =>
      obtain ⟨allowed, _, found, accepts, _⟩ := resolveSaml_commits.mp resolved
      rw [admitted.project_id] at found
      obtain ⟨_, same, _⟩ := Store.organization?_eq_some found
      rw [← same] at found
      exact ⟨_, List.mem_singleton_self _,
        by simpa using admitted.permits_bound allowed found accepts⟩

end Service

variable {others : Store → Store → Prop} {start : Store} {sys : System}
  {earlier later : List Entry} {x : Entry}

/-- The redemption of a code was permitted where its request read the store. -/
theorem Entry.Takes.redeemsUnder {salt : List UInt8} {target : OAuthTarget} {code state : String}
    {redirectUrl : Option String} {lesson : Lesson} {written : Store}
    {change : Audit.IntermediateSessionChange} {rest : ServiceOperation LoginReply}
    (takes : x.Takes v s s' salt m l (.redeemOAuth target code state redirectUrl) lesson written
      change rest)
    (run : Run others v { store := start } (earlier ++ x :: later) sys) :
    x.RedeemsUnder earlier s target (lesson.apply l.session) := by
  refine ⟨⟨l.session, takes.admitted.stored, takes.admitted.isOpen⟩, ?_⟩
  have step := takes.step
  generalize heard : x.heard = before at step
  cases step with
  | accountRedeemed planned =>
      obtain ⟨m₀, s₀, l₀, planned⟩ := planned
      obtain ⟨y, member, deed, flight, context, call⟩ := run.mem_heard (heard ▸ planned.first)
      refine ⟨y, member, flight, context, call, m₀, s₀, l₀.session, deed, planned.admitted.stored,
        planned.permits.1, ?_⟩
      rintro connectionId ⟨⟩
  | connectionRedeemed planned owner =>
      obtain ⟨m₀, s₀, l₀, planned⟩ := planned
      obtain ⟨y, member, deed, flight, context, call⟩ := run.mem_heard (heard ▸ planned.first)
      refine ⟨y, member, flight, context, call, m₀, s₀, l₀.session, deed, planned.admitted.stored,
        planned.permits.1, ?_⟩
      rintro connectionId ⟨⟩
      have permits := planned.permits.2 _ owner
      simp only [Lesson.apply_connectionRedeemed]
      exact permits

/-- Whatever other parties do to the tenants meanwhile, a step that is committed is permitted in the
state that its commit started from, for the organization that the session is bound to after it; so
is an exchange, by the method of the factor that the session is founded on. Only the redemption of
an OAuth code goes by what its request had read. -/
theorem Run.committed_step_permitted
    (run : Run others v { store := start } (earlier ++ x :: later) sys)
    (deed : x.deed = .committed m s s') :
    (x.exchanges x.context.intermediateSessionId = true → ∃ r' factor,
      s'.intermediateSessions.get? x.context.intermediateSessionId = some r' ∧
        r'.primaryAuthFactor = some factor ∧
          s.Permits x.context.projectId r'.organizationId factor.loginMethod) ∧
    ∀ request, x.taken? = some request → ∃ r',
      s'.intermediateSessions.get? x.context.intermediateSessionId = some r' ∧
        (request.redeemsOAuth = false → ∃ method ∈ request.methods,
          s.Permits x.context.projectId r'.organizationId method) ∧
        ∀ target code state redirectUrl, request = .redeemOAuth target code state redirectUrl →
          x.RedeemsUnder earlier s target r' := by
  obtain ⟨sys₁, sys₂, t, i, before, took, _⟩ := run.split
  obtain ⟨_, did⟩ := (before.sound System.sound_idle).turn took
  obtain ⟨same, same', _⟩ := did.wrote deed
  rw [← same, ← same'] at did
  refine ⟨fun exchanges => ?_, fun request taken => ?_⟩
  · obtain ⟨m', result, deed', _, exchanged⟩ := did.exchanged exchanges
    cases deed.symm.trans deed'
    obtain ⟨l, o, factor, u, created, written, _, admitted, exchangeable, resolves, _, _, _, _,
      rfl⟩ := exchanged
    obtain ⟨users, rfl⟩ := resolves.written
    exact ⟨_, factor, admitted.get?_taught (.exchanged m.now), exchangeable.founded,
      admitted.permits exchangeable.method⟩
  · obtain ⟨salt, m', l, lesson, written, change, rest, takes⟩ := did.taken taken
    cases deed.symm.trans takes.deed
    refine ⟨lesson.apply l.session, takes.taught, takes.step.permitted takes.admitted, ?_⟩
    rintro target code state redirectUrl rfl
    exact takes.redeemsUnder run

/-- The methods that the project enabled when the turn committed. -/
def Entry.enabled? (x : Entry) : Option LoginMethods :=
  match x.deed with
  | .committed _ s _ => (s.project? x.context.projectId).map (·.loginMethods)
  | _ => none

theorem Entry.enabled?_eq_some {methods : LoginMethods} (enabled : x.enabled? = some methods) :
    ∃ m s s' p, x.deed = .committed m s s' ∧ s.project? x.context.projectId = some p ∧
      p.loginMethods = methods := by
  unfold Entry.enabled? at enabled
  split at enabled
  · rename_i m s s' deed
    obtain ⟨p, stored, same⟩ := Option.map_eq_some_iff.mp enabled
    exact ⟨m, s, s', p, deed, stored, same⟩
  · cases enabled

theorem Run.committed_step_permitted_of_login :
    ∃ x m s s', Deployment.loggedIn.1 = [x] ∧ x.deed = .committed m s s' ∧
      ∃ organizationId, s.Permits Deployment.project.id organizationId .password := by
  have run : Run TenantChange Deployment.service
      { store := Deployment.store (Deployment.only Deployment.user) none }
      Deployment.loggedIn.1 Deployment.loggedIn.2 := System.run_play _ _
  have turns : Deployment.loggedIn.1.map (fun x =>
      (x.context, x.taken?.map fun request => (request.methods, request.redeemsOAuth),
        x.enabled?)) =
        [(Deployment.context, some ([.password], false), some .all)] := by
    decide +kernel
  obtain ⟨x, whole, fact⟩ := List.map_eq_singleton_iff.mp turns
  simp only [Prod.mk.injEq, Option.map_eq_some_iff] at fact
  obtain ⟨context, ⟨request, taken, methods, other⟩, enabled⟩ := fact
  obtain ⟨m, s, s', _, deed, _⟩ := Entry.enabled?_eq_some enabled
  obtain ⟨r', _, permitted, _⟩ := (Run.committed_step_permitted
    (show Run _ _ _ ([] ++ x :: []) _ from whole ▸ run) deed).2 request taken
  obtain ⟨method, listed, permits⟩ := permitted other
  rw [methods] at listed
  cases List.mem_singleton.mp listed
  rw [context] at permits
  exact ⟨x, m, s, s', whole, deed, r'.organizationId, permits⟩

namespace Deployment

/-- A login with an account at Google, when the provider has answered. -/
def answered : List Entry × System :=
  System.play service ((viaGoogle ⟨"g-1", user.email, true, none, none, none⟩ 0 0).take 6)
    { store := store (only user) (some organization.id) }

/-- The project lets nobody log in with an account at Google any more. -/
def withoutGoogle (s : Store) : Store :=
  { s with projects :=
      { rows := [{ project with loginMethods := project.loginMethods.disable .google }] } }

theorem tenantChange_withoutGoogle (s : Store) : TenantChange s (withoutGoogle s) :=
  ⟨rfl, rfl, rfl, rfl, rfl, rfl⟩

/-- What the login does then. -/
def redeemed : List Entry × System :=
  System.play service [turn none 4 1] { answered.2 with store := withoutGoogle answered.2.store }

end Deployment

/-- With the redemption of an OAuth code it fails: it is committed although the method was disabled
while the provider was asked. -/
theorem Run.redeemed_after_disabled :
    ¬ ∀ (v : Service) (start : Store) (sys : System) (earlier later : List Entry) (x : Entry)
      (m : Moment) (s s' : Store) (request : LoginRequest),
        Run TenantChange v { store := start } (earlier ++ x :: later) sys →
          x.deed = .committed m s s' → x.taken? = some request →
            ∃ r', s'.intermediateSessions.get? x.context.intermediateSessionId = some r' ∧
              ∃ method ∈ request.methods,
                s.Permits x.context.projectId r'.organizationId method := by
  intro claim
  have begun : Run TenantChange Deployment.service
      { store := Deployment.store (Deployment.only Deployment.user)
          (some Deployment.organization.id) }
      Deployment.answered.1 Deployment.answered.2 := System.run_play _ _
  have run := (begun.change (Deployment.tenantChange_withoutGoogle _)).trans
    (show Run TenantChange Deployment.service _ Deployment.redeemed.1 Deployment.redeemed.2 from
      System.run_play _ _)
  have turns : Deployment.redeemed.1.map (fun x => (x.taken?.map (·.methods), x.enabled?)) =
      [(some [.google], some (LoginMethods.all.disable .google))] := by
    decide +kernel
  obtain ⟨x, whole, fact⟩ := List.map_eq_singleton_iff.mp turns
  simp only [Prod.mk.injEq, Option.map_eq_some_iff] at fact
  obtain ⟨⟨request, taken, methods⟩, enabled⟩ := fact
  obtain ⟨m, s, s', p, deed, stored, off⟩ := Entry.enabled?_eq_some enabled
  rw [whole] at run
  obtain ⟨r', _, method, listed, permits⟩ := claim _ _ _ _ _ _ _ _ _ _ run deed taken
  rw [methods] at listed
  cases List.mem_singleton.mp listed
  obtain ⟨p', stored', _, allowed⟩ := permits.project
  cases stored.symm.trans stored'
  rw [off] at allowed
  exact absurd allowed (by decide)

end Vestibule
