import Vestibule.Proofs.Avoidance
import Vestibule.Proofs.WellFormed

/-! No request meets a gap in the record of a session. A session that is well formed has an email
wherever one is needed, and the evidence for the factor it is founded on. -/

namespace Vestibule

/-- Whether a precondition fails for a gap in the record of a session: evidence without an email,
or a factor without its evidence. -/
def Precondition.isGap : Precondition → Bool
  | noEmail | primaryFactorUnverified => true
  | _ => false

namespace RequestError

def tellsGap : RequestError → Bool
  | failedPrecondition reason => reason.isGap
  | _ => false

@[simp] theorem tellsGap_failedPrecondition {reason : Precondition} :
    tellsGap (.failedPrecondition reason) = reason.isGap := rfl

@[simp] theorem tellsGap_invalidArgument {reason : InvalidArgument} :
    tellsGap (.invalidArgument reason) = false := rfl

@[simp] theorem tellsGap_notFound {what : String} : tellsGap (.notFound what) = false := rfl

@[simp] theorem tellsGap_unauthenticated {reason : Unauthenticated} :
    tellsGap (.unauthenticated reason) = false := rfl

@[simp] theorem tellsGap_internal {cause : InternalCause} : tellsGap (.internal cause) = false :=
  rfl

@[simp] theorem tellsGap_brokenOff : tellsGap .brokenOff = false := rfl

@[simp] theorem tellsGap_ofStore {e : StoreError} : tellsGap (.ofStore e) = false := by
  cases e <;> rfl

@[simp] theorem tellsGap_ofProvider {call : ProviderCall} {e : ProviderError} :
    tellsGap (.ofProvider call e) = false := by
  unfold ofProvider
  split <;> rfl

end RequestError

open RequestError (tellsGap)
open Transaction

variable {h : Homes} {v : Service} {c : RequestContext} {m : Moment} {s : Store} {l : Loaded}
  {r : IntermediateSession}

namespace Loaded

theorem organizationRefuses?_isGap {o : Organization} {method : LoginMethod} {reason : Precondition}
    (refused : organizationRefuses? o method = some reason) : reason.isGap = false := by
  unfold organizationRefuses? at refused
  split at refused
  · cases refused
    rfl
  · split at refused <;> cases refused
    rfl

theorem refuses?_isGap {method : LoginMethod} {reason : Precondition}
    (refused : l.refuses? method = some reason) : reason.isGap = false := by
  unfold refuses? at refused
  split at refused
  · cases refused
    rfl
  · obtain ⟨_, _, refused⟩ := Option.bind_eq_some_iff.mp refused
    exact organizationRefuses?_isGap refused

@[simp] theorem load_avoids : (load c).Avoids tellsGap m s := by
  simp only [load, avoids_bind, avoids_get, avoids_need, avoids_now, avoids_ite, avoids_deny,
    avoids_fail, commits_deny, commits_fail, RequestError.tellsGap_notFound,
    RequestError.tellsGap_failedPrecondition, RequestError.tellsGap_unauthenticated,
    Precondition.isGap, false_implies, implies_true, and_self, true_and, if_true_left]
  intros
  split <;> simp [Precondition.isGap]

theorem deny?_avoids {reason : Option Precondition}
    (none : ∀ r, reason = some r → r.isGap = false) : (deny? reason).Avoids tellsGap m s := by
  cases reason with
  | none => simp [deny?]
  | some r => simp [deny?, none r rfl]

@[simp] theorem checkOrganization_avoids {o : Organization} {method : LoginMethod} :
    (checkOrganization o method).Avoids tellsGap m s :=
  deny?_avoids fun _ => organizationRefuses?_isGap

@[simp] theorem requireMethod_avoids {method : LoginMethod} :
    (l.requireMethod method).Avoids tellsGap m s :=
  deny?_avoids fun _ => refuses?_isGap

@[simp] theorem requireAnyMethod_avoids {methods : List LoginMethod} :
    (l.requireAnyMethod methods).Avoids tellsGap m s := by
  unfold requireAnyMethod
  cases refused : methods.findSome? l.refuses? with
  | none => simp [Precondition.isGap]
  | some reason =>
      obtain ⟨_, _, refused⟩ := List.exists_of_findSome?_eq_some refused
      simp [refuses?_isGap refused]

@[simp] theorem requireOrganization_avoids : l.requireOrganization.Avoids tellsGap m s := by
  simp [requireOrganization, Precondition.isGap]

theorem requireEmail_avoids (named : l.session.email.isSome = true) :
    l.requireEmail.Avoids tellsGap m s := by
  simp [requireEmail, Option.isSome_iff_ne_none.mp named]

@[simp] theorem requireEmailVerified_avoids : l.requireEmailVerified.Avoids tellsGap m s := by
  simp [requireEmailVerified, Precondition.isGap]

@[simp] theorem bindEmail_avoids {email : String} : (l.bindEmail email).Avoids tellsGap m s := by
  unfold bindEmail
  split <;> simp

@[simp] theorem bindOrganization_avoids {o : Organization} :
    (l.bindOrganization o).Avoids tellsGap m s := by
  simp [bindOrganization]

end Loaded

@[simp] theorem recordEvent_avoids {e : Audit.Event} : (recordEvent e).Avoids tellsGap m s := by
  simp only [recordEvent, avoids_bind, avoids_get, avoids_read]
  refine ⟨trivial, fun _ _ _ => ⟨trivial, fun _ _ _ => ?_⟩⟩
  split <;> simp

@[simp] theorem persist_avoids {change : Audit.IntermediateSessionChange} :
    (persist c r change).Avoids tellsGap m s := by
  simp [persist]

@[simp] theorem chargeEmailQuota_avoids {p : Project} {quota : Int64} :
    (chargeEmailQuota p quota).Avoids tellsGap m s := by
  simp [chargeEmailQuota, Precondition.isGap]

/-- The session with the id is well formed, if the store has one. -/
def Store.WellFormedAt (s : Store) (h : Homes) (id : Uuid) : Prop :=
  ∀ r, s.intermediateSessions.get? id = some r → r.WellFormed h

namespace IntermediateSession.WellFormed

/-- Whatever counts as a verification is of an email. -/
theorem named (wf : r.WellFormed h) {projectId : Uuid}
    (verified : Loaded.isEmailVerified s projectId r = true) : r.email.isSome = true := by
  simp only [Loaded.isEmailVerified, Bool.or_eq_true, or_assoc] at verified
  rcases verified with completed | asserted | connected | vouched
  · exact wf.completed completed
  · obtain ⟨id, known⟩ := Option.isSome_iff_exists.mp asserted
    exact (wf.asserted id known).1
  · obtain ⟨id, known⟩ := Option.isSome_iff_exists.mp connected
    exact (wf.connected id known).1
  · exact Option.isSome_of_any vouched

theorem satisfied (wf : r.WellFormed h) {f : PrimaryAuthFactor}
    (founded : r.primaryAuthFactor = some f) : r.primaryFactorSatisfied = true := by
  rw [primaryFactorSatisfied, founded]
  exact wf.founded f founded

end IntermediateSession.WellFormed

/-- Work on a session is safe if it is on every session that is admitted and well formed. -/
theorem Loaded.avoids_load {α : Type} {f : Loaded → Transaction α}
    (on : s.WellFormedAt h c.intermediateSessionId)
    (each : ∀ l, l.session.WellFormed h → (f l).Avoids tellsGap m s) :
    (load c >>= f).Avoids tellsGap m s := by
  refine avoids_bind.mpr ⟨load_avoids, fun l s' loaded => ?_⟩
  obtain ⟨rfl, admitted⟩ := load_commits.mp loaded
  exact each l (on _ admitted.stored)

section

variable {email password code state : String} {redirectUrl : Option String} {target : OAuthTarget}
  {client : ResolvedClient} {id : Uuid} {u : User}

@[simp] theorem CredentialMatcher.matchPassword_avoids {k : CredentialMatcher} {projectId : Uuid}
    {actor : Audit.Actor} : (k.matchPassword projectId actor u password).Avoids tellsGap m s := by
  simp [matchPassword, verifyHash, Precondition.isGap]

@[simp] theorem Linking.uniqueForPassword_avoids {projectId : Uuid} :
    (uniqueForPassword projectId email).Avoids tellsGap m s := by
  simp only [uniqueForPassword, avoids_bind, avoids_get, true_and]
  intros
  split <;> simp [tellsGap]

@[simp] theorem Linking.forExchange_avoids {organizationId : Uuid} :
    (forExchange organizationId r).Avoids tellsGap m s := by
  simp only [forExchange, avoids_bind, avoids_get, true_and]
  intros
  split <;> simp [byEmail]

namespace Service

theorem issueEmailChallengeBody_avoids :
    (v.issueEmailChallengeBody c email).Avoids tellsGap m s := by
  simp [issueEmailChallengeBody, Precondition.isGap]

theorem verifyEmailChallengeBody_avoids (on : s.WellFormedAt h c.intermediateSessionId) :
    (verifyEmailChallengeBody c code).Avoids tellsGap m s := by
  refine Loaded.avoids_load on fun l wf => ?_
  cases outstanding : l.session.emailChallengeSha256 with
  | none => simp [Precondition.isGap]
  | some digest =>
      have named : l.session.email.isSome = true := wf.challenged (by rw [outstanding]; rfl)
      simp [Loaded.requireEmail_avoids named]

theorem issueResetCodeBody_avoids (on : s.WellFormedAt h c.intermediateSessionId) :
    (v.issueResetCodeBody c).Avoids tellsGap m s := by
  refine Loaded.avoids_load on fun l wf => ?_
  by_cases verified : Loaded.isEmailVerified s l.project.id l.session = true
  · simp [Loaded.requireEmail_avoids (wf.named verified)]
  · simp [verified]

theorem verifyResetCodeBody_avoids : (verifyResetCodeBody c code).Avoids tellsGap m s := by
  simp [verifyResetCodeBody, Precondition.isGap]

theorem checkRegistration_avoids (wf : l.session.WellFormed h) :
    (checkRegistration l).Avoids tellsGap m s := by
  by_cases verified : Loaded.isEmailVerified s l.project.id l.session = true
  · obtain ⟨email, known⟩ := Option.isSome_iff_exists.mp (wf.named verified)
    simp [checkRegistration, Linking.forRegistration, Linking.byEmail, known, Precondition.isGap]
  · simp [checkRegistration, verified, Precondition.isGap]

theorem registerPasswordRead_avoids (on : s.WellFormedAt h c.intermediateSessionId) :
    (registerPasswordRead c).Avoids tellsGap m s :=
  Loaded.avoids_load on fun l wf => by simp [checkRegistration_avoids wf]

theorem registerPasswordWrite_avoids {hash : String}
    (on : s.WellFormedAt h c.intermediateSessionId) :
    (registerPasswordWrite c hash).Avoids tellsGap m s :=
  Loaded.avoids_load on fun l wf => by simp [checkRegistration_avoids wf]

@[simp] theorem matchAndRehash_avoids : (v.matchAndRehash c u password).Avoids tellsGap m s := by
  simp only [matchAndRehash, avoids_bind, CredentialMatcher.matchPassword_avoids, true_and]
  rintro ⟨u', outcome⟩ _ _
  cases outcome <;> simp [CredentialMatcher.hash]

theorem verifyChallenge_avoids (wf : l.session.WellFormed h) :
    (v.verifyChallenge c l password).Avoids tellsGap m s := by
  by_cases verified : Loaded.isEmailVerified s l.project.id l.session = true
  · have named := wf.named verified
    cases waiting : l.session.stagedPasswordHash with
    | none =>
        simp [verifyChallenge, waiting, Loaded.requireEmail_avoids named, Linking.byEmail,
          Precondition.isGap]
    | some staged =>
        simp [verifyChallenge, waiting, CredentialMatcher.verifyHash, Precondition.isGap, tellsGap]
  · simp [verifyChallenge, verified, Precondition.isGap]

theorem verifyDirect_avoids : (v.verifyDirect c l email password).Avoids tellsGap m s := by
  simp [verifyDirect, Precondition.isGap]

theorem verifyPasswordBody_avoids {email : Option String}
    (on : s.WellFormedAt h c.intermediateSessionId) :
    (v.verifyPasswordBody c email password).Avoids tellsGap m s := by
  refine Loaded.avoids_load on fun l wf => ?_
  cases email with
  | none =>
      refine avoids_bind.mpr ⟨verifyChallenge_avoids wf, fun checked _ _ => ?_⟩
      cases checked <;> simp
  | some email =>
      refine avoids_bind.mpr ⟨verifyDirect_avoids, fun checked _ _ => ?_⟩
      cases checked <;> simp

@[simp] theorem tenantRedirect_avoids : (tenantRedirect redirectUrl).Avoids tellsGap m s := by
  simp [tenantRedirect]

@[simp] theorem resolveClient_avoids :
    (v.resolveClient l target redirectUrl).Avoids tellsGap m s := by
  cases target with
  | provider provider =>
      cases tenant : l.project.oauthClient provider <;>
        simp [resolveClient, resolveProvider, tenant]
  | oidcConnection id => simp [resolveClient, resolveConnection]

theorem oauthRedirectRead_avoids :
    (v.oauthRedirectRead c target redirectUrl).Avoids tellsGap m s := by
  simp [oauthRedirectRead]

theorem oauthRedirectWrite_avoids {spec : ProviderSpec} :
    (v.oauthRedirectWrite c target redirectUrl client spec).Avoids tellsGap m s := by
  simp [oauthRedirectWrite]

theorem redeemOAuthRead_avoids :
    (v.redeemOAuthRead c target state redirectUrl).Avoids tellsGap m s := by
  simp [redeemOAuthRead]

theorem redeemOAuthWrite_avoids {digest : List UInt8} {identity : RedeemedIdentity} :
    (redeemOAuthWrite c target digest client identity).Avoids tellsGap m s := by
  cases target with
  | provider => simp [redeemOAuthWrite, recordProviderIdentity, Precondition.isGap]
  | oidcConnection => simp [redeemOAuthWrite, recordConnectionIdentity, Precondition.isGap]

@[simp] theorem resolveSaml_avoids : (resolveSaml l id).Avoids tellsGap m s := by
  simp [resolveSaml]

theorem redeemSamlRead_avoids : (redeemSamlRead c id).Avoids tellsGap m s := by
  simp [redeemSamlRead]

theorem redeemSamlWrite_avoids : (redeemSamlWrite c id email).Avoids tellsGap m s := by
  simp [redeemSamlWrite]

end Service

@[simp] theorem attachIdentityIn_avoids : (attachIdentityIn u r).Avoids tellsGap m s := by
  simp only [attachIdentityIn, avoids_bind, avoids_now, true_and]
  intros
  split <;> simp [Precondition.isGap]

theorem resolveUser_avoids {organizationId : Uuid} (named : r.email.isSome = true) :
    (resolveUser organizationId r).Avoids tellsGap m s := by
  obtain ⟨email, known⟩ := Option.isSome_iff_exists.mp named
  refine avoids_bind.mpr ⟨Linking.forExchange_avoids, fun found s' _ => ?_⟩
  cases found <;> simp [known]

@[simp] theorem issueSession_avoids {actor : Audit.Actor} {created : Bool} {lifetime : Span} :
    (issueSession actor r u created lifetime).Avoids tellsGap m s := by
  simp [issueSession, Precondition.isGap]

theorem Service.exchangeBody_avoids (on : s.WellFormedAt h c.intermediateSessionId) :
    (v.exchangeBody c).Avoids tellsGap m s := by
  refine Loaded.avoids_load on fun l wf => ?_
  cases founded : l.session.primaryAuthFactor with
  | none => simp [founded, Precondition.isGap]
  | some factor =>
      by_cases verified : Loaded.isEmailVerified s l.project.id l.session = true
      · simp [founded, wf.satisfied founded, resolveUser_avoids (wf.named verified),
          Precondition.isGap]
      · simp [founded, verified]

theorem Service.accessTokenBody_avoids {t : TokenIssuer} {refreshToken : String} :
    (accessTokenBody t refreshToken).Avoids tellsGap m s := by
  have unsigned : ∀ claims e, t.encode claims = .error e → tellsGap e = false := by
    intro claims e failed
    rw [(TokenIssuer.encode_eq_error failed).1]
    rfl
  simp only [accessTokenBody, avoids_bind, avoids_ofExcept]
  exact ⟨by simp [refreshedClaims, refreshOwner], fun claims _ _ => unsigned claims⟩

end

namespace ServiceFetch

theorem ofProvider_avoids {α : Type} {reply : Except ProviderError α}
    {failure : ProviderError → RequestError} (none : ∀ e, tellsGap (failure e) = false) :
    (ofProvider reply failure).Avoids tellsGap := by
  cases reply with
  | error e => exact Fetch.avoids_error (none e)
  | ok a => exact Fetch.avoids_pure

theorem discover_avoids {url : String} : (discover url).Avoids tellsGap :=
  fun _ => ofProvider_avoids fun _ => RequestError.tellsGap_ofProvider

theorem decrypt_avoids {key : String} {ciphertext : List UInt8} :
    (decrypt key ciphertext).Avoids tellsGap :=
  fun _ => ofProvider_avoids fun _ => RequestError.tellsGap_ofProvider

theorem checkBreach_avoids {password : String} : (checkBreach password).Avoids tellsGap :=
  fun _ => ofProvider_avoids fun _ => RequestError.tellsGap_ofProvider

theorem redeem_avoids {spec : ProviderSpec} {app : OAuthApp} {code : String} :
    (redeem spec app code).Avoids tellsGap := by
  refine fun _ => ofProvider_avoids fun e => ?_
  cases e with
  | apiError status message =>
      by_cases refused : 400 ≤ status ∧ status < 500 <;> simp [redemptionError, refused]
  | _ => simp [redemptionError]

theorem validateAssertion_avoids {connection : SamlConnection} {response : String} :
    (validateAssertion connection response).Avoids tellsGap := by
  intro reply
  match reply with
  | .ok email => exact Fetch.avoids_pure
  | .error reason => exact Fetch.avoids_error rfl

end ServiceFetch

theorem ServiceOperation.send_avoids {On : Store → Prop} {message : EmailMessage}
    {call : ProviderCall} : (ServiceOperation.send message call).Avoids tellsGap On := by
  intro reply
  match reply with
  | .ok _ => exact Operation.avoids_ok
  | .error e => exact Operation.avoids_error RequestError.tellsGap_ofProvider

namespace Service

theorem registerPasswordFetch_avoids {salt : List UInt8} {password : String} :
    (v.registerPasswordFetch salt password).Avoids tellsGap := by
  refine .bind ServiceFetch.checkBreach_avoids fun breached => ?_
  cases breached with
  | true => exact Fetch.avoids_error rfl
  | false =>
      intro e failed
      obtain ⟨_, _, rfl⟩ := mapError_eq_error.mp failed
      rfl

theorem fetchSpec_avoids {source : SpecSource} : (fetchSpec source).Avoids tellsGap := by
  cases source with
  | known => exact Fetch.avoids_pure
  | discover => exact ServiceFetch.discover_avoids

theorem redeemOAuthFetch_avoids {code : String} {client : ResolvedClient} :
    (v.redeemOAuthFetch code client).Avoids tellsGap := by
  have asked : ∀ secret, Fetch.Avoids tellsGap (do
      let spec ← fetchSpec client.spec
      ServiceFetch.redeem spec ⟨client.clientId, secret, client.redirectUri⟩ code) :=
    fun _ => .bind fetchSpec_avoids fun _ => ServiceFetch.redeem_avoids
  unfold redeemOAuthFetch
  cases client.secret with
  | platform secret => exact asked secret
  | sealed ciphertext => exact .bind ServiceFetch.decrypt_avoids asked

/-- A login request never tells of a gap, whatever it asks for. -/
theorem perform_avoids {salt : List UInt8} (request : LoginRequest) :
    (v.perform c salt request).Avoids tellsGap (·.WellFormedAt h c.intermediateSessionId) := by
  cases request with
  | issueEmailChallenge email =>
      refine .map ?_
      unfold issueEmailChallenge
      split
      · exact fun m s _ =>
          ⟨issueEmailChallengeBody_avoids, fun _ _ _ => ServiceOperation.send_avoids⟩
      · exact Operation.avoids_error rfl
  | verifyEmailChallenge code => exact .map <| .single fun _ _ => verifyEmailChallengeBody_avoids
  | registerPassword password =>
      refine .map ?_
      simp only [registerPassword]
      split
      · exact Operation.avoids_error rfl
      split
      · exact Operation.avoids_error rfl
      exact .twoPhase (fun _ _ => registerPasswordRead_avoids)
        (fun _ => registerPasswordFetch_avoids) fun _ _ _ _ => registerPasswordWrite_avoids
  | verifyPassword email password =>
      refine .map fun m s on => ⟨verifyPasswordBody_avoids on, ?_⟩
      rintro _ s' committed reason rfl
      obtain ⟨_, u, w, _, _, _, missed, _, rfl, _⟩ := verifyPasswordBody_missed committed
      rcases CredentialMatcher.miss?_eq_some missed with ⟨_, rfl⟩ | ⟨_, _, _, rfl⟩ <;> rfl
  | issueResetCode =>
      exact .map fun m s on =>
        ⟨issueResetCodeBody_avoids on, fun _ _ _ => ServiceOperation.send_avoids⟩
  | verifyResetCode code => exact .map <| .single fun _ _ _ => verifyResetCodeBody_avoids
  | oauthRedirect target redirectUrl =>
      exact .map <| .twoPhase (fun _ _ _ => oauthRedirectRead_avoids) (fun _ => fetchSpec_avoids)
        fun _ _ _ _ _ => oauthRedirectWrite_avoids
  | redeemOAuth target code state redirectUrl =>
      exact .map <| .twoPhase (fun _ _ _ => redeemOAuthRead_avoids)
        (fun _ => redeemOAuthFetch_avoids) fun _ _ _ _ _ => redeemOAuthWrite_avoids
  | redeemSaml connectionId response =>
      exact .map <| .twoPhase (fun _ _ _ => redeemSamlRead_avoids)
        (fun _ => ServiceFetch.validateAssertion_avoids) fun _ _ _ _ _ => redeemSamlWrite_avoids

theorem serve_avoids (call : Call) :
    (v.serve c call).Avoids tellsGap (·.WellFormedAt h c.intermediateSessionId) := by
  cases call with
  | login salt request => exact .map (perform_avoids request)
  | exchange =>
      exact .map fun m s on => ⟨exchangeBody_avoids on, fun _ _ _ _ _ _ =>
        ⟨accessTokenBody_avoids, fun _ _ _ => Operation.avoids_ok⟩⟩
  | accessToken refreshToken => exact .map <| .single fun _ _ _ => accessTokenBody_avoids

end Service

/-- The connections that a session was verified through are of the organization it is bound to. -/
structure Store.Binds (s : Store) (r : IntermediateSession) : Prop where
  saml : ∀ connection ∈ s.samlConnections.rows,
    r.verifiedSamlConnectionId = some connection.id →
      r.organizationId = some connection.organizationId
  oidc : ∀ connection ∈ s.oidcConnections.rows,
    r.verifiedOidcConnectionId = some connection.id →
      r.organizationId = some connection.organizationId

theorem IntermediateSession.WellFormed.binds (wf : r.WellFormed h) (homed : s.At h) :
    s.Binds r where
  saml connection listed verified := by
    rw [(wf.asserted _ verified).2, homed.saml connection listed]
  oidc connection listed verified := by
    rw [(wf.connected _ verified).2, homed.oidc connection listed]

/-- While connections stay with their organizations, a session that starts with nothing proved is
well formed at every time, so that no request on it ever fails for a gap in its record. -/
theorem Run.session_wellFormed {start : Store} {sys : System} {past : List Entry} {id : Uuid}
    {r₀ : IntermediateSession} (run : Run (SettledChange h) v { store := start } past sys)
    (homed : start.At h) (begun : start.intermediateSessions.get? id = some r₀)
    (fresh : r₀.Fresh) :
    (∃ r, sys.store.intermediateSessions.get? id = some r ∧ r.WellFormed h ∧ sys.store.Binds r) ∧
      ∀ f ∈ sys.flights, f.context.intermediateSessionId = id →
        ∀ reason, f.rest.failure? = some reason →
          reason ≠ .failedPrecondition .noEmail ∧
            reason ≠ .failedPrecondition .primaryFactorUnverified := by
  constructor
  · have tenants : Run TenantChange v { store := start } past sys := run.mono fun _ _ => (·.1)
    obtain ⟨r, stored, _⟩ := tenants.session_continues System.sound_idle begun
    have wf := run.wellFormed homed begun fresh stored
    exact ⟨r, stored, wf, wf.binds (run.homed homed)⟩
  · intro f flying own reason failed
    have avoids : f.rest.Avoids tellsGap (·.WellFormedAt h id) := by
      refine run.avoids (·.intermediateSessionId = id) ?_ rfl ?_ f flying own
      · rintro c call rfl
        exact Service.serve_avoids call
      · exact fun run r stored => run.wellFormed homed begun fresh stored
    have common := avoids.failure? failed
    constructor <;>
      · rintro rfl
        cases common

namespace Deployment

def connection : SamlConnection := .new (.ofNat 7) now organization.id

/-- The organization with a connection of its own. -/
def connected : Store := { store (only user) none with samlConnections := { rows := [connection] } }

/-- Every connection is of the one organization. -/
def homes : Homes := ⟨fun _ => organization.id, fun _ => organization.id⟩

theorem connected_homed : connected.At homes := by
  constructor
  · intro connection listed
    cases List.mem_singleton.mp listed
    rfl
  · intro connection listed
    cases listed

/-- A visitor logs in with an assertion that names the user's email. -/
def viaAssertion : List Entry × System :=
  let turn := fun n i => Move.turn ⟨.ofDraws now (1000 * n + ·) true fun _ _ _ state => .ok state,
    fun request => some ((⟨none, some user.email, [], fun _ => none⟩ : StandIns).reply request),
    false⟩ i
  System.play service
    [.arrive context (.login [] (.redeemSaml connection.id "assertion")), turn 0 0, turn 1 0,
      turn 2 0, .arrive context .exchange, turn 3 1]
    { store := connected }

theorem viaAssertion_run : Run (SettledChange homes) service { store := connected }
    viaAssertion.1 viaAssertion.2 := System.run_play _ _

end Deployment

theorem Run.session_wellFormed_of_assertion :
    ∃ r, Deployment.viaAssertion.2.store.intermediateSessions.get? Deployment.session.id = some r ∧
      r.primaryAuthFactor = some .saml ∧ r.primaryFactorSatisfied = true ∧
        r.email.isSome = true ∧ r.organizationId = some Deployment.organization.id := by
  obtain ⟨⟨r, stored, wf, _⟩, _⟩ := Run.session_wellFormed Deployment.viaAssertion_run
    Deployment.connected_homed
    (rfl : Deployment.connected.intermediateSessions.get? Deployment.session.id =
      some Deployment.session)
    ⟨_, _, _, _, none, none, rfl⟩
  have proved : (Deployment.viaAssertion.2.store.intermediateSessions.get?
      Deployment.session.id).map (fun r => (r.primaryAuthFactor, r.verifiedSamlConnectionId)) =
        some (some .saml, some Deployment.connection.id) := by
    decide +kernel
  rw [stored] at proved
  simp only [Option.map_some, Option.some.injEq, Prod.mk.injEq] at proved
  obtain ⟨named, bound⟩ := wf.asserted _ proved.2
  exact ⟨r, stored, proved.1, wf.satisfied proved.1, named, bound⟩

end Vestibule
