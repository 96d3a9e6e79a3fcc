import Vestibule.Proofs.Alike
import Vestibule.Proofs.Commit

/-! Likenesses of stores. Where the look-ups that a request makes have the same results on two
stores, and what it writes to both leaves the look-ups the same, the request goes alike on them. -/

namespace Vestibule

/-- A relation between stores that shows in nothing of a project but its users, and that is kept by
whatever a request of the project writes besides users. -/
structure Store.Likeness (p : Uuid) (R : Store → Store → Prop) : Prop where
  project? : ∀ {s t}, R s t → s.project? p = t.project? p
  organization? : ∀ {s t}, R s t → ∀ id, s.organization? p id = t.organization? p id
  samlConnection? : ∀ {s t}, R s t → ∀ id, s.samlConnection? p id = t.samlConnection? p id
  oidcConnection? : ∀ {s t}, R s t → ∀ id, s.oidcConnection? p id = t.oidcConnection? p id
  intermediateSession? : ∀ {s t}, R s t → ∀ id,
    s.intermediateSession? p id = t.intermediateSession? p id
  isEmailVerifiedByProvider : ∀ {s t}, R s t → ∀ email provider subject,
    s.isEmailVerifiedByProvider p email provider subject =
      t.isEmailVerifiedByProvider p email provider subject
  emailUsageOn : ∀ {s t}, R s t → ∀ date, s.emailUsageOn p date = t.emailUsageOn p date
  countEmail : ∀ {s t}, R s t → ∀ date, R (s.countEmail p date) (t.countEmail p date)
  recordVerifiedEmail : ∀ {s t}, R s t → ∀ e : VerifiedEmail, e.projectId = p →
    R (s.recordVerifiedEmail e) (t.recordVerifiedEmail e)
  withIntermediateSession : ∀ {s t}, R s t → ∀ r old : IntermediateSession,
    s.intermediateSession? p r.id = some old → r.projectId = p →
      R (s.withIntermediateSession r) (t.withIntermediateSession r)
  logged : ∀ {s t}, R s t → ∀ e, R (s.logged e) (t.logged e)

/-- Only what is about passwords looks up the users of a project. -/
def LoginRequest.looksUpUsers : LoginRequest → Bool
  | registerPassword _ | verifyPassword _ _ => true
  | _ => false

namespace IntermediateSession

variable {r : IntermediateSession} {f : PrimaryAuthFactor}

theorem fixPrimaryAuthFactor_id : (r.fixPrimaryAuthFactor f).id = r.id := by
  rw [fixPrimaryAuthFactor_eq]

theorem fixPrimaryAuthFactor_projectId : (r.fixPrimaryAuthFactor f).projectId = r.projectId := by
  rw [fixPrimaryAuthFactor_eq]

end IntermediateSession

open Transaction

section

variable {R : Store → Store → Prop} {drawn : Moment → Prop} {c : RequestContext} {m : Moment}
  {s t : Store} {r : IntermediateSession} {l l' : Loaded}

/-- A session that was loaded, and was perhaps taught since, is the one of the request. -/
structure Loaded.Stands (c : RequestContext) (s : Store) (l : Loaded) : Prop where
  project : l.project.id = c.projectId
  session : l.session.projectId = c.projectId
  stored : ∃ old, s.intermediateSession? c.projectId l.session.id = some old

namespace Loaded

theorem Admitted.stands {now : Instant} (admitted : Admitted c now s l) : l.Stands c s :=
  ⟨admitted.project_id, admitted.session_projectId, l.session,
    by rw [admitted.session_id, admitted.session]⟩

theorem Stands.of_eq (stands : l.Stands c s)
    (same : t.intermediateSessions = s.intermediateSessions) : l.Stands c t := by
  obtain ⟨project, session, stored⟩ := stands
  refine ⟨project, session, ?_⟩
  unfold Store.intermediateSession? at stored ⊢
  rwa [same]

theorem Stands.countEmail {date : Date} (stands : l.Stands c s) :
    l.Stands c (s.countEmail c.projectId date) :=
  stands.of_eq (by rw [Store.countEmail_eq])

theorem Stands.recordVerifiedEmail {e : VerifiedEmail} (stands : l.Stands c s) :
    l.Stands c (s.recordVerifiedEmail e) :=
  stands.of_eq (by rw [Store.recordVerifiedEmail_eq])

theorem deny?_detached {reason : Option Precondition} : (deny? reason).Detached := by
  cases reason with
  | none => exact .pure
  | some reason => exact .fail

theorem requireMethod_detached {method : LoginMethod} : (l.requireMethod method).Detached :=
  deny?_detached

theorem requireAnyMethod_detached {methods : List LoginMethod} :
    (l.requireAnyMethod methods).Detached := by
  unfold requireAnyMethod
  split
  · exact .pure
  · exact .fail

theorem bindEmail_detached {email : String} : (l.bindEmail email).Detached := by
  unfold bindEmail
  split
  · split
    · exact .pure
    · exact .fail
  · exact .pure

theorem bindOrganization_detached {o : Organization} : (l.bindOrganization o).Detached := by
  unfold bindOrganization
  split
  · exact .fail
  · exact .pure

variable {α : Type} {f g : Loaded → Transaction α}

theorem alike_bindEmail {email : String} (stands : l.Stands c s)
    (onward : ∀ l', l'.Stands c s → Alike R (f l') (g l') m s t) :
    Alike R (l.bindEmail email >>= f) (l.bindEmail email >>= g) m s t := by
  refine bindEmail_detached.alike_bind fun l' bound => onward l' ?_
  obtain ⟨_, rfl, _⟩ := bindEmail_commits.mp bound
  exact ⟨stands.project, stands.session, stands.stored⟩

theorem alike_bindOrganization {o : Organization} (stands : l.Stands c s)
    (onward : ∀ l', l'.Stands c s → Alike R (f l') (g l') m s t) :
    Alike R (l.bindOrganization o >>= f) (l.bindOrganization o >>= g) m s t := by
  refine bindOrganization_detached.alike_bind fun l' bound => onward l' ?_
  obtain ⟨_, rfl, _⟩ := bindOrganization_commits.mp bound
  exact ⟨stands.project, stands.session, stands.stored⟩

end Loaded

theorem recordEvent_alike {e : Audit.Event} (like : R (s.logged e) (t.logged e)) :
    Alike R (recordEvent e) (recordEvent e) m s t := by
  cases writable : m.auditWritable with
  | true =>
      exact .inl ⟨(), _, _, recordEvent_commits.mpr ⟨writable, rfl⟩,
        recordEvent_commits.mpr ⟨writable, rfl⟩, like⟩
  | false => simp [recordEvent, Store.appendEvent, writable]

namespace Store.Likeness

variable {α : Type} {Q : Store → Store → Prop}

theorem load (likeness : Store.Likeness c.projectId R) (like : R s t) :
    Alike R (Loaded.load c) (Loaded.load c) m s t := by
  simp only [Loaded.load, alike_get_bind, ← likeness.intermediateSession? like,
    ← likeness.project? like, alike_need_bind, alike_ite, alike_deny_bind, alike_fail_bind,
    alike_now_bind, implies_true, true_and]
  intro session _ _ _ project found _
  cases session.organizationId with
  | none => exact alike_pure.mpr ⟨rfl, like⟩
  | some id =>
      simp only [Store.project?_id found, ← likeness.organization? like, alike_need_bind, alike_ite,
        alike_deny_bind, alike_pure, like, implies_true, and_self]

/-- What follows a gate that is passed goes on from the stores as they were. -/
theorem alike_load {f g : Loaded → Transaction α} (likeness : Store.Likeness c.projectId R)
    (like : R s t) (onward : ∀ l, Loaded.Admitted c m.now s l → Alike Q (f l) (g l) m s t) :
    Alike Q (Loaded.load c >>= f) (Loaded.load c >>= g) m s t := by
  refine (likeness.load like).bind fun l s' t' here there _ => ?_
  obtain ⟨rfl, admitted⟩ := Loaded.load_commits.mp here
  obtain ⟨rfl, _⟩ := Loaded.load_commits.mp there
  exact onward l admitted

theorem isEmailVerified (likeness : Store.Likeness c.projectId R) (like : R s t) :
    Loaded.isEmailVerified s c.projectId r = Loaded.isEmailVerified t c.projectId r := by
  simp only [Loaded.isEmailVerified, likeness.isEmailVerifiedByProvider like]

theorem alike_requireEmailVerified {f g : Unit → Transaction α}
    (likeness : Store.Likeness c.projectId R) (like : R s t) (stands : l.Stands c s)
    (onward : Alike Q (f ()) (g ()) m s t) :
    Alike Q (l.requireEmailVerified >>= f) (l.requireEmailVerified >>= g) m s t := by
  refine Alike.bind_unchanged ?_ fun _ _ _ => onward
  simp only [Loaded.requireEmailVerified, alike_get_bind, stands.project,
    ← likeness.isEmailVerified like, alike_ite, alike_pure, alike_deny, implies_true, and_self]

/-- The record of the session of the request is written to both stores. -/
theorem updateIntermediateSession (likeness : Store.Likeness c.projectId R) (like : R s t)
    (stands : l.Stands c s) (id : r.id = l.session.id)
    (projectId : r.projectId = l.session.projectId) :
    WritesAlike R (·.updateIntermediateSession r) s t := by
  obtain ⟨old, stored⟩ := stands.stored
  rw [← id] at stored
  have here : s.intermediateSessions.contains r.id = true :=
    Table.contains_of_get? (Store.intermediateSession?_eq_some.mp stored).1
  have there : t.intermediateSessions.contains r.id = true :=
    Table.contains_of_get? (Store.intermediateSession?_eq_some.mp
      (likeness.intermediateSession? like _ ▸ stored)).1
  exact .inl ⟨_, _, Store.updateIntermediateSession_eq_ok.mpr ⟨here, rfl⟩,
    Store.updateIntermediateSession_eq_ok.mpr ⟨there, rfl⟩,
    likeness.withIntermediateSession like r old stored (projectId.trans stands.session)⟩

theorem persist {change : Audit.IntermediateSessionChange}
    (likeness : Store.Likeness c.projectId R) (like : R s t) (stands : l.Stands c s)
    (id : r.id = l.session.id) (projectId : r.projectId = l.session.projectId) :
    Alike R (persist c r change) (Vestibule.persist c r change) m s t := by
  have writes := likeness.updateIntermediateSession like stands id projectId
  refine alike_read_bind.mpr (writes.alike.bind ?_)
  intro _ s' t' _ _ like'
  exact recordEvent_alike (likeness.logged like' _)

/-- A step ends with what it writes to its session. -/
theorem alike_persist {change : Audit.IntermediateSessionChange} {a : α}
    (likeness : Store.Likeness c.projectId R) (like : R s t) (stands : l.Stands c s)
    (id : r.id = l.session.id) (projectId : r.projectId = l.session.projectId) :
    Alike R (Vestibule.persist c r change >>= fun _ => pure a)
      (Vestibule.persist c r change >>= fun _ => pure a) m s t :=
  (likeness.persist like stands id projectId).bind fun _ _ _ _ _ like' =>
    alike_pure.mpr ⟨rfl, like'⟩

theorem alike_chargeEmailQuota {quota : Int64} {f g : Int64 → Transaction α}
    (likeness : Store.Likeness c.projectId R) (like : R s t) (stands : l.Stands c s)
    (onward : ∀ usage s' t', R s' t' → l.Stands c s' → Alike R (f usage) (g usage) m s' t') :
    Alike R (chargeEmailQuota l.project quota >>= f) (chargeEmailQuota l.project quota >>= g)
      m s t := by
  have counted := likeness.countEmail like m.now.date
  refine Alike.bind (Q := fun s' t' => s' = s.countEmail c.projectId m.now.date ∧
    t' = t.countEmail c.projectId m.now.date) ?_ ?_
  · simp only [chargeEmailQuota, alike_now_bind, alike_get_bind, alike_set_bind, stands.project,
      ← likeness.emailUsageOn counted, alike_ite, alike_deny, alike_pure, implies_true, and_self]
  · rintro usage s' t' _ _ ⟨rfl, rfl⟩
    exact onward usage _ _ counted stands.countEmail

end Store.Likeness

namespace Service

variable {v : Service} {email code state : String} {redirectUrl : Option String}
  {target : OAuthTarget} {client : ResolvedClient} {id : Uuid}

variable (likeness : Store.Likeness c.projectId R)
include likeness

theorem issueEmailChallengeBody_alike (like : R s t) :
    Alike R (v.issueEmailChallengeBody c email) (v.issueEmailChallengeBody c email) m s t := by
  refine likeness.alike_load like fun l admitted => ?_
  refine Loaded.requireAnyMethod_detached.alike_bind fun _ _ => ?_
  refine Loaded.alike_bindEmail admitted.stands fun l' stands => ?_
  refine alike_ite.mpr ⟨fun _ => alike_deny_bind, fun _ => alike_read_bind.mpr ?_⟩
  refine likeness.alike_chargeEmailQuota like stands fun usage s' t' like' stands' => ?_
  exact likeness.alike_persist like' stands' rfl rfl

theorem verifyEmailChallengeBody_alike (like : R s t) :
    Alike R (verifyEmailChallengeBody c code) (verifyEmailChallengeBody c code) m s t := by
  refine likeness.alike_load like fun l admitted => ?_
  refine Loaded.requireAnyMethod_detached.alike_bind fun _ _ => ?_
  refine alike_need_bind.mpr fun stored _ => alike_need_bind.mpr fun digest _ => ?_
  refine alike_ite.mpr ⟨fun _ => alike_refuse_bind, fun _ => alike_need_bind.mpr fun email _ => ?_⟩
  have like' := likeness.recordVerifiedEmail like
    (.byChallenge m.verifiedEmailId m.now l.project.id email) admitted.project_id
  refine alike_read_bind.mpr (alike_modify_bind.mpr ?_)
  have stands := admitted.stands.recordVerifiedEmail
    (e := .byChallenge m.verifiedEmailId m.now l.project.id email)
  split
  · exact likeness.alike_persist like' stands IntermediateSession.fixPrimaryAuthFactor_id
      IntermediateSession.fixPrimaryAuthFactor_projectId
  · exact likeness.alike_persist like' stands rfl rfl

theorem issueResetCodeBody_alike (like : R s t) :
    Alike R (v.issueResetCodeBody c) (v.issueResetCodeBody c) m s t := by
  refine likeness.alike_load like fun l admitted => ?_
  refine Loaded.requireMethod_detached.alike_bind fun _ _ => ?_
  refine likeness.alike_requireEmailVerified like admitted.stands ?_
  refine alike_need_bind.mpr fun email _ => alike_read_bind.mpr ?_
  refine likeness.alike_chargeEmailQuota like admitted.stands fun usage s' t' like' stands => ?_
  exact likeness.alike_persist like' stands rfl rfl

theorem verifyResetCodeBody_alike (like : R s t) :
    Alike R (verifyResetCodeBody c code) (verifyResetCodeBody c code) m s t := by
  refine likeness.alike_load like fun l admitted => ?_
  refine Loaded.requireMethod_detached.alike_bind fun _ _ => ?_
  refine alike_need_bind.mpr fun stored _ => alike_need_bind.mpr fun digest _ => ?_
  refine alike_ite.mpr ⟨fun _ => alike_refuse_bind, fun _ => ?_⟩
  exact likeness.alike_persist like admitted.stands rfl rfl

theorem resolveClient_alike (like : R s t) (stands : l.Stands c s) :
    Alike R (v.resolveClient l target redirectUrl) (v.resolveClient l target redirectUrl)
      m s t := by
  cases target with
  | provider provider =>
      refine Loaded.requireMethod_detached.alike_bind fun _ _ => ?_
      cases l.project.oauthClient provider with
      | some tenant => exact alike_need_bind.mpr fun _ _ => alike_pure.mpr ⟨rfl, like⟩
      | none => exact alike_pure.mpr ⟨rfl, like⟩
  | oidcConnection id =>
      refine Loaded.requireMethod_detached.alike_bind fun _ _ => ?_
      simp only [alike_get_bind, stands.project, ← likeness.oidcConnection? like,
        ← likeness.organization? like]
      refine alike_need_bind.mpr fun connection _ => alike_need_bind.mpr fun o _ => ?_
      refine Loaded.deny?_detached.alike_bind fun _ _ => ?_
      refine alike_ite.mpr ⟨fun _ => alike_refuse_bind, fun _ => ?_⟩
      exact alike_need_bind.mpr fun _ _ => alike_pure.mpr ⟨rfl, like⟩

/-- The client is found without a write. -/
theorem alike_resolveClient {α : Type} {f g : ResolvedClient → Transaction α} (like : R s t)
    (stands : l.Stands c s) (onward : ∀ client, Alike R (f client) (g client) m s t) :
    Alike R (v.resolveClient l target redirectUrl >>= f)
      (v.resolveClient l target redirectUrl >>= g) m s t := by
  refine (resolveClient_alike likeness like stands).bind fun client s' t' here there _ => ?_
  cases resolveClient_unchanged here
  cases resolveClient_unchanged there
  exact onward client

theorem oauthRedirectRead_alike (like : R s t) :
    Alike R (v.oauthRedirectRead c target redirectUrl) (v.oauthRedirectRead c target redirectUrl)
      m s t :=
  likeness.alike_load like fun _ admitted => resolveClient_alike likeness like admitted.stands

theorem oauthRedirectWrite_alike {spec : ProviderSpec} (like : R s t) :
    Alike R (v.oauthRedirectWrite c target redirectUrl client spec)
      (v.oauthRedirectWrite c target redirectUrl client spec) m s t := by
  refine likeness.alike_load like fun l admitted => ?_
  refine alike_resolveClient likeness like admitted.stands fun _ => alike_read_bind.mpr ?_
  refine alike_ofExcept_bind.mpr fun url _ => ?_
  exact likeness.alike_persist like admitted.stands rfl rfl

theorem redeemOAuthRead_alike (like : R s t) :
    Alike R (v.redeemOAuthRead c target state redirectUrl)
      (v.redeemOAuthRead c target state redirectUrl) m s t := by
  refine likeness.alike_load like fun l admitted => alike_need_bind.mpr fun digest _ => ?_
  refine alike_ite.mpr ⟨fun _ => alike_refuse_bind, fun _ => ?_⟩
  exact alike_resolveClient likeness like admitted.stands fun _ => alike_pure.mpr ⟨rfl, like⟩

theorem alike_recordProviderIdentity {α : Type} {provider : OAuthProvider}
    {identity : RedeemedIdentity} {f g : Loaded → Transaction α} (like : R s t)
    (stands : l.Stands c s)
    (onward : ∀ l' s' t', R s' t' → l'.Stands c s' → Alike R (f l') (g l') m s' t') :
    Alike R (recordProviderIdentity l provider identity >>= f)
      (recordProviderIdentity l provider identity >>= g) m s t := by
  refine Alike.bind (Q := fun s' t' => R s' t' ∧ l.Stands c s') (.inl ⟨_, _, _,
    recordProviderIdentity_commits.mpr ⟨rfl, rfl⟩, recordProviderIdentity_commits.mpr ⟨rfl, rfl⟩,
    ?_⟩) ?_
  · split
    · exact ⟨likeness.recordVerifiedEmail like _ stands.project, stands.recordVerifiedEmail⟩
    · exact ⟨like, stands⟩
  · rintro l' s' t' here _ ⟨like', stands'⟩
    obtain ⟨rfl, _⟩ := recordProviderIdentity_commits.mp here
    refine onward _ s' t' like' ⟨stands'.project, ?_, ?_⟩
    · cases provider <;> exact stands'.session
    · cases provider <;> exact stands'.stored

omit likeness in
theorem alike_recordConnectionIdentity {α : Type} {f g : Loaded → Transaction α}
    (stands : l.Stands c s) (onward : ∀ l', l'.Stands c s → Alike R (f l') (g l') m s t) :
    Alike R (recordConnectionIdentity l id client >>= f)
      (recordConnectionIdentity l id client >>= g) m s t := by
  simp only [recordConnectionIdentity, bind_assoc, pure_bind]
  refine alike_need_bind.mpr fun o _ => Loaded.alike_bindOrganization stands fun l' stands' => ?_
  exact onward _ ⟨stands'.project, stands'.session, stands'.stored⟩

theorem redeemOAuthWrite_alike {digest : List UInt8} {identity : RedeemedIdentity} (like : R s t) :
    Alike R (redeemOAuthWrite c target digest client identity)
      (redeemOAuthWrite c target digest client identity) m s t := by
  refine likeness.alike_load like fun l admitted => ?_
  refine alike_ite.mpr ⟨fun _ => alike_deny_bind, fun _ => ?_⟩
  refine Loaded.alike_bindEmail ⟨admitted.stands.project, admitted.stands.session,
    admitted.stands.stored⟩ fun l' stands => ?_
  cases target with
  | provider provider =>
      refine alike_recordProviderIdentity likeness like stands fun l'' s' t' like' stands' => ?_
      exact likeness.alike_persist like' stands' IntermediateSession.fixPrimaryAuthFactor_id
        IntermediateSession.fixPrimaryAuthFactor_projectId
  | oidcConnection id =>
      refine alike_recordConnectionIdentity stands fun l'' stands' => ?_
      exact likeness.alike_persist like stands' IntermediateSession.fixPrimaryAuthFactor_id
        IntermediateSession.fixPrimaryAuthFactor_projectId

theorem resolveSaml_alike (like : R s t) (stands : l.Stands c s) :
    Alike R (resolveSaml l id) (resolveSaml l id) m s t := by
  refine Loaded.requireMethod_detached.alike_bind fun _ _ => ?_
  simp only [alike_get_bind, stands.project, ← likeness.samlConnection? like,
    ← likeness.organization? like]
  refine alike_need_bind.mpr fun connection _ => alike_need_bind.mpr fun o _ => ?_
  refine Loaded.deny?_detached.alike_bind fun _ _ => ?_
  exact alike_ite.mpr ⟨fun _ => alike_refuse_bind, fun _ => alike_pure.mpr ⟨rfl, like⟩⟩

theorem redeemSamlRead_alike (like : R s t) :
    Alike R (redeemSamlRead c id) (redeemSamlRead c id) m s t := by
  refine likeness.alike_load like fun l admitted => ?_
  refine (resolveSaml_alike likeness like admitted.stands).bind fun _ _ _ _ _ like' => ?_
  exact alike_pure.mpr ⟨rfl, like'⟩

theorem redeemSamlWrite_alike (like : R s t) :
    Alike R (redeemSamlWrite c id email) (redeemSamlWrite c id email) m s t := by
  refine likeness.alike_load like fun l admitted => ?_
  refine (resolveSaml_alike likeness like admitted.stands).bind ?_
  rintro ⟨connection, o⟩ s' t' here _ like'
  obtain ⟨_, _, _, _, _, rfl⟩ := resolveSaml_commits.mp here
  refine Loaded.alike_bindEmail admitted.stands fun l₁ stands => ?_
  refine Loaded.alike_bindOrganization stands fun l₂ stands' => ?_
  exact likeness.alike_persist like' stands' IntermediateSession.fixPrimaryAuthFactor_id
    IntermediateSession.fixPrimaryAuthFactor_projectId

omit likeness in
theorem send_alike {message : EmailMessage} {call : ProviderCall} :
    (ServiceOperation.send message call).Alike drawn R := by
  intro reply
  dsimp only
  split <;> trivial

/-- A login that has nothing to do with users goes alike: whatever it asks, reads, writes and
answers. -/
theorem perform_alike_of_userless (salt : List UInt8) {request : LoginRequest}
    (userless : request.looksUpUsers = false) : (v.perform c salt request).Alike drawn R := by
  cases request with
  | registerPassword | verifyPassword => cases userless
  | issueEmailChallenge email =>
      refine Operation.Alike.map ?_
      unfold issueEmailChallenge
      split
      · exact ⟨fun _ _ _ _ => issueEmailChallengeBody_alike likeness,
          fun _ _ _ _ _ _ => send_alike⟩
      · trivial
  | verifyEmailChallenge code =>
      exact (Operation.Alike.single fun _ _ _ _ => verifyEmailChallengeBody_alike likeness).map
  | issueResetCode =>
      refine Operation.Alike.map ?_
      exact ⟨fun _ _ _ _ => issueResetCodeBody_alike likeness, fun _ _ _ _ _ _ => send_alike⟩
  | verifyResetCode code =>
      exact (Operation.Alike.single fun _ _ _ _ => verifyResetCodeBody_alike likeness).map
  | oauthRedirect target redirectUrl =>
      exact (Operation.Alike.twoPhase (fun _ _ _ _ => oauthRedirectRead_alike likeness)
        fun _ _ _ _ _ _ => oauthRedirectWrite_alike likeness).map
  | redeemOAuth target code state redirectUrl =>
      exact (Operation.Alike.twoPhase (fun _ _ _ _ => redeemOAuthRead_alike likeness)
        fun _ _ _ _ _ _ => redeemOAuthWrite_alike likeness).map
  | redeemSaml connectionId response =>
      exact (Operation.Alike.twoPhase (fun _ _ _ _ => redeemSamlRead_alike likeness)
        fun _ _ _ _ _ _ => redeemSamlWrite_alike likeness).map

end Service

end

end Vestibule
