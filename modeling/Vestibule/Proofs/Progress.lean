import Vestibule.Proofs.Ending
import Vestibule.Proofs.WellFormed

/-! Progress on a session is additive. Whatever steps are committed, and in whatever order, a
session keeps what it is given once, and what it has proved stays proved. -/

namespace Vestibule

/-- A session has at least what it had. What names it and bounds its life is the same, what is
settled once stays as it was settled, and nothing that was proved or learnt is lost. -/
structure IntermediateSession.Advances (r r' : IntermediateSession) : Prop where
  id : r'.id = r.id
  projectId : r'.projectId = r.projectId
  createTime : r'.createTime = r.createTime
  expireTime : r'.expireTime = r.expireTime
  organizationId : ∀ id, r.organizationId = some id → r'.organizationId = some id
  email : ∀ email, r.email = some email → r'.email = some email
  primaryAuthFactor : ∀ f, r.primaryAuthFactor = some f → r'.primaryAuthFactor = some f
  exchangeTime : ∀ time, r.exchangeTime = some time → r'.exchangeTime = some time
  emailChallengeCompleted : r.emailChallengeCompleted = true → r'.emailChallengeCompleted = true
  passwordVerified : r.passwordVerified = true → r'.passwordVerified = true
  passkeyVerified : r.passkeyVerified = true → r'.passkeyVerified = true
  authenticatorAppVerified : r.authenticatorAppVerified = true → r'.authenticatorAppVerified = true
  providerSubject : ∀ p, (r.providerSubject p).isSome = true →
    (r'.providerSubject p).isSome = true
  verifiedSamlConnectionId : r.verifiedSamlConnectionId.isSome = true →
    r'.verifiedSamlConnectionId.isSome = true
  verifiedOidcConnectionId : r.verifiedOidcConnectionId.isSome = true →
    r'.verifiedOidcConnectionId.isSome = true
  stagedPasswordHash : r.stagedPasswordHash.isSome = true → r'.stagedPasswordHash.isSome = true
  displayName : r.displayName.isSome = true → r'.displayName.isSome = true
  profilePictureUrl : r.profilePictureUrl.isSome = true → r'.profilePictureUrl.isSome = true

namespace IntermediateSession.Advances

variable {r r' r'' : IntermediateSession}

theorem refl (r : IntermediateSession) : r.Advances r :=
  ⟨rfl, rfl, rfl, rfl, fun _ h => h, fun _ h => h, fun _ h => h, fun _ h => h, fun h => h,
    fun h => h, fun h => h, fun h => h, fun _ h => h, fun h => h, fun h => h, fun h => h,
    fun h => h, fun h => h⟩

theorem trans (first : r.Advances r') (second : r'.Advances r'') : r.Advances r'' where
  id := second.id.trans first.id
  projectId := second.projectId.trans first.projectId
  createTime := second.createTime.trans first.createTime
  expireTime := second.expireTime.trans first.expireTime
  organizationId id bound := second.organizationId id (first.organizationId id bound)
  email email known := second.email email (first.email email known)
  primaryAuthFactor f founded := second.primaryAuthFactor f (first.primaryAuthFactor f founded)
  exchangeTime time spent := second.exchangeTime time (first.exchangeTime time spent)
  emailChallengeCompleted := second.emailChallengeCompleted ∘ first.emailChallengeCompleted
  passwordVerified := second.passwordVerified ∘ first.passwordVerified
  passkeyVerified := second.passkeyVerified ∘ first.passkeyVerified
  authenticatorAppVerified := second.authenticatorAppVerified ∘ first.authenticatorAppVerified
  providerSubject p := second.providerSubject p ∘ first.providerSubject p
  verifiedSamlConnectionId := second.verifiedSamlConnectionId ∘ first.verifiedSamlConnectionId
  verifiedOidcConnectionId := second.verifiedOidcConnectionId ∘ first.verifiedOidcConnectionId
  stagedPasswordHash := second.stagedPasswordHash ∘ first.stagedPasswordHash
  displayName := second.displayName ∘ first.displayName
  profilePictureUrl := second.profilePictureUrl ∘ first.profilePictureUrl

end IntermediateSession.Advances

/-- A session that can still make progress is taught without loss. Its exchange is its last
lesson. -/
theorem Lesson.Fits.advances {r : IntermediateSession} {lesson : Lesson} (fits : lesson.Fits r)
    (unexchanged : r.isExchanged = false) : r.Advances (lesson.apply r) where
  id := Lesson.apply_id
  projectId := Lesson.apply_projectId
  createTime := by cases lesson <;> simp
  expireTime := by cases lesson <;> simp
  organizationId _ := fits.organizationId
  email _ := fits.email
  primaryAuthFactor f founded := by rw [Lesson.apply_primaryAuthFactor, founded, Option.some_or]
  exchangeTime time spent := by simp [IntermediateSession.isExchanged, spent] at unexchanged
  emailChallengeCompleted completed := by cases lesson <;> simp [completed]
  passwordVerified verified := by cases lesson <;> simp [verified]
  passkeyVerified verified := by cases lesson <;> simp [verified]
  authenticatorAppVerified verified := by cases lesson <;> simp [verified]
  providerSubject p redeemed := by
    rw [Lesson.apply_providerSubject]
    cases lesson with
    | accountRedeemed provider identity =>
        by_cases own : provider = p
        · simp [own]
        · simpa [own] using redeemed
    | _ => exact redeemed
  verifiedSamlConnectionId verified := by cases lesson <;> simp [verified]
  verifiedOidcConnectionId verified := by cases lesson <;> simp [verified]
  stagedPasswordHash staged := by cases lesson <;> simp [staged]
  displayName known := by cases lesson <;> simp [known]
  profilePictureUrl known := by cases lesson <;> simp [known]

/-- No session is dropped, and each has at least what it had. -/
def Store.Advances (s s' : Store) : Prop :=
  ∀ id r, s.intermediateSessions.get? id = some r →
    ∃ r', s'.intermediateSessions.get? id = some r' ∧ r.Advances r'

namespace Store.Advances

variable {s s' s'' : Store}

theorem of_eq (same : s'.intermediateSessions = s.intermediateSessions) : s.Advances s' :=
  fun _ r stored => ⟨r, same ▸ stored, .refl r⟩

theorem trans (first : s.Advances s') (second : s'.Advances s'') : s.Advances s'' := by
  intro id r stored
  obtain ⟨r', stored', advances⟩ := first id r stored
  obtain ⟨r'', stored'', advances'⟩ := second id r' stored'
  exact ⟨r'', stored'', advances.trans advances'⟩

end Store.Advances

variable {others : Store → Store → Prop} {v : Service} {start s s' : Store} {sys sys' : System}
  {past later : List Entry} {x : Entry}

/-- A commit teaches the session of its request one lesson at most, and leaves the others alone. -/
theorem Service.Wrote.advances {c : RequestContext} {call : Call} {heard : List ServiceDeed}
    {m : Moment} {rest : ServiceOperation Answer} (wrote : v.Wrote c call heard m s s' rest) :
    s.Advances s' := by
  rcases wrote.records with unchanged | ⟨l, lesson, admitted, fits, written⟩
  · exact .of_eq unchanged
  · intro id r stored
    by_cases own : c.intermediateSessionId = id
    · subst own
      cases stored.symm.trans admitted.stored
      refine ⟨_, ?_, fits.advances admitted.unexchanged⟩
      rw [written]
      exact admitted.get?_taught lesson
    · exact ⟨r, (wrote.get?_of_ne own).trans stored, .refl r⟩

theorem Entry.Did.advances (did : x.Did v s s') : s.Advances s' := by
  rcases did with ⟨m, _, wrote⟩ | ⟨rfl, _⟩
  · exact wrote.advances
  · exact .of_eq rfl

/-- Progress is additive. From any point of a run to any later one, and over every commit of any
request in between, each session that is stored stays stored and has at least what it had. -/
theorem Run.progress_additive (begun : Run others v { store := start } past sys)
    (onward : Run TenantChange v sys later sys') :
    sys.store.Advances sys'.store ∧
      ∀ x ∈ later, ∀ m s s', x.deed = .committed m s s' → s.Advances s' := by
  have sound := begun.sound System.sound_idle
  constructor
  · refine onward.invariant sound (P := fun _ s => sys.store.Advances s) (.of_eq rfl) ?_ ?_
    · exact fun _ _ _ _ advances did => advances.trans did.advances
    · exact fun _ _ _ advances changed => advances.trans (.of_eq changed.intermediateSessions)
  · intro x member m s s' deed
    obtain ⟨earlier, rest, rfl⟩ := List.append_of_mem member
    obtain ⟨sys₁, sys₂, t, i, before, took, _⟩ := onward.split
    obtain ⟨rfl, rfl, wrote⟩ := ((before.sound sound).turn took).2.wrote deed
    exact wrote.advances

namespace Deployment

/-- A login with an account at Google that has a name and a picture. -/
def portrayed : List Entry × System :=
  System.play service (viaGoogle ⟨"g-1", user.email, true, some "Ann", some "ann.png", none⟩ 0 0)
    { store := store (only user) (some organization.id) }

/-- The visitor redeems another account there, which has neither. -/
def portrayedAgain : List Entry × System :=
  System.play service (viaGoogle ⟨"g-2", user.email, false, none, none, none⟩ 5 2) portrayed.2

end Deployment

theorem Run.progress_additive_of_accounts :
    ∃ r r', Deployment.portrayed.2.store.intermediateSessions.get? Deployment.session.id = some r ∧
      Deployment.portrayedAgain.2.store.intermediateSessions.get? Deployment.session.id = some r' ∧
      r.displayName = some "Ann" ∧ r'.googleUserId = some "g-2" ∧
      r'.displayName.isSome = true ∧ r'.email = some Deployment.user.email ∧
      r'.primaryAuthFactor = some .google := by
  have begun : Run TenantChange Deployment.service
      { store := Deployment.store (Deployment.only Deployment.user)
          (some Deployment.organization.id) }
      Deployment.portrayed.1 Deployment.portrayed.2 := System.run_play _ _
  have onward : Run TenantChange Deployment.service Deployment.portrayed.2
      Deployment.portrayedAgain.1 Deployment.portrayedAgain.2 := System.run_play _ _
  have known : (Deployment.portrayed.2.store.intermediateSessions.get?
      Deployment.session.id).map (fun r => (r.displayName, r.email, r.primaryAuthFactor)) =
        some (some "Ann", some Deployment.user.email, some .google) := by
    decide +kernel
  have replaced : (Deployment.portrayedAgain.2.store.intermediateSessions.get?
      Deployment.session.id).map (·.googleUserId) = some (some "g-2") := by
    decide +kernel
  obtain ⟨r, stored, fact⟩ := Option.map_eq_some_iff.mp known
  simp only [Prod.mk.injEq] at fact
  obtain ⟨name, email, factor⟩ := fact
  obtain ⟨r', stored', advances⟩ := (Run.progress_additive begun onward).1 _ r stored
  rw [stored'] at replaced
  exact ⟨r, r', stored, stored', name, Option.some.inj replaced,
    advances.displayName (by rw [name]; rfl), advances.email _ email,
    advances.primaryAuthFactor _ factor⟩

end Vestibule
