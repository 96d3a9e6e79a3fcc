import Vestibule.Session.Intermediate
import Vestibule.Provider.Spec

/-! What the steps of a login make of the record of an intermediate session. Every step that is
committed teaches the session one lesson, whatever else it writes. -/

namespace Vestibule

/-- What one step adds to an intermediate session. -/
inductive Lesson where
  | challengeIssued (email : String) (digest : List UInt8)
  | emailProved (foundsLogin : Bool)
  | resetCodeIssued (digest : List UInt8)
  | resetCodeRedeemed
  | passwordStaged (hash : String)
  | passwordMatched
  | loggedIn (organizationId : Uuid) (email : String)
  | redirected (target : OAuthTarget) (digest : List UInt8)
  | accountRedeemed (provider : OAuthProvider) (identity : RedeemedIdentity)
  | connectionRedeemed (connectionId organizationId : Uuid) (identity : RedeemedIdentity)
  | asserted (connectionId organizationId : Uuid) (email : String)
  | exchanged (time : Instant)
  deriving DecidableEq, Repr

namespace Lesson

/-- A redeemed identity uses up the state that it was asked for with, and gives its email. -/
def identify (r : IntermediateSession) (identity : RedeemedIdentity) : IntermediateSession :=
  { r with
    oauthStateSha256 := none
    oauthStateTarget := none
    email := some identity.email }

/-- The name and picture of an identity, where it has them. -/
def portray (r : IntermediateSession) (identity : RedeemedIdentity) : IntermediateSession :=
  { r with
    displayName := identity.displayName.or r.displayName
    profilePictureUrl := identity.profilePictureUrl.or r.profilePictureUrl }

/-- The account at a provider. Only Google tells of a domain. -/
def link (r : IntermediateSession) (provider : OAuthProvider) (identity : RedeemedIdentity) :
    IntermediateSession :=
  let r := r.setProviderSubject provider identity.subject
  match provider with
  | .google => { r with googleHostedDomain := identity.hostedDomain }
  | _ => r

def apply (r : IntermediateSession) : Lesson → IntermediateSession
  | challengeIssued email digest =>
    { r with email := some email, emailChallengeSha256 := some digest }
  | emailProved foundsLogin =>
    let r := { r with emailChallengeCompleted := true, emailChallengeSha256 := none }
    if foundsLogin then r.fixPrimaryAuthFactor .email else r
  | resetCodeIssued digest =>
    { r with resetCodeSha256 := some digest, resetCodeVerified := false }
  | resetCodeRedeemed => { r with resetCodeSha256 := none, resetCodeVerified := true }
  | passwordStaged hash => { r with stagedPasswordHash := some hash, resetCodeVerified := false }
  | passwordMatched => { r with passwordVerified := true }.fixPrimaryAuthFactor .password
  | loggedIn organizationId email =>
    { r with
      organizationId := some organizationId
      email := some email
      emailChallengeCompleted := true
      passwordVerified := true }.fixPrimaryAuthFactor .password
  | redirected target digest =>
    { r with oauthStateSha256 := some digest, oauthStateTarget := some target }
  | accountRedeemed provider identity =>
    (portray (link (identify r identity) provider identity) identity).fixPrimaryAuthFactor
      provider.primaryAuthFactor
  | connectionRedeemed connectionId organizationId identity =>
    let r := { identify r identity with
      organizationId := some organizationId
      verifiedOidcConnectionId := some connectionId }
    (portray r identity).fixPrimaryAuthFactor .oidc
  | asserted connectionId organizationId email =>
    { r with
      email := some email
      organizationId := some organizationId
      verifiedSamlConnectionId := some connectionId }.fixPrimaryAuthFactor .saml
  | exchanged time => { r with exchangeTime := some time }

end Lesson

namespace IntermediateSession

variable {r : IntermediateSession}

theorem fixPrimaryAuthFactor_eq {f : PrimaryAuthFactor} :
    r.fixPrimaryAuthFactor f =
      { r with primaryAuthFactor := r.primaryAuthFactor.or (some f) } := by
  unfold fixPrimaryAuthFactor
  split
  · rename_i founded
    obtain ⟨g, founded⟩ := Option.isSome_iff_exists.mp founded
    rw [founded, Option.some_or, ← founded]
  · rename_i unfounded
    rw [Option.not_isSome_iff_eq_none.mp unfounded, Option.none_or]

end IntermediateSession

namespace Lesson

open IntermediateSession

variable {r : IntermediateSession} {lesson : Lesson}

/-! Each lesson as the fields that it writes. -/

section

variable {email : String} {digest : List UInt8} {organizationId connectionId : Uuid}
  {identity : RedeemedIdentity}

@[simp] theorem apply_challengeIssued :
    apply r (.challengeIssued email digest) =
      { r with email := some email, emailChallengeSha256 := some digest } := rfl

@[simp] theorem apply_emailProved {foundsLogin : Bool} :
    apply r (.emailProved foundsLogin) =
      { r with
        emailChallengeCompleted := true
        emailChallengeSha256 := none
        primaryAuthFactor :=
          if foundsLogin then r.primaryAuthFactor.or (some .email) else r.primaryAuthFactor } := by
  cases foundsLogin <;> simp [apply, fixPrimaryAuthFactor_eq]

@[simp] theorem apply_resetCodeIssued :
    apply r (.resetCodeIssued digest) =
      { r with resetCodeSha256 := some digest, resetCodeVerified := false } := rfl

@[simp] theorem apply_resetCodeRedeemed :
    apply r .resetCodeRedeemed = { r with resetCodeSha256 := none, resetCodeVerified := true } :=
  rfl

@[simp] theorem apply_passwordStaged {hash : String} :
    apply r (.passwordStaged hash) =
      { r with stagedPasswordHash := some hash, resetCodeVerified := false } := rfl

@[simp] theorem apply_passwordMatched :
    apply r .passwordMatched =
      { r with
        passwordVerified := true
        primaryAuthFactor := r.primaryAuthFactor.or (some .password) } := by
  rw [apply, fixPrimaryAuthFactor_eq]

@[simp] theorem apply_loggedIn :
    apply r (.loggedIn organizationId email) =
      { r with
        organizationId := some organizationId
        email := some email
        emailChallengeCompleted := true
        passwordVerified := true
        primaryAuthFactor := r.primaryAuthFactor.or (some .password) } := by
  rw [apply, fixPrimaryAuthFactor_eq]

@[simp] theorem apply_redirected {target : OAuthTarget} :
    apply r (.redirected target digest) =
      { r with oauthStateSha256 := some digest, oauthStateTarget := some target } := rfl

@[simp] theorem apply_accountRedeemed {provider : OAuthProvider} :
    apply r (.accountRedeemed provider identity) =
      { r with
        email := some identity.email
        primaryAuthFactor := r.primaryAuthFactor.or (some provider.primaryAuthFactor)
        oauthStateSha256 := none
        oauthStateTarget := none
        googleUserId := if provider = .google then some identity.subject else r.googleUserId
        googleHostedDomain :=
          if provider = .google then identity.hostedDomain else r.googleHostedDomain
        microsoftUserId :=
          if provider = .microsoft then some identity.subject else r.microsoftUserId
        githubUserId := if provider = .github then some identity.subject else r.githubUserId
        displayName := identity.displayName.or r.displayName
        profilePictureUrl := identity.profilePictureUrl.or r.profilePictureUrl } := by
  rw [apply, fixPrimaryAuthFactor_eq]
  cases provider <;> rfl

@[simp] theorem apply_connectionRedeemed :
    apply r (.connectionRedeemed connectionId organizationId identity) =
      { r with
        organizationId := some organizationId
        email := some identity.email
        primaryAuthFactor := r.primaryAuthFactor.or (some .oidc)
        oauthStateSha256 := none
        oauthStateTarget := none
        verifiedOidcConnectionId := some connectionId
        displayName := identity.displayName.or r.displayName
        profilePictureUrl := identity.profilePictureUrl.or r.profilePictureUrl } := by
  rw [apply, fixPrimaryAuthFactor_eq]
  rfl

@[simp] theorem apply_asserted :
    apply r (.asserted connectionId organizationId email) =
      { r with
        organizationId := some organizationId
        email := some email
        primaryAuthFactor := r.primaryAuthFactor.or (some .saml)
        verifiedSamlConnectionId := some connectionId } := by
  rw [apply, fixPrimaryAuthFactor_eq]

@[simp] theorem apply_exchanged {time : Instant} :
    apply r (.exchanged time) = { r with exchangeTime := some time } := rfl

end

@[simp] theorem apply_id : (apply r lesson).id = r.id := by
  cases lesson <;> simp

@[simp] theorem apply_projectId : (apply r lesson).projectId = r.projectId := by
  cases lesson <;> simp

/-- A lesson fits a session that has no other email and is bound to no other organization. -/
def Fits (r : IntermediateSession) : Lesson → Prop
  | challengeIssued email _ => ∀ known ∈ r.email, known = email
  | accountRedeemed _ identity => ∀ known ∈ r.email, known = identity.email
  | loggedIn organizationId email | asserted _ organizationId email =>
    (∀ known ∈ r.email, known = email) ∧ ∀ bound ∈ r.organizationId, bound = organizationId
  | connectionRedeemed _ organizationId identity =>
    (∀ known ∈ r.email, known = identity.email) ∧
      ∀ bound ∈ r.organizationId, bound = organizationId
  | _ => True

/-- The email of a session is settled once. -/
theorem Fits.email (fits : lesson.Fits r) {email : String} (known : r.email = some email) :
    (apply r lesson).email = some email := by
  cases lesson with
  | challengeIssued | accountRedeemed => simp [fits email known]
  | loggedIn | connectionRedeemed | asserted => simp [fits.1 email known]
  | _ => simpa using known

/-- The organization of a session is settled once. -/
theorem Fits.organizationId (fits : lesson.Fits r) {id : Uuid}
    (bound : r.organizationId = some id) : (apply r lesson).organizationId = some id := by
  cases lesson with
  | loggedIn | connectionRedeemed | asserted => simp [fits.2 id bound]
  | _ => simpa using bound

/-! The evidence for the email and the password, lesson by lesson. -/

theorem apply_emailChallengeSha256 :
    (apply r lesson).emailChallengeSha256 = match lesson with
      | challengeIssued _ digest => some digest
      | emailProved _ => none
      | _ => r.emailChallengeSha256 := by
  cases lesson <;> simp

theorem apply_emailChallengeCompleted :
    (apply r lesson).emailChallengeCompleted = match lesson with
      | emailProved _ | loggedIn _ _ => true
      | _ => r.emailChallengeCompleted := by
  cases lesson <;> simp

theorem apply_verifiedSamlConnectionId :
    (apply r lesson).verifiedSamlConnectionId = match lesson with
      | asserted connectionId _ _ => some connectionId
      | _ => r.verifiedSamlConnectionId := by
  cases lesson <;> simp

theorem apply_verifiedOidcConnectionId :
    (apply r lesson).verifiedOidcConnectionId = match lesson with
      | connectionRedeemed connectionId _ _ => some connectionId
      | _ => r.verifiedOidcConnectionId := by
  cases lesson <;> simp

theorem apply_providerSubject {provider : OAuthProvider} :
    (apply r lesson).providerSubject provider = match lesson with
      | accountRedeemed redeemed identity =>
        if redeemed = provider then some identity.subject else r.providerSubject provider
      | _ => r.providerSubject provider := by
  cases provider <;> cases lesson <;> simp [providerSubject]

theorem apply_stagedPasswordHash :
    (apply r lesson).stagedPasswordHash = match lesson with
      | passwordStaged hash => some hash
      | _ => r.stagedPasswordHash := by
  cases lesson <;> simp

theorem apply_resetCodeVerified :
    (apply r lesson).resetCodeVerified = match lesson with
      | resetCodeRedeemed => true
      | resetCodeIssued _ | passwordStaged _ => false
      | _ => r.resetCodeVerified := by
  cases lesson <;> simp

end Lesson

end Vestibule
