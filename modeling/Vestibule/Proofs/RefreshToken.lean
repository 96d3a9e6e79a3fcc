import Vestibule.Proofs.Refusal
import Vestibule.Proofs.TokenAcceptance
import Vestibule.Proofs.TokenText

/-! Whom a refresh token is honoured for. An access token is given for the refresh token of a live
session of an active user and for no other text, and what is wrong with a text is not told. -/

namespace Vestibule

/-- No two sessions are kept under one digest. -/
def Store.DistinctDigests (s : Store) : Prop :=
  s.sessions.rows.Pairwise fun x y => x.refreshTokenSha256 ≠ y.refreshTokenSha256

/-- The text is the refresh token of a live session of an active user. -/
structure Store.Honours (s : Store) (now : Instant) (text : String) (x : Session) (u : User) :
    Prop where
  token : ∃ secret, secret.length = SecretTokenKind.secretBytes ∧
    text = SecretTokenKind.sessionRefreshToken.render secret ∧
      Sha256.digest secret = x.refreshTokenSha256
  session : x ∈ s.sessions.rows
  unrevoked : x.revoked = false
  unexpired : now < x.expireTime
  user : u ∈ s.users.rows
  own : u.id = x.userId
  active : u.deactivateTime = none

/-- Whether the key of the issuer signs these claims. -/
def TokenIssuer.CanSign (t : TokenIssuer) (c : AccessClaims) : Prop :=
  (t.config.algorithm.sign? t.keys (Utf8.encode (String.ofList (t.message c)))).isSome = true

section

open Transaction

variable {s s' : Store} {m : Moment} {t : TokenIssuer} {c : AccessClaims} {text : String}
  {digest : List UInt8} {x : Session} {u : User} {e : RequestError}

/-- Where digests are distinct, a session is found by its own. -/
theorem Store.DistinctDigests.found_iff (distinct : s.DistinctDigests) :
    s.sessionByRefreshDigest? digest = some x ↔
      x ∈ s.sessions.rows ∧ x.refreshTokenSha256 = digest := by
  unfold Store.DistinctDigests at distinct
  rw [Store.sessionByRefreshDigest?]
  generalize s.sessions.rows = rows at distinct
  induction rows with
  | nil => simp
  | cons y rest ih =>
      obtain ⟨apart, distinct⟩ := List.pairwise_cons.mp distinct
      by_cases own : y.refreshTokenSha256 = digest
      · rw [List.find?_cons_of_pos (by simpa using own)]
        constructor
        · intro same
          cases same
          exact ⟨List.mem_cons_self, own⟩
        · rintro ⟨listed, same⟩
          rcases List.mem_cons.mp listed with rfl | later
          · rfl
          · exact absurd (own.trans same.symm) (apart x later)
      · rw [List.find?_cons_of_neg (by simpa using own), ih distinct]
        refine and_congr_left fun same => ⟨List.mem_cons_of_mem y, fun listed => ?_⟩
        rcases List.mem_cons.mp listed with rfl | later
        · exact absurd same own
        · exact later

theorem TokenIssuer.canSign_iff : t.CanSign c ↔ ∃ token, t.encode c = .ok token := by
  simp only [CanSign, encode_eq_ok, Option.isSome_iff_exists]
  constructor
  · rintro ⟨signature, signed⟩
    exact ⟨_, signature, signed, rfl⟩
  · rintro ⟨_, signature, signed, _⟩
    exact ⟨signature, signed⟩

theorem TokenIssuer.canSign_of_shared {h : HashFunction}
    (shared : t.config.algorithm.hash? = some h) : t.CanSign c :=
  canSign_iff.mpr (encode_shared shared)

/-- The owner of a refresh token is the one that the store honours it for. -/
theorem Service.refreshOwner_commits_iff (distinct : s.DistinctDigests) :
    (refreshOwner text).Commits m s (x, u) s' ↔ s.Honours m.now text x u ∧ s' = s := by
  simp only [refreshOwner_commits, SecretTokenKind.digest?_eq_some_iff, distinct.found_iff,
    Table.get?_eq_some_iff, Session.isLive, User.isActive, Bool.and_eq_true, Bool.not_eq_true',
    decide_eq_true_eq, Option.isNone_iff_eq_none]
  constructor
  · rintro ⟨⟨_, ⟨secret, size, whole, rfl⟩, listed, kept⟩, ⟨unrevoked, unexpired⟩, ⟨user, own⟩,
      active, rfl⟩
    exact ⟨⟨⟨secret, size, whole, kept.symm⟩, listed, unrevoked, unexpired, user, own, active⟩, rfl⟩
  · rintro ⟨⟨⟨secret, size, whole, kept⟩, listed, unrevoked, unexpired, user, own, active⟩, rfl⟩
    exact ⟨⟨_, ⟨secret, size, whole, rfl⟩, listed, kept.symm⟩, ⟨unrevoked, unexpired⟩,
      ⟨user, own⟩, active, rfl⟩

/-- There is one way for a refresh token to have no owner. -/
theorem Service.refreshOwner_fails_unauthenticated (failed : (refreshOwner text).Fails m s e) :
    e = .unauthenticated .refreshToken := by
  simp only [refreshOwner, fails_bind, fails_need, fails_get, fails_now, fails_pure, false_or,
    or_false, and_false, exists_false] at failed
  rcases failed with ⟨-, rfl⟩ | ⟨_, _, -, _, _, -, _, _, -, ⟨-, rfl⟩ | ⟨_, _, -, -, rfl⟩⟩ <;> rfl

/-- A refresh token is honoured for one session and one user. -/
theorem Store.Honours.unique {x' : Session} {u' : User} (distinct : s.DistinctDigests)
    (honours : s.Honours m.now text x u) (honours' : s.Honours m.now text x' u') :
    x' = x ∧ u' = u := by
  have owner : (Service.refreshOwner text).run m s = .ok ((x, u), s) :=
    (Service.refreshOwner_commits_iff distinct).mpr ⟨honours, rfl⟩
  have owner' : (Service.refreshOwner text).run m s = .ok ((x', u'), s) :=
    (Service.refreshOwner_commits_iff distinct).mpr ⟨honours', rfl⟩
  rw [owner] at owner'
  cases owner'
  exact ⟨rfl, rfl⟩

/-- A refresh token that is honoured is answered with what the issuer makes of its claims. -/
theorem Service.accessTokenBody_honours (distinct : s.DistinctDigests)
    (honours : s.Honours m.now text x u) : (accessTokenBody t text).run m s =
      ((t.claims? m x u).elim (.error .brokenOff) t.encode).map fun token => (token, s) :=
  run_accessTokenBody ((refreshOwner_commits_iff distinct).mpr ⟨honours, rfl⟩)

/-- Any other text is refused in one way. -/
theorem Service.accessTokenBody_dishonours (distinct : s.DistinctDigests)
    (nobody : ¬ ∃ x u, s.Honours m.now text x u) :
    (accessTokenBody t text).run m s = .error (.unauthenticated .refreshToken) := by
  have refused : (refreshOwner text).run m s = .error (.unauthenticated .refreshToken) := by
    cases ran : (refreshOwner text).run m s with
    | ok done =>
        obtain ⟨⟨x, u⟩, s'⟩ := done
        exact absurd ⟨x, u, ((refreshOwner_commits_iff distinct).mp ran).1⟩ nobody
    | error e => rw [refreshOwner_fails_unauthenticated ran]
  exact run_bind_of_error (run_bind_of_error refused)

end

/-- An access token is given for the refresh token of a live session of an active user, where the
calendar reaches to its end and the key of the issuer signs the claims; a shared secret always does.
Every other text gets the same refusal, and a key that does not sign is a failure of the service.
The store stays as it was. -/
theorem Service.refresh_token_honoured {s : Store} (distinct : s.DistinctDigests) (v : Service)
    (w : Turn serviceInterface) (text : String) :
    ∃ answer, (v.issueAccessToken text).finish? [w] s = some (answer, [], s) ∧
      ((∃ token, answer = .ok token) ↔ ∃ x u c, s.Honours w.moment.now text x u ∧
        v.issuer.claims? w.moment x u = some c ∧ v.issuer.CanSign c) ∧
      ((¬ ∃ x u, s.Honours w.moment.now text x u) →
        answer = .error (.unauthenticated .refreshToken)) ∧
      (∀ x u c, s.Honours w.moment.now text x u → v.issuer.claims? w.moment x u = some c →
        ¬ v.issuer.CanSign c → answer = .error (.internal .encodeToken)) ∧
      (∀ x u, s.Honours w.moment.now text x u →
        w.moment.now.add? v.issuer.config.lifetime = none → answer = .error .brokenOff) ∧
      ∀ h c, v.issuer.config.algorithm.hash? = some h → v.issuer.CanSign c := by
  by_cases somebody : ∃ x u, s.Honours w.moment.now text x u
  · obtain ⟨x, u, honours⟩ := somebody
    refine ⟨(v.issuer.claims? w.moment x u).elim (.error .brokenOff) v.issuer.encode, ?_, ?_,
      fun nobody => absurd ⟨x, u, honours⟩ nobody, ?_, ?_, fun h c => TokenIssuer.canSign_of_shared⟩
    · rw [finish?_issueAccessToken, accessTokenBody_honours distinct honours]
      cases (v.issuer.claims? w.moment x u).elim (.error .brokenOff) v.issuer.encode <;> rfl
    · constructor
      · rintro ⟨token, given⟩
        cases made : v.issuer.claims? w.moment x u with
        | none => simp [made] at given
        | some c =>
            rw [made, Option.elim_some] at given
            exact ⟨x, u, c, honours, made, TokenIssuer.canSign_iff.mpr ⟨token, given⟩⟩
      · rintro ⟨x', u', c, honours', made, signs⟩
        obtain ⟨rfl, rfl⟩ := honours.unique distinct honours'
        rw [made, Option.elim_some]
        exact TokenIssuer.canSign_iff.mp signs
    · intro x' u' c honours' made unsigned
      obtain ⟨rfl, rfl⟩ := honours.unique distinct honours'
      rw [made, Option.elim_some]
      cases failed : v.issuer.encode c with
      | ok token => exact absurd (TokenIssuer.canSign_iff.mpr ⟨token, failed⟩) unsigned
      | error e => rw [(TokenIssuer.encode_eq_error failed).1]
    · intro x' u' honours' endless
      rw [TokenIssuer.claims?, endless]
      rfl
  · refine ⟨_, ?_, ?_, fun _ => rfl, fun x u _ honours => absurd ⟨x, u, honours⟩ somebody,
      fun x u honours => absurd ⟨x, u, honours⟩ somebody, fun h c => TokenIssuer.canSign_of_shared⟩
    · rw [finish?_issueAccessToken, accessTokenBody_dishonours distinct somebody]
    · constructor
      · rintro ⟨token, given⟩
        cases given
      · rintro ⟨x, u, _, honours, -⟩
        exact absurd ⟨x, u, honours⟩ somebody

namespace Deployment

theorem signedIn_distinct : signedIn.DistinctDigests := List.pairwise_singleton ..

theorem signedIn_honours : signedIn.Honours lateTurn.moment.now refreshToken login user where
  token := ⟨(Secret.ofNat 1005).bytes, (Secret.ofNat 1005).length_bytes, rfl, rfl⟩
  session := List.mem_singleton_self login
  unrevoked := rfl
  unexpired := by decide +kernel
  user := List.mem_singleton_self user
  own := rfl
  active := rfl

/-- The text of a key file that holds no RSA key. -/
def blankKey (kind : String) : String :=
  "-----BEGIN RSA " ++ kind ++ " KEY-----\nAgEA\n-----END RSA " ++ kind ++ " KEY-----\n"

def blankTokens : JwtConfig :=
  { JwtConfig.ofAuthConfig {} with
    algorithm := .rs256
    privateKey := some (blankKey "PRIVATE")
    publicKey := some (blankKey "PUBLIC") }

/-- Whether the bytes of a key file are a key shows when it is used. -/
def blankIssuer : TokenIssuer := ⟨blankTokens, ⟨[2, 1, 0], [2, 1, 0]⟩⟩

theorem blankIssuer_valid : TokenIssuer.ofConfig blankTokens = .ok blankIssuer := by
  decide +kernel

theorem blankIssuer_encode {c : AccessClaims} :
    blankIssuer.encode c = .error (.internal .encodeToken) := by
  have none : (Rsa.PrivateKey.read? [2, 1, 0]).isNone = true := by decide +kernel
  rw [Option.isNone_iff_eq_none] at none
  have unsigned (message : List UInt8) :
      blankIssuer.config.algorithm.sign? blankIssuer.keys message = Option.none := by
    change (Rsa.PrivateKey.read? [2, 1, 0]).bind (Rsa.sign? · message) = Option.none
    rw [none]
    rfl
  simp only [TokenIssuer.encode, unsigned]

/-- The service with an issuer whose secret is shared. -/
def shop : Service := { service with issuer := issuer }

/-- The service with an issuer that has no key. -/
def keyless : Service := { service with issuer := blankIssuer }

end Deployment

theorem Service.refresh_token_honoured_of_login :
    (∃ token, (Deployment.shop.issueAccessToken Deployment.refreshToken).finish?
      [Deployment.lateTurn] Deployment.signedIn = some (.ok token, [], Deployment.signedIn)) ∧
    (Deployment.shop.issueAccessToken "session_refresh_token_").finish?
      [Deployment.lateTurn] Deployment.signedIn =
        some (.error (.unauthenticated .refreshToken), [], Deployment.signedIn) := by
  constructor
  · obtain ⟨answer, ended, given, -, -, -, signs⟩ :=
      refresh_token_honoured Deployment.signedIn_distinct Deployment.shop Deployment.lateTurn
        Deployment.refreshToken
    obtain ⟨token, rfl⟩ := given.mpr
      ⟨_, _, _, Deployment.signedIn_honours, Deployment.claims_made, signs .sha256 _ rfl⟩
    exact ⟨token, ended⟩
  · obtain ⟨answer, ended, -, refused, -⟩ :=
      refresh_token_honoured Deployment.signedIn_distinct Deployment.shop Deployment.lateTurn
        "session_refresh_token_"
    rw [ended, refused]
    rintro ⟨x, u, ⟨secret, size, whole, -⟩, -⟩
    obtain ⟨body, same, isBody⟩ := SecretTokenKind.render_iff.mp ⟨secret, size, whole⟩
    have sizes := congrArg List.length same
    rw [List.length_append, isBody.length] at sizes
    exact absurd sizes (by decide)

/-- A refresh token that is honoured gets no access token from an issuer whose key cannot sign. -/
theorem Service.honoured_token_unsigned :
    ¬ ∀ (v : Service) (w : Turn serviceInterface) (s : Store) (text : String),
      TokenIssuer.ofConfig v.issuer.config = .ok v.issuer → s.DistinctDigests →
        ((∃ token, (v.issueAccessToken text).finish? [w] s = some (.ok token, [], s)) ↔
          ∃ x u, s.Honours w.moment.now text x u) := by
  intro claim
  obtain ⟨token, ended⟩ := (claim Deployment.keyless Deployment.lateTurn Deployment.signedIn
    Deployment.refreshToken Deployment.blankIssuer_valid Deployment.signedIn_distinct).mpr
      ⟨_, _, Deployment.signedIn_honours⟩
  have made : Deployment.blankIssuer.claims? Deployment.lateTurn.moment Deployment.login
      Deployment.user ≠ none := by decide +kernel
  obtain ⟨c, made⟩ := Option.ne_none_iff_exists'.mp made
  rw [finish?_issueAccessToken, show Deployment.keyless.issuer = Deployment.blankIssuer from rfl,
    accessTokenBody_honours Deployment.signedIn_distinct Deployment.signedIn_honours, made,
    Option.elim_some, Deployment.blankIssuer_encode] at ended
  cases ended

end Vestibule
