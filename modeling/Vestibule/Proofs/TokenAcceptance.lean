import Vestibule.Proofs.AccessToken
import Vestibule.Proofs.Clock
import Vestibule.Proofs.Deactivated

/-! How long and for whom an access token is taken, and that the issuer takes the tokens it mints
for what it minted them for. -/

namespace Vestibule

namespace Instant

variable {t : Instant} {d : Int}

/-- Whole seconds count as such, also from a leap second, and lead nowhere beyond the end of the
calendar. -/
theorem add?_ofSeconds (positive : 0 < d) :
    (t.add? (.ofSeconds d)).map seconds =
      if t.seconds + d ≤ latest.seconds then some (t.seconds + d) else none := by
  obtain ⟨low, high, fraction⟩ := t.valid
  have whole : (Span.ofSeconds d).seconds = d := Int.mul_tdiv_cancel d (by decide)
  have none : (Span.ofSeconds d).subsecond = 0 := Int.mul_tmod_left d 1000000000
  have moved : ∃ nanos < 1000000000, t.add? (.ofSeconds d) = ofUnix? (t.seconds + d) nanos := by
    unfold add? shift
    simp only [whole, none, Int.add_zero, positive, true_or, if_true]
    split
    · rw [if_neg (by omega), if_neg (by omega)]
      exact ⟨_, by omega, rfl⟩
    · rw [if_neg (by omega), if_neg (by omega)]
      exact ⟨_, by omega, rfl⟩
  obtain ⟨nanos, ordinary, moved⟩ := moved
  rw [moved, ofUnix?]
  by_cases reached : t.seconds + d ≤ latest.seconds
  · rw [dif_pos ⟨by omega, reached, .inl ordinary⟩, if_pos reached]
    rfl
  · rw [dif_neg fun range => reached range.2.1, if_neg reached]
    rfl

theorem toInt_seconds : (Int64.ofInt t.seconds).toInt = t.seconds := by
  obtain ⟨low, high, -⟩ := t.valid
  exact Int64.toInt_ofInt_of_le (by omega) (by omega)

end Instant

/-- The claims say whose session it is, and how the user logged in. -/
structure AccessClaims.StandsFor (c : AccessClaims) (x : Session) (u : User) : Prop where
  user : c.userId? = some u.id
  session : c.sessionId? = some x.id
  organization : c.organizationId? = some u.organizationId
  email : c.email = u.email
  factor : c.primaryAuthFactor = x.primaryAuthFactor

namespace TokenIssuer

variable {t : TokenIssuer} {m : Moment} {x : Session} {u : User} {now : Instant} {token : String}
  {c : AccessClaims}

theorem claims?_standsFor (made : t.claims? m x u = some c) : c.StandsFor x u := by
  obtain ⟨expire, _, rfl⟩ := Option.map_eq_some_iff.mp made
  constructor
  case user =>
    change (EntityKind.user.parseId (EntityKind.user.formatId u.id)).toOption = _
    rw [EntityKind.parseId_formatId]
    rfl
  case session =>
    change (EntityKind.session.parseId (EntityKind.session.formatId x.id)).toOption = _
    rw [EntityKind.parseId_formatId]
    rfl
  case organization =>
    change (EntityKind.organization.parseId
      (EntityKind.organization.formatId u.organizationId)).toOption = _
    rw [EntityKind.parseId_formatId]
    rfl
  case email => rfl
  case factor => rfl

theorem claims?_expires (made : t.claims? m x u = some c) :
    ∃ expire, m.now.add? t.config.lifetime = some expire ∧ c.expires.toInt = expire.seconds := by
  obtain ⟨expire, ends, rfl⟩ := Option.map_eq_some_iff.mp made
  exact ⟨expire, ends, Instant.toInt_seconds⟩

theorem claims?_issued (made : t.claims? m x u = some c) :
    c.issued.toInt = m.now.seconds ∧ c.notBefore = c.issued := by
  obtain ⟨expire, _, rfl⟩ := Option.map_eq_some_iff.mp made
  exact ⟨Instant.toInt_seconds, rfl⟩

/-- An issuer admits the claims it makes from the second minute of 1970 on, until a minute after
they expire. -/
theorem admits_claims (made : t.claims? m x u = some c) :
    t.Admits now (!c.audience.isEmpty) c ↔
      60 ≤ now.seconds ∧ now.seconds ≤ c.expires.toInt + 60 := by
  refine ⟨fun admits => earliestExpiry_le_iff.mp admits.expires, fun timely => ?_⟩
  obtain ⟨expire, _, rfl⟩ := Option.map_eq_some_iff.mp made
  refine ⟨earliestExpiry_le_iff.mpr timely, rfl, ?_⟩
  change t.config.audience = [] ∨ _ ∨ ∃ a ∈ t.config.audience, a ∈ t.config.audience
  cases t.config.audience with
  | nil => exact .inl rfl
  | cons a others => exact .inr (.inr ⟨a, List.mem_cons_self, List.mem_cons_self⟩)

/-- Every configuration with a shared secret gives an issuer, who checks with what it signs with. -/
theorem ofConfig_shared {config : JwtConfig} {h : HashFunction} {secret : String}
    (shared : config.algorithm.hash? = some h) (given : config.secret = some secret)
    (nonempty : secret ≠ "") :
    ∃ t, ofConfig config = .ok t ∧ t.config = config ∧ t.keys.checking = t.keys.signing := by
  have key : JwtKeys.secret config = .ok (Utf8.encode secret) := by
    simp [JwtKeys.secret, given, Option.filter, nonempty]
  refine ⟨⟨config, Utf8.encode secret, Utf8.encode secret⟩, ?_, rfl, rfl⟩
  rw [ofConfig, JwtKeys.ofConfig]
  cases algorithm : config.algorithm with
  | hs256 | hs384 | hs512 =>
      dsimp only
      rw [key]
      rfl
  | rs256 | es256 => simp [algorithm, JwtAlgorithm.hash?] at shared

/-- What was signed with a shared secret is taken by its expiry, its issuer and its audience, and
the time that it is not valid before does not matter. -/
theorem validate_shared_iff {h : HashFunction} (shared : t.config.algorithm.hash? = some h)
    (same : t.keys.checking = t.keys.signing) (signed : t.encode c = .ok token) :
    t.validate now token = .ok c ↔
      (60 ≤ now.seconds ∧ now.seconds ≤ c.expires.toInt + 60) ∧ c.issuer = t.config.issuer ∧
        (t.config.audience = [] ∨ c.audience = [] ∨ ∃ a ∈ c.audience, a ∈ t.config.audience) := by
  have named : (!c.audience.isEmpty) = false ↔ c.audience = [] := by simp
  rw [validate_shared shared same signed, ← earliestExpiry_le_iff, ← named]
  exact ⟨fun admits => ⟨admits.expires, admits.issuer, admits.audience⟩,
    fun ⟨expires, issuer, audience⟩ => ⟨expires, issuer, audience⟩⟩

end TokenIssuer

namespace Service

open Transaction

variable {t : TokenIssuer} {m : Moment} {s s' : Store} {x : Session} {u : User} {now : Instant}
  {refreshToken token : String} {c : AccessClaims}

/-- The owner of a refresh token is answered with what the issuer makes of its claims. Nothing is
answered where the calendar ends before they would expire. -/
theorem run_accessTokenBody (owner : (refreshOwner refreshToken).Commits m s (x, u) s) :
    (accessTokenBody t refreshToken).run m s =
      ((t.claims? m x u).elim (.error .brokenOff) t.encode).map fun token => (token, s) := by
  cases made : t.claims? m x u with
  | none =>
      have endless : m.now.add? t.config.lifetime = none := Option.map_eq_none_iff.mp made
      have reaches : (reach t.config.lifetime).Fails m s .brokenOff :=
        fails_reach.mpr ⟨endless, rfl⟩
      have broken : (refreshedClaims t refreshToken).Fails m s .brokenOff :=
        fails_bind.mpr (.inr ⟨(x, u), s, owner, fails_bind.mpr (.inr
          ⟨m, s, commits_read.mpr ⟨rfl, rfl⟩, fails_bind.mpr (.inl reaches)⟩)⟩)
      exact run_bind_of_error broken
  | some c =>
      have claimed : (refreshedClaims t refreshToken).Commits m s c s :=
        refreshedClaims_commits.mpr ⟨x, u, owner, made⟩
      refine claimed.run_bind.trans ?_
      rw [Option.elim_some]
      cases t.encode c <;> rfl

/-- A request for an access token takes one turn. -/
theorem finish?_issueAccessToken {v : Service} {w : Turn serviceInterface} :
    (v.issueAccessToken refreshToken).finish? [w] s =
      match (accessTokenBody v.issuer refreshToken).run w.moment s with
      | .ok (token, s') => some (.ok token, [], s')
      | .error e => some (.error e, [], s) := by
  cases ran : (accessTokenBody v.issuer refreshToken).run w.moment s <;>
    simp [issueAccessToken, Operation.single, Operation.finish?, Operation.step?, ran]

/-- A token that was minted is taken for its claims only, until a minute after its lifetime. -/
theorem accessTokenBody_taken (minted : (accessTokenBody t refreshToken).Commits m s token s')
    (accepted : t.validate now token = .ok c) :
    ∃ expire, m.now.add? t.config.lifetime = some expire ∧ now.seconds ≤ expire.seconds + 60 := by
  obtain ⟨x, u, claims, _, _, _, made, signed⟩ := accessTokenBody_commits minted
  obtain ⟨rfl, admits⟩ := TokenIssuer.validate_signed signed accepted
  obtain ⟨expire, ends, expires⟩ := TokenIssuer.claims?_expires made
  exact ⟨expire, ends, expires ▸ (TokenIssuer.earliestExpiry_le_iff.mp admits.expires).2⟩

end Service

namespace Deployment

def tokens : JwtConfig :=
  { JwtConfig.ofAuthConfig {} with secret := some "the secret of the shop", audience := ["shop"] }

def issuer : TokenIssuer :=
  ⟨tokens, Utf8.encode "the secret of the shop", Utf8.encode "the secret of the shop"⟩

def login : Session :=
  .new (.ofNat 5) now user.id (Secret.ofNat 1005).digest .password soon

/-- The user has logged in. -/
def signedIn : Store := { store (only user) none with sessions := { rows := [login] } }

/-- The end of a token that is minted now. -/
def lapse : Instant := ⟨1700000300, 0, by decide⟩

/-- The minute after a token that is minted now has expired. -/
def overtime : Instant := ⟨1700000330, 0, by decide⟩

theorem signedIn_session :
    signedIn.sessionByRefreshDigest? (Secret.ofNat 1005).digest = some login := by
  simp [Store.sessionByRefreshDigest?, signedIn, login, Session.new]

theorem signedIn_owner :
    (Service.refreshOwner refreshToken).Commits lateTurn.moment signedIn (login, user) signedIn :=
  Service.refreshOwner_commits.mpr
    ⟨⟨_, Secret.digest?_token, signedIn_session⟩, by decide +kernel, rfl, rfl, rfl⟩

/-- The claims of the access token that the user gets. -/
def claims : AccessClaims :=
  { AccessClaims.new lateTurn.moment.claimsId now login user tokens.issuer lapse with
    audience := tokens.audience }

theorem claims_made : issuer.claims? lateTurn.moment login user = some claims := by decide +kernel

theorem claims_expires : claims.expires.toInt = 1700000300 := by decide +kernel

theorem minted :
    ∃ token, issuer.encode claims = .ok token ∧
      (Service.accessTokenBody issuer refreshToken).Commits lateTurn.moment signedIn token
        signedIn := by
  obtain ⟨token, signed⟩ := TokenIssuer.encode_shared (t := issuer) (c := claims) rfl
  refine ⟨token, signed, (Service.run_accessTokenBody signedIn_owner).trans ?_⟩
  rw [claims_made, Option.elim_some, signed]
  rfl

end Deployment

/-- A token is taken until a minute after it expires, from the second minute of 1970 on, but never
later; so a token that is minted is taken for a minute more than its lifetime. When it begins to be
valid is not looked at: signed with a shared secret, for the issuer and an audience of it, it is
taken at all times up to that minute. -/
theorem TokenIssuer.taken_until_leeway (t : TokenIssuer) :
    (∀ now token c, t.validate now token = .ok c →
      60 ≤ now.seconds ∧ now.seconds ≤ c.expires.toInt + 60) ∧
    (∀ m s s' refreshToken now token c,
      (Service.accessTokenBody t refreshToken).Commits m s token s' →
        t.validate now token = .ok c → ∃ expire, m.now.add? t.config.lifetime = some expire ∧
          now.seconds ≤ expire.seconds + 60) ∧
    ∀ h now token c, t.config.algorithm.hash? = some h → t.keys.checking = t.keys.signing →
      t.encode c = .ok token → c.issuer = t.config.issuer →
        (t.config.audience = [] ∨ c.audience = [] ∨ ∃ a ∈ c.audience, a ∈ t.config.audience) →
          (t.validate now token = .ok c ↔
            60 ≤ now.seconds ∧ now.seconds ≤ c.expires.toInt + 60) := by
  refine ⟨fun now token c accepted => ?_, fun m s s' refreshToken now token c minted accepted =>
    Service.accessTokenBody_taken minted accepted,
    fun h now token c shared same signed own heard => ?_⟩
  · obtain ⟨_, _, _, _, admits⟩ := validate_eq_ok.mp accepted
    exact earliestExpiry_le_iff.mp admits.expires
  · rw [validate_shared_iff shared same signed, and_iff_left ⟨own, heard⟩]

theorem TokenIssuer.taken_until_leeway_of_minted :
    ∃ token, Deployment.issuer.encode Deployment.claims = .ok token ∧
      Deployment.issuer.validate Deployment.overtime token = .ok Deployment.claims ∧
      ∀ now c, Deployment.issuer.validate now token = .ok c →
        60 ≤ now.seconds ∧ now.seconds ≤ 1700000360 := by
  obtain ⟨earliest, latest, exact'⟩ := TokenIssuer.taken_until_leeway Deployment.issuer
  obtain ⟨token, signed, minted⟩ := Deployment.minted
  refine ⟨token, signed, ?_, fun now c accepted => ⟨(earliest now token c accepted).1, ?_⟩⟩
  rotate_left
  · obtain ⟨expire, ends, timely⟩ := latest _ _ _ _ now token c minted accepted
    have lapses : Deployment.lateTurn.moment.now.add? Deployment.issuer.config.lifetime =
        some Deployment.lapse := by decide +kernel
    cases lapses.symm.trans ends
    exact timely
  refine (exact' _ Deployment.overtime token Deployment.claims rfl rfl signed rfl ?_).mpr ?_
  · exact .inr (.inr ⟨"shop", List.mem_cons_self, List.mem_cons_self⟩)
  · rw [Deployment.claims_expires]
    decide

/-- A token that is taken may have expired. -/
theorem TokenIssuer.expired_token_taken :
    ¬ ∀ (t : TokenIssuer) (now : Instant) (token : String) (c : AccessClaims),
      t.validate now token = .ok c → c.isExpired now = false ∧ c.notBefore.toInt ≤ now.seconds := by
  intro claim
  obtain ⟨token, signed, _⟩ := Deployment.minted
  have accepted : Deployment.issuer.validate Deployment.overtime token = .ok Deployment.claims := by
    rw [validate_shared rfl rfl signed]
    refine (admits_claims Deployment.claims_made).mpr ?_
    rw [Deployment.claims_expires]
    decide
  have valid := (claim _ _ token _ accepted).1
  rw [AccessClaims.isExpired, Deployment.claims_expires] at valid
  cases valid

/-- With an audience configured, a token that is taken names one of it, or names no audience at all;
and a token without one, signed with a shared secret, is taken like one with the right one. -/
theorem TokenIssuer.audience_restricts {t : TokenIssuer} (configured : t.config.audience ≠ []) :
    (∀ now token c, t.validate now token = .ok c →
      (∃ a ∈ c.audience, a ∈ t.config.audience) ∨
        c.audience = [] ∧ ∃ body, t.Confirms token body ∧ body.member? "aud" = none) ∧
    ∀ h now token c, t.config.algorithm.hash? = some h → t.keys.checking = t.keys.signing →
      t.encode c = .ok token → c.issuer = t.config.issuer →
        60 ≤ now.seconds → now.seconds ≤ c.expires.toInt + 60 →
          (t.validate now token = .ok c ↔
            c.audience = [] ∨ ∃ a ∈ c.audience, a ∈ t.config.audience) := by
  constructor
  · intro now token c accepted
    obtain ⟨body, confirms, object, read, admits⟩ := validate_eq_ok.mp accepted
    rcases admits.audience with none | unnamed | common
    · exact absurd none configured
    · rw [Option.isSome_eq_false_iff, Option.isNone_iff_eq_none] at unnamed
      exact .inr ⟨AccessClaims.audience_of_unnamed object read unnamed, body, confirms, unnamed⟩
    · exact .inl common
  · intro h now token c shared same signed own begun timely
    rw [validate_shared_iff shared same signed, and_iff_right ⟨begun, timely⟩, and_iff_right own,
      or_iff_right configured]

theorem TokenIssuer.audience_restricts_of_shop :
    (∀ now token c, Deployment.issuer.validate now token = .ok c →
      "shop" ∈ c.audience ∨ c.audience = []) ∧
    ∃ token, Deployment.issuer.encode { Deployment.claims with audience := ["bank"] } = .ok token ∧
      Deployment.issuer.validate Deployment.now token ≠
        .ok { Deployment.claims with audience := ["bank"] } := by
  obtain ⟨restricted, exact'⟩ := TokenIssuer.audience_restricts (t := Deployment.issuer) (by decide)
  have shop : ∀ names : List String, (∃ a ∈ names, a ∈ Deployment.issuer.config.audience) →
      "shop" ∈ names := by
    rintro names ⟨a, member, own⟩
    cases List.mem_singleton.mp own
    exact member
  constructor
  · intro now token c accepted
    exact (restricted now token c accepted).imp (shop c.audience) And.left
  · obtain ⟨token, signed⟩ := TokenIssuer.encode_shared (t := Deployment.issuer)
      (c := { Deployment.claims with audience := ["bank"] }) rfl
    refine ⟨token, signed, fun accepted => ?_⟩
    have timely : Deployment.now.seconds ≤ Deployment.claims.expires.toInt + 60 := by
      rw [Deployment.claims_expires]
      decide
    rcases (exact' _ Deployment.now token _ rfl rfl signed rfl (by decide) timely).mp accepted with
      none | common
    · cases none
    · exact absurd (shop _ common) (by decide)

/-- A token that is taken may name no audience. -/
theorem TokenIssuer.token_without_audience_taken :
    ¬ ∀ (t : TokenIssuer) (now : Instant) (token : String) (c : AccessClaims),
      t.config.audience ≠ [] → t.validate now token = .ok c →
        ∃ a ∈ c.audience, a ∈ t.config.audience := by
  intro claim
  obtain ⟨token, signed⟩ := encode_shared (t := Deployment.issuer)
    (c := { Deployment.claims with audience := [] }) rfl
  have timely : 60 ≤ Deployment.now.seconds ∧
      Deployment.now.seconds ≤ Deployment.claims.expires.toInt + 60 := by
    rw [Deployment.claims_expires]
    decide
  obtain ⟨a, member, _⟩ := claim Deployment.issuer Deployment.now token _ (by decide)
    ((validate_shared_iff rfl rfl signed).mpr ⟨timely, rfl, .inr (.inl rfl)⟩)
  cases member

/-- The token that the holder of a refresh token gets, from an issuer with a shared secret and any
lifetime of whole seconds within the calendar, is taken by that issuer for the claims it signed,
until they expire. They stand for the session and its user, begin when the token is minted and
expire after the lifetime. From the second minute of 1970 on, since the issuer looks a minute
back. -/
theorem Service.minted_token_validates {config : JwtConfig} {h : HashFunction} {secret : String}
    {lifetime : Int} {refreshToken : String} {digest : List UInt8} {s : Store}
    {w : Turn serviceInterface} {x : Session} {u : User}
    (shared : config.algorithm.hash? = some h) (given : config.secret = some secret)
    (nonempty : secret ≠ "") (whole : config.lifetime = .ofSeconds lifetime)
    (positive : 0 < lifetime)
    (reached : w.moment.now.seconds + lifetime ≤ Instant.latest.seconds)
    (presented : SecretTokenKind.sessionRefreshToken.digest? refreshToken = some digest)
    (found : s.sessionByRefreshDigest? digest = some x) (live : x.isLive w.moment.now = true)
    (stored : s.users.get? x.userId = some u) (active : u.isActive = true) :
    ∃ issuer token c, TokenIssuer.ofConfig config = .ok issuer ∧ issuer.encode c = .ok token ∧
      (∀ v : Service, v.issuer = issuer →
        (v.issueAccessToken refreshToken).finish? [w] s = some (.ok token, [], s)) ∧
      (∀ now : Instant, 60 ≤ now.seconds → now.seconds ≤ c.expires.toInt →
        issuer.validate now token = .ok c) ∧
      u.id = x.userId ∧ c.StandsFor x u ∧ c.issued.toInt = w.moment.now.seconds ∧
      c.notBefore = c.issued ∧ c.issued ≤ c.expires ∧
      c.expires.toInt = c.issued.toInt + lifetime := by
  obtain ⟨issuer, valid, own, same⟩ := TokenIssuer.ofConfig_shared shared given nonempty
  subst own
  have moved := Instant.add?_ofSeconds (t := w.moment.now) positive
  rw [if_pos reached] at moved
  obtain ⟨expire, ends, lasts⟩ := Option.map_eq_some_iff.mp moved
  obtain ⟨c, made⟩ : ∃ c, issuer.claims? w.moment x u = some c := by
    rw [TokenIssuer.claims?, whole, ends]
    exact ⟨_, rfl⟩
  obtain ⟨token, signed⟩ := TokenIssuer.encode_shared (t := issuer) (c := c) shared
  have own : u.id = x.userId := Table.key_of_get? stored
  have owner : (refreshOwner refreshToken).Commits w.moment s (x, u) s :=
    refreshOwner_commits.mpr ⟨⟨digest, presented, found⟩, live, stored, active, rfl⟩
  obtain ⟨issued, begins⟩ := TokenIssuer.claims?_issued made
  have expiry : c.expires.toInt = c.issued.toInt + lifetime := by
    obtain ⟨expire', ends', expires⟩ := TokenIssuer.claims?_expires made
    rw [whole, ends, Option.some.injEq] at ends'
    rw [expires, ← ends', lasts, issued]
  refine ⟨issuer, token, c, valid, signed, fun v mints => ?_, fun now begun timely => ?_, own,
    TokenIssuer.claims?_standsFor made, issued, begins, ?_, expiry⟩
  · subst mints
    rw [finish?_issueAccessToken, run_accessTokenBody owner, made, Option.elim_some, signed]
    rfl
  · exact (TokenIssuer.validate_shared shared same signed).mpr
      ((TokenIssuer.admits_claims made).mpr ⟨begun, by omega⟩)
  · rw [Int64.le_iff_toInt_le, expiry]
    omega

theorem Service.minted_token_validates_of_login :
    ∃ issuer token c, TokenIssuer.ofConfig Deployment.tokens = .ok issuer ∧
      (({ Deployment.service with issuer := issuer } : Service).issueAccessToken
        Deployment.refreshToken).finish? [Deployment.lateTurn] Deployment.signedIn =
          some (.ok token, [], Deployment.signedIn) ∧
      issuer.validate Deployment.lapse token = .ok c ∧
      c.StandsFor Deployment.login Deployment.user ∧ c.expires.toInt = c.issued.toInt + 300 := by
  obtain ⟨issuer, token, c, valid, _, mints, taken, _, standsFor, issued, _, _, expires⟩ :=
    Service.minted_token_validates (show Deployment.tokens.algorithm.hash? = some .sha256 from rfl)
      rfl (by decide) (show Deployment.tokens.lifetime = .ofSeconds 300 from rfl) (by decide)
      (w := Deployment.lateTurn) (by decide +kernel) Secret.digest?_token
      Deployment.signedIn_session (by decide +kernel) (u := Deployment.user) rfl rfl
  have begun : Deployment.lateTurn.moment.now.seconds = 1700000000 := rfl
  have expiry : c.expires.toInt = 1700000300 := by
    rw [expires, issued, begun]
    decide
  refine ⟨issuer, token, c, valid, mints _ rfl,
    taken _ (by decide) (Int.le_of_eq expiry.symm), standsFor, ?_⟩
  rw [expiry, issued, begun]
  rfl

/-- No token comes of a lifetime that the calendar ends before. -/
theorem Service.no_token_beyond_calendar :
    ¬ ∀ (config : JwtConfig) (h : HashFunction) (secret : String) (lifetime : Int)
      (refreshToken : String) (digest : List UInt8) (s : Store) (w : Turn serviceInterface)
      (x : Session) (u : User), config.algorithm.hash? = some h → config.secret = some secret →
        secret ≠ "" → config.lifetime = .ofSeconds lifetime → 0 < lifetime →
          SecretTokenKind.sessionRefreshToken.digest? refreshToken = some digest →
            s.sessionByRefreshDigest? digest = some x → x.isLive w.moment.now = true →
              s.users.get? x.userId = some u → u.isActive = true →
                ∀ v : Service, TokenIssuer.ofConfig config = .ok v.issuer →
                  ∃ token, (v.issueAccessToken refreshToken).finish? [w] s =
                    some (.ok token, [], s) := by
  intro claim
  let config : JwtConfig := { Deployment.tokens with lifetime := .ofSeconds 9000000000000 }
  obtain ⟨issuer, valid, own, _⟩ := TokenIssuer.ofConfig_shared
    (show config.algorithm.hash? = some .sha256 from rfl) rfl (by decide)
  obtain ⟨token, ended⟩ := claim _ .sha256 _ 9000000000000 Deployment.refreshToken _
    Deployment.signedIn Deployment.lateTurn Deployment.login Deployment.user rfl rfl (by decide) rfl
    (by decide) Secret.digest?_token Deployment.signedIn_session (by decide +kernel) rfl rfl
    { Deployment.service with issuer := issuer } valid
  have endless : issuer.claims? Deployment.lateTurn.moment Deployment.login Deployment.user =
      none := by
    rw [TokenIssuer.claims?, own]
    decide +kernel
  rw [finish?_issueAccessToken, run_accessTokenBody Deployment.signedIn_owner, endless] at ended
  cases ended

end Vestibule
