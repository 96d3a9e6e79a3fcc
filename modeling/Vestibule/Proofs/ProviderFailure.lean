import Vestibule.Proofs.Ending

/-! What a request makes of the failure of a service that it asked. It ends with the error that the
call has for this failure, and who is blamed for it shows in the kind of the error. -/

namespace Vestibule

section

variable {I : Interface} {α β σ φ : Type} {fatal? : (request : I.Request) → I.Reply request →
  Option RequestError}

/-- An answer that is a failure is the last: the calls end with the error that it stands for. -/
def Fetch.EndsOn (fatal? : (request : I.Request) → I.Reply request → Option RequestError) :
    Fetch I α → Prop
  | done _ => True
  | ask request next => ∀ reply,
    (∀ e, fatal? request reply = some e → next reply = done (.error e)) ∧
      (next reply).EndsOn fatal?
  | pause next => next.EndsOn fatal?

theorem Fetch.EndsOn.bind {x : Fetch I α} {f : α → Fetch I β} (ends : x.EndsOn fatal?)
    (onward : ∀ a, (f a).EndsOn fatal?) : (x >>= f).EndsOn fatal? := by
  induction x with
  | done result =>
      cases result with
      | error e => trivial
      | ok a => exact onward a
  | ask request next ih =>
      refine fun reply => ⟨fun e failed => ?_, ih reply (ends reply).2⟩
      change Fetch.bind (next reply) f = _
      rw [(ends reply).1 e failed]
      rfl
  | pause next ih => exact ih ends

namespace Operation

/-- As for calls, of an operation. -/
def EndsOn (fatal? : (request : I.Request) → I.Reply request → Option RequestError) :
    Operation I α → Prop
  | finish _ => True
  | transact _ next => ∀ b, (next b).EndsOn fatal?
  | await _ request next => ∀ reply,
    (∀ e, fatal? request reply = some e → next reply = finish (.error e)) ∧
      (next reply).EndsOn fatal?
  | checkpoint next => next.EndsOn fatal?

namespace EndsOn

variable {op rest : Operation I α}

theorem map {f : α → β} (ends : op.EndsOn fatal?) : (op.map f).EndsOn fatal? := by
  induction op with
  | finish result => trivial
  | transact body next ih => exact fun b => ih b (ends b)
  | await bounded request next ih =>
      refine fun reply => ⟨fun e failed => ?_, ih reply (ends reply).2⟩
      change (next reply).map f = _
      rw [(ends reply).1 e failed]
      rfl
  | checkpoint next ih => exact ih ends

theorem single {body : Transaction α} : (single body : Operation I α).EndsOn fatal? :=
  fun _ => trivial

theorem bounded {x : Fetch I α} {next : α → Operation I β} (ends : x.EndsOn fatal?)
    (onward : ∀ a, (next a).EndsOn fatal?) : (x.bounded next).EndsOn fatal? := by
  induction x with
  | done result =>
      cases result with
      | error e => trivial
      | ok a => exact onward a
  | ask request k ih =>
      refine fun reply => ⟨fun e failed => ?_, ih reply (ends reply).2⟩
      change (k reply).bounded next = _
      rw [(ends reply).1 e failed]
      rfl
  | pause k ih => exact ih ends

theorem twoPhase {read : Transaction σ} {fetch : σ → Fetch I φ} {write : σ → φ → Transaction α}
    (ends : ∀ snapshot, (fetch snapshot).EndsOn fatal?) :
    (twoPhase read fetch write).EndsOn fatal? :=
  fun snapshot => (bounded (ends snapshot)) fun _ => single

/-- One turn: what is left still ends on a failure, and has ended if the turn brought one. -/
theorem step {t : Turn I} {s s' : Store} {d : Deed I} (ends : op.EndsOn fatal?)
    (stepped : op.step? t s = some (d, rest, s')) : rest.EndsOn fatal? ∧
      ∀ request reply e, d = .answered request reply → fatal? request reply = some e →
        rest = finish (.error e) := by
  cases step?_eq_some.mp stepped with
  | committed committed => exact ⟨ends _, by rintro _ _ _ ⟨⟩⟩
  | failed | unanswered | late => exact ⟨trivial, by rintro _ _ _ ⟨⟩⟩
  | answered replied =>
      refine ⟨(ends _).2, ?_⟩
      rintro _ _ e ⟨⟩ failed
      exact (ends _).1 e failed
  | passed early => exact ⟨ends, by rintro _ _ _ ⟨⟩⟩

end EndsOn

end Operation

end

namespace ServiceRequest

/-- How a provider, the vault of keys or the lookup of breaches failed. -/
def failure? : (request : ServiceRequest) → request.Reply → Option ProviderError
  | .discover _, .error e | .decrypt .., .error e | .redeem .., .error e
  | .checkBreach _, .error e => some e
  | _, _ => none

/-- The error that a request ends with then. -/
def fatal? : (request : ServiceRequest) → request.Reply → Option RequestError
  | .discover _, .error e => some (.ofProvider .discover e)
  | .decrypt .., .error e => some (.ofProvider .decrypt e)
  | .redeem .., .error e => some (ServiceFetch.redemptionError e)
  | .checkBreach _, .error e => some (.ofProvider .checkBreach e)
  | _, _ => none

def isRedemption : ServiceRequest → Bool
  | redeem .. => true
  | _ => false

end ServiceRequest

/-- Whom an error of this kind blames for the failure of a service: the caller among the failures
that may pass only for a provider that is asked too often to redeem codes. -/
structure Blames (request : ServiceRequest) (e : ProviderError) (kind : ErrorKind) : Prop where
  late : kind = .deadlineExceeded ↔ e.isTimeout = true
  caller : e.isTransient = true →
    (kind = .invalidArgument ↔ request.isRedemption = true ∧ ∃ text, e = .apiError 429 text)
  otherwise : kind = .invalidArgument ∨ kind = .deadlineExceeded ∨ kind = .internal

section

variable {request : ServiceRequest} {e : ProviderError} {call : ProviderCall}

theorem blames_ofProvider
    (other : ¬ (request.isRedemption = true ∧ ∃ text, e = .apiError 429 text)) :
    Blames request e (RequestError.ofProvider call e).kind := by
  by_cases late : e.isTimeout = true
  · rw [RequestError.ofProvider, if_pos late]
    exact ⟨by simp [late, RequestError.kind], fun _ => by simp [RequestError.kind, other],
      .inr (.inl rfl)⟩
  · rw [RequestError.ofProvider, if_neg late]
    exact ⟨by simp [late, RequestError.kind], fun _ => by simp [RequestError.kind, other],
      .inr (.inr rfl)⟩

theorem blames_redemptionError (redeems : request.isRedemption = true) :
    Blames request e (ServiceFetch.redemptionError e).kind := by
  cases e with
  | codeRejected reason =>
      have punctual : (ProviderError.codeRejected reason).isTimeout = false := rfl
      exact ⟨by simp [ServiceFetch.redemptionError, RequestError.kind, punctual], by rintro ⟨⟩,
        .inl rfl⟩
  | apiError status text =>
      by_cases refused : 400 ≤ status ∧ status < 500
      · have blamed : ServiceFetch.redemptionError (.apiError status text) =
            .invalidArgument .codeRefused := by
          simp [ServiceFetch.redemptionError, refused]
        rw [blamed]
        refine ⟨by simp [RequestError.kind, ProviderError.isTimeout],
          fun transient => ⟨fun _ => ⟨redeems, text, ?_⟩, fun _ => rfl⟩, .inl rfl⟩
        have throttled : status = 429 := by
          simp only [ProviderError.isTransient, Bool.or_eq_true, decide_eq_true_eq] at transient
          omega
        rw [throttled]
      · have passed : ServiceFetch.redemptionError (.apiError status text) =
            .ofProvider .redeem (.apiError status text) := by
          simp [ServiceFetch.redemptionError, refused]
        rw [passed]
        refine blames_ofProvider ?_
        rintro ⟨-, _, ⟨⟩⟩
        omega
  | requestFailed | invalidResponse | configuration | emailDelivery =>
      exact blames_ofProvider (by simp)

/-- The failure of a service is fatal, and blames whom it may. -/
theorem blames_of_failure {reply : request.Reply} (failed : request.failure? reply = some e) :
    ∃ reason, request.fatal? reply = some reason ∧ Blames request e reason.kind := by
  cases request with
  | discover | decrypt | checkBreach =>
      match reply with
      | .ok _ => cases failed
      | .error _ =>
          cases failed
          exact ⟨_, rfl, blames_ofProvider (by simp [ServiceRequest.isRedemption])⟩
  | redeem =>
      match reply with
      | .ok _ => cases failed
      | .error _ =>
          cases failed
          exact ⟨_, rfl, blames_redemptionError rfl⟩
  | validateAssertion | sendMail => cases failed

end

section

variable {v : Service} {c : RequestContext}

namespace ServiceFetch

theorem discover_endsOn {url : String} : (discover url).EndsOn ServiceRequest.fatal? := by
  rintro (_ | _) <;> exact ⟨by rintro _ ⟨⟩ <;> rfl, trivial⟩

theorem decrypt_endsOn {key : String} {ciphertext : List UInt8} :
    (decrypt key ciphertext).EndsOn ServiceRequest.fatal? := by
  rintro (_ | _) <;> exact ⟨by rintro _ ⟨⟩ <;> rfl, trivial⟩

theorem checkBreach_endsOn {password : String} :
    (checkBreach password).EndsOn ServiceRequest.fatal? := by
  rintro (_ | _) <;> exact ⟨by rintro _ ⟨⟩ <;> rfl, trivial⟩

theorem redeem_endsOn {spec : ProviderSpec} {app : OAuthApp} {code : String} :
    (redeem spec app code).EndsOn ServiceRequest.fatal? := by
  rintro (_ | _) <;> exact ⟨by rintro _ ⟨⟩ <;> rfl, trivial⟩

theorem validateAssertion_endsOn {connection : SamlConnection} {response : String} :
    (validateAssertion connection response).EndsOn ServiceRequest.fatal? := by
  rintro (_ | _) <;> exact ⟨by rintro _ ⟨⟩, trivial⟩

end ServiceFetch

theorem ServiceOperation.send_endsOn {message : EmailMessage} {call : ProviderCall} :
    (ServiceOperation.send message call).EndsOn ServiceRequest.fatal? := by
  rintro (_ | _) <;> exact ⟨by rintro _ ⟨⟩, trivial⟩

namespace Service

theorem registerPasswordFetch_endsOn {salt : List UInt8} {password : String} :
    (v.registerPasswordFetch salt password).EndsOn ServiceRequest.fatal? := by
  refine ServiceFetch.checkBreach_endsOn.bind fun breached => ?_
  split <;> trivial

theorem fetchSpec_endsOn {source : SpecSource} :
    (fetchSpec source).EndsOn ServiceRequest.fatal? := by
  cases source with
  | known spec => trivial
  | discover url => exact ServiceFetch.discover_endsOn

theorem redeemOAuthFetch_endsOn {code : String} {client : ResolvedClient} :
    (v.redeemOAuthFetch code client).EndsOn ServiceRequest.fatal? := by
  unfold redeemOAuthFetch
  cases client.secret with
  | platform secret => exact fetchSpec_endsOn.bind fun spec => ServiceFetch.redeem_endsOn
  | sealed ciphertext =>
      refine ServiceFetch.decrypt_endsOn.bind fun secret => ?_
      exact fetchSpec_endsOn.bind fun spec => ServiceFetch.redeem_endsOn

theorem perform_endsOn (salt : List UInt8) (request : LoginRequest) :
    (v.perform c salt request).EndsOn ServiceRequest.fatal? := by
  cases request with
  | issueEmailChallenge email =>
      refine Operation.EndsOn.map ?_
      unfold issueEmailChallenge
      split
      · exact fun _ => ServiceOperation.send_endsOn
      · trivial
  | issueResetCode => exact Operation.EndsOn.map fun _ => ServiceOperation.send_endsOn
  | verifyEmailChallenge | verifyResetCode => exact Operation.EndsOn.single.map
  | registerPassword password =>
      refine Operation.EndsOn.map ?_
      unfold registerPassword
      dsimp only
      split
      · trivial
      split
      · trivial
      exact .twoPhase fun _ => registerPasswordFetch_endsOn
  | verifyPassword email password => exact Operation.EndsOn.map fun _ => trivial
  | oauthRedirect target redirectUrl =>
      exact (Operation.EndsOn.twoPhase fun _ => fetchSpec_endsOn).map
  | redeemOAuth target code state redirectUrl =>
      exact (Operation.EndsOn.twoPhase fun _ => redeemOAuthFetch_endsOn).map
  | redeemSaml connectionId response =>
      exact (Operation.EndsOn.twoPhase fun _ => ServiceFetch.validateAssertion_endsOn).map

theorem serve_endsOn (call : Call) : (v.serve c call).EndsOn ServiceRequest.fatal? := by
  cases call with
  | login salt request => exact (perform_endsOn salt request).map
  | exchange => exact fun _ _ => trivial
  | accessToken refreshToken => exact Operation.EndsOn.single.map

end Service

end

/-- The question that was asked in the turn, and how the service failed that it was put to. -/
def Entry.failure? (x : Entry) : Option (ServiceRequest × ProviderError) :=
  match x.deed with
  | .answered request reply => (ServiceRequest.failure? request reply).map (request, ·)
  | _ => none

namespace Run

variable {others : Store → Store → Prop} {v : Service} {start : Store} {sys : System}
  {past : List Entry} {x : Entry}

/-- By induction on the run: what is left of every request ends on a failure. -/
theorem endsOn (run : Run others v { store := start } past sys) :
    (∀ f ∈ sys.flights, f.rest.EndsOn ServiceRequest.fatal?) ∧
      ∀ x ∈ past, ∀ request reply e, x.deed = .answered request reply →
        ServiceRequest.fatal? request reply = some e → x.rest = .finish (.error e) := by
  generalize begun : ({ store := start } : System) = first at run
  induction run with
  | start =>
      cases begun
      simp
  | arrive run c call ih =>
      refine ⟨fun f flying => ?_, ih.2⟩
      rcases List.mem_append.mp flying with before | new
      · exact ih.1 f before
      · cases List.mem_singleton.mp new
        exact Service.serve_endsOn call
  | @turn past sys sys' x run t i taken ih =>
      obtain ⟨g, deed, rest, s', flying, stepped, rfl, rfl⟩ := System.turn?_eq_some.mp taken
      obtain ⟨ends, ended⟩ := (ih.1 g (List.mem_of_getElem? flying)).step stepped
      constructor
      · intro f member
        rcases List.mem_or_eq_of_mem_set member with before | rfl
        · exact ih.1 f before
        · exact ends
      · intro y member
        rcases List.mem_append.mp member with before | last
        · exact ih.2 y before
        · cases List.mem_singleton.mp last
          exact ended
  | change run changed ih => exact ih

/-- A request that asks a service which fails ends then and there, with an error that blames the
caller for no failure that may pass, but for a provider that is asked too often to redeem codes. -/
theorem failure_blames (run : Run others v { store := start } past sys) (member : x ∈ past)
    {request : ServiceRequest} {e : ProviderError} (failed : x.failure? = some (request, e)) :
    ∃ reason, x.rest.failure? = some reason ∧ Blames request e reason.kind := by
  unfold Entry.failure? at failed
  split at failed
  · rename_i request' reply answered
    obtain ⟨_, failed, same⟩ := Option.map_eq_some_iff.mp failed
    cases same
    obtain ⟨reason, fatal, blames⟩ := blames_of_failure failed
    have ended := run.endsOn.2 x member _ _ _ answered fatal
    exact ⟨reason, Operation.failure?_eq_some.mpr ended, blames⟩
  · cases failed

end Run

namespace Deployment

/-- A login at Google, which fails like this where the code is to be redeemed. -/
def redemptionFails (e : ProviderError) : List Entry × System :=
  let begun : List Move := (viaGoogle ⟨"g-1", user.email, true, none, none, none⟩ 0 0).take 5
  let failing : Move := .turn ⟨.ofDraws now (3000 + ·) true fun _ _ _ state => .ok state,
    fun request => some ((⟨none, none, [], fun _ => some e⟩ : StandIns).reply request), false⟩ 1
  System.play service (begun ++ [failing]) { store := store (only user) none }

end Deployment

/-- Google has a failure of its own. -/
theorem Run.failure_blames_nobody :
    ∃ x ∈ (Deployment.redemptionFails (.apiError 503 "unavailable")).1, ∃ request,
      x.failure? = some (request, .apiError 503 "unavailable") ∧
        ∃ reason, x.rest.failure? = some reason ∧
          Blames request (.apiError 503 "unavailable") reason.kind ∧ reason.kind = .internal := by
  obtain ⟨x, member, failed⟩ : ∃ x ∈ (Deployment.redemptionFails (.apiError 503 "unavailable")).1,
      x.failure?.map Prod.snd = some (.apiError 503 "unavailable") := by
    decide +kernel
  obtain ⟨⟨request, e⟩, failed, rfl⟩ := Option.map_eq_some_iff.mp failed
  have run : Run (fun _ _ => True) Deployment.service
      { store := Deployment.store (Deployment.only Deployment.user) none }
      (Deployment.redemptionFails (.apiError 503 "unavailable")).1
      (Deployment.redemptionFails (.apiError 503 "unavailable")).2 := System.run_play _ _
  obtain ⟨reason, ended, blames⟩ := run.failure_blames member failed
  have spared : reason.kind ≠ .invalidArgument := by
    intro blamed
    obtain ⟨-, _, ⟨⟩⟩ := (blames.caller rfl).mp blamed
  have answered : reason.kind ≠ .deadlineExceeded := fun late => by cases blames.late.mp late
  exact ⟨x, member, request, failed, reason, ended, blames,
    (blames.otherwise.resolve_left spared).resolve_left answered⟩

/-- Google is asked too often, and the caller is told that the argument is invalid. -/
theorem Run.throttled_caller_blamed :
    ∃ x ∈ (Deployment.redemptionFails (.apiError 429 "slow down")).1,
      x.call = .login [] (.redeemOAuth (.provider .google) "code"
        (Deployment.code .oauthState 1) none) ∧
      x.failure?.map Prod.snd = some (.apiError 429 "slow down") ∧
      (ProviderError.apiError 429 "slow down").isTransient = true ∧
      x.rest.failure? = some (.invalidArgument .codeRefused) := by
  decide +kernel

end Vestibule
