import Vestibule.Proofs.Commit
import Vestibule.Proofs.Interleaving

/-! Requests in time. While a request runs the clock goes on: transactions take their time, and so
do outside services. The deadline of a request cuts off its waits, all but the wait for a mail to be
sent. -/

namespace Vestibule

/-- What an operation meets at its `n`-th step: the moment of a transaction and what others committed
before it, how long work takes that waits for nobody, and how long outside services take to answer
and what. -/
structure Surroundings (I : Interface) where
  moment : Nat → Moment
  others : Nat → Store → Store
  work : Nat → Nat
  delay : Nat → I.Request → Nat
  reply : (n : Nat) → (request : I.Request) → I.Reply request

/-- A wait for an outside service, whose answer takes `delay` to come. -/
structure Wait (I : Interface) where
  request : I.Request
  asked : Nat
  delay : Nat
  ended : Nat

/-- How far an operation has come. -/
structure Progress (I : Interface) where
  steps : Nat
  time : Nat
  store : Store
  waits : List (Wait I)

def Progress.start {I : Interface} (time : Nat) (store : Store) : Progress I := ⟨0, time, store, []⟩

namespace Surroundings

variable {I : Interface} {α β : Type} (e : Surroundings I) (deadline : Option Nat)

def commit (body : Transaction β) : StateM (Progress I) (Except RequestError β) := fun p =>
  let store := e.others p.steps p.store
  let p' := { p with steps := p.steps + 1, time := p.time + e.work p.steps }
  match body.run (e.moment p.steps) store with
  | .ok (b, store) => (.ok b, { p' with store := store })
  | .error reason => (.error reason, { p' with store := store })

def wait (bounded : Bool) (request : I.Request) : StateM (Progress I) (Option (I.Reply request)) :=
  fun p =>
    let delay := e.delay p.steps request
    let (ended, answered) := waitUntil (if bounded then deadline else none) p.time delay
    (if answered then some (e.reply p.steps request) else none,
      { p with
        steps := p.steps + 1
        time := ended
        waits := p.waits ++ [⟨request, p.time, delay, ended⟩] })

def late : StateM (Progress I) Bool := fun p =>
  let time := p.time + e.work p.steps
  (isPast deadline time, { p with steps := p.steps + 1, time := time })

/-- How an operation ends, and how far it has come then. -/
def run (op : Operation I α) (p : Progress I) : Except RequestError α × Progress I :=
  op.run e.commit (e.wait deadline) (e.late deadline) p

end Surroundings

namespace Operation

variable {I : Interface} {α β σ φ : Type} {exempt : I.Request → Bool} {op : Operation I α}

/-- Every wait is bounded by the deadline, but for questions that are exempt. -/
def Bounds (exempt : I.Request → Bool) : Operation I α → Prop
  | finish _ => True
  | transact _ next => ∀ b, (next b).Bounds exempt
  | await bounded request next => bounded = !exempt request ∧ ∀ reply, (next reply).Bounds exempt
  | checkpoint next => next.Bounds exempt

end Operation

/-- No question is asked that is exempt. -/
def Fetch.Spares {I : Interface} {α : Type} (exempt : I.Request → Bool) : Fetch I α → Prop
  | done _ => True
  | ask request next => exempt request = false ∧ ∀ reply, (next reply).Spares exempt
  | pause next => next.Spares exempt

namespace Wait

variable {I : Interface} {α : Type}

/-- The answer is waited for, and it does not come by the deadline. -/
def Overruns (x : Wait I) (d : Nat) : Prop := 0 < x.delay ∧ d < x.asked + x.delay

instance {x : Wait I} {d : Nat} : Decidable (x.Overruns d) :=
  inferInstanceAs (Decidable (_ ∧ _))

/-- How the wait ends in a request that ends with `result`: at the deadline and for good, or with
the answer. -/
def Keeps (exempt : I.Request → Bool) (d : Nat) (result : Except RequestError α) (x : Wait I) :
    Prop :=
  exempt x.request = false ∧ x.Overruns d ∧ x.ended = max x.asked d ∧
      result = .error .deadlineExceeded ∨
    ¬ (exempt x.request = false ∧ x.Overruns d) ∧ x.ended = x.asked + x.delay

end Wait

section

variable {I : Interface} {α β σ φ : Type} {exempt : I.Request → Bool} {op : Operation I α}
  {e : Surroundings I} {deadline : Option Nat} {d : Nat} {p : Progress I}

namespace Surroundings

theorem run_transact {body : Transaction β} {next : β → Operation I α} :
    e.run deadline (.transact body next) p =
      match e.commit body p with
      | (.ok b, p') => e.run deadline (next b) p'
      | (.error reason, p') => (.error reason, p') := by
  simp only [run, Operation.run, bind, StateT.bind]
  cases e.commit body p with
  | mk result p' => cases result <;> rfl

theorem run_await {bounded : Bool} {request : I.Request} {next : I.Reply request → Operation I α} :
    e.run deadline (.await bounded request next) p =
      match e.wait deadline bounded request p with
      | (some reply, p') => e.run deadline (next reply) p'
      | (none, p') => (.error .deadlineExceeded, p') := by
  simp only [run, Operation.run, bind, StateT.bind]
  cases e.wait deadline bounded request p with
  | mk reply p' => cases reply <;> rfl

theorem run_checkpoint {next : Operation I α} :
    e.run deadline (.checkpoint next) p =
      match e.late deadline p with
      | (true, p') => (.error .deadlineExceeded, p')
      | (false, p') => e.run deadline next p' := by
  simp only [run, Operation.run, bind, StateT.bind]
  cases e.late deadline p with
  | mk late p' => cases late <;> rfl

theorem commit_waits {body : Transaction β} : (e.commit body p).2.waits = p.waits := by
  simp only [commit]
  split <;> rfl

/-- A wait ends at the deadline without the answer, or with it. -/
theorem wait_cases (e : Surroundings I) (d : Nat) (bounded : Bool) (request : I.Request)
    (p : Progress I) :
    ∃ (x : Wait I) (p' : Progress I), x.request = request ∧ p'.waits = p.waits ++ [x] ∧
      (bounded = true ∧ x.Overruns d ∧ x.ended = max x.asked d ∧
          e.wait (some d) bounded request p = (none, p') ∨
        ¬ (bounded = true ∧ x.Overruns d) ∧ x.ended = x.asked + x.delay ∧
          ∃ reply, e.wait (some d) bounded request p = (some reply, p')) := by
  refine ⟨_, (e.wait (some d) bounded request p).2, rfl, rfl, ?_⟩
  cases bounded with
  | false => exact .inr ⟨by simp, rfl, _, rfl⟩
  | true =>
      by_cases overruns : 0 < e.delay p.steps request ∧ d < p.time + e.delay p.steps request
      · have cut : waitUntil (some d) p.time (e.delay p.steps request) = (max p.time d, false) :=
          if_pos overruns
        exact .inl ⟨rfl, overruns, congrArg Prod.fst cut, by simp [wait, cut]⟩
      · have answered : waitUntil (some d) p.time (e.delay p.steps request) =
            (p.time + e.delay p.steps request, true) := if_neg overruns
        refine .inr ⟨fun cut => overruns cut.2, congrArg Prod.fst answered,
          e.reply p.steps request, ?_⟩
        simp [wait, answered]

end Surroundings

theorem Operation.Bounds.keeps (bounds : op.Bounds exempt) (e : Surroundings I) (d : Nat)
    (p : Progress I) :
    ∃ waits, (e.run (some d) op p).2.waits = p.waits ++ waits ∧
      ∀ x ∈ waits, x.Keeps exempt d (e.run (some d) op p).1 := by
  induction op generalizing p with
  | finish result => exact ⟨[], (List.append_nil _).symm, nofun⟩
  | transact body next ih =>
      have kept : (e.commit body p).2.waits = p.waits := Surroundings.commit_waits
      rw [Surroundings.run_transact, ← kept]
      generalize e.commit body p = done
      rcases done with ⟨_ | b, p'⟩
      · exact ⟨[], (List.append_nil _).symm, nofun⟩
      · exact ih b (bounds b) p'
  | await bounded request next ih =>
      obtain ⟨rfl, bounds⟩ := bounds
      rw [Surroundings.run_await]
      obtain ⟨x, p', rfl, logged, ⟨due, overruns, cut, waited⟩ | ⟨intime, ended, reply, waited⟩⟩ :=
        e.wait_cases d (!exempt request) request p
      -- A wait that is cut off is the last one.
      · rw [waited]
        refine ⟨[x], logged, fun y member => ?_⟩
        cases List.mem_singleton.mp member
        exact .inl ⟨by simpa using due, overruns, cut, rfl⟩
      · rw [waited]
        obtain ⟨waits, later, keeps⟩ := ih reply (bounds reply) p'
        refine ⟨x :: waits, by simpa [logged] using later, fun y member => ?_⟩
        rcases List.mem_cons.mp member with rfl | member
        · exact .inr ⟨by simpa using intime, ended⟩
        · exact keeps y member
  | checkpoint next ih =>
      have kept : (e.late (some d) p).2.waits = p.waits := rfl
      rw [Surroundings.run_checkpoint, ← kept]
      generalize e.late (some d) p = done
      rcases done with ⟨_ | _, p'⟩
      · exact ih bounds p'
      · exact ⟨[], (List.append_nil _).symm, nofun⟩

theorem Fetch.Spares.bind {x : Fetch I α} {f : α → Fetch I β} (spares : x.Spares exempt)
    (onward : ∀ a, (f a).Spares exempt) : (x >>= f).Spares exempt := by
  induction x with
  | done result =>
      cases result with
      | error reason => trivial
      | ok a => exact onward a
  | ask request next ih => exact ⟨spares.1, fun reply => ih reply (spares.2 reply)⟩
  | pause next ih => exact ih spares

theorem Fetch.Spares.bounded {x : Fetch I α} {next : α → Operation I β} (spares : x.Spares exempt)
    (onward : ∀ a, (next a).Bounds exempt) : (x.bounded next).Bounds exempt := by
  induction x with
  | done result =>
      cases result with
      | error reason => trivial
      | ok a => exact onward a
  | ask request k ih =>
      exact ⟨by simp [spares.1], fun reply => ih reply (spares.2 reply)⟩
  | pause k ih => exact ih spares

namespace Operation.Bounds

theorem map {f : α → β} (bounds : op.Bounds exempt) : (op.map f).Bounds exempt := by
  induction op with
  | finish result => trivial
  | transact body next ih => exact fun b => ih b (bounds b)
  | await bounded request next ih => exact ⟨bounds.1, fun reply => ih reply (bounds.2 reply)⟩
  | checkpoint next ih => exact ih bounds

theorem single {body : Transaction α} : (single body : Operation I α).Bounds exempt :=
  fun _ => trivial

theorem twoPhase {read : Transaction σ} {fetch : σ → Fetch I φ} {write : σ → φ → Transaction α}
    (spares : ∀ snapshot, (fetch snapshot).Spares exempt) :
    (twoPhase read fetch write).Bounds exempt :=
  fun snapshot => (spares snapshot).bounded fun _ => single

end Operation.Bounds

end

def ServiceRequest.isMail : ServiceRequest → Bool
  | sendMail _ => true
  | _ => false

/-- Whether the request ends with a mail to the visitor. -/
def LoginRequest.sendsMail : LoginRequest → Bool
  | issueEmailChallenge _ | issueResetCode => true
  | _ => false

def Call.sendsMail : Call → Bool
  | login _ request => request.sendsMail
  | _ => false

/-- The questions that a deadline does not bound: mails, of a request that sends one. -/
def exemptMail (sendsMail : Bool) (request : ServiceRequest) : Bool := sendsMail && request.isMail

theorem exemptMail_eq_false {sendsMail : Bool} {request : ServiceRequest} :
    exemptMail sendsMail request = false ↔ ¬ (sendsMail = true ∧ request.isMail = true) := by
  simp [exemptMail]

section

variable {v : Service} {c : RequestContext} {sendsMail : Bool}

namespace ServiceFetch

theorem ofProvider_spares {α : Type} {reply : Except ProviderError α}
    {failure : ProviderError → RequestError} :
    (ofProvider reply failure).Spares (exemptMail sendsMail) := by
  cases reply <;> trivial

theorem discover_spares {url : String} : (discover url).Spares (exemptMail sendsMail) :=
  ⟨Bool.and_false _, fun _ => ofProvider_spares⟩

theorem decrypt_spares {key : String} {ciphertext : List UInt8} :
    (decrypt key ciphertext).Spares (exemptMail sendsMail) :=
  ⟨Bool.and_false _, fun _ => ofProvider_spares⟩

theorem checkBreach_spares {password : String} :
    (checkBreach password).Spares (exemptMail sendsMail) :=
  ⟨Bool.and_false _, fun _ => ofProvider_spares⟩

theorem redeem_spares {spec : ProviderSpec} {app : OAuthApp} {code : String} :
    (redeem spec app code).Spares (exemptMail sendsMail) :=
  ⟨Bool.and_false _, fun _ => ofProvider_spares⟩

theorem validateAssertion_spares {connection : SamlConnection} {response : String} :
    (validateAssertion connection response).Spares (exemptMail sendsMail) := by
  refine ⟨Bool.and_false _, fun reply => ?_⟩
  dsimp only
  split <;> trivial

end ServiceFetch

theorem ServiceOperation.send_bounds {message : EmailMessage} {call : ProviderCall} :
    (ServiceOperation.send message call).Bounds (exemptMail true) := by
  refine ⟨rfl, fun reply => ?_⟩
  dsimp only
  split <;> trivial

namespace Service

theorem registerPasswordFetch_spares {salt : List UInt8} {password : String} :
    (v.registerPasswordFetch salt password).Spares (exemptMail sendsMail) := by
  refine ServiceFetch.checkBreach_spares.bind fun breached => ?_
  split <;> trivial

theorem fetchSpec_spares {source : SpecSource} :
    (fetchSpec source).Spares (exemptMail sendsMail) := by
  cases source with
  | known spec => trivial
  | discover url => exact ServiceFetch.discover_spares

theorem redeemOAuthFetch_spares {code : String} {client : ResolvedClient} :
    (v.redeemOAuthFetch code client).Spares (exemptMail sendsMail) := by
  unfold redeemOAuthFetch
  cases client.secret with
  | platform secret => exact fetchSpec_spares.bind fun spec => ServiceFetch.redeem_spares
  | sealed ciphertext =>
      refine ServiceFetch.decrypt_spares.bind fun secret => ?_
      exact fetchSpec_spares.bind fun spec => ServiceFetch.redeem_spares

/-- Whatever a login waits for is bounded, but for the mail that it ends with. -/
theorem perform_bounds (salt : List UInt8) (request : LoginRequest) :
    (v.perform c salt request).Bounds (exemptMail request.sendsMail) := by
  cases request with
  | issueEmailChallenge email =>
      refine Operation.Bounds.map ?_
      unfold issueEmailChallenge
      split
      · exact fun _ => ServiceOperation.send_bounds
      · trivial
  | issueResetCode => exact Operation.Bounds.map fun _ => ServiceOperation.send_bounds
  | verifyEmailChallenge | verifyResetCode => exact Operation.Bounds.single.map
  | registerPassword password =>
      refine Operation.Bounds.map ?_
      unfold registerPassword
      dsimp only
      split
      · trivial
      split
      · trivial
      exact .twoPhase fun _ => registerPasswordFetch_spares
  | verifyPassword email password => exact Operation.Bounds.map fun _ => trivial
  | oauthRedirect target redirectUrl =>
      exact (Operation.Bounds.twoPhase fun _ => fetchSpec_spares).map
  | redeemOAuth target code state redirectUrl =>
      exact (Operation.Bounds.twoPhase fun _ => redeemOAuthFetch_spares).map
  | redeemSaml connectionId response =>
      exact (Operation.Bounds.twoPhase fun _ => ServiceFetch.validateAssertion_spares).map

theorem serve_bounds (call : Call) : (v.serve c call).Bounds (exemptMail call.sendsMail) := by
  cases call with
  | login salt request => exact (perform_bounds salt request).map
  | exchange => exact fun _ _ => trivial
  | accessToken refreshToken => exact Operation.Bounds.single.map

/-- The deadline of a request bounds what it waits for. Where an answer does not come by then, the
wait ends at the deadline and so does the request, which fails; a request that succeeds waited for
nothing longer. Only the mail that a request ends with is waited for to its end, whatever the
deadline. -/
theorem keepsDeadline (v : Service) (c : RequestContext) (call : Call)
    (e : Surroundings serviceInterface) (d start : Nat) (s : Store) :
    let done := e.run (some d) (v.serve c call) (.start start s)
    ∀ x ∈ done.2.waits,
      if call.sendsMail = true ∧ x.request.isMail = true then x.ended = x.asked + x.delay
      else
        (x.Overruns d → x.ended = max x.asked d ∧ done.1 = .error .deadlineExceeded) ∧
          (¬ x.Overruns d → x.ended = x.asked + x.delay) ∧
            (done.1.isOk = true → x.delay = 0 ∨ x.ended ≤ d) := by
  intro done x listed
  obtain ⟨waits, logged, keeps⟩ := (serve_bounds (v := v) (c := c) call).keeps e d (.start start s)
  rw [logged] at listed
  split
  · rename_i mail
    rcases keeps x listed with ⟨due, _⟩ | ⟨_, ended⟩
    · exact absurd mail (exemptMail_eq_false.mp due)
    · exact ended
  · rename_i due
    have due := exemptMail_eq_false.mpr due
    rcases keeps x listed with ⟨_, overruns, ended, failed⟩ | ⟨intime, ended⟩
    · refine ⟨fun _ => ⟨ended, failed⟩, absurd overruns, fun succeeded => ?_⟩
      rw [show done.1 = .error .deadlineExceeded from failed] at succeeded
      cases succeeded
    · have intime : ¬ x.Overruns d := fun overruns => intime ⟨due, overruns⟩
      refine ⟨fun overruns => absurd overruns intime, fun _ => ended, fun _ => ?_⟩
      unfold Wait.Overruns at intime
      omega

end Service

end

namespace Deployment

/-- Outside services take `delay` to answer, and nothing else takes time. -/
def surroundings (delay : Nat) : Surroundings serviceInterface where
  moment n := .ofDraws now (1000 * n + ·) true fun _ _ _ state => .ok state
  others _ s := s
  work _ := 0
  delay _ _ := delay
  reply _ request := (⟨none, none, [], fun _ => none⟩ : StandIns).reply request

/-- A session that may register a password. -/
def registering : IntermediateSession :=
  { session with
    organizationId := some organization.id
    email := some "bob@buyers.test"
    emailChallengeCompleted := true }

def slowLookup : Except RequestError Answer × Progress serviceInterface :=
  (surroundings 5000).run (some 1000)
    (service.serve context (.login [] (.registerPassword "correct horse")))
    (.start 0 { store {} none with intermediateSessions := { rows := [registering] } })

def slowMail : Except RequestError Answer × Progress serviceInterface :=
  (surroundings 5000).run (some 1000)
    (service.serve context (.login [] (.issueEmailChallenge "bob@buyers.test")))
    (.start 0 (store {} none))

end Deployment

theorem Service.keepsDeadline_of_slow_lookup :
    Deployment.slowLookup.1 = .error .deadlineExceeded ∧
      ∃ x ∈ Deployment.slowLookup.2.waits, x.delay = 5000 ∧ x.ended = 1000 := by
  obtain ⟨x, listed, other, asked, delay⟩ : ∃ x ∈ Deployment.slowLookup.2.waits,
      x.request.isMail = false ∧ x.asked = 0 ∧ x.delay = 5000 := by decide +kernel
  have keeps := Service.keepsDeadline _ _ _ _ _ _ _ x listed
  rw [if_neg (by simp [other])] at keeps
  obtain ⟨ended, failed⟩ := keeps.1 (by rw [Wait.Overruns, asked, delay]; decide)
  exact ⟨failed, x, listed, delay, by rw [ended, asked]; rfl⟩

/-- The mail that a request ends with is sent long after the deadline, and the request succeeds. -/
theorem Service.mail_outlasts_deadline :
    Deployment.slowMail.1.isOk = true ∧
      ∃ x ∈ Deployment.slowMail.2.waits, x.asked ≤ 1000 ∧ x.ended = 5000 := by
  decide +kernel

end Vestibule
