import Vestibule.Proofs.TenantFrame

/-! The number of emails that a project sends on a day. Every code that is issued is counted, in the
commit that issues it, and is mailed once; nothing else is counted or mailed. -/

namespace Vestibule

def ServiceRequest.mail? : ServiceRequest → Option EmailMessage
  | .sendMail message => some message
  | _ => none

/-- The message that an operation is sending. -/
def Operation.mail? {α : Type} (op : ServiceOperation α) : Option EmailMessage :=
  op.question?.bind ServiceRequest.mail?

/-- Whether the call is a request for a code by mail. -/
def Call.mails : Call → Bool
  | .login _ (.issueEmailChallenge _) | .login _ .issueResetCode => true
  | _ => false

/-- Where the turn committed a code that is to be mailed: for which project, and on which day. -/
def Entry.issued? (x : Entry) : Option (Uuid × Date) :=
  match x.deed with
  | .committed m _ _ => if x.call.mails then some (x.context.projectId, m.now.date) else none
  | _ => none

def Entry.issues (x : Entry) (projectId : Uuid) (date : Date) : Bool :=
  x.issued? == some (projectId, date)

/-- The count of emails that an event tells of. -/
def Audit.Event.emailQuotaUsage? (e : Audit.Event) : Option Json :=
  e.details.member? "email_quota_usage"

/-- The emails a day that a project may send, by its own number or by the default. -/
def Store.HasQuota (s : Store) (v : Service) (projectId : Uuid) (q : Int64) : Prop :=
  ∀ p ∈ s.project? projectId, p.effectiveEmailQuota v.config.defaultEmailQuotaDaily = q

/-- Counting up is exact while the sum is a 64-bit number. -/
theorem toInt_add_ofNat {x : Int64} {n : Nat} (fits : x.toInt + n ≤ Int64.maxValue.toInt) :
    (x + .ofNat n).toInt = x.toInt + n := by
  rw [Int64.toInt_maxValue] at fits
  have least := x.le_toInt
  have kept : (x.toInt + n).bmod (2 ^ 64) = x.toInt + n :=
    Int.bmod_eq_of_le (by omega) (by omega)
  rw [Int64.toInt_add, Int64.toInt_ofNat']
  exact Int.add_bmod_bmod.trans kept

/-- There is room for one more: the count is the first one still, or within the quota, and neither
is the greatest number. -/
theorem room_succ {first count q : Int64} {n : Nat} (low : first ≠ .maxValue)
    (lower : q ≠ .maxValue) (usage : count = first + .ofNat n)
    (fits : first.toInt + n ≤ Int64.maxValue.toInt) (within : 0 < n → count ≤ q) :
    first.toInt + (n + 1 : Nat) ≤ Int64.maxValue.toInt := by
  have exactly : count.toInt = first.toInt + n := usage ▸ toInt_add_ofNat fits
  have lessened : count.toInt ≠ Int64.maxValue.toInt := by
    intro full
    rcases Nat.eq_zero_or_pos n with rfl | some
    · refine low (Int64.toInt_inj.mp ?_)
      omega
    · have most := Int64.le_iff_toInt_le.mp (within some)
      rw [full] at most
      exact lower (Int64.toInt_inj.mp (Int.le_antisymm q.toInt_le most))
  have bounded := count.toInt_le
  omega

/-- Counting an email tells in the row that it belongs to, and in no other. -/
theorem EmailUsage.find?_counted {rows : List EmailUsage} {isOn sought : EmailUsage → Bool}
    (kept : ∀ x : EmailUsage, sought { x with count := x.count + 1 } = sought x) :
    ((rows.map fun x => if isOn x then { x with count := x.count + 1 } else x).find? sought) =
      (rows.find? sought).map fun x => if isOn x then { x with count := x.count + 1 } else x := by
  have unmoved : (sought ∘ fun x => if isOn x then { x with count := x.count + 1 } else x) =
      sought := by
    funext x
    simp only [Function.comp_apply]
    split
    · exact kept x
    · rfl
  rw [List.find?_map, unmoved]

theorem Store.emailUsageOn_countEmail {s : Store} {p p' : Uuid} {d d' : Date} :
    (s.countEmail p d).emailUsageOn p' d' =
      s.emailUsageOn p' d' + if (p, d) = (p', d') then 1 else 0 := by
  unfold countEmail emailUsageOn
  dsimp only
  split
  · rename_i counted
    rw [EmailUsage.find?_counted fun _ => rfl]
    cases found : s.emailUsage.find? fun u => u.projectId == p' && u.date == d' with
    | none =>
        have foreign : (p, d) ≠ (p', d') := by
          rintro ⟨⟩
          obtain ⟨x, listed, own⟩ := List.any_eq_true.mp counted
          exact List.find?_eq_none.mp found x listed own
        simp [foreign]
    | some x =>
        have sought := List.find?_some found
        simp only [Bool.and_eq_true, beq_iff_eq] at sought
        simp only [Option.map_some, Option.getD_some, sought, Bool.and_eq_true, beq_iff_eq,
          Prod.mk.injEq, eq_comm (a := p'), eq_comm (a := d')]
        split
        · rfl
        · exact (Int64.add_zero _).symm
  · rename_i uncounted
    by_cases own : (p, d) = (p', d')
    · cases own
      have absent : s.emailUsage.find? (fun u => u.projectId == p && u.date == d) = none := by
        simpa using uncounted
      simp [List.find?_append, absent]
    · have other : (p == p' && d == d') = false := by simpa using own
      simp [List.find?_append, other, own]

namespace Service

/-- A commit that issues a code counts it, within the quota, and says so in its event. -/
structure Issued (v : Service) (c : RequestContext) (m : Moment) (s s' : Store) : Prop where
  counted : s'.emailUsage = (s.countEmail c.projectId m.now.date).emailUsage
  within : ∃ p ∈ s.project? c.projectId, s'.emailUsageOn c.projectId m.now.date ≤
    p.effectiveEmailQuota v.config.defaultEmailQuotaDaily
  recorded : ∃ e, s'.auditLog = s.auditLog ++ [e] ∧
    e.emailQuotaUsage? = some (.int (s'.emailUsageOn c.projectId m.now.date).toInt)

variable {v : Service} {c : RequestContext} {salt : List UInt8} {heard : List ServiceDeed}
  {m : Moment} {s s' written : Store} {call : Call}

theorem Charged.issued {l : Loaded} {usage : Int64} {r : IntermediateSession}
    {change : Audit.IntermediateSessionChange} (charged : v.Charged m s l.project written usage)
    (admitted : Loaded.Admitted c m.now s l)
    (told : change.toJson.member? "email_quota_usage" = some (.int usage.toInt)) :
    v.Issued c m s (written.persisted c m r change) := by
  obtain ⟨rfl, rfl, within⟩ := charged
  rw [admitted.project_id] at within told ⊢
  have logged : ((s.countEmail c.projectId m.now.date).persisted c m r change).auditLog =
      s.auditLog ++ [change.toEvent m.eventId m.now c.projectId c.actor] := by
    rw [Store.countEmail_eq]
    rfl
  exact ⟨rfl, ⟨l.project, admitted.project, within⟩, _, logged, told⟩

theorem Wrote.issued {rest : ServiceOperation Answer} (wrote : v.Wrote c call heard m s s' rest)
    (mails : call.mails = true) : v.Issued c m s s' := by
  cases wrote with
  | login commit =>
      cases commit with
      | read phases =>
          rename_i request rest _
          cases request with
          | issueEmailChallenge | issueResetCode => cases phases
          | _ => cases mails
      | took took =>
          obtain ⟨l, lesson, written, change, admitted, step, _, rfl⟩ := took
          cases step with
          | challengeIssued _ _ _ charged | resetCodeIssued _ _ _ charged =>
              exact charged.issued admitted rfl
          | emailProved | resetCodeRedeemed | passwordStaged | stagedMatched | passwordMatched
          | loggedIn | redirected | accountRedeemed | connectionRedeemed | asserted => cases mails
      | missed => cases mails
  | exchanged | minted | refreshed => cases mails

/-- Nothing but a code that is issued is counted. -/
theorem Wrote.emailUsage {rest : ServiceOperation Answer}
    (wrote : v.Wrote c call heard m s s' rest) (mails : call.mails = false) :
    s'.emailUsage = s.emailUsage := by
  cases wrote with
  | login commit =>
      cases commit with
      | read => rfl
      | took took =>
          obtain ⟨l, lesson, written, change, admitted, step, _, rfl⟩ := took
          cases step with
          | challengeIssued | resetCodeIssued => cases mails
          | emailProved => rw [Store.recordVerifiedEmail_eq]; rfl
          | accountRedeemed =>
              split
              · rw [Store.recordVerifiedEmail_eq]; rfl
              · rfl
          | resetCodeRedeemed | passwordStaged | stagedMatched | passwordMatched | loggedIn
          | redirected | connectionRedeemed | asserted => rfl
      | missed missed =>
          obtain ⟨_, _, _, _, _, rfl⟩ := missed.frame
          rfl
  | exchanged exchanged =>
      obtain ⟨_, _, _, _, _, _, _, _, _, rfl⟩ := exchanged.frame
      rfl
  | minted | refreshed => rfl

end Service

/-! Mails are sent for codes that were issued, and for nothing else. -/

namespace Fetch

variable {α β : Type}

/-- Whatever the answers are, no mail is asked for. -/
def Mailless : ServiceFetch α → Prop
  | done _ => True
  | ask request next => ServiceRequest.mail? request = none ∧ ∀ reply, (next reply).Mailless
  | pause next => next.Mailless

theorem Mailless.bind {x : ServiceFetch α} {f : α → ServiceFetch β} (mailless : x.Mailless)
    (each : ∀ a, (f a).Mailless) : (x >>= f).Mailless := by
  induction x with
  | done result =>
      cases result with
      | error e => trivial
      | ok a => exact each a
  | ask request next ih => exact ⟨mailless.1, fun reply => ih reply (mailless.2 reply)⟩
  | pause next ih => exact ih mailless

end Fetch

namespace Operation

variable {α β σ φ : Type} {op : ServiceOperation α}

/-- Whatever happens, no mail is asked for. -/
def Mailless : ServiceOperation α → Prop
  | finish _ => True
  | transact _ next => ∀ b, (next b).Mailless
  | await _ request next => ServiceRequest.mail? request = none ∧ ∀ reply, (next reply).Mailless
  | checkpoint next => next.Mailless

namespace Mailless

theorem mail? (mailless : op.Mailless) : op.mail? = none := by
  cases op with
  | await => exact mailless.1
  | finish | transact | checkpoint => rfl

theorem step {t : Turn serviceInterface} {s s' : Store} {d : ServiceDeed}
    {rest : ServiceOperation α} (mailless : op.Mailless)
    (stepped : op.step? t s = some (d, rest, s')) : rest.Mailless := by
  cases step?_eq_some.mp stepped with
  | committed => exact mailless _
  | answered => exact mailless.2 _
  | passed => exact mailless
  | failed | unanswered | late => trivial

theorem map {f : α → β} (mailless : op.Mailless) : (op.map f).Mailless := by
  induction op with
  | finish result => trivial
  | transact body next ih => exact fun b => ih b (mailless b)
  | await bounded request next ih => exact ⟨mailless.1, fun reply => ih reply (mailless.2 reply)⟩
  | checkpoint next ih => exact ih mailless

theorem bounded {x : ServiceFetch α} {next : α → ServiceOperation β} (mailless : x.Mailless)
    (each : ∀ a, (next a).Mailless) : (x.bounded next).Mailless := by
  induction x with
  | done result =>
      cases result with
      | error e => trivial
      | ok a => exact each a
  | ask request k ih => exact ⟨mailless.1, fun reply => ih reply (mailless.2 reply)⟩
  | pause k ih => exact ih mailless

theorem single {body : Transaction α} : (single body : ServiceOperation α).Mailless :=
  fun _ => trivial

theorem twoPhase {read : Transaction σ} {fetch : σ → ServiceFetch φ}
    {write : σ → φ → Transaction α} (fetches : ∀ snapshot, (fetch snapshot).Mailless) :
    (twoPhase read fetch write).Mailless :=
  fun snapshot => bounded (fetches snapshot) fun _ => single

end Mailless

end Operation

namespace Service

variable {v : Service} {c : RequestContext} {salt : List UInt8} {call : Call}

theorem ofProvider_mailless {α : Type} {reply : Except ProviderError α}
    {failure : ProviderError → RequestError} :
    (ServiceFetch.ofProvider reply failure).Mailless := by
  cases reply <;> trivial

theorem fetchSpec_mailless {source : SpecSource} : (fetchSpec source).Mailless := by
  cases source with
  | known spec => trivial
  | discover url => exact ⟨rfl, fun _ => ofProvider_mailless⟩

theorem redeemOAuthFetch_mailless {code : String} {client : ResolvedClient} :
    (v.redeemOAuthFetch code client).Mailless := by
  have asked : ∀ secret, Fetch.Mailless (do
      let spec ← fetchSpec client.spec
      ServiceFetch.redeem spec ⟨client.clientId, secret, client.redirectUri⟩ code) := by
    intro secret
    refine fetchSpec_mailless.bind fun spec => ?_
    exact ⟨rfl, fun _ => ofProvider_mailless⟩
  unfold redeemOAuthFetch
  cases client.secret with
  | platform secret => exact asked secret
  | sealed ciphertext =>
      refine Fetch.Mailless.bind ?_ asked
      exact ⟨rfl, fun _ => ofProvider_mailless⟩

theorem registerPasswordFetch_mailless {password : String} :
    (v.registerPasswordFetch salt password).Mailless := by
  refine Fetch.Mailless.bind ⟨rfl, fun _ => ofProvider_mailless⟩ fun breached => ?_
  cases breached <;> trivial

theorem validateAssertion_mailless {connection : SamlConnection} {response : String} :
    (ServiceFetch.validateAssertion connection response).Mailless := by
  refine ⟨rfl, fun reply => ?_⟩
  match reply with
  | .ok _ => trivial
  | .error _ => trivial

/-- Only requests for a code ask for a mail. -/
theorem serve_mailless (other : call.mails = false) : (v.serve c call).Mailless := by
  cases call with
  | login salt request =>
      refine Operation.Mailless.map ?_
      cases request with
      | issueEmailChallenge | issueResetCode => cases other
      | verifyEmailChallenge | verifyResetCode | verifyPassword =>
          exact Operation.Mailless.map fun _ => trivial
      | registerPassword password =>
          refine Operation.Mailless.map ?_
          unfold registerPassword
          dsimp only
          split
          · trivial
          split
          · trivial
          exact .twoPhase fun _ => registerPasswordFetch_mailless
      | oauthRedirect => exact (Operation.Mailless.twoPhase fun _ => fetchSpec_mailless).map
      | redeemOAuth => exact (Operation.Mailless.twoPhase fun _ => redeemOAuthFetch_mailless).map
      | redeemSaml => exact (Operation.Mailless.twoPhase fun _ => validateAssertion_mailless).map
  | exchange => exact Operation.Mailless.map fun _ _ => trivial
  | accessToken => exact Operation.Mailless.single.map

/-- What is left of a request once its code is issued: the message is to be sent, and whether it was
sent is the answer. -/
def sending (message : EmailMessage) (provider : ProviderCall) : ServiceOperation Answer :=
  ((ServiceOperation.send message provider).map fun _ => LoginReply.sent).map .login

/-- A request for a code is refused at once, or it issues the code in one transaction and then sends
it. -/
theorem serve_mails (mails : call.mails = true) :
    (∃ e, v.serve c call = .finish (.error e)) ∨ ∃ body provider,
      v.serve c call = .transact body fun message => sending message provider := by
  cases call with
  | login salt request =>
      cases request with
      | issueEmailChallenge email =>
          simp only [serve, perform, issueEmailChallenge]
          split
          · exact .inr ⟨_, _, rfl⟩
          · exact .inl ⟨_, rfl⟩
      | issueResetCode => exact .inr ⟨_, _, rfl⟩
      | _ => cases mails
  | exchange | accessToken => cases mails

end Service

namespace Leads

variable {op rest : ServiceOperation Answer} {turns : List Entry}

theorem mailless (leads : Leads op turns rest) (mailless : op.Mailless) :
    (∀ x ∈ turns, x.rest.Mailless) ∧ rest.Mailless := by
  induction turns generalizing op with
  | nil =>
      cases leads
      exact ⟨by simp, mailless⟩
  | cons x later ih =>
      obtain ⟨⟨t, s, s', stepped⟩, onward⟩ := leads
      have first := mailless.step stepped
      obtain ⟨each, last⟩ := ih onward first
      exact ⟨by simpa using ⟨first, each⟩, last⟩

end Leads

/-- How far a request for a code has come, by its turns. -/
inductive Mailing (op : ServiceOperation Answer) (provider : ProviderCall) :
    List Entry → ServiceOperation Answer → Prop where
  | asked : Mailing op provider [] op
  | refused {x : Entry} {m : Moment} {s : Store} {e : RequestError} (deed : x.deed = .failed m s e)
      (left : x.rest = .finish (.error e)) : Mailing op provider [x] (.finish (.error e))
  | issued {x : Entry} {m : Moment} {s s' : Store} {message : EmailMessage}
      (deed : x.deed = .committed m s s') (left : x.rest = Service.sending message provider) :
      Mailing op provider [x] (Service.sending message provider)
  | answered {x y : Entry} {m : Moment} {s s' : Store} {message : EmailMessage}
      {reply : Except ProviderError Unit} (deed : x.deed = .committed m s s')
      (left : x.rest = Service.sending message provider)
      (told : y.deed = .answered (I := serviceInterface) (.sendMail message) reply)
      (ended : y.rest = .finish ((reply.mapError (.ofProvider provider)).map fun _ =>
        .login .sent)) :
      Mailing op provider [x, y] (.finish ((reply.mapError (.ofProvider provider)).map fun _ =>
        .login .sent))

theorem Leads.mailing {body : Transaction EmailMessage} {provider : ProviderCall}
    {turns : List Entry} {rest : ServiceOperation Answer}
    (leads : Leads (.transact body fun message => Service.sending message provider) turns rest) :
    Mailing (.transact body fun message => Service.sending message provider) provider turns
      rest := by
  match turns with
  | [] =>
      cases leads
      exact .asked
  | x :: later =>
      obtain ⟨⟨t, s, s', stepped⟩, onward⟩ := leads
      generalize did : x.deed = deed at stepped
      generalize left : x.rest = middle at stepped onward
      cases Operation.step?_eq_some.mp stepped with
      | failed failed =>
          obtain ⟨rfl, rfl⟩ := onward.of_finish
          exact .refused did left
      | @committed _ _ _ message _ committed =>
          match later with
          | [] =>
              cases onward
              exact .issued did left
          | y :: later =>
              obtain ⟨⟨t, s, s', stepped⟩, onward⟩ := onward
              generalize told : y.deed = deed at stepped
              generalize ended : y.rest = last at stepped onward
              cases Operation.step?_eq_some.mp stepped with
              | @answered _ _ _ reply replied =>
                  match reply with
                  | .ok _ =>
                      obtain ⟨rfl, rfl⟩ := onward.of_finish
                      exact .answered did left told ended
                  | .error e =>
                      obtain ⟨rfl, rfl⟩ := onward.of_finish
                      exact .answered did left told ended

variable {v : Service} {others : Store → Store → Prop} {start s s' : Store} {sys : System}
  {past : List Entry} {x : Entry} {p : Uuid} {date : Date} {q : Int64}

theorem Entry.issued?_of_committed {m : Moment} (deed : x.deed = .committed m s s')
    (mails : x.call.mails = true) : x.issued? = some (x.context.projectId, m.now.date) := by
  simp [Entry.issued?, deed, mails]

theorem Entry.issued?_of_other (other : x.call.mails = false) : x.issued? = none := by
  unfold Entry.issued?
  split
  · simp [other]
  · rfl

theorem Entry.issued?_of_idle (idle : ∀ m before after, x.deed ≠ .committed m before after) :
    x.issued? = none := by
  unfold Entry.issued?
  split
  · exact absurd ‹_› (idle _ _ _)
  · rfl

/-- What a turn does to the count of a day: nothing, or it adds the one code that it issues, within
the quota, with an event that tells the new count. -/
theorem Entry.Did.issue (did : x.Did v s s') (p : Uuid) (date : Date) :
    (x.issues p date = false ∧ s'.emailUsageOn p date = s.emailUsageOn p date) ∨
      x.issues p date = true ∧ s'.emailUsageOn p date = s.emailUsageOn p date + 1 ∧
        (∃ r ∈ s.project? p, s'.emailUsageOn p date ≤
          r.effectiveEmailQuota v.config.defaultEmailQuotaDaily) ∧
        x.events.map (·.emailQuotaUsage?) = [some (.int (s'.emailUsageOn p date).toInt)] := by
  rcases did with ⟨m, deed, wrote⟩ | ⟨rfl, idle⟩
  · cases mails : x.call.mails with
    | false =>
        refine .inl ⟨by simp [Entry.issues, Entry.issued?_of_other mails], ?_⟩
        unfold Store.emailUsageOn
        rw [wrote.emailUsage mails]
    | true =>
        obtain ⟨counted, within, e, logged, told⟩ := wrote.issued mails
        have usage : s'.emailUsageOn p date = s.emailUsageOn p date +
            if (x.context.projectId, m.now.date) = (p, date) then 1 else 0 := by
          rw [← Store.emailUsageOn_countEmail]
          unfold Store.emailUsageOn
          rw [counted]
        have issued := Entry.issued?_of_committed deed mails
        by_cases own : (x.context.projectId, m.now.date) = (p, date)
        · rw [if_pos own] at usage
          rw [own] at issued
          cases own
          refine .inr ⟨by simp [Entry.issues, issued], usage, within, ?_⟩
          simp [Entry.events, deed, logged, told]
        · rw [if_neg own] at usage
          exact .inl ⟨by simpa [Entry.issues, issued] using own, usage.trans (Int64.add_zero _)⟩
  · exact .inl ⟨by simp [Entry.issues, Entry.issued?_of_idle idle], rfl⟩

/-- Where the quota stays what it is, the count of a day grows by one with each code, up to the
quota, and the events tell each of its values. It stays in the range of a 64-bit number unless the
first count or the quota is the greatest one. -/
theorem Run.emailUsage
    (run : Run (fun s s' => TenantChange s s' ∧ s'.HasQuota v p q) v { store := start } past sys)
    (quota : start.HasQuota v p q) (date : Date) :
    sys.store.emailUsageOn p date =
        start.emailUsageOn p date + .ofNat (past.countP (·.issues p date)) ∧
      (0 < past.countP (·.issues p date) → sys.store.emailUsageOn p date ≤ q) ∧
      (past.filter (·.issues p date)).map (fun x => x.events.map (·.emailQuotaUsage?)) =
        (List.range' 1 (past.countP (·.issues p date))).map (fun n =>
          [some (.int (start.emailUsageOn p date + .ofNat n).toInt)]) ∧
      (start.emailUsageOn p date ≠ .maxValue → q ≠ .maxValue →
        (start.emailUsageOn p date).toInt + past.countP (·.issues p date) ≤
          Int64.maxValue.toInt) := by
  refine (run.invariant System.sound_idle (P := fun past s => s.HasQuota v p q ∧
    s.emailUsageOn p date =
      start.emailUsageOn p date + .ofNat (past.countP (·.issues p date)) ∧
    (0 < past.countP (·.issues p date) → s.emailUsageOn p date ≤ q) ∧
    (past.filter (·.issues p date)).map (fun x => x.events.map (·.emailQuotaUsage?)) =
      (List.range' 1 (past.countP (·.issues p date))).map (fun n =>
        [some (.int (start.emailUsageOn p date + .ofNat n).toInt)]) ∧
    (start.emailUsageOn p date ≠ .maxValue → q ≠ .maxValue →
      (start.emailUsageOn p date).toInt + past.countP (·.issues p date) ≤ Int64.maxValue.toInt))
    ⟨quota, by simp, by simp, by simp, fun _ _ => by simpa using Int64.toInt_le _⟩ ?_ ?_).2
  · rintro past s x s' ⟨quota, usage, within, recorded, room⟩ did
    have project : s'.project? p = s.project? p := by
      unfold Store.project?
      rw [did.tenantFrame.projects]
    refine ⟨fun r found => quota r (project ▸ found), ?_⟩
    rcases did.issue p date with ⟨other, same⟩ | ⟨issues, more, ⟨r, found, bound⟩, told⟩
    · have count : (past ++ [x]).countP (·.issues p date) = past.countP (·.issues p date) := by
        simp [other]
      have issuing : (past ++ [x]).filter (·.issues p date) = past.filter (·.issues p date) := by
        simp [other]
      rw [same, count, issuing]
      exact ⟨usage, within, recorded, room⟩
    · rw [quota r found] at bound
      have count : (past ++ [x]).countP (·.issues p date) = past.countP (·.issues p date) + 1 := by
        simp [issues]
      have next : s'.emailUsageOn p date =
          start.emailUsageOn p date + .ofNat (past.countP (·.issues p date) + 1) := by
        rw [more, usage, Int64.ofNat_add, Int64.add_assoc]
        rfl
      refine ⟨by rw [next, count], fun _ => bound, ?_, fun low lower => ?_⟩
      · have own : [x].filter (·.issues p date) = [x] := by simp [issues]
        rw [next] at told
        rw [count, List.range'_concat, List.filter_append, own, List.map_append, recorded,
          List.map_append, Nat.one_mul, Nat.add_comm 1]
        simp only [List.map_cons, List.map_nil, told]
      · rw [count]
        exact room_succ low lower usage (room low lower) within
  · rintro past s s' ⟨_, usage, within, recorded, room⟩ ⟨changed, quota⟩
    have same : s'.emailUsageOn p date = s.emailUsageOn p date := by
      unfold Store.emailUsageOn
      rw [changed.emailUsage]
    exact ⟨quota, same ▸ usage, same ▸ within, recorded, room⟩

/-- A request for a code is refused at once, or its turns mail the code that the first one
issued. -/
theorem Run.mailing {i : Nat} {f : Flight} (run : Run others v { store := start } past sys)
    (flying : sys.flights[i]? = some f) (mails : f.call.mails = true) :
    (past.filter (·.flight == i) = [] ∧ ∃ e, f.rest = .finish (.error e)) ∨
      ∃ body provider, Mailing (.transact body fun message => Service.sending message provider)
        provider (past.filter (·.flight == i)) f.rest := by
  have leads := run.leads i f flying
  rcases Service.serve_mails (v := v) (c := f.context) mails with ⟨e, served⟩ |
    ⟨body, provider, served⟩
  · rw [served] at leads
    obtain ⟨none, ended⟩ := leads.of_finish
    exact .inl ⟨none, e, ended⟩
  · rw [served] at leads
    exact .inr ⟨body, provider, leads.mailing⟩

/-- A mail is sent after each turn that issues a code, and after no other. -/
theorem Run.mailed (run : Run others v { store := start } past sys) (member : x ∈ past) :
    x.rest.mail?.isSome = x.issued?.isSome := by
  obtain ⟨known, follows⟩ := run.follows
  obtain ⟨f, flying⟩ : ∃ f, sys.flights[x.flight]? = some f :=
    ⟨_, List.getElem?_eq_getElem (known x member)⟩
  have call : x.call = f.call := ((follows _ f flying).own x member rfl).2
  have own : x ∈ past.filter (·.flight == x.flight) := by simp [member]
  cases mails : x.call.mails with
  | false =>
      have served := Service.serve_mailless (v := v) (c := f.context) (call ▸ mails)
      have rest := ((run.leads _ f flying).mailless served).1 x own
      rw [rest.mail?, Entry.issued?_of_other mails]
      rfl
  | true =>
      rcases run.mailing flying (call ▸ mails) with ⟨none, _⟩ | ⟨body, provider, mailing⟩
      · simp [none] at own
      · generalize past.filter (·.flight == x.flight) = turns, f.rest = rest at own mailing
        cases mailing with
        | asked => cases own
        | refused deed left =>
            cases List.mem_singleton.mp own
            rw [left, Entry.issued?_of_idle (by simp [deed])]
            rfl
        | issued deed left =>
            cases List.mem_singleton.mp own
            rw [left, Entry.issued?_of_committed deed mails]
            rfl
        | answered deed left told ended =>
            rcases List.mem_pair.mp own with rfl | rfl
            · rw [left, Entry.issued?_of_committed deed mails]
              rfl
            · rw [ended, Entry.issued?_of_idle (by simp [told])]
              rfl

/-- The emails of a project on a day, over a run. -/
structure EmailQuotaKept (v : Service) (p : Uuid) (date : Date) (q : Int64) (start : Store)
    (past : List Entry) (sys : System) : Prop where
  /-- Every code that was committed is counted, and nothing else. -/
  usage : sys.store.emailUsageOn p date =
    start.emailUsageOn p date + .ofNat (past.countP (·.issues p date))
  /-- The count grows up to the quota. -/
  within : 0 < past.countP (·.issues p date) → sys.store.emailUsageOn p date ≤ q
  /-- The audit log has the events of the turns in their order. -/
  logged : sys.store.auditLog = start.auditLog ++ past.flatMap Entry.events
  /-- Each code has one event, which tells the next count. -/
  recorded : (past.filter (·.issues p date)).map (fun x => x.events.map (·.emailQuotaUsage?)) =
    (List.range' 1 (past.countP (·.issues p date))).map fun n =>
      [some (.int (start.emailUsageOn p date + .ofNat n).toInt)]
  /-- As integers too the count is this sum, and those in the events are consecutive, up to the
  greatest 64-bit number. -/
  consecutive : (start.emailUsageOn p date).toInt + past.countP (·.issues p date) ≤
      Int64.maxValue.toInt →
    (sys.store.emailUsageOn p date).toInt =
        (start.emailUsageOn p date).toInt + past.countP (·.issues p date) ∧
      (past.filter (·.issues p date)).map (fun x => x.events.map (·.emailQuotaUsage?)) =
        (List.range' 1 (past.countP (·.issues p date))).map fun n =>
          [some (.int ((start.emailUsageOn p date).toInt + n))]
  /-- A count goes past that number only where it, or the quota, starts there. -/
  room : start.emailUsageOn p date ≠ .maxValue → q ≠ .maxValue →
    (start.emailUsageOn p date).toInt + past.countP (·.issues p date) ≤ Int64.maxValue.toInt
  /-- The turn that commits a code starts to send a mail, and no other turn does. -/
  mailed : ∀ x ∈ past, x.rest.mail?.isSome = x.issued?.isSome
  /-- Nor is a mail sent before the first turn. -/
  unasked : ∀ c call, (v.serve c call).mail? = none
  /-- A turn that commits no code on behalf of a request for one leaves the store as it was. -/
  refused : ∀ t i x sys', sys.turn? t i = some (x, sys') → x.call.mails = true →
    x.issued? = none → sys'.store = sys.store
  /-- A request for a code that failed changed nothing, or it issued the code and only the mail
  could not be delivered. -/
  failed : ∀ i f e, sys.flights[i]? = some f → f.call.mails = true → f.rest.failure? = some e →
    (∀ x ∈ past.filter (·.flight == i), x.deed.Unchanged) ∨
    ∃ x y message cause, past.filter (·.flight == i) = [x, y] ∧ x.issued?.isSome = true ∧
      x.rest.mail? = some message ∧ y.deed = .answered (I := serviceInterface) (.sendMail message)
        (.error cause : Except ProviderError Unit)

/-- The quota of emails is exact. Over every run in which the effective quota `q` of a project stays
what it is, the emails counted on a day are those that were counted at the start and one for each
code that was committed, never growing beyond `q`; the events of these commits tell consecutive
counts; each is followed by one mail, and there are no others; and a request for a code that does
not commit one leaves the store as it was. Counts are 64-bit numbers: their sums are those of the
integers unless the first count or the quota is the greatest of them. -/
theorem Run.email_quota_exact
    (run : Run (fun s s' => TenantChange s s' ∧ s'.HasQuota v p q) v { store := start } past sys)
    (quota : start.HasQuota v p q) : EmailQuotaKept v p date q start past sys := by
  obtain ⟨usage, within, recorded, room⟩ := run.emailUsage quota date
  have tenants : Run TenantChange v { store := start } past sys := run.mono fun _ _ => And.left
  refine ⟨usage, within, tenants.log_grows, recorded, fun fits => ⟨?_, ?_⟩, room,
    fun x => run.mailed, ?_, ?_, ?_⟩
  · rw [usage, toInt_add_ofNat fits]
  · rw [recorded]
    refine List.map_congr_left fun n listed => ?_
    have counted := (List.mem_range'_1.mp listed).2
    rw [toInt_add_ofNat (by omega)]
  · intro c call
    cases mails : call.mails with
    | false => exact (Service.serve_mailless mails).mail?
    | true =>
        rcases Service.serve_mails (v := v) (c := c) mails with ⟨e, served⟩ | ⟨_, _, served⟩
        · rw [served]; rfl
        · rw [served]; rfl
  · intro t i x sys' taken mails none
    rcases System.turn?_store taken with committed | ⟨_, same⟩
    · rw [Entry.issued?_of_committed committed mails] at none
      cases none
    · exact same
  · intro i f e flying mails failed
    rcases run.mailing flying mails with ⟨none, _⟩ | ⟨body, provider, mailing⟩
    · simp [none]
    · have called : ∀ x ∈ past.filter (·.flight == i), x.call = f.call := by
        intro x own
        obtain ⟨member, same⟩ := List.mem_filter.mp own
        exact ((run.follows.2 i f flying).own x member (by simpa using same)).2
      generalize past.filter (·.flight == i) = turns, f.rest = rest at mailing failed called ⊢
      cases mailing with
      | asked | issued => cases failed
      | refused deed => exact .inl (by simpa using Deed.Unchanged.of_ne (by simp [deed]))
      | @answered x y m s s' message reply deed left told ended =>
          have issued := Entry.issued?_of_committed deed (called x (by simp) ▸ mails)
          match reply with
          | .ok _ => cases failed
          | .error cause =>
              exact .inr ⟨x, y, message, cause, rfl, by rw [issued]; rfl, by rw [left]; rfl, told⟩

namespace Deployment

/-- A project that may send one email a day. -/
def sparing : Store :=
  { store (only user) none with
    projects := { rows := [{ project with emailQuotaDaily := some 1 }] } }

/-- A visitor asks for a code, and for another one. -/
def askedTwice : List Entry × System :=
  System.play service
    [.arrive context (.login [] (.issueEmailChallenge user.email)), turn none 0 0, turn none 1 0,
      .arrive context (.login [] (.issueEmailChallenge user.email)), turn none 2 1]
    { store := sparing }

end Deployment

theorem Run.email_quota_exact_of_refusal :
    Deployment.sparing.HasQuota Deployment.service Deployment.project.id 1 ∧
      EmailQuotaKept Deployment.service Deployment.project.id Deployment.now.date 1
        Deployment.sparing Deployment.askedTwice.1 Deployment.askedTwice.2 ∧
      Deployment.askedTwice.2.store.emailUsageOn Deployment.project.id Deployment.now.date = 1 ∧
      Deployment.askedTwice.2.flights.map (·.rest.failure?) =
        [none, some (.failedPrecondition .emailQuotaExceeded)] := by
  have quota : Deployment.sparing.HasQuota Deployment.service Deployment.project.id 1 := by
    intro p found
    have known : Deployment.sparing.project? Deployment.project.id =
        some { Deployment.project with emailQuotaDaily := some 1 } := by decide +kernel
    cases known.symm.trans found
    rfl
  exact ⟨quota, Run.email_quota_exact (System.run_play _ _) quota, by decide +kernel,
    by decide +kernel⟩

end Vestibule
