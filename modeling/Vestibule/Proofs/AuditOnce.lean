import Vestibule.Proofs.Course

/-! The audit log tells of every mutation, once. A request commits at most one mutation, its event
is of the same commit, and the request cannot succeed without it. -/

namespace Vestibule

namespace Deed

variable {I : Interface}

def Unchanged (d : Deed I) : Prop :=
  ∀ m before after, d = .committed m before after → after = before

def Writes (W : Moment → Store → Store → Prop) (d : Deed I) : Prop :=
  ∃ m before after, d = .committed m before after ∧ W m before after

/-- Only a commit can change the store. -/
theorem Unchanged.of_ne {d : Deed I} (idle : ∀ m before after, d ≠ .committed m before after) :
    d.Unchanged :=
  fun m before after deed => absurd deed (idle m before after)

@[simp] theorem unchanged_committed {m : Moment} {s s' : Store} :
    (Deed.committed m s s' : Deed I).Unchanged ↔ s' = s := by
  constructor
  · intro unchanged
    exact unchanged m s s' rfl
  · rintro rfl _ _ _ ⟨⟩
    rfl

end Deed

namespace Operation

variable {I : Interface} {α β σ φ : Type} {W : Moment → Store → Store → Prop}

/-- Whatever the operation still commits leaves the store as it is. -/
def Settled : Operation I α → Prop
  | finish _ => True
  | transact body next => ∀ m s b s', body.Commits m s b s' → s' = s ∧ Settled (next b)
  | await _ _ next => ∀ reply, Settled (next reply)
  | checkpoint next => Settled next

/-- The operation has one write ahead of it. Before that its commits leave the store as it is and it
does not succeed; after that it is settled. -/
def WritesOnce (W : Moment → Store → Store → Prop) : Operation I α → Prop
  | finish result => ∀ a, result ≠ .ok a
  | transact body next => ∀ m s b s', body.Commits m s b s' →
      s' = s ∧ WritesOnce W (next b) ∨ W m s s' ∧ Settled (next b)
  | await _ _ next => ∀ reply, WritesOnce W (next reply)
  | checkpoint next => WritesOnce W next

theorem writesOnce_error {e : RequestError} :
    (finish (.error e) : Operation I α).WritesOnce W := nofun

section

variable {t : Turn I} {s s' : Store} {d : Deed I} {op rest : Operation I α}

theorem Settled.step (settled : op.Settled) (stepped : op.step? t s = some (d, rest, s')) :
    d.Unchanged ∧ rest.Settled := by
  cases step?_eq_some.mp stepped with
  | committed committed =>
      obtain ⟨same, onward⟩ := settled _ _ _ _ committed
      exact ⟨Deed.unchanged_committed.mpr same, onward⟩
  | failed | unanswered | late => exact ⟨.of_ne (by simp), trivial⟩
  | answered => exact ⟨.of_ne (by simp), settled _⟩
  | passed => exact ⟨.of_ne (by simp), settled⟩

theorem WritesOnce.step (once : op.WritesOnce W) (stepped : op.step? t s = some (d, rest, s')) :
    d.Unchanged ∧ rest.WritesOnce W ∨ d.Writes W ∧ rest.Settled := by
  cases step?_eq_some.mp stepped with
  | committed committed =>
      rcases once _ _ _ _ committed with ⟨same, onward⟩ | ⟨writes, settled⟩
      · exact .inl ⟨Deed.unchanged_committed.mpr same, onward⟩
      · exact .inr ⟨⟨_, _, _, rfl, writes⟩, settled⟩
  | failed | unanswered | late => exact .inl ⟨.of_ne (by simp), writesOnce_error⟩
  | answered => exact .inl ⟨.of_ne (by simp), once _⟩
  | passed => exact .inl ⟨.of_ne (by simp), once⟩

theorem WritesOnce.unfinished (once : op.WritesOnce W) : op.Unfinished := by
  intro a ended
  cases op with
  | finish result =>
      cases ended
      exact once a rfl
  | transact | await | checkpoint => cases ended

end

theorem Settled.map {f : α → β} {op : Operation I α} (settled : op.Settled) :
    (op.map f).Settled := by
  induction op with
  | finish result => trivial
  | transact body next ih =>
      intro m s b s' committed
      obtain ⟨same, onward⟩ := settled m s b s' committed
      exact ⟨same, ih b onward⟩
  | await bounded request next ih => exact fun reply => ih reply (settled reply)
  | checkpoint next ih => exact ih settled

theorem WritesOnce.map {f : α → β} {op : Operation I α} (once : op.WritesOnce W) :
    (op.map f).WritesOnce W := by
  induction op with
  | finish result =>
      cases result with
      | error e => exact Operation.writesOnce_error
      | ok a => exact absurd rfl (once a)
  | transact body next ih =>
      intro m s b s' committed
      rcases once m s b s' committed with ⟨same, onward⟩ | ⟨writes, settled⟩
      · exact .inl ⟨same, ih b onward⟩
      · exact .inr ⟨writes, settled.map⟩
  | await bounded request next ih => exact fun reply => ih reply (once reply)
  | checkpoint next ih => exact ih once

theorem writesOnce_single {body : Transaction α}
    (writes : ∀ m s a s', body.Commits m s a s' → W m s s') :
    (single body : Operation I α).WritesOnce W :=
  fun m s a s' committed => .inr ⟨writes m s a s' committed, trivial⟩

end Operation

theorem Fetch.writesOnce_bounded {I : Interface} {α β : Type} {W : Moment → Store → Store → Prop}
    {x : Fetch I α} {next : α → Operation I β}
    (each : ∀ deeds a, x.Yields deeds a → (next a).WritesOnce W) :
    (x.bounded next).WritesOnce W := by
  induction x with
  | done result =>
      cases result with
      | error e => exact Operation.writesOnce_error
      | ok a => exact each [] a .done
  | ask request k ih =>
      exact fun reply => ih reply fun deeds a yields => each _ a (.ask reply yields)
  | pause k ih => exact ih fun deeds a yields => each _ a (.pause yields)

/-- Of two phases the second one writes. -/
theorem Operation.writesOnce_twoPhase {I : Interface} {α σ φ : Type}
    {W : Moment → Store → Store → Prop} {read : Transaction σ} {fetch : σ → Fetch I φ}
    {write : σ → φ → Transaction α}
    (writes : ∀ m₀ s₀ snapshot s₁ deeds fetched m s a s', read.Commits m₀ s₀ snapshot s₁ →
      (fetch snapshot).Yields deeds fetched → (write snapshot fetched).Commits m s a s' →
        W m s s') :
    (twoPhase read fetch write).WritesOnce W := by
  intro m₀ s₀ snapshot s₁ dropped
  simp only [Transaction.commits_bind, Transaction.commits_get, Transaction.commits_set,
    Transaction.commits_pure, and_assoc, exists_and_left, exists_eq_left] at dropped
  obtain ⟨_, s₂, found, rfl, _, rfl⟩ := dropped
  refine .inl ⟨rfl, Fetch.writesOnce_bounded fun deeds fetched yields => ?_⟩
  exact writesOnce_single fun m s a s' written =>
    writes m₀ s₁ snapshot s₂ deeds fetched m s a s' found yields written

/-- What an event of a request tells of: a step of its session, a failed check of a user's
password, or the session that was created. -/
inductive Service.Tells (v : Service) (c : RequestContext) (m : Moment) (s s' : Store)
    (e : Audit.Event) : Prop where
  | step (type : e.resourceType = some .intermediateSession)
      (id : e.resourceId = some c.intermediateSessionId)
  | attempt {u : User} {password : String} (type : e.resourceType = some .user)
      (id : e.resourceId = some u.id) (stored : s.users.get? u.id = some u)
      (failed : v.matcher.Compares m.now u password false)
  | created {issued : Session} (type : e.resourceType = some .session)
      (id : e.resourceId = some issued.id)
      (added : s'.sessions.rows = s.sessions.rows ++ [issued])

/-- A mutation that was committed with its event: in the project of the request, by its session. -/
structure Service.Audited (v : Service) (c : RequestContext) (m : Moment) (s s' : Store) :
    Prop where
  writable : m.auditWritable = true
  logged : ∃ e, s'.auditLog = s.auditLog ++ [e] ∧ e.projectId = c.projectId ∧ e.actor = c.actor ∧
    v.Tells c m s s' e

/-- Whether the request is one on an intermediate session: a step of its login, or its exchange. -/
def Call.onSession : Call → Bool
  | .login .. | .exchange => true
  | .accessToken _ => false

/-- What is audited of a mismatch is about the user whose password it was. -/
theorem CredentialMatcher.miss?_userId {k : CredentialMatcher} {now : Instant} {u : User}
    {w : Mismatch} (missed : k.miss? now u = some w) : w.change.userId = u.id := by
  rcases miss?_eq_some missed with ⟨_, rfl⟩ | ⟨_, _, _, rfl⟩ <;> rfl

namespace Service

variable {v : Service} {c : RequestContext} {salt : List UInt8} {heard : List ServiceDeed}
  {m : Moment} {s s' : Store}

theorem Step.change_id {l : Loaded} {request : LoginRequest} {lesson : Lesson} {written : Store}
    {change : Audit.IntermediateSessionChange} {rest : ServiceOperation LoginReply}
    (step : v.Step c salt heard m s l request lesson written change rest) :
    change.intermediateSessionId = l.session.id := by
  cases step <;> rfl

theorem Took.audited {request : LoginRequest} {rest : ServiceOperation LoginReply}
    (took : v.Took c salt heard m s s' request rest) : v.Audited c m s s' := by
  obtain ⟨l, lesson, written, change, admitted, step, writable, rfl⟩ := took
  obtain ⟨_, _, _, _, rfl⟩ := step.frame
  refine ⟨writable, _, rfl, rfl, rfl, .step rfl ?_⟩
  exact congrArg some (step.change_id.trans admitted.session_id)

theorem Missed.audited {email : Option String} {password : String} {reason : RequestError}
    (missed : v.Missed c m s s' email password reason) : v.Audited c m s s' := by
  obtain ⟨l, u, w, admitted, owner, compared, missed, writable, _, rfl⟩ := missed
  refine ⟨writable, _, rfl, rfl, rfl, .attempt rfl ?_ owner.stored.1 compared⟩
  exact congrArg some (CredentialMatcher.miss?_userId missed)

theorem Exchanged.audited {result : IssuedSession × User × Bool}
    (exchanged : v.Exchanged c m s s' result) : v.Audited c m s s' := by
  obtain ⟨l, o, factor, u, created, written, expire, admitted, _, resolves, _, fresh, writable, _,
    rfl⟩ := exchanged
  obtain ⟨users, rfl⟩ := resolves.written
  exact ⟨writable, _, rfl, admitted.session_projectId, rfl, .created rfl rfl (Table.rows_add fresh)⟩

/-- Every request on a session writes once, with its event, before it can succeed. -/
theorem perform_writesOnce (request : LoginRequest) :
    (v.perform c salt request).WritesOnce (v.Audited c) := by
  have sent : ∀ (message : EmailMessage) (call : ProviderCall),
      (ServiceOperation.send message call).Settled := by
    intro message call reply
    cases reply <;> trivial
  cases request with
  | issueEmailChallenge email =>
      refine Operation.WritesOnce.map ?_
      unfold issueEmailChallenge
      split
      · intro m s message s' committed
        have took : v.Took c salt [] m s s' _ _ := issueEmailChallengeBody_took committed
        exact .inr ⟨took.audited, sent _ _⟩
      · exact Operation.writesOnce_error
  | verifyEmailChallenge code =>
      refine Operation.WritesOnce.map <| Operation.writesOnce_single fun m s r s' committed => ?_
      have took : v.Took c salt [] m s s' _ _ := verifyEmailChallengeBody_took committed
      exact took.audited
  | registerPassword password =>
      refine Operation.WritesOnce.map ?_
      unfold registerPassword
      dsimp only
      split
      · exact Operation.writesOnce_error
      split
      · exact Operation.writesOnce_error
      refine Operation.writesOnce_twoPhase ?_
      intro _ _ _ _ _ hash m s r s' _ yields committed
      have took : v.Took c salt [] m s s' _ _ :=
        registerPasswordWrite_took (registerPasswordFetch_yields yields) committed
      exact took.audited
  | verifyPassword email password =>
      refine Operation.WritesOnce.map fun m s result s' committed => .inr ⟨?_, trivial⟩
      have checked : (∃ r, result = .ok r ∧ v.Took c salt [] m s s' _ _) ∨ _ :=
        verifyPasswordBody_took committed
      rcases checked with ⟨r, _, took⟩ | ⟨reason, _, missed⟩
      · exact took.audited
      · exact missed.audited
  | issueResetCode =>
      refine Operation.WritesOnce.map fun m s message s' committed => .inr ⟨?_, sent _ _⟩
      have took : v.Took c salt [] m s s' _ _ := issueResetCodeBody_took committed
      exact took.audited
  | verifyResetCode code =>
      refine Operation.WritesOnce.map <| Operation.writesOnce_single fun m s r s' committed => ?_
      have took : v.Took c salt [] m s s' _ _ := verifyResetCodeBody_took committed
      exact took.audited
  | oauthRedirect target redirectUrl =>
      refine Operation.WritesOnce.map <| Operation.writesOnce_twoPhase ?_
      intro _ _ client _ _ spec m s url s' _ _ committed
      have took : v.Took c salt [] m s s' _ _ := oauthRedirectWrite_took committed
      exact took.audited
  | redeemOAuth target code state redirectUrl =>
      refine Operation.WritesOnce.map <| Operation.writesOnce_twoPhase ?_
      intro m₀ s₀ plan s₁ deeds identity m s r s' read yields committed
      obtain ⟨l₀, planned⟩ := redeemOAuthRead_planned
        (List.mem_cons_self : .committed m₀ s₀ s₀ ∈ .committed m₀ s₀ s₀ :: deeds) read
      have took : v.Took c salt _ m s s' _ _ := redeemOAuthWrite_took ⟨m₀, s₀, l₀, planned⟩
        ((redeemOAuthFetch_yields yields).mono fun _ => List.mem_cons_of_mem _) committed
      exact took.audited
  | redeemSaml connectionId response =>
      refine Operation.WritesOnce.map <| Operation.writesOnce_twoPhase ?_
      intro _ _ connection _ deeds email m s r s' read yields committed
      obtain ⟨asked, same, heard⟩ := validateAssertion_yields yields
      have took : v.Took c salt deeds m s s' _ _ :=
        redeemSamlWrite_took ⟨asked, same.trans (redeemSamlRead_asks read), heard⟩ committed
      exact took.audited

theorem serve_writesOnce {call : Call} (onSession : call.onSession = true) :
    (v.serve c call).WritesOnce (v.Audited c) := by
  cases call with
  | login salt request => exact (perform_writesOnce request).map
  | exchange =>
      refine Operation.WritesOnce.map fun m s result s' committed => .inr ?_
      exact ⟨(exchangeBody_exchanged committed).audited, fun m s token s' minted =>
        ⟨accessTokenBody_unchanged minted, trivial⟩⟩
  | accessToken => cases onSession

/-- A commit leaves the store as it is, or it is an audited mutation. -/
theorem Wrote.audited {call : Call} {rest : ServiceOperation Answer}
    (wrote : v.Wrote c call heard m s s' rest) : s' = s ∨ v.Audited c m s s' := by
  cases wrote with
  | login commit =>
      cases commit with
      | read => exact .inl rfl
      | took took => exact .inr took.audited
      | missed missed => exact .inr missed.audited
  | exchanged exchanged => exact .inr exchanged.audited
  | minted | refreshed => exact .inl rfl

end Service

/-- The events that the turn added to the audit log. -/
def Entry.events (x : Entry) : List Audit.Event :=
  match x.deed with
  | .committed _ before after => after.auditLog.drop before.auditLog.length
  | _ => []

variable {v : Service} {past : List Entry} {x : Entry} {s s' : Store} {sys : System}

/-- The log grows by the events of each turn. -/
theorem Entry.Did.auditLog (did : x.Did v s s') : s'.auditLog = s.auditLog ++ x.events := by
  rcases did with ⟨m, deed, wrote⟩ | ⟨rfl, idle⟩
  · rw [Entry.events, deed]
    rcases wrote.audited with rfl | ⟨_, e, logged, _⟩
    · simp
    · simp [logged]
  · unfold Entry.events
    split
    · exact absurd ‹_› (idle _ _ _)
    · simp

/-- The log holds the events of the turns, in their order, after what it held before. -/
theorem Run.log_grows {start : Store} (run : Run TenantChange v { store := start } past sys) :
    sys.store.auditLog = start.auditLog ++ past.flatMap Entry.events := by
  refine run.invariant System.sound_idle
    (P := fun past s => s.auditLog = start.auditLog ++ past.flatMap Entry.events) (by simp) ?_ ?_
  · intro past s x s' grown did
    rw [did.auditLog, grown]
    simp
  · intro past s s' grown changed
    rw [changed.auditLog, grown]

/-- What a turn makes of the store is what it commits. -/
theorem System.turn?_store {t : Turn serviceInterface} {i : Nat} {sys' : System}
    (taken : sys.turn? t i = some (x, sys')) :
    x.deed = .committed t.moment sys.store sys'.store ∨
      x.deed.Unchanged ∧ sys'.store = sys.store := by
  obtain ⟨f, deed, rest, s', _, stepped, rfl, rfl⟩ := System.turn?_eq_some.mp taken
  generalize f.rest = op at stepped
  cases Operation.step?_eq_some.mp stepped with
  | committed => exact .inl rfl
  | _ => exact .inr ⟨.of_ne (by simp), rfl⟩

/-- A request has written nothing yet and will write once, or it has, and is settled. -/
def Flight.Once (v : Service) (f : Flight) : Prop :=
  (∀ d ∈ f.heard, d.Unchanged) ∧ f.rest.WritesOnce (v.Audited f.context) ∨
    ∃ before d after, f.heard = before ++ d :: after ∧ d.Writes (v.Audited f.context) ∧
      (∀ e ∈ before ++ after, e.Unchanged) ∧ f.rest.Settled

theorem Flight.Once.turn {f : Flight} {t : Turn serviceInterface} {deed : ServiceDeed}
    {rest : ServiceOperation Answer} (once : f.Once v)
    (stepped : f.rest.step? t s = some (deed, rest, s')) :
    Flight.Once v { f with heard := f.heard ++ [deed], rest := rest } := by
  rcases once with ⟨unchanged, ahead⟩ | ⟨before, d, after, heard, writes, unchanged, settled⟩
  · rcases ahead.step stepped with ⟨same, onward⟩ | ⟨writes, settled⟩
    · refine .inl ⟨fun e member => ?_, onward⟩
      rcases List.mem_append.mp member with old | new
      · exact unchanged e old
      · exact List.mem_singleton.mp new ▸ same
    · exact .inr ⟨f.heard, deed, [], rfl, writes, by simpa using unchanged, settled⟩
  · obtain ⟨same, onward⟩ := settled.step stepped
    refine .inr ⟨before, d, after ++ [deed], by simp [heard], writes, fun e member => ?_, onward⟩
    rw [← List.append_assoc] at member
    rcases List.mem_append.mp member with old | new
    · exact unchanged e old
    · exact List.mem_singleton.mp new ▸ same

/-- Each request on a session writes once. -/
theorem Run.once {others : Store → Store → Prop} {start : Store}
    (run : Run others v { store := start } past sys) :
    ∀ f ∈ sys.flights, f.call.onSession = true → f.Once v := by
  generalize begun : ({ store := start } : System) = first at run
  induction run with
  | start =>
      cases begun
      simp
  | arrive run c call ih =>
      intro f flying onSession
      rcases List.mem_append.mp flying with before | new
      · exact ih f before onSession
      · cases List.mem_singleton.mp new
        exact .inl ⟨by simp, Service.serve_writesOnce onSession⟩
  | turn run t i taken ih =>
      obtain ⟨f, deed, rest, s', flying, stepped, rfl, rfl⟩ := System.turn?_eq_some.mp taken
      intro g member onSession
      rcases List.mem_or_eq_of_mem_set member with before | rfl
      · exact ih g before onSession
      · exact (ih f (List.mem_of_getElem? flying) onSession).turn stepped
  | change run changed ih => exact ih

/-- Of the turns of a request on a session one writes, or none does and it has not succeeded. -/
theorem Run.writes_once {others : Store → Store → Prop} {start : Store} {i : Nat} {f : Flight}
    (run : Run others v { store := start } past sys) (flying : sys.flights[i]? = some f)
    (onSession : f.call.onSession = true) :
    (f.rest.Unfinished ∧ ∀ x ∈ past.filter (·.flight == i), x.deed.Unchanged) ∨
    ∃ before x after, past.filter (·.flight == i) = before ++ x :: after ∧
      x.deed.Writes (v.Audited f.context) ∧ ∀ y ∈ before ++ after, y.deed.Unchanged := by
  have heard := (run.follows.2 i f flying).heard
  rcases run.once f (List.mem_of_getElem? flying) onSession with
    ⟨unchanged, ahead⟩ | ⟨before, d, after, split, writes, unchanged, _⟩
  · refine .inl ⟨ahead.unfinished, fun x member => ?_⟩
    exact unchanged _ (heard ▸ List.mem_map_of_mem member)
  · obtain ⟨first, rest, own, rfl, onward⟩ := List.map_eq_append_iff.mp (heard.symm.trans split)
    obtain ⟨x, last, rfl, rfl, rfl⟩ := List.map_eq_cons_iff.mp onward
    refine .inr ⟨first, x, last, own, writes, fun y member => ?_⟩
    rw [← List.map_append] at unchanged
    exact unchanged _ (List.mem_map_of_mem member)

/-- A turn that cannot write the audit log commits no change. -/
theorem Run.unwritable {start : Store} {m : Moment} {before after : Store}
    (run : Run TenantChange v { store := start } past sys) (member : x ∈ past)
    (deed : x.deed = .committed m before after) (faulty : m.auditWritable = false) :
    after = before := by
  obtain ⟨earlier, later, rfl⟩ := List.append_of_mem member
  obtain ⟨sys₁, sys₂, t, i, begun, took, _⟩ := run.split
  obtain ⟨_, did⟩ := (begun.sound System.sound_idle).turn took
  obtain ⟨rfl, rfl, wrote⟩ := did.wrote deed
  rcases wrote.audited with same | ⟨writable, _⟩
  · exact same
  · exact absurd (faulty.symm.trans writable) (by decide)

/-- Every mutation is audited once. A request on a session leaves the store as it is, and then does
not succeed, or it commits one mutation, with one event at the end of the audit log; all its other
turns leave the store as it is. What the next turn makes of the store is what it commits. The log
holds the events of the turns, in their order, after what it held before; and nothing is changed
where it cannot be written. -/
theorem Run.audited_once {start : Store} (run : Run TenantChange v { store := start } past sys) :
    (∀ i f, sys.flights[i]? = some f → f.call.onSession = true →
      (f.rest.Unfinished ∧ ∀ x ∈ past.filter (·.flight == i), x.deed.Unchanged) ∨
      ∃ before x after, past.filter (·.flight == i) = before ++ x :: after ∧
        x.deed.Writes (v.Audited f.context) ∧ ∀ y ∈ before ++ after, y.deed.Unchanged) ∧
    (∀ t i x sys', sys.turn? t i = some (x, sys') →
      x.deed = .committed t.moment sys.store sys'.store ∨
        x.deed.Unchanged ∧ sys'.store = sys.store) ∧
    sys.store.auditLog = start.auditLog ++ past.flatMap Entry.events ∧
    ∀ x ∈ past, ∀ m before after, x.deed = .committed m before after → m.auditWritable = false →
      after = before :=
  ⟨fun _ _ flying onSession => run.writes_once flying onSession,
    fun _ _ _ _ => System.turn?_store, run.log_grows, fun _ member _ _ _ => run.unwritable member⟩

theorem Run.audited_once_of_login :
    ∃ f before x after, Deployment.loggedIn.2.flights[0]? = some f ∧
      Deployment.loggedIn.1.filter (·.flight == 0) = before ++ x :: after ∧
      x.deed.Writes (Deployment.service.Audited f.context) ∧
      Deployment.loggedIn.2.store.auditLog.length = 1 := by
  have run : Run TenantChange Deployment.service
      { store := Deployment.store (Deployment.only Deployment.user) none }
      Deployment.loggedIn.1 Deployment.loggedIn.2 := System.run_play _ _
  have ended : Deployment.loggedIn.2.flights.map (fun f =>
      (f.call.onSession, f.rest.answer?.map (·.isOk))) = [(true, some true)] := by
    decide +kernel
  obtain ⟨f, flights, fact⟩ := List.map_eq_singleton_iff.mp ended
  simp only [Prod.mk.injEq, Option.map_eq_some_iff] at fact
  obtain ⟨onSession, answer, answered, succeeded⟩ := fact
  have flying : Deployment.loggedIn.2.flights[0]? = some f := by simp [flights]
  rcases (Run.audited_once run).1 0 f flying onSession with
    ⟨unfinished, _⟩ | ⟨before, x, after, own, writes, _⟩
  · cases answer with
    | error e => cases succeeded
    | ok reply => exact absurd answered (unfinished reply)
  · exact ⟨f, before, x, after, flying, own, writes, by decide +kernel⟩

end Vestibule
