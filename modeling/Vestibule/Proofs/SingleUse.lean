import Mathlib.Data.List.Induction
import Mathlib.Data.List.Pairwise
import Vestibule.Proofs.Course
import Vestibule.Proofs.Secret

/-! Secrets are single use, and only the newest one counts. The record of a session keeps, for each
kind, the digest of the last secret that was issued, until it is redeemed. -/

namespace Vestibule

/-- The digest of a kind that a session keeps. -/
def IntermediateSession.digest? (r : IntermediateSession) : SecretTokenKind → Option (List UInt8)
  | .emailVerificationCode => r.emailChallengeSha256
  | .passwordResetCode => r.resetCodeSha256
  | .oauthState => r.oauthStateSha256
  | .sessionRefreshToken => none

/-- The target that a session keeps beside the digest: only a state has one. -/
def IntermediateSession.target? (r : IntermediateSession) : SecretTokenKind → Option OAuthTarget
  | .oauthState => r.oauthStateTarget
  | _ => none

/-- What a session keeps of the secret of a kind while it is outstanding. -/
def IntermediateSession.kept? (r : IntermediateSession) (k : SecretTokenKind) :
    Option (List UInt8 × Option OAuthTarget) :=
  (r.digest? k).map (·, r.target? k)

deriving instance DecidableEq for Secret

/-- What a turn does with secrets of one kind. -/
inductive SecretUse where
  | issued (secret : Secret) (target : Option OAuthTarget)
  | redeemed (code : String) (target : Option OAuthTarget)
  deriving DecidableEq

namespace SecretUse

def digest? : SecretUse → Option (List UInt8)
  | issued secret _ => some secret.digest
  | redeemed .. => none

def code? : SecretUse → Option String
  | issued .. => none
  | redeemed code _ => some code

/-- What is to be kept after it. -/
def kept? : SecretUse → Option (List UInt8 × Option OAuthTarget)
  | issued secret target => some (secret.digest, target)
  | redeemed .. => none

/-- Each redemption comes right after an issue for the same target, and presents a code with the
digest that was issued. -/
def Answered (k : SecretTokenKind) (uses : List SecretUse) : Prop :=
  ∀ before code target after, uses = before ++ redeemed code target :: after →
    ∃ secret, before.getLast? = some (issued secret target) ∧ k.digest? code = some secret.digest

end SecretUse

/-- What a step does with secrets of a kind, if it draws this one. -/
def LoginRequest.secretUse? (drawn : Secret) : SecretTokenKind → LoginRequest → Option SecretUse
  | .emailVerificationCode, issueEmailChallenge _ => some (.issued drawn none)
  | .emailVerificationCode, verifyEmailChallenge code => some (.redeemed code none)
  | .passwordResetCode, issueResetCode => some (.issued drawn none)
  | .passwordResetCode, verifyResetCode code => some (.redeemed code none)
  | .oauthState, oauthRedirect target _ => some (.issued drawn (some target))
  | .oauthState, redeemOAuth target _ state _ => some (.redeemed state (some target))
  | _, _ => none

/-- What the turn committed with the secrets of a kind, on behalf of a session. -/
def Entry.secretUse? (x : Entry) (id : Uuid) (k : SecretTokenKind) : Option SecretUse :=
  match x.taken?, x.deed with
  | some request, .committed m .. =>
    if x.context.intermediateSessionId = id then request.secretUse? m.secret k else none
  | _, _ => none

/-- Everything that was committed with the secrets of a kind, on behalf of a session. -/
def secretUses (past : List Entry) (id : Uuid) (k : SecretTokenKind) : List SecretUse :=
  past.filterMap (·.secretUse? id k)

variable {v : Service} {past earlier later : List Entry} {x : Entry} {s s' : Store} {id : Uuid}
  {k : SecretTokenKind} {code : String} {target : Option OAuthTarget}

namespace SecretUse

variable {uses : List SecretUse} {u : SecretUse} {digest : List UInt8}

theorem kept?_eq_some :
    u.kept? = some (digest, target) ↔ ∃ secret, u = issued secret target ∧ secret.digest = digest := by
  cases u with
  | issued secret target =>
      simp only [kept?, Option.some.injEq, Prod.mk.injEq, issued.injEq]
      constructor
      · rintro ⟨rfl, rfl⟩
        exact ⟨secret, ⟨rfl, rfl⟩, rfl⟩
      · rintro ⟨_, ⟨rfl, rfl⟩, rfl⟩
        exact ⟨rfl, rfl⟩
  | redeemed => simp [kept?]

theorem getLast?_kept :
    uses.getLast?.bind kept? = some (digest, target) ↔
      ∃ secret, uses.getLast? = some (issued secret target) ∧ secret.digest = digest := by
  simp only [Option.bind_eq_some_iff, kept?_eq_some]
  constructor
  · rintro ⟨_, last, secret, rfl, same⟩
    exact ⟨secret, last, same⟩
  · rintro ⟨secret, last, same⟩
    exact ⟨_, last, secret, rfl, same⟩

theorem Answered.initial (answered : Answered k (uses ++ [u])) : Answered k uses := by
  rintro before code target after rfl
  exact answered before code target (after ++ [u]) (by simp)

/-- An issue is told from every other by its digest. -/
theorem issued_unique (distinct : (uses.filterMap digest?).Nodup) {secret secret' : Secret}
    {target target' : Option OAuthTarget} (member : issued secret target ∈ uses)
    (member' : issued secret' target' ∈ uses) (same : secret.digest = secret'.digest) :
    target = target' := by
  have symmetric : Std.Symm fun u w : SecretUse =>
      ∀ d, u.digest? = some d → ∀ d', w.digest? = some d' → d ≠ d' :=
    ⟨fun u w apart d own d' other => (apart d' other d own).symm⟩
  by_contra differ
  exact (List.pairwise_filterMap.mp distinct).forall member member' (by simp [differ]) _ rfl _ rfl
    same

/-- Where no two issues have the same digest, a code that is redeemed was not redeemed before: one
digest would answer for the code both times, but would have been issued twice. -/
theorem Answered.fresh (answered : Answered k (uses ++ [redeemed code target]))
    (distinct : (uses.filterMap digest?).Nodup) : code ∉ uses.filterMap code? := by
  intro again
  obtain ⟨w, member, presented⟩ := List.mem_filterMap.mp again
  cases w with
  | issued => cases presented
  | redeemed code' target' =>
      cases presented
      obtain ⟨secret, last, digest⟩ := answered uses code target [] rfl
      obtain ⟨issues, rfl⟩ := List.getLast?_eq_some_iff.mp last
      have early : redeemed code target' ∈ issues := by
        rcases List.mem_append.mp member with before | new
        · exact before
        · cases List.mem_singleton.mp new
      obtain ⟨first, rest, rfl⟩ := List.append_of_mem early
      obtain ⟨secret', last', digest'⟩ := answered first code target'
        (rest ++ [issued secret target, redeemed code target]) (by simp)
      have known : issued secret' target' ∈ first := List.mem_of_getLast? last'
      have same : secret'.digest = secret.digest := Option.some.inj (digest'.symm.trans digest)
      rw [List.filterMap_append] at distinct
      refine (List.nodup_append.mp distinct).2.2 secret'.digest ?_ secret.digest ?_ same
      · exact List.mem_filterMap.mpr ⟨_, List.mem_append_left _ known, rfl⟩
      · exact List.mem_filterMap.mpr ⟨_, List.mem_singleton_self _, rfl⟩

theorem Answered.nodup_codes (answered : Answered k uses)
    (distinct : (uses.filterMap digest?).Nodup) : (uses.filterMap code?).Nodup := by
  induction uses using List.reverseRecOn with
  | nil => exact List.nodup_nil
  | append_singleton uses u ih =>
      rw [List.filterMap_append] at distinct
      have issues := (List.nodup_append.mp distinct).1
      have codes := ih answered.initial issues
      rw [List.filterMap_append]
      cases u with
      | issued secret target =>
          simpa only [List.filterMap_cons, List.filterMap_nil, code?, List.append_nil] using codes
      | redeemed code target =>
          refine List.nodup_append.mpr ⟨codes, List.pairwise_singleton _ code, ?_⟩
          rintro _ member _ last rfl
          cases List.mem_singleton.mp last
          exact answered.fresh issues member

end SecretUse

section

variable {salt : List UInt8} {m : Moment} {l : Loaded} {request : LoginRequest} {lesson : Lesson}
  {written : Store} {change : Audit.IntermediateSessionChange}
  {rest : ServiceOperation LoginReply}

/-- What the record keeps after a step: what the step leaves, if it is about the kind. -/
theorem Service.Step.kept? {c : RequestContext} {heard : List ServiceDeed}
    (step : v.Step c salt heard m s l request lesson written change rest) :
    (lesson.apply l.session).kept? k =
      (request.secretUse? m.secret k).elim (l.session.kept? k) SecretUse.kept? := by
  cases step <;> cases k <;>
    simp [LoginRequest.secretUse?, IntermediateSession.kept?, IntermediateSession.digest?,
      IntermediateSession.target?, SecretUse.kept?]

theorem Entry.Takes.secretUse?
    (takes : x.Takes v s s' salt m l request lesson written change rest)
    (own : x.context.intermediateSessionId = id) :
    x.secretUse? id k = request.secretUse? m.secret k := by
  simp [Entry.secretUse?, takes.taken?, takes.deed, own]

/-- A step that redeems a code found its digest in the record. The target is of an earlier reading
where the provider was asked in between. -/
theorem Entry.Takes.presented (takes : x.Takes v s s' salt m l request lesson written change rest)
    (used : request.secretUse? m.secret k = some (.redeemed code target)) :
    ∃ digest, k.digest? code = some digest ∧ l.session.digest? k = some digest ∧
      (l.session.kept? k = some (digest, target) ∨
        ∃ m₀ s₀ l₀, .committed m₀ s₀ s₀ ∈ x.heard ∧ Loaded.Admitted x.context m₀.now s₀ l₀ ∧
          l₀.session.kept? k = some (digest, target)) := by
  have step := takes.step
  generalize x.heard = heard at step
  cases step with
  | emailProved _ outstanding presented | resetCodeRedeemed _ outstanding presented =>
      cases k <;> cases used
      exact ⟨_, presented, outstanding, .inl (by
        simp [IntermediateSession.kept?, IntermediateSession.digest?, outstanding,
          IntermediateSession.target?])⟩
  | accountRedeemed planned _ outstanding | connectionRedeemed planned _ _ outstanding =>
      cases k <;> cases used
      obtain ⟨m₀, s₀, l₀, first, admitted, presented, known, aimed, _⟩ := planned
      exact ⟨_, presented, outstanding, .inr ⟨m₀, s₀, l₀, first, admitted, by
        simp [IntermediateSession.kept?, IntermediateSession.digest?, known,
          IntermediateSession.target?, aimed]⟩⟩
  | _ => cases k <;> cases used

end

theorem Entry.secretUse?_eq_some {u : SecretUse} (used : x.secretUse? id k = some u) :
    x.context.intermediateSessionId = id ∧ ∃ request m before after,
      x.taken? = some request ∧ x.deed = .committed m before after ∧
        request.secretUse? m.secret k = some u := by
  unfold Entry.secretUse? at used
  split at used
  · rename_i request m before after taken deed
    split at used
    · rename_i own
      exact ⟨own, request, m, before, after, taken, deed, used⟩
    · cases used
  · cases used

/-- A turn leaves in the record what its use of a secret leaves, or what was there. -/
theorem Entry.Did.kept? {r' : IntermediateSession} (did : x.Did v s s')
    (stored : s'.intermediateSessions.get? id = some r') :
    ∃ r, s.intermediateSessions.get? id = some r ∧
      r'.kept? k = (x.secretUse? id k).elim (r.kept? k) SecretUse.kept? := by
  cases used : x.secretUse? id k with
  | some u =>
      obtain ⟨own, request, _, _, _, taken, _⟩ := Entry.secretUse?_eq_some used
      obtain ⟨_, _, l, _, _, _, _, takes⟩ := did.taken taken
      have after := takes.taught
      rw [own] at after
      cases after.symm.trans stored
      refine ⟨l.session, own ▸ takes.admitted.stored, ?_⟩
      rw [takes.step.kept?, ← takes.secretUse? own, used]
  | none =>
      obtain ⟨r, before, learns⟩ := did.learns stored
      refine ⟨r, before, ?_⟩
      cases learns with
      | kept => rfl
      | taught own record takes =>
          subst record
          rw [takes.step.kept?, ← takes.secretUse? own, used]
      | exchanged time => cases k <;> rfl

theorem getLast?_secretUses_append :
    (secretUses (past ++ [x]) id k).getLast? =
      (x.secretUse? id k).or (secretUses past id k).getLast? := by
  cases used : x.secretUse? id k <;> simp [secretUses, used]

variable {start : Store} {sys : System}

/-- The record keeps what the last use of a secret left. -/
theorem Run.kept? (run : Run TenantChange v { store := start } past sys)
    (blank : ∀ r, start.intermediateSessions.get? id = some r → r.digest? k = none)
    {r : IntermediateSession} (stored : sys.store.intermediateSessions.get? id = some r) :
    r.kept? k = (secretUses past id k).getLast?.bind SecretUse.kept? := by
  refine run.invariant System.sound_idle
    (P := fun past s => ∀ r, s.intermediateSessions.get? id = some r →
      r.kept? k = (secretUses past id k).getLast?.bind SecretUse.kept?) ?_ ?_ ?_ r stored
  · intro r stored
    simp [IntermediateSession.kept?, blank r stored, secretUses]
  · intro past s x s' kept did r' stored
    obtain ⟨r, before, left⟩ := did.kept? stored
    rw [left, getLast?_secretUses_append, kept r before]
    cases x.secretUse? id k <;> rfl
  · intro past s s' kept changed r stored
    exact kept r (changed.intermediateSessions ▸ stored)

/-- So it was where a turn committed. -/
theorem Run.kept?_committed
    (run : Run TenantChange v { store := start } (earlier ++ x :: later) sys)
    (blank : ∀ r, start.intermediateSessions.get? id = some r → r.digest? k = none)
    {m : Moment} (deed : x.deed = .committed m s s') {r : IntermediateSession}
    (stored : s.intermediateSessions.get? id = some r) :
    r.kept? k = (secretUses earlier id k).getLast?.bind SecretUse.kept? := by
  obtain ⟨sys₁, sys₂, t, i, before, took, _⟩ := run.split
  obtain ⟨_, did⟩ := (before.sound System.sound_idle).turn took
  obtain ⟨rfl, _, _⟩ := did.wrote deed
  exact before.kept? blank stored

/-- Each redemption presents a code of the last secret that was issued, for its target. -/
theorem Run.presented (run : Run TenantChange v { store := start } (earlier ++ x :: later) sys)
    (blank : ∀ r, start.intermediateSessions.get? id = some r → r.digest? k = none)
    (distinct : ((secretUses earlier id k).filterMap SecretUse.digest?).Nodup)
    (redeemed : x.secretUse? id k = some (.redeemed code target)) :
    ∃ secret, (secretUses earlier id k).getLast? = some (.issued secret target) ∧
      k.digest? code = some secret.digest := by
  obtain ⟨sys₁, sys₂, t, i, before, took, _⟩ := run.split
  obtain ⟨_, did⟩ := (before.sound System.sound_idle).turn took
  obtain ⟨rfl, request, _, _, _, taken, _⟩ := Entry.secretUse?_eq_some redeemed
  obtain ⟨_, m, l, _, _, _, _, takes⟩ := did.taken taken
  obtain ⟨digest, read, outstanding, found⟩ :=
    takes.presented ((takes.secretUse? rfl).symm.trans redeemed)
  have kept := before.kept? blank takes.admitted.stored
  rcases found with now | ⟨m₀, s₀, l₀, first, admitted, planned⟩
  · obtain ⟨secret, last, same⟩ := SecretUse.getLast?_kept.mp (kept.symm.trans now)
    exact ⟨secret, last, same ▸ read⟩
  · obtain ⟨y, member, deed, _, context, _⟩ := run.mem_heard first
    obtain ⟨past, between, rfl⟩ := List.append_of_mem member
    rw [List.append_assoc, List.cons_append] at run
    have kept₀ := run.kept?_committed blank deed admitted.stored
    obtain ⟨secret₀, last₀, same₀⟩ := SecretUse.getLast?_kept.mp (kept₀.symm.trans planned)
    have now : l.session.kept? k = some (digest, l.session.target? k) := by
      simp [IntermediateSession.kept?, outstanding]
    obtain ⟨secret, last, same⟩ := SecretUse.getLast?_kept.mp (kept.symm.trans now)
    -- The state that was read then and the one that is outstanding now have the same digest.
    have early : SecretUse.issued secret₀ target ∈
        secretUses (past ++ y :: between) x.context.intermediateSessionId k := by
      rw [secretUses, List.filterMap_append]
      exact List.mem_append_left _ (List.mem_of_getLast? last₀)
    have aimed := SecretUse.issued_unique distinct early (List.mem_of_getLast? last)
      (same₀.trans same.symm)
    exact ⟨secret, aimed ▸ last, same ▸ read⟩

theorem Run.answered (run : Run TenantChange v { store := start } past sys)
    (blank : ∀ r, start.intermediateSessions.get? id = some r → r.digest? k = none)
    (distinct : ((secretUses past id k).filterMap SecretUse.digest?).Nodup) :
    SecretUse.Answered k (secretUses past id k) := by
  intro before code target after whole
  obtain ⟨earlier, rest, rfl, uses, onward⟩ := List.filterMap_eq_append_iff.mp whole
  obtain ⟨idle, x, later, rfl, silent, redeemed, _⟩ := List.filterMap_eq_cons_iff.mp onward
  rw [← List.append_assoc] at run
  have quiet : secretUses (earlier ++ idle) id k = before := by
    rw [secretUses, List.filterMap_append, uses, List.filterMap_eq_nil_iff.mpr silent,
      List.append_nil]
  rw [← quiet]
  refine run.presented blank ?_ redeemed
  rw [secretUses, ← List.append_assoc, List.filterMap_append, List.filterMap_append] at distinct
  exact (List.nodup_append.mp distinct).1

/-- Secrets are single use, and only the newest one counts. The record of a session that has none
outstanding at the start keeps the digest and the target of the last secret of a kind that was
issued, until it is redeemed; the code of a redemption is the token of that secret, or SHA-256
collides, and the target of the redemption is the one that the secret was issued for; and no code
is redeemed twice. -/
theorem Run.secret_single_use (run : Run TenantChange v { store := start } past sys)
    (blank : ∀ r, start.intermediateSessions.get? id = some r → r.digest? k = none)
    (distinct : ((secretUses past id k).filterMap SecretUse.digest?).Nodup) :
    (∀ r, sys.store.intermediateSessions.get? id = some r →
      r.kept? k = (secretUses past id k).getLast?.bind SecretUse.kept?) ∧
    (∀ earlier x later code target, past = earlier ++ x :: later →
      x.secretUse? id k = some (.redeemed code target) →
        ∃ secret, (secretUses earlier id k).getLast? = some (.issued secret target) ∧
          (code = secret.token k ∨ ∃ other, other ≠ secret.bytes ∧ code = k.render other ∧
            Sha256.digest other = secret.digest)) ∧
    ((secretUses past id k).filterMap SecretUse.code?).Nodup := by
  refine ⟨fun r stored => run.kept? blank stored, ?_,
    (run.answered blank distinct).nodup_codes distinct⟩
  rintro earlier x later code target rfl redeemed
  rw [secretUses, List.filterMap_append, List.filterMap_append] at distinct
  obtain ⟨secret, last, read⟩ :=
    run.presented blank (List.nodup_append.mp distinct).1 redeemed
  exact ⟨secret, last, Secret.token_of_digest? read⟩

namespace Deployment

/-- A login with an account at Google. -/
def accountRedeemed : List Entry × System :=
  System.play service (viaGoogle ⟨"g-1", user.email, true, none, none, none⟩ 0 0)
    { store := store (only user) (some organization.id) }

theorem blank {users : Table User User.id} {organizationId : Option Uuid}
    {r : IntermediateSession}
    (stored : (store users organizationId).intermediateSessions.get? id = some r) :
    r.digest? k = none := by
  cases List.mem_singleton.mp (Table.mem_of_get? stored)
  cases k <;> rfl

end Deployment

theorem Run.secret_single_use_of_google :
    ∃ earlier x later secret, Deployment.accountRedeemed.1 = earlier ++ x :: later ∧
      x.secretUse? Deployment.session.id .oauthState =
        some (.redeemed (Deployment.code .oauthState 1) (some (.provider .google))) ∧
      (secretUses earlier Deployment.session.id .oauthState).getLast? =
        some (.issued secret (some (.provider .google))) ∧
      ∀ r, Deployment.accountRedeemed.2.store.intermediateSessions.get? Deployment.session.id =
        some r → r.kept? .oauthState = none := by
  have run : Run TenantChange Deployment.service
      { store := Deployment.store (Deployment.only Deployment.user)
          (some Deployment.organization.id) }
      Deployment.accountRedeemed.1 Deployment.accountRedeemed.2 := System.run_play _ _
  have uses : secretUses Deployment.accountRedeemed.1 Deployment.session.id .oauthState =
      [.issued (.ofNat 1005) (some (.provider .google)),
        .redeemed (Deployment.code .oauthState 1) (some (.provider .google))] := by
    decide +kernel
  obtain ⟨kept, redeemed, _⟩ := Run.secret_single_use run
    (fun r stored => Deployment.blank stored)
    (by rw [uses]; exact List.pairwise_singleton _ _)
  obtain ⟨first, rest, whole, _, onward⟩ := List.filterMap_eq_append_iff.mp
    (uses.trans (List.append_cons [] _ _))
  obtain ⟨idle, x, later, rfl, _, used, _⟩ := List.filterMap_eq_cons_iff.mp onward
  rw [← List.append_assoc] at whole
  obtain ⟨secret, last, _⟩ := redeemed _ x later _ _ whole used
  refine ⟨first ++ idle, x, later, secret, whole, used, last, fun r stored => ?_⟩
  rw [kept r stored, uses]
  rfl

end Vestibule
