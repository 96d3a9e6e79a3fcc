import Vestibule.Proofs.Course
import Vestibule.Proofs.EmailProvenance

/-! What the record of every session keeps. Each factor has its evidence, all evidence is about the
session's email, what an organization decides about is bound to it, and secrets that count once
leave nothing behind. -/

namespace Vestibule

/-- The organizations that connections are of. -/
structure Homes where
  saml : Uuid → Uuid
  oidc : Uuid → Uuid

/-- Every connection in the store is of its home. -/
structure Store.At (s : Store) (h : Homes) : Prop where
  saml : ∀ connection ∈ s.samlConnections.rows, connection.organizationId = h.saml connection.id
  oidc : ∀ connection ∈ s.oidcConnections.rows, connection.organizationId = h.oidc connection.id

/-- The fields of a record agree with each other, and with the homes of connections. -/
structure IntermediateSession.WellFormed (h : Homes) (r : IntermediateSession) : Prop where
  founded : ∀ f, r.primaryAuthFactor = some f → r.hasEvidence f = true
  challenged : r.emailChallengeSha256.isSome = true → r.email.isSome = true
  completed : r.emailChallengeCompleted = true → r.email.isSome = true
  redeemed : ∀ p, (r.providerSubject p).isSome = true → r.email.isSome = true
  password : r.passwordVerified = true ∨ r.stagedPasswordHash.isSome = true →
    r.email.isSome = true ∧ r.organizationId.isSome = true
  asserted : ∀ id, r.verifiedSamlConnectionId = some id →
    r.email.isSome = true ∧ r.organizationId = some (h.saml id)
  connected : ∀ id, r.verifiedOidcConnectionId = some id →
    r.email.isSome = true ∧ r.organizationId = some (h.oidc id)
  state : r.oauthStateSha256.isSome = r.oauthStateTarget.isSome
  reset : r.resetCodeVerified = true → r.resetCodeSha256 = none

namespace Lesson

variable {r : IntermediateSession} {lesson : Lesson} {f : PrimaryAuthFactor}

/-- The factor that a session is founded on by a lesson, if it is not founded yet. -/
def factor? : Lesson → Option PrimaryAuthFactor
  | emailProved true => some .email
  | passwordMatched | loggedIn .. => some .password
  | accountRedeemed provider _ => some provider.primaryAuthFactor
  | connectionRedeemed .. => some .oidc
  | asserted .. => some .saml
  | _ => none

theorem apply_primaryAuthFactor :
    (apply r lesson).primaryAuthFactor = r.primaryAuthFactor.or lesson.factor? := by
  cases lesson with
  | emailProved founds => cases founds <;> simp [factor?]
  | _ => simp [factor?]

/-- A lesson brings the evidence for its factor. -/
theorem apply_hasEvidence_of_factor? (founds : lesson.factor? = some f) :
    (apply r lesson).hasEvidence f = true := by
  cases lesson with
  | emailProved founds' =>
      cases founds' <;> cases founds
      simp [IntermediateSession.hasEvidence]
  | passwordMatched | loggedIn | connectionRedeemed | asserted =>
      cases founds
      simp [IntermediateSession.hasEvidence]
  | accountRedeemed provider identity =>
      cases founds
      cases provider <;>
        simp [IntermediateSession.hasEvidence, OAuthProvider.primaryAuthFactor]
  | _ => cases founds

/-- Evidence is never lost. -/
theorem apply_hasEvidence (held : r.hasEvidence f = true) :
    (apply r lesson).hasEvidence f = true := by
  cases lesson with
  | accountRedeemed provider =>
      cases provider <;> cases f <;> simp_all [IntermediateSession.hasEvidence]
  | _ => cases f <;> simp_all [IntermediateSession.hasEvidence]

theorem apply_passwordVerified :
    (apply r lesson).passwordVerified = match lesson with
      | passwordMatched | loggedIn .. => true
      | _ => r.passwordVerified := by
  cases lesson <;> simp

end Lesson

theorem IntermediateSession.Fresh.wellFormed {h : Homes} {r : IntermediateSession}
    (fresh : r.Fresh) : r.WellFormed h := by
  obtain ⟨_, _, _, _, _, _, rfl⟩ := fresh
  constructor <;> simp [IntermediateSession.new]
  intro p
  cases p <;> simp [IntermediateSession.providerSubject]

theorem IntermediateSession.WellFormed.exchanged {h : Homes} {r : IntermediateSession}
    {time : Instant} (wf : r.WellFormed h) : (Lesson.apply r (.exchanged time)).WellFormed h := by
  obtain ⟨founded, challenged, completed, redeemed, password, asserted, connected, state, reset⟩ :=
    wf
  exact ⟨founded, challenged, completed, redeemed, password, asserted, connected, state, reset⟩

variable {h : Homes} {v : Service} {x : Entry} {salt : List UInt8} {m : Moment} {s s' : Store}
  {l : Loaded} {request : LoginRequest} {lesson : Lesson} {written : Store}
  {change : Audit.IntermediateSessionChange} {rest : ServiceOperation LoginReply} {id : Uuid}

theorem Lesson.Fits.named (fits : lesson.Fits l.session) (named : l.session.email.isSome = true) :
    (lesson.apply l.session).email.isSome = true := by
  obtain ⟨email, known⟩ := Option.isSome_iff_exists.mp named
  rw [fits.email known]
  rfl

theorem Lesson.Fits.bound (fits : lesson.Fits l.session)
    (bound : l.session.organizationId.isSome = true) :
    (lesson.apply l.session).organizationId.isSome = true := by
  obtain ⟨id, known⟩ := Option.isSome_iff_exists.mp bound
  rw [fits.organizationId known]
  rfl

namespace Entry.Takes

/-- A password is only for an email, and for an organization. -/
theorem password (takes : x.Takes v s s' salt m l request lesson written change rest)
    (wf : l.session.WellFormed h)
    (known : (lesson.apply l.session).passwordVerified = true ∨
      (lesson.apply l.session).stagedPasswordHash.isSome = true) :
    (lesson.apply l.session).email.isSome = true ∧
      (lesson.apply l.session).organizationId.isSome = true := by
  have fits := takes.step.fits
  have kept : l.session.email.isSome = true ∧ l.session.organizationId.isSome = true →
      (lesson.apply l.session).email.isSome = true ∧
        (lesson.apply l.session).organizationId.isSome = true :=
    fun ⟨named, bound⟩ => ⟨fits.named named, fits.bound bound⟩
  have organized : ∀ o, l.organization = some o → l.session.organizationId.isSome = true := by
    intro o loaded
    rw [(takes.admitted.organization_eq_some loaded).1]
    rfl
  rw [Lesson.apply_passwordVerified, Lesson.apply_stagedPasswordHash] at known
  cases takes.step with
  | passwordStaged checked named =>
      exact kept ⟨by rw [named]; rfl, organized _ checked.organization⟩
  | stagedMatched checked waiting =>
      exact kept (wf.password (.inr (by rw [waiting]; rfl)))
  | passwordMatched organization owner =>
      cases owner with
      | bound checked _ named => exact kept ⟨by rw [named]; rfl, organized _ organization⟩
  | loggedIn => simp
  | _ => exact kept (wf.password known)

theorem redeemed_named (takes : x.Takes v s s' salt m l request lesson written change rest)
    (wf : l.session.WellFormed h) (p : OAuthProvider)
    (known : ((lesson.apply l.session).providerSubject p).isSome = true) :
    (lesson.apply l.session).email.isSome = true := by
  rw [Lesson.apply_providerSubject] at known
  cases takes.step with
  | accountRedeemed => simp
  | _ => exact takes.step.fits.named (wf.redeemed p known)

theorem completed_named (takes : x.Takes v s s' salt m l request lesson written change rest)
    (wf : l.session.WellFormed h)
    (known : (lesson.apply l.session).emailChallengeCompleted = true) :
    (lesson.apply l.session).email.isSome = true := by
  rw [Lesson.apply_emailChallengeCompleted] at known
  cases takes.step with
  | emailProved _ _ _ named => exact takes.step.fits.named (by rw [named]; rfl)
  | loggedIn => simp
  | _ => exact takes.step.fits.named (wf.completed known)

theorem challenged_named (takes : x.Takes v s s' salt m l request lesson written change rest)
    (wf : l.session.WellFormed h)
    (known : (lesson.apply l.session).emailChallengeSha256.isSome = true) :
    (lesson.apply l.session).email.isSome = true := by
  rw [Lesson.apply_emailChallengeSha256] at known
  cases takes.step with
  | challengeIssued => simp
  | emailProved => cases known
  | _ => exact takes.step.fits.named (wf.challenged known)

/-- An assertion binds its session to the home of its connection. -/
theorem asserted_home (takes : x.Takes v s s' salt m l request lesson written change rest)
    (wf : l.session.WellFormed h) (homed : s.At h)
    (known : (lesson.apply l.session).verifiedSamlConnectionId = some id) :
    (lesson.apply l.session).email.isSome = true ∧
      (lesson.apply l.session).organizationId = some (h.saml id) := by
  rw [Lesson.apply_verifiedSamlConnectionId] at known
  cases takes.step with
  | asserted resolved =>
      cases known
      obtain ⟨_, found, owner, _⟩ := Service.resolveSaml_commits.mp resolved
      obtain ⟨stored, _⟩ := Option.filter_eq_some_iff.mp found
      obtain ⟨_, same, _⟩ := Store.organization?_eq_some owner
      have home := homed.saml _ (Table.mem_of_get? stored)
      simp [same, home]
  | _ =>
      obtain ⟨named, bound⟩ := wf.asserted id known
      exact ⟨takes.step.fits.named named, takes.step.fits.organizationId bound⟩

/-- So does a code that was redeemed through a connection, which was of its home when its owner was
read. -/
theorem connected_home (takes : x.Takes v s s' salt m l request lesson written change rest)
    (wf : l.session.WellFormed h)
    (homed : ∀ m before after, .committed m before after ∈ x.heard → before.At h)
    (known : (lesson.apply l.session).verifiedOidcConnectionId = some id) :
    (lesson.apply l.session).email.isSome = true ∧
      (lesson.apply l.session).organizationId = some (h.oidc id) := by
  rw [Lesson.apply_verifiedOidcConnectionId] at known
  cases takes.step with
  | connectionRedeemed planned owner =>
      cases known
      obtain ⟨m₀, s₀, l₀, first, _, _, _, _, resolved⟩ := planned
      obtain ⟨connection, o', found, located, _, owner'⟩ :=
        Service.resolveClient_connection resolved
      cases owner.symm.trans owner'
      obtain ⟨stored, _⟩ := Option.filter_eq_some_iff.mp found
      obtain ⟨_, same, _⟩ := Store.organization?_eq_some located
      have home := (homed m₀ s₀ s₀ first).oidc _ (Table.mem_of_get? stored)
      rw [Table.key_of_get? stored] at home
      simp [same, home]
  | _ =>
      obtain ⟨named, bound⟩ := wf.connected id known
      exact ⟨takes.step.fits.named named, takes.step.fits.organizationId bound⟩

/-- Every step keeps the record of its session well formed. -/
theorem wellFormed (takes : x.Takes v s s' salt m l request lesson written change rest)
    (wf : l.session.WellFormed h) (homed : s.At h)
    (heard : ∀ m before after, .committed m before after ∈ x.heard → before.At h) :
    (lesson.apply l.session).WellFormed h where
  founded f founded := by
    rw [Lesson.apply_primaryAuthFactor] at founded
    rcases Option.or_eq_some_iff.mp founded with before | ⟨_, now⟩
    · exact Lesson.apply_hasEvidence (wf.founded f before)
    · exact Lesson.apply_hasEvidence_of_factor? now
  challenged := takes.challenged_named wf
  completed := takes.completed_named wf
  redeemed := takes.redeemed_named wf
  password := takes.password wf
  asserted _ := takes.asserted_home wf homed
  connected _ := takes.connected_home wf heard
  state := by
    have state := wf.state
    cases lesson <;> simp_all
  reset := by
    have reset := wf.reset
    cases lesson <;> simp_all

end Entry.Takes

/-- What the parties that run a project may do where connections stay with their homes. -/
structure SettledChange (h : Homes) (s s' : Store) : Prop extends TenantChange s s' where
  homed : s'.At h

/-- Requests write no connections. -/
theorem Service.Wrote.homed {c : RequestContext} {heard : List ServiceDeed} {call : Call}
    {rest : ServiceOperation Answer} (wrote : v.Wrote c call heard m s s' rest)
    (homed : s.At h) : s'.At h := by
  obtain ⟨saml, oidc⟩ := homed
  cases wrote with
  | login commit =>
      cases commit with
      | read => exact ⟨saml, oidc⟩
      | took took =>
          obtain ⟨_, _, _, _, _, _, _, _, _, rfl⟩ := took.frame
          exact ⟨saml, oidc⟩
      | missed missed =>
          obtain ⟨_, _, _, _, _, rfl⟩ := missed.frame
          exact ⟨saml, oidc⟩
  | exchanged exchanged =>
      obtain ⟨_, _, _, _, _, _, _, _, _, rfl⟩ := exchanged.frame
      exact ⟨saml, oidc⟩
  | minted | refreshed => exact ⟨saml, oidc⟩

namespace Run

variable {start : Store} {sys : System} {past : List Entry} {r r₀ : IntermediateSession}

theorem homed (run : Run (SettledChange h) v { store := start } past sys) (homed : start.At h) :
    sys.store.At h := by
  refine run.invariant System.sound_idle (P := fun _ s => s.At h) homed ?_ ?_
  · rintro past s x s' homed (⟨m, _, wrote⟩ | ⟨rfl, _⟩)
    · exact wrote.homed homed
    · exact homed
  · exact fun past s s' _ changed => changed.homed

/-- What a request was based on in its earlier commits was at home as well. -/
theorem heard_homed (run : Run (SettledChange h) v { store := start } (past ++ [x]) sys)
    (homed : start.At h) {before after : Store} (heard : .committed m before after ∈ x.heard) :
    before.At h := by
  obtain ⟨y, member, deed, _⟩ := run.mem_heard heard
  obtain ⟨earlier, later, rfl⟩ := List.append_of_mem member
  rw [List.append_assoc, List.cons_append] at run
  obtain ⟨sys₁, sys₂, t, i, begun, took, _⟩ := run.split
  obtain ⟨_, did⟩ := (begun.sound System.sound_idle).turn took
  obtain ⟨rfl, _⟩ := did.wrote deed
  exact begun.homed homed

/-- A session that starts with nothing proved is well formed at every time. -/
theorem wellFormed (run : Run (SettledChange h) v { store := start } past sys) (homed : start.At h)
    (begun : start.intermediateSessions.get? id = some r₀) (fresh : r₀.Fresh)
    (stored : sys.store.intermediateSessions.get? id = some r) : r.WellFormed h := by
  generalize first : ({ store := start } : System) = sys₀ at run
  induction run generalizing r with
  | start =>
      cases first
      cases begun.symm.trans stored
      exact fresh.wellFormed
  | arrive run c call ih => exact ih stored
  | @turn past sys sys' x run t i taken ih =>
      cases first
      obtain ⟨_, did⟩ := (run.sound System.sound_idle).turn taken
      obtain ⟨r, before, learns⟩ := did.learns stored
      have wf := ih before
      cases learns with
      | kept => exact wf
      | taught own record takes =>
          subst record
          exact takes.wellFormed wf (run.homed homed)
            fun _ _ _ => (run.turn t i taken).heard_homed homed
      | exchanged time => exact wf.exchanged
  | change run changed ih => exact ih (changed.intermediateSessions ▸ stored)

end Run

end Vestibule
