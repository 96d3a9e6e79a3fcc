import Vestibule.Login.Gate
import Vestibule.Proofs.Table
import Vestibule.Proofs.Transaction

/-! What the gate lets through, and what a step that passes it may write to its session. -/

namespace Vestibule

/-- An intermediate session that can make progress, with its tenants, as a request finds them. -/
structure Loaded.Admitted (c : RequestContext) (now : Instant) (s : Store) (l : Loaded) :
    Prop where
  session : s.intermediateSession? c.projectId c.intermediateSessionId = some l.session
  unexchanged : l.session.isExchanged = false
  unexpired : l.session.isExpired now = false
  project : s.project? c.projectId = some l.project
  projectOpen : l.project.loginsDisabled = false
  organization : l.organization = l.session.organizationId.bind (s.organization? c.projectId)
  bound : l.session.organizationId.isSome → l.organization.isSome
  organizationOpen : ∀ o ∈ l.organization, o.loginsDisabled = false

namespace Store

variable {s : Store} {p id : Uuid}

theorem project?_id {r : Project} (found : s.project? p = some r) : r.id = p :=
  Table.key_of_get? found

theorem organization?_eq_some {o : Organization} (found : s.organization? p id = some o) :
    s.organizations.get? id = some o ∧ o.id = id ∧ o.projectId = p := by
  simp only [organization?, Option.filter_eq_some_iff, beq_iff_eq] at found
  exact ⟨found.1, Table.key_of_get? found.1, found.2⟩

theorem intermediateSession?_eq_some {r : IntermediateSession} :
    s.intermediateSession? p id = some r ↔
      s.intermediateSessions.get? id = some r ∧ r.projectId = p := by
  simp [intermediateSession?, Option.filter_eq_some_iff]

/-- The store with a session's record replaced. -/
def withIntermediateSession (s : Store) (r : IntermediateSession) : Store :=
  { s with intermediateSessions := s.intermediateSessions.replace r }

/-- The store after a step on an intermediate session: its record and the entry that audits it. -/
def persisted (s : Store) (c : RequestContext) (m : Moment) (r : IntermediateSession)
    (change : Audit.IntermediateSessionChange) : Store :=
  (s.withIntermediateSession r).logged (change.toEvent m.eventId m.now c.projectId c.actor)

theorem updateIntermediateSession_eq_ok {r : IntermediateSession} {s' : Store} :
    s.updateIntermediateSession r = .ok s' ↔
      s.intermediateSessions.contains r.id = true ∧ s' = s.withIntermediateSession r := by
  cases present : s.intermediateSessions.contains r.id with
  | false => simp [updateIntermediateSession, present]
  | true =>
      simp only [updateIntermediateSession, present, if_true, Except.ok.injEq, true_and,
        withIntermediateSession]
      exact eq_comm

end Store

namespace Loaded

open Transaction

variable {c : RequestContext} {m : Moment} {s s' : Store} {l : Loaded}

namespace Admitted

variable {now : Instant}

theorem stored (admitted : Admitted c now s l) :
    s.intermediateSessions.get? c.intermediateSessionId = some l.session :=
  (Store.intermediateSession?_eq_some.mp admitted.session).1

theorem session_id (admitted : Admitted c now s l) : l.session.id = c.intermediateSessionId :=
  Table.key_of_get? admitted.stored

theorem session_projectId (admitted : Admitted c now s l) : l.session.projectId = c.projectId :=
  (Store.intermediateSession?_eq_some.mp admitted.session).2

theorem project_id (admitted : Admitted c now s l) : l.project.id = c.projectId :=
  Store.project?_id admitted.project

/-- The organization that was loaded is the one that the session is bound to. -/
theorem organization_eq_some (admitted : Admitted c now s l) {o : Organization}
    (loaded : l.organization = some o) :
    l.session.organizationId = some o.id ∧ s.organization? c.projectId o.id = some o := by
  have bind := admitted.organization
  rw [loaded] at bind
  obtain ⟨id, bound, found⟩ := Option.bind_eq_some_iff.mp bind.symm
  obtain ⟨_, rfl, _⟩ := Store.organization?_eq_some found
  exact ⟨bound, found⟩

end Admitted

theorem load_commits : (load c).Commits m s l s' ↔ s' = s ∧ Admitted c m.now s l := by
  simp only [load, commits_bind, commits_get, commits_need, commits_now, commits_ite, commits_deny,
    commits_fail, and_assoc, exists_and_left, exists_eq_left]
  constructor
  · rintro ⟨session, found, rest⟩
    split at rest
    · simp at rest
    split at rest
    · simp at rest
    obtain ⟨project, foundProject, rest⟩ := rest
    split at rest
    · simp at rest
    split at rest
    · rename_i unexchanged unexpired projectOpen _ unbound
      obtain ⟨rfl, rfl⟩ := commits_pure.mp rest
      exact ⟨rfl, found, by simpa using unexchanged, by simpa using unexpired, foundProject,
        by simpa using projectOpen, by simp [unbound], by simp [unbound], by simp⟩
    · rename_i unexchanged unexpired projectOpen _ id bound
      have own := Store.project?_id foundProject
      simp only [commits_bind, commits_need, commits_ite, commits_deny, commits_pure, and_assoc,
        exists_and_left, exists_eq_left] at rest
      obtain ⟨organization, foundOrganization, rest⟩ := rest
      split at rest
      · simp at rest
      · rename_i organizationOpen
        obtain ⟨rfl, rfl⟩ := rest
        exact ⟨rfl, found, by simpa using unexchanged, by simpa using unexpired, foundProject,
          by simpa using projectOpen, by simp [bound, ← own, foundOrganization], by simp,
          by simpa using organizationOpen⟩
  · rintro ⟨rfl, admitted⟩
    obtain ⟨session, project, organization⟩ := l
    have own := admitted.project_id
    obtain ⟨found, unexchanged, unexpired, foundProject, projectOpen, loaded, bound, isOpen⟩ :=
      admitted
    simp only at *
    refine ⟨session, found, ?_⟩
    rw [if_neg (by simp [unexchanged]), if_neg (by simp [unexpired])]
    refine ⟨project, foundProject, ?_⟩
    rw [if_neg (by simp [projectOpen])]
    cases tenant : session.organizationId with
    | none => simp_all
    | some id =>
        obtain ⟨o, rfl⟩ := Option.isSome_iff_exists.mp (bound (by simp [tenant]))
        have located : s'.organization? c.projectId id = some o := by
          simpa [tenant] using loaded.symm
        simp [own, located, isOpen o rfl, and_assoc]

@[simp] theorem deny?_commits {reason : Option Precondition} {a : Unit} :
    (deny? reason).Commits m s a s' ↔ reason = none ∧ s' = s := by
  cases reason <;> simp [deny?]

@[simp] theorem checkOrganization_commits {o : Organization} {method : LoginMethod} {a : Unit} :
    (checkOrganization o method).Commits m s a s' ↔
      organizationRefuses? o method = none ∧ s' = s := deny?_commits

@[simp] theorem requireMethod_commits {method : LoginMethod} {a : Unit} :
    (l.requireMethod method).Commits m s a s' ↔ l.allows method = true ∧ s' = s := by
  simp [requireMethod, allows]

@[simp] theorem requireAnyMethod_commits {methods : List LoginMethod} {a : Unit} :
    (l.requireAnyMethod methods).Commits m s a s' ↔ methods.any l.allows = true ∧ s' = s := by
  unfold requireAnyMethod
  split <;> simp_all

@[simp] theorem requireOrganization_commits {o : Organization} :
    l.requireOrganization.Commits m s o s' ↔ l.organization = some o ∧ s' = s := commits_need

@[simp] theorem requireEmail_commits {email : String} :
    l.requireEmail.Commits m s email s' ↔ l.session.email = some email ∧ s' = s := commits_need

@[simp] theorem requireEmailVerified_commits {a : Unit} :
    l.requireEmailVerified.Commits m s a s' ↔
      isEmailVerified s l.project.id l.session = true ∧ s' = s := by
  simp only [requireEmailVerified, commits_bind, commits_get, commits_ite, commits_deny,
    commits_pure, and_assoc, exists_and_left, exists_eq_left]
  split <;> simp_all

/-- An email is given to a session once. -/
@[simp] theorem bindEmail_commits {email : String} {l' : Loaded} :
    (l.bindEmail email).Commits m s l' s' ↔
      (∀ known ∈ l.session.email, known = email) ∧
        l' = { l with session := { l.session with email := some email } } ∧ s' = s := by
  unfold bindEmail
  cases known : l.session.email with
  | none => simp
  | some e =>
      by_cases same : e = email
      · subst same
        have kept : l = { l with session := { l.session with email := some e } } := by
          rw [← known]
        simp [← kept]
      · simp [same]

/-- A session that is bound to an organization stays with it. -/
@[simp] theorem bindOrganization_commits {o : Organization} {l' : Loaded} :
    (l.bindOrganization o).Commits m s l' s' ↔
      (∀ id ∈ l.session.organizationId, id = o.id) ∧
        l' = { l with
          session := { l.session with organizationId := some o.id }
          organization := some o } ∧ s' = s := by
  unfold bindOrganization
  cases bound : l.session.organizationId with
  | none => simp
  | some id => by_cases same : id = o.id <;> simp [same]

end Loaded

@[simp] theorem persist_commits {c : RequestContext} {m : Moment} {s s' : Store}
    {r : IntermediateSession} {change : Audit.IntermediateSessionChange} {a : Unit} :
    (persist c r change).Commits m s a s' ↔
      s.intermediateSessions.contains r.id = true ∧ m.auditWritable = true ∧
        s' = s.persisted c m r change := by
  simp [persist, Store.persisted, Store.updateIntermediateSession_eq_ok, and_assoc]

end Vestibule
