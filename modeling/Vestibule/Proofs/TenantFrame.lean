import Mathlib.Data.List.Forall2
import Vestibule.Proofs.EmailProvenance
import Vestibule.Proofs.FailedExchange
import Vestibule.Proofs.SharedAccount

/-! The frame of a tenant. Whatever a request commits stays within its project: it removes nothing,
changes the record of its session and that of one user of the project, and adds rows of the
project. -/

namespace Vestibule

/-- Every row is in its place, as it was or changed as `may` allows; after them at most one row that
`new` allows. -/
def Grows {α : Type} (may : α → α → Prop) (new : α → Prop) (rows rows' : List α) : Prop :=
  ∃ kept added, rows' = kept ++ added ∧ List.Forall₂ (fun x x' => x' = x ∨ may x x') rows kept ∧
    added.length ≤ 1 ∧ ∀ x ∈ added, new x

namespace Grows

variable {α : Type} {key : α → Uuid} {may : α → α → Prop} {new : α → Prop} {rows added : List α}
  {t : Table α key} {r : α}

theorem append (few : added.length ≤ 1) (each : ∀ x ∈ added, new x) :
    Grows may new rows (rows ++ added) :=
  ⟨rows, added, rfl, List.forall₂_same.mpr fun _ _ => .inl rfl, few, each⟩

theorem refl : Grows may new rows rows :=
  ⟨rows, [], by simp, List.forall₂_same.mpr fun _ _ => .inl rfl, by simp, by simp⟩

theorem map {f : α → α} (each : ∀ x ∈ rows, f x = x ∨ may x (f x)) :
    Grows may new rows (rows.map f) := by
  refine ⟨rows.map f, [], by simp, ?_, by simp, by simp⟩
  rw [List.forall₂_map_right_iff, List.forall₂_same]
  exact each

theorem replace (each : ∀ x, t.get? (key r) = some x → may x r) :
    Grows may new t.rows (t.replace r).rows := by
  rw [Table.rows_replace]
  refine map fun x listed => ?_
  split
  · rename_i own
    exact .inr (each x (own ▸ Table.get?_of_mem listed))
  · exact .inl rfl

theorem add (fresh : t.contains (key r) = false) (allowed : new r) :
    Grows may new t.rows (t.add r).rows := by
  rw [Table.rows_add fresh]
  exact append (by simp) (by simpa using allowed)

end Grows

/-- The user is of an organization of the project. -/
def Store.Owns (s : Store) (projectId : Uuid) (u : User) : Prop :=
  (s.organization? projectId u.organizationId).isSome = true

/-- What a request of a project may make of a store. -/
structure Store.TenantFrame (s : Store) (c : RequestContext) (s' : Store) : Prop where
  projects : s'.projects = s.projects
  organizations : s'.organizations = s.organizations
  samlConnections : s'.samlConnections = s.samlConnections
  oidcConnections : s'.oidcConnections = s.oidcConnections
  intermediateSessions : Grows
    (fun r r' => r.id = c.intermediateSessionId ∧ r.projectId = c.projectId ∧ r'.id = r.id ∧
      r'.projectId = r.projectId)
    (fun _ => False) s.intermediateSessions.rows s'.intermediateSessions.rows
  users : ∃ id, Grows (fun u u' => u.id = id ∧ s.Owns c.projectId u ∧ u.SameIdentity u')
    (fun u => u.id = id ∧ s.Owns c.projectId u) s.users.rows s'.users.rows
  sessions : Grows (fun _ _ => False)
    (fun x => ∃ u ∈ s'.users.rows, u.id = x.userId ∧ s.Owns c.projectId u)
    s.sessions.rows s'.sessions.rows
  verifiedEmails : Grows (fun _ _ => False) (fun e => e.projectId = c.projectId)
    s.verifiedEmails s'.verifiedEmails
  auditLog : Grows (fun _ _ => False) (fun e => e.projectId = c.projectId) s.auditLog s'.auditLog
  emailUsage : ∃ date, Grows
    (fun x x' => x.projectId = c.projectId ∧ x.date = date ∧ x' = { x with count := x.count + 1 })
    (fun x => x.projectId = c.projectId ∧ x.date = date) s.emailUsage s'.emailUsage

variable {v : Service} {c : RequestContext} {m : Moment} {s s' t : Store} {l : Loaded}
  {salt : List UInt8} {heard : List ServiceDeed}

namespace Store.TenantFrame

theorem refl (s : Store) (c : RequestContext) : s.TenantFrame c s :=
  ⟨rfl, rfl, rfl, rfl, .refl, ⟨.nil, .refl⟩, .refl, .refl, .refl, ⟨⟨0⟩, .refl⟩⟩

/-- One more email is counted for the project. -/
theorem countEmail (date : Date) : s.TenantFrame c (s.countEmail c.projectId date) := by
  have counted : Grows
      (fun x x' => x.projectId = c.projectId ∧ x.date = date ∧ x' = { x with count := x.count + 1 })
      (fun x => x.projectId = c.projectId ∧ x.date = date) s.emailUsage
      (s.countEmail c.projectId date).emailUsage := by
    simp only [Store.countEmail]
    split
    · refine .map fun x _ => ?_
      split
      · rename_i own
        simp only [Bool.and_eq_true, beq_iff_eq] at own
        exact .inr ⟨own.1, own.2, rfl⟩
      · exact .inl rfl
    · exact .append (by simp) (by simp)
  rw [Store.countEmail_eq]
  exact { refl s c with emailUsage := ⟨date, counted⟩ }

theorem recordVerifiedEmail {e : VerifiedEmail} (own : e.projectId = c.projectId) :
    s.TenantFrame c (s.recordVerifiedEmail e) := by
  obtain ⟨attested, few, each, appended⟩ := s.recordVerifiedEmail_append e
  rw [appended]
  refine { refl s c with verifiedEmails := .append few fun f member => ?_ }
  rw [each f member, own]

/-- The record of a user of the project is written, and who it is stays. -/
theorem withUser {u u' : User} (stored : s.users.get? u.id = some u) (same : u.SameIdentity u')
    (own : s.Owns c.projectId u) : s.TenantFrame c (s.withUser u') := by
  refine { refl s c with users := ⟨u.id, .replace fun x found => ?_⟩, sessions := .refl }
  rw [same.id] at found
  cases stored.symm.trans found
  exact ⟨rfl, own, same⟩

theorem addUser {u : User} (fresh : s.users.contains u.id = false) (own : s.Owns c.projectId u) :
    s.TenantFrame c { s with users := s.users.add u } :=
  { refl s c with users := ⟨u.id, .add fresh ⟨rfl, own⟩⟩, sessions := .refl }

/-- A session of a user of the project is added besides. -/
theorem addSession {x : Session} {u : User} (frame : s.TenantFrame c t)
    (fresh : s.sessions.contains x.id = false) (stored : t.users.get? x.userId = some u)
    (own : s.Owns c.projectId u) : s.TenantFrame c { t with sessions := s.sessions.add x } := by
  refine { frame with sessions := .add fresh ⟨u, ?_, ?_, own⟩ }
  · exact Table.mem_of_get? stored
  · exact Table.key_of_get? stored

/-- The record of the session of the request is written besides. -/
theorem withIntermediateSession {r : IntermediateSession} (frame : s.TenantFrame c t)
    (r' : IntermediateSession) (untouched : t.intermediateSessions = s.intermediateSessions)
    (stored : s.intermediateSessions.get? c.intermediateSessionId = some r)
    (own : r.projectId = c.projectId) (id : r'.id = r.id) (projectId : r'.projectId = r.projectId) :
    s.TenantFrame c (t.withIntermediateSession r') := by
  refine { frame with intermediateSessions := ?_ }
  rw [Store.withIntermediateSession, untouched]
  refine .replace fun x found => ?_
  have named : r.id = c.intermediateSessionId := Table.key_of_get? stored
  rw [id, named] at found
  cases stored.symm.trans found
  exact ⟨named, own, id, projectId⟩

/-- It is audited besides. -/
theorem logged {e : Audit.Event} (frame : s.TenantFrame c t) (untouched : t.auditLog = s.auditLog)
    (own : e.projectId = c.projectId) : s.TenantFrame c (t.logged e) := by
  refine { frame with auditLog := ?_ }
  rw [Store.logged, untouched]
  exact .append (by simp) (by simpa using own)

end Store.TenantFrame

/-- An organization that was loaded is of the project of the request. -/
theorem Loaded.Admitted.owns {u : User} {o : Organization} (admitted : Loaded.Admitted c m.now s l)
    (loaded : l.organization = some o) (owner : u.organizationId = o.id) :
    s.Owns c.projectId u := by
  obtain ⟨_, found⟩ := admitted.organization_eq_some loaded
  rw [Store.Owns, owner, found, Option.isSome_some]

theorem Resolves.tenantFrame {organizationId : Uuid} {r : IntermediateSession} {u : User}
    {created : Bool} (resolves : Resolves m s organizationId r u created t)
    (own : s.Owns c.projectId u) : s.TenantFrame c t := by
  cases resolves with
  | found found attached =>
      obtain ⟨stored, _⟩ := Store.userForExchange?_eq_some found
      have same := (attachIdentity_sameIdentity attached).1
      exact .withUser stored same (by rwa [Store.Owns, ← same.organizationId])
  | created _ _ _ unique fresh => exact .addUser fresh own

namespace Service

/-- A password is only checked against that of a user of the project. -/
theorem HashOwner.owns {email : Option String} {u : User} (owner : HashOwner s l email u)
    (admitted : Loaded.Admitted c m.now s l) : s.Owns c.projectId u := by
  cases owner with
  | bound checked unstaged known found =>
      obtain ⟨_, of, _, _⟩ := Store.userByEmail?_eq_some found
      exact admitted.owns checked.organization of
  | direct unbound method known found =>
      have member : u ∈ s.passwordLoginCandidates l.project.id _ :=
        found ▸ List.mem_singleton_self u
      obtain ⟨_, _, _, _, allowed⟩ := Store.mem_passwordLoginCandidates.mp member
      obtain ⟨o, present, _⟩ := (Option.any_eq_true _ _).mp allowed
      rw [admitted.project_id] at present
      rw [Store.Owns, present, Option.isSome_some]

theorem Step.tenantFrame {request : LoginRequest} {lesson : Lesson} {written : Store}
    {change : Audit.IntermediateSessionChange} {rest : ServiceOperation LoginReply}
    (step : v.Step c salt heard m s l request lesson written change rest)
    (admitted : Loaded.Admitted c m.now s l) : s.TenantFrame c written := by
  cases step with
  | challengeIssued _ _ _ charged | resetCodeIssued _ _ _ charged =>
      rw [charged.counted, admitted.project_id]
      exact .countEmail m.now.date
  | emailProved => exact .recordVerifiedEmail admitted.project_id
  | passwordMatched _ owner | loggedIn owner =>
      exact .withUser owner.stored.1 User.rehashed_sameIdentity (owner.owns admitted)
  | accountRedeemed =>
      split
      · exact .recordVerifiedEmail admitted.project_id
      · exact .refl s c
  | resetCodeRedeemed | passwordStaged | stagedMatched | redirected | connectionRedeemed
  | asserted => exact .refl s c

theorem Took.tenantFrame {request : LoginRequest} {rest : ServiceOperation LoginReply}
    (took : v.Took c salt heard m s s' request rest) : s.TenantFrame c s' := by
  obtain ⟨l, lesson, written, change, admitted, step, _, rfl⟩ := took
  have frame := step.tenantFrame admitted
  obtain ⟨users, verifiedEmails, emailUsage, _, rfl⟩ := step.frame
  have taught := frame.withIntermediateSession (lesson.apply l.session) rfl admitted.stored
    admitted.session_projectId Lesson.apply_id Lesson.apply_projectId
  exact taught.logged rfl rfl

theorem Missed.tenantFrame {email : Option String} {password : String} {reason : RequestError}
    (missed : v.Missed c m s s' email password reason) : s.TenantFrame c s' := by
  obtain ⟨l, u, w, admitted, owner, _, missed, _, _, rfl⟩ := missed
  have counted : s.TenantFrame c (s.withUser w.user) :=
    .withUser owner.stored.1 (CredentialMatcher.miss?_sameIdentity missed) (owner.owns admitted)
  exact counted.logged rfl rfl

/-- An exchange writes its user, of the session's organization, and a session of this user. -/
theorem Exchanged.tenantFrame {result : IssuedSession × User × Bool}
    (exchanged : v.Exchanged c m s s' result) : s.TenantFrame c s' := by
  obtain ⟨l, o, factor, u, created, written, expire, admitted, exchangeable, resolves, _, fresh, _,
    _, rfl⟩ := exchanged
  have own : s.Owns c.projectId u := admitted.owns exchangeable.organization resolves.organizationId
  have stored := resolves.stored.1
  have frame := resolves.tenantFrame own
  obtain ⟨users, rfl⟩ := resolves.written
  have taught := frame.withIntermediateSession (Lesson.apply l.session (.exchanged m.now)) rfl
    admitted.stored admitted.session_projectId rfl rfl
  have issued := taught.addSession (x := (IssuedSession.of m u factor expire).session) fresh stored
    own
  exact issued.logged rfl admitted.session_projectId

theorem Wrote.tenantFrame {call : Call} {rest : ServiceOperation Answer}
    (wrote : v.Wrote c call heard m s s' rest) : s.TenantFrame c s' := by
  cases wrote with
  | login commit =>
      cases commit with
      | read => exact .refl s c
      | took took => exact took.tenantFrame
      | missed missed => exact missed.tenantFrame
  | exchanged exchanged => exact exchanged.tenantFrame
  | minted | refreshed => exact .refl s c

end Service

theorem Entry.Did.tenantFrame {x : Entry} (did : x.Did v s s') : s.TenantFrame x.context s' := by
  rcases did with ⟨_, _, wrote⟩ | ⟨rfl, _⟩
  · exact wrote.tenantFrame
  · exact .refl _ _

/-- A request keeps to its tenant. Whatever turn it takes, and whatever the outcome, projects,
organizations and connections stay; nothing is removed; at most the record of its own session, that
belongs to its project, and that of one user of an organization of the project are written, and the
user stays who it was; what is added and counted is of the project. All its turns together do no
more than one: at most one of them changes the store. -/
theorem Run.tenant_frame {others : Store → Store → Prop} {start : Store} {past : List Entry}
    {sys : System} (run : Run others v { store := start } past sys) {i : Nat} {f : Flight}
    (flying : sys.flights[i]? = some f) (onSession : f.call.onSession = true) :
    (∀ t x sys', sys.turn? t i = some (x, sys') →
      sys.store.TenantFrame f.context sys'.store) ∧
    ((f.rest.Unfinished ∧ ∀ x ∈ past.filter (·.flight == i), x.deed.Unchanged) ∨
    ∃ before x after m s s', past.filter (·.flight == i) = before ++ x :: after ∧
      x.deed = .committed m s s' ∧ s.TenantFrame f.context s' ∧
        ∀ y ∈ before ++ after, y.deed.Unchanged) := by
  constructor
  · intro t x sys' taken
    have did := ((run.sound System.sound_idle).turn taken).2
    have context : x.context = f.context := by
      obtain ⟨g, _, _, _, flying', _, rfl, _⟩ := System.turn?_eq_some.mp taken
      cases flying.symm.trans flying'
      rfl
    exact context ▸ did.tenantFrame
  · rcases run.writes_once flying onSession with
      unwritten | ⟨before, x, after, turns, ⟨m, s, s', deed, _⟩, unchanged⟩
    · exact .inl unwritten
    · have member : x ∈ past.filter (·.flight == i) := by simp [turns]
      obtain ⟨listed, same⟩ := List.mem_filter.mp member
      obtain ⟨context, _⟩ := (run.follows.2 i f flying).own x listed (by simpa using same)
      obtain ⟨s₁, s₂, did⟩ := run.did listed
      obtain ⟨rfl, rfl, _⟩ := did.wrote deed
      exact .inr ⟨before, x, after, m, s, s', turns, deed, context ▸ did.tenantFrame, unchanged⟩

theorem Entry.sessions_of_unchanged {x : Entry} (unchanged : x.deed.Unchanged) :
    x.sessions = [] := by
  unfold Entry.sessions
  split
  · rename_i m before after deed
    rw [unchanged m before after deed, List.drop_length]
  · rfl

theorem Run.tenant_frame_of_exchange :
    ∃ x m s s', Deployment.loginByMail.1.filter (·.flight == 2) = [x] ∧
      x.deed = .committed m s s' ∧ s.TenantFrame Deployment.context s' ∧
      x.sessions.map (·.userId) = [Deployment.user.id] := by
  have run : Run TenantChange Deployment.service
      { store := Deployment.store (Deployment.only Deployment.user)
          (some Deployment.organization.id) }
      Deployment.loginByMail.1 Deployment.loginByMail.2 := System.run_play _ _
  have asked : Deployment.loginByMail.2.flights[2]?.map (fun f => (f.context, f.call)) =
      some (Deployment.context, .exchange) := by
    decide +kernel
  have turns : (Deployment.loginByMail.1.filter (·.flight == 2)).map (fun x =>
      x.sessions.map (·.userId)) = [[Deployment.user.id]] := by
    decide +kernel
  obtain ⟨f, flying, fact⟩ := Option.map_eq_some_iff.mp asked
  simp only [Prod.mk.injEq] at fact
  obtain ⟨context, call⟩ := fact
  obtain ⟨x, own, created⟩ := List.map_eq_singleton_iff.mp turns
  rcases (Run.tenant_frame run flying (by rw [call]; rfl)).2 with
    ⟨_, unchanged⟩ | ⟨before, y, after, m, s, s', split, deed, frame, _⟩
  · have idle := unchanged x (by simp [own])
    rw [Entry.sessions_of_unchanged idle] at created
    cases created
  · obtain ⟨rfl, same⟩ : before = [] ∧ y :: after = [x] := by
      rcases List.append_eq_singleton_iff.mp (split.symm.trans own) with first | second
      · exact first
      · cases second.2
    cases same
    rw [context] at frame
    exact ⟨x, m, s, s', own, deed, frame, created⟩

end Vestibule
