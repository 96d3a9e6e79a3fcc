import Vestibule.Proofs.EmailQuota
import Vestibule.Proofs.UserLikeness

/-! Tenants do not interfere. Stores that agree on what belongs to a project are alike to every
request of the project, whatever they hold of others. -/

namespace Vestibule

theorem Uuid.le_trans {a b c : Uuid} (first : a ≤ b) (second : b ≤ c) : a ≤ c :=
  Nat.le_trans first second

theorem Uuid.le_total (a b : Uuid) : a ≤ b ∨ b ≤ a := Nat.le_total a.toNat b.toNat

theorem Uuid.le_antisymm {a b : Uuid} (before : a ≤ b) (after : b ≤ a) : a = b := by
  have same : a.bits.toNat = b.bits.toNat := Nat.le_antisymm before after
  cases a
  cases b
  exact congrArg Uuid.mk (BitVec.eq_of_toNat_eq same)

namespace Store

/-- A user of an organization of the project. -/
def userIn? (s : Store) (projectId id : Uuid) : Option User :=
  (s.users.get? id).filter fun u => (s.organization? projectId u.organizationId).isSome

/-- The stores hold the same of a project: its record and its organizations, the users and
connections of these, its intermediate sessions, its verified emails and its quota. -/
structure Agrees (s t : Store) (p : Uuid) : Prop where
  project? : s.project? p = t.project? p
  organization? : ∀ id, s.organization? p id = t.organization? p id
  userIn? : ∀ id, s.userIn? p id = t.userIn? p id
  samlConnection? : ∀ id, s.samlConnection? p id = t.samlConnection? p id
  oidcConnection? : ∀ id, s.oidcConnection? p id = t.oidcConnection? p id
  intermediateSession? : ∀ id, s.intermediateSession? p id = t.intermediateSession? p id
  verifiedEmails : ∀ e : VerifiedEmail, e.projectId = p →
    (e ∈ s.verifiedEmails ↔ e ∈ t.verifiedEmails)
  emailUsageOn : ∀ date, s.emailUsageOn p date = t.emailUsageOn p date

variable {s t : Store} {p id : Uuid} {u w : User} {email : String}

theorem userIn?_eq_some : s.userIn? p id = some u ↔ s.users.get? id = some u ∧ s.Owns p u := by
  simp [userIn?, Owns, Option.filter_eq_some_iff]

theorem nodup_passwordLoginCandidates : (s.passwordLoginCandidates p email).Nodup := by
  rw [passwordLoginCandidates, (List.mergeSort_perm _ _).nodup_iff]
  have distinct : s.users.rows.Nodup := (List.pairwise_map.mp s.users.distinct).imp
    fun differ same => differ (congrArg User.id same)
  exact distinct.filter _

theorem sorted_passwordLoginCandidates :
    (s.passwordLoginCandidates p email).Pairwise fun u w => u.id ≤ w.id := by
  have sorted : ∀ rows : List User,
      (rows.mergeSort fun u w => u.id ≤ w.id).Pairwise fun u w => u.id ≤ w.id := by
    intro rows
    refine (List.pairwise_mergeSort (fun u v w first second => ?_) (fun u w => ?_) rows).imp
      of_decide_eq_true
    · exact decide_eq_true
        (Uuid.le_trans (of_decide_eq_true first) (of_decide_eq_true second))
    · simpa using Uuid.le_total u.id w.id
  exact sorted _

theorem AccountsUnique.of_none (none : ∀ p, ∀ u ∈ s.users.rows, u.providerSubject p = none) :
    s.AccountsUnique := by
  intro u listed _ _ q _ _ held
  rw [none q u listed] at held
  cases held

/-- Where accounts are unique, an active user is found by any of them. -/
theorem AccountsUnique.userBySubject? {provider : OAuthProvider} {subject : String}
    (unique : s.AccountsUnique) (stored : s.users.get? id = some u) (active : u.isActive = true)
    (held : u.providerSubject provider = some subject) :
    s.userBySubject? u.organizationId provider subject = some u := by
  have listed := Table.mem_of_get? stored
  cases found : s.userBySubject? u.organizationId provider subject with
  | none =>
      have missing := List.find?_eq_none.mp found u listed
      simp [active, held] at missing
  | some w =>
      obtain ⟨present, organization, _, held'⟩ := userBySubject?_eq_some found
      have same := unique w (Table.mem_of_get? present) u listed provider subject organization
        held' held
      rw [same, Table.get?_of_mem listed] at present
      exact present.symm

theorem userIn?_withUser {u' : User} (stored : s.users.get? u.id = some u) (own : s.Owns p u)
    (same : u.SameIdentity u') : (s.withUser u').userIn? p u.id = some u' := by
  rw [← same.id] at stored ⊢
  refine userIn?_eq_some.mpr ⟨Table.get?_replace_self stored, ?_⟩
  rw [Owns, same.organizationId]
  exact own

theorem userIn?_withUser_of_ne (apart : u.id ≠ id) :
    (s.withUser u).userIn? p id = s.userIn? p id := by
  rw [userIn?, withUser, Table.get?_replace_of_ne apart]
  rfl

namespace Agrees

theorem owns (agrees : s.Agrees t p) : s.Owns p u ↔ t.Owns p u := by
  rw [Owns, Owns, agrees.organization?]

/-- A user of the project is stored by both or by neither. -/
theorem get? (agrees : s.Agrees t p) (own : s.Owns p u) :
    s.users.get? id = some u ↔ t.users.get? id = some u := by
  have same := agrees.userIn? id
  constructor
  · intro stored
    exact (userIn?_eq_some.mp (same ▸ userIn?_eq_some.mpr ⟨stored, own⟩)).1
  · intro stored
    exact (userIn?_eq_some.mp (same.symm ▸ userIn?_eq_some.mpr ⟨stored, agrees.owns.mp own⟩)).1

theorem mem_users (agrees : s.Agrees t p) (own : s.Owns p u) :
    u ∈ s.users.rows ↔ u ∈ t.users.rows := by
  have found : s.users.get? u.id = some u ↔ t.users.get? u.id = some u := agrees.get? own
  rw [Table.get?_eq_some_iff, Table.get?_eq_some_iff] at found
  simpa using found

theorem isEmailVerifiedByProvider {provider : OAuthProvider} {subject : String}
    (agrees : s.Agrees t p) : s.isEmailVerifiedByProvider p email provider subject =
      t.isEmailVerifiedByProvider p email provider subject := by
  rw [Bool.eq_iff_iff]
  simp only [Store.isEmailVerifiedByProvider, List.any_eq_true, Bool.and_eq_true, beq_iff_eq,
    and_assoc]
  refine exists_congr fun e => ?_
  constructor
  · rintro ⟨listed, own, rest⟩
    exact ⟨(agrees.verifiedEmails e own).mp listed, own, rest⟩
  · rintro ⟨listed, own, rest⟩
    exact ⟨(agrees.verifiedEmails e own).mpr listed, own, rest⟩

/-- Where emails are unique, the active user with an email is the same. -/
theorem userByEmail? (agrees : s.Agrees t p) (unique : s.UsersUnique) (unique' : t.UsersUnique)
    (owned : (s.organization? p id).isSome = true) :
    s.userByEmail? id email = t.userByEmail? id email := by
  refine Option.ext fun u => ?_
  constructor
  · intro found
    obtain ⟨stored, rfl, rfl, active⟩ := userByEmail?_eq_some found
    exact unique'.userByEmail? ((agrees.get? owned).mp stored) active
  · intro found
    obtain ⟨stored, rfl, rfl, active⟩ := userByEmail?_eq_some found
    exact unique.userByEmail? ((agrees.get? owned).mpr stored) active

/-- Where accounts are, so is the active user with an account. -/
theorem linksAlike (agrees : s.Agrees t p) (unique : s.AccountsUnique) (unique' : t.AccountsUnique)
    (owned : (s.organization? p id).isSome = true) : s.LinksAlike t id := by
  intro provider subject
  refine Option.ext fun u => ?_
  constructor
  · intro found
    obtain ⟨stored, rfl, active, held⟩ := userBySubject?_eq_some found
    exact unique'.userBySubject? ((agrees.get? owned).mp stored) active held
  · intro found
    obtain ⟨stored, rfl, active, held⟩ := userBySubject?_eq_some found
    exact unique.userBySubject? ((agrees.get? owned).mpr stored) active held

theorem allowsPasswordLogin (agrees : s.Agrees t p) :
    s.allowsPasswordLogin p id = t.allowsPasswordLogin p id := by
  rw [Store.allowsPasswordLogin, Store.allowsPasswordLogin, agrees.organization?]

theorem passwordLoginCandidates (agrees : s.Agrees t p) :
    s.passwordLoginCandidates p email = t.passwordLoginCandidates p email := by
  have same : ∀ u, u ∈ s.passwordLoginCandidates p email ↔
      u ∈ t.passwordLoginCandidates p email := by
    intro u
    rw [mem_passwordLoginCandidates, mem_passwordLoginCandidates, agrees.allowsPasswordLogin]
    refine and_congr_left fun ⟨_, _, _, allowed⟩ => agrees.mem_users ?_
    rw [← agrees.allowsPasswordLogin] at allowed
    obtain ⟨o, found, _⟩ := (Option.any_eq_true _ _).mp allowed
    rw [Owns, found, Option.isSome_some]
  -- Both are sorted by identifiers, which are distinct, so they are the same list.
  have moved := (List.perm_ext_iff_of_nodup nodup_passwordLoginCandidates
    nodup_passwordLoginCandidates).mpr same
  refine moved.eq_of_pairwise (fun u w here there before after => ?_)
    sorted_passwordLoginCandidates sorted_passwordLoginCandidates
  have listed := (mem_passwordLoginCandidates.mp ((same u).mp here)).1
  have stored := Table.get?_of_mem (mem_passwordLoginCandidates.mp there).1
  rw [← Uuid.le_antisymm before after, Table.get?_of_mem listed] at stored
  exact Option.some.inj stored

theorem countEmail {date : Date} (agrees : s.Agrees t p) :
    (s.countEmail p date).Agrees (t.countEmail p date) p := by
  have counted : ∀ day, (s.countEmail p date).emailUsageOn p day =
      (t.countEmail p date).emailUsageOn p day := by
    intro day
    rw [emailUsageOn_countEmail, emailUsageOn_countEmail, agrees.emailUsageOn]
  rw [countEmail_eq, countEmail_eq (s := t)]
  exact { agrees with emailUsageOn := counted }

theorem recordVerifiedEmail {e : VerifiedEmail} (agrees : s.Agrees t p) (own : e.projectId = p) :
    (s.recordVerifiedEmail e).Agrees (t.recordVerifiedEmail e) p := by
  have claimed : s.verifiedEmails.any (·.sameClaim e) = t.verifiedEmails.any (·.sameClaim e) := by
    rw [Bool.eq_iff_iff, List.any_eq_true, List.any_eq_true]
    refine exists_congr fun f => and_congr_left fun same => agrees.verifiedEmails f ?_
    simp only [VerifiedEmail.sameClaim, Bool.and_eq_true, beq_iff_eq] at same
    rw [same.1.1.1, own]
  unfold Store.recordVerifiedEmail
  rw [claimed]
  split
  · exact agrees
  · refine { agrees with verifiedEmails := fun f foreign => ?_ }
    rw [List.mem_append, List.mem_append, agrees.verifiedEmails f foreign]

theorem withIntermediateSession {r old : IntermediateSession} (agrees : s.Agrees t p)
    (stored : s.intermediateSession? p r.id = some old) :
    (s.withIntermediateSession r).Agrees (t.withIntermediateSession r) p := by
  have stored' := agrees.intermediateSession? r.id ▸ stored
  refine { agrees with intermediateSession? := fun id => ?_ }
  by_cases same : r.id = id
  · subst same
    have here := Table.get?_replace_self (intermediateSession?_eq_some.mp stored).1
    have there := Table.get?_replace_self (intermediateSession?_eq_some.mp stored').1
    simp only [Store.intermediateSession?, Store.withIntermediateSession, here, there]
  · have found := agrees.intermediateSession? id
    simp only [Store.intermediateSession?, Store.withIntermediateSession,
      Table.get?_replace_of_ne same] at found ⊢
    exact found

theorem withUser {u' : User} (agrees : s.Agrees t p) (stored : s.users.get? u.id = some u)
    (own : s.Owns p u) (same : u.SameIdentity u') : (s.withUser u').Agrees (t.withUser u') p := by
  have stored' := (agrees.get? own).mp stored
  refine { agrees with userIn? := fun id => ?_ }
  by_cases written : u'.id = id
  · subst written
    rw [same.id, userIn?_withUser stored own same,
      userIn?_withUser stored' (agrees.owns.mp own) same]
  · rw [userIn?_withUser_of_ne written, userIn?_withUser_of_ne written, agrees.userIn?]

theorem addUser (agrees : s.Agrees t p) (fresh : s.users.contains u.id = false)
    (fresh' : t.users.contains u.id = false) :
    Agrees { s with users := s.users.add u } { t with users := t.users.add u } p := by
  refine { agrees with userIn? := fun id => ?_ }
  have found := agrees.userIn? id
  simp only [Store.userIn?, Table.get?_add fresh, Table.get?_add fresh'] at found ⊢
  split
  · have owned : (fun w : User => (s.organization? p w.organizationId).isSome) =
        fun w => (t.organization? p w.organizationId).isSome :=
      funext fun w => by rw [agrees.organization?]
    exact congrArg (Option.filter · (some u)) owned
  · exact found

end Agrees

/-- It makes no difference to a project who is a user of another. -/
theorem Agrees.addStranger (fresh : s.users.contains u.id = false) (stranger : ¬ s.Owns p u) :
    s.Agrees { s with users := s.users.add u } p where
  project? := rfl
  organization? _ := rfl
  userIn? id := by
    simp only [Store.userIn?, Table.get?_add fresh]
    split
    · rename_i own
      have missing : s.users.get? id = none := by
        rw [Table.get?, List.find?_eq_none]
        simpa [Table.contains, own] using fresh
      rw [missing, Option.filter_none, Option.filter_some]
      exact (if_neg stranger).symm
    · rfl
  samlConnection? _ := rfl
  oidcConnection? _ := rfl
  intermediateSession? _ := rfl
  verifiedEmails _ _ := .rfl
  emailUsageOn _ := rfl

/-- What is drawn at a moment is new to the store. -/
structure Unused (s : Store) (m : Moment) : Prop where
  user : s.users.contains m.userId = false
  session : s.sessions.contains m.sessionId = false
  digest : ∀ x ∈ s.sessions.rows, x.refreshTokenSha256 ≠ m.secret.digest

/-- The stores have come from `s₀` and `t₀`. They agree on the project, and the same sessions, of
users of the project, and the same events were added to both. -/
structure Parallel (p : Uuid) (drawn : Moment → Prop) (s₀ t₀ s t : Store) : Prop where
  agrees : s.Agrees t p
  unique : s.UsersUnique
  unique' : t.UsersUnique
  userIds : ∀ m, drawn m → s.users.contains m.userId = t.users.contains m.userId
  sessions : ∃ issued, s.sessions.rows = s₀.sessions.rows ++ issued ∧
    t.sessions.rows = t₀.sessions.rows ++ issued ∧
      ∀ x ∈ issued, ∃ u, s.userIn? p x.userId = some u
  auditLog : ∃ events, s.auditLog = s₀.auditLog ++ events ∧ t.auditLog = t₀.auditLog ++ events

namespace Parallel

variable {drawn : Moment → Prop} {s₀ t₀ s' t' : Store} {m : Moment}

theorem refl (agrees : s.Agrees t p) (unique : s.UsersUnique) (unique' : t.UsersUnique)
    (unused : ∀ m, drawn m → s.Unused m ∧ t.Unused m) : Parallel p drawn s t s t where
  agrees := agrees
  unique := unique
  unique' := unique'
  userIds m moment := (unused m moment).1.user.trans (unused m moment).2.user.symm
  sessions := ⟨[], by simp, by simp, by simp⟩
  auditLog := ⟨[], by simp, by simp⟩

theorem countEmail {date : Date} (like : Parallel p drawn s₀ t₀ s t) :
    Parallel p drawn s₀ t₀ (s.countEmail p date) (t.countEmail p date) := by
  have agrees : (s.countEmail p date).Agrees (t.countEmail p date) p := like.agrees.countEmail
  rw [countEmail_eq, countEmail_eq (s := t)] at agrees ⊢
  exact { like with agrees := agrees }

theorem recordVerifiedEmail {e : VerifiedEmail} (like : Parallel p drawn s₀ t₀ s t)
    (own : e.projectId = p) :
    Parallel p drawn s₀ t₀ (s.recordVerifiedEmail e) (t.recordVerifiedEmail e) := by
  have agrees := like.agrees.recordVerifiedEmail own
  rw [recordVerifiedEmail_eq, recordVerifiedEmail_eq (s := t)] at agrees ⊢
  exact { like with agrees := agrees }

theorem logged {e : Audit.Event} (like : Parallel p drawn s₀ t₀ s t) :
    Parallel p drawn s₀ t₀ (s.logged e) (t.logged e) := by
  obtain ⟨events, here, there⟩ := like.auditLog
  refine { like with agrees := { like.agrees with }, auditLog := ⟨events ++ [e], ?_, ?_⟩ }
  · rw [Store.logged, here, List.append_assoc]
  · rw [Store.logged, there, List.append_assoc]

theorem withUser {u' : User} (like : Parallel p drawn s₀ t₀ s t)
    (stored : s.users.get? u.id = some u) (own : s.Owns p u) (same : u.SameIdentity u') :
    Parallel p drawn s₀ t₀ (s.withUser u') (t.withUser u') := by
  have stored' := (like.agrees.get? own).mp stored
  obtain ⟨issued, here, there, owners⟩ := like.sessions
  refine { like with
    agrees := like.agrees.withUser stored own same
    unique := (UserWrite.replaced stored same).usersUnique like.unique
    unique' := (UserWrite.replaced stored' same).usersUnique like.unique'
    userIds := fun m moment => ?_
    sessions := ⟨issued, here, there, fun x listed => ?_⟩ }
  · rw [Store.withUser, Store.withUser, Table.contains_replace, Table.contains_replace]
    exact like.userIds m moment
  · obtain ⟨w, found⟩ := owners x listed
    by_cases written : u.id = x.userId
    · exact ⟨u', written ▸ userIn?_withUser stored own same⟩
    · exact ⟨w, (userIn?_withUser_of_ne (same.id ▸ written)).trans found⟩

/-- A user is added to both stores, or is refused by both. -/
theorem createUser (like : Parallel p drawn s₀ t₀ s t) (moment : drawn m)
    (id : u.id = m.userId) (own : s.Owns p u) :
    Transaction.WritesAlike (Parallel p drawn s₀ t₀) (·.createUser u) s t := by
  have named : (s.users.rows.any fun v => v.organizationId == u.organizationId &&
      v.email == u.email) = t.users.rows.any fun v => v.organizationId == u.organizationId &&
        v.email == u.email := by
    rw [Bool.eq_iff_iff, List.any_eq_true, List.any_eq_true]
    refine exists_congr fun v => and_congr_left fun same => like.agrees.mem_users ?_
    simp only [Bool.and_eq_true, beq_iff_eq] at same
    rwa [Owns, same.1]
  have known : s.users.contains u.id = t.users.contains u.id := by rw [id, like.userIds m moment]
  refine createUser_writesAlike (by rw [hasRoom_iff, hasRoom_iff, named, known])
    fun room room' => ?_
  obtain ⟨issued, here, there, owners⟩ := like.sessions
  refine { like with
    agrees := like.agrees.addUser room.id room'.id
    unique := (UserWrite.added room.email room.id).usersUnique like.unique
    unique' := (UserWrite.added room'.email room'.id).usersUnique like.unique'
    userIds := fun n drawn => ?_
    sessions := ⟨issued, here, there, fun x listed => ?_⟩ }
  · have same := like.userIds n drawn
    simp only [Table.contains, Table.rows_add room.id, Table.rows_add room'.id,
      List.any_append] at same ⊢
    rw [same]
  · obtain ⟨w, found⟩ := owners x listed
    obtain ⟨stored, owned⟩ := userIn?_eq_some.mp found
    exact ⟨w, userIn?_eq_some.mpr ⟨Table.get?_add_of_some stored room.id, owned⟩⟩

/-- A session is added to both stores, or is refused by both. -/
theorem createSession {x : Session} (like : Parallel p drawn s₀ t₀ s t)
    (unused : ∀ m, drawn m → s₀.Unused m ∧ t₀.Unused m) (moment : drawn m)
    (id : x.id = m.sessionId) (stored : s.users.get? x.userId = some u) (own : s.Owns p u) :
    Transaction.WritesAlike (Parallel p drawn s₀ t₀) (·.createSession x) s t := by
  obtain ⟨issued, here, there, owners⟩ := like.sessions
  have none := (unused m moment).1.session
  have none' := (unused m moment).2.session
  have known : s.sessions.contains x.id = t.sessions.contains x.id := by
    rw [Table.contains] at none none'
    rw [Table.contains, Table.contains, here, there, List.any_append, List.any_append, id, none,
      none']
  refine createSession_writesAlike known fun fresh fresh' => { like with
    agrees := { like.agrees with }
    sessions := ⟨issued ++ [x], ?_, ?_, fun y listed => ?_⟩ }
  · rw [Table.rows_add fresh, here, List.append_assoc]
  · rw [Table.rows_add fresh', there, List.append_assoc]
  · rcases List.mem_append.mp listed with before | new
    · exact owners y before
    · cases List.mem_singleton.mp new
      exact ⟨u, userIn?_eq_some.mpr ⟨stored, own⟩⟩

/-- Only what was issued since is found by a digest that was drawn. -/
theorem sessionByRefreshDigest? (like : Parallel p drawn s₀ t₀ s t)
    (unused : ∀ m, drawn m → s₀.Unused m ∧ t₀.Unused m) (moment : drawn m) :
    s.sessionByRefreshDigest? m.secret.digest = t.sessionByRefreshDigest? m.secret.digest ∧
      ∀ x, s.sessionByRefreshDigest? m.secret.digest = some x →
        s.user? x.userId = t.user? x.userId := by
  obtain ⟨issued, here, there, owners⟩ := like.sessions
  have none : s₀.sessions.rows.find? (·.refreshTokenSha256 == m.secret.digest) = none := by
    simpa using (unused m moment).1.digest
  have none' : t₀.sessions.rows.find? (·.refreshTokenSha256 == m.secret.digest) = Option.none := by
    simpa using (unused m moment).2.digest
  simp only [Store.sessionByRefreshDigest?, here, there, List.find?_append, none, none',
    Option.none_or, true_and]
  intro x found
  obtain ⟨w, owner⟩ := owners x (List.mem_of_find?_eq_some found)
  have owner' := like.agrees.userIn? _ ▸ owner
  rw [user?, user?, (userIn?_eq_some.mp owner).1, (userIn?_eq_some.mp owner').1]

/-- Requests of the project do not tell stores apart that are in parallel. -/
theorem userLikeness (unused : ∀ m, drawn m → s₀.Unused m ∧ t₀.Unused m) :
    Store.UserLikeness p drawn (Parallel p drawn s₀ t₀) where
  project? like := like.agrees.project?
  organization? like := like.agrees.organization?
  samlConnection? like := like.agrees.samlConnection?
  oidcConnection? like := like.agrees.oidcConnection?
  intermediateSession? like := like.agrees.intermediateSession?
  isEmailVerifiedByProvider like _ _ _ := like.agrees.isEmailVerifiedByProvider
  emailUsageOn like := like.agrees.emailUsageOn
  countEmail like _ := like.countEmail
  recordVerifiedEmail like _ own := like.recordVerifiedEmail own
  withIntermediateSession like _ _ stored _ :=
    { like with agrees := like.agrees.withIntermediateSession stored }
  logged like _ := like.logged
  userByEmail? like _ _ owned := like.agrees.userByEmail? like.unique like.unique' owned
  passwordLoginCandidates like _ := like.agrees.passwordLoginCandidates
  withUser like _ _ stored _ own same :=
    ⟨Table.contains_of_get? ((like.agrees.get? own).mp stored), like.withUser stored own same⟩
  createUser like moment _ id own := like.createUser moment id own
  createSession like moment _ _ id _ stored _ own := like.createSession unused moment id stored own
  sessionByRefreshDigest? like moment := (like.sessionByRefreshDigest? unused moment).1
  sessionOwner like moment found :=
    congrArg (Option.filter User.isActive) ((like.sessionByRefreshDigest? unused moment).2 _ found)

end Parallel

end Store

namespace Operation

variable {I : Interface} {α β : Type} {drawn : Moment → Prop} {R : Store → Store → Prop}
  {op : Operation I α} {turns : List (Turn I)} {s t : Store}

/-- An operation that nobody interrupts takes these turns, as far as it can: the questions that it
asks, what is left of it, and the store. -/
def play : List (Turn I) → Store → Operation I α → List I.Request × Operation I α × Store
  | [], s, op => (op.question?.toList, op, s)
  | turn :: turns, s, op =>
    match op.step? turn s with
    | some (_, rest, s') =>
      let played := play turns s' rest
      (op.question?.toList ++ played.1, played.2)
    | none => (op.question?.toList, op, s)

/-- On both stores the same is asked and the same is left, and the stores are alike in the end. -/
structure PlaysAlike (R : Store → Store → Prop) (turns : List (Turn I)) (op : Operation I α)
    (s t : Store) : Prop where
  questions : (op.play turns s).1 = (op.play turns t).1
  left : (op.play turns s).2.1 = (op.play turns t).2.1
  stores : R (op.play turns s).2.2 (op.play turns t).2.2

theorem PlaysAlike.cons {turn : Turn I} {d d' : Deed I} {rest : Operation I α} {s' t' : Store}
    (here : op.step? turn s = some (d, rest, s')) (there : op.step? turn t = some (d', rest, t'))
    (onward : rest.PlaysAlike R turns s' t') : op.PlaysAlike R (turn :: turns) s t := by
  obtain ⟨questions, left, stores⟩ := onward
  constructor
  · simp only [play, here, there, questions]
  · simpa only [play, here, there] using left
  · simpa only [play, here, there] using stores

theorem Alike.play (alike : op.Alike drawn R) (moments : ∀ turn ∈ turns, drawn turn.moment)
    (like : R s t) : op.PlaysAlike R turns s t := by
  induction turns generalizing op s t with
  | nil => exact ⟨rfl, rfl, like⟩
  | cons turn turns ih =>
      have moment := moments turn List.mem_cons_self
      rcases alike.step moment like with ⟨here, there⟩ | ⟨_, _, _, _, _, here, there, like'⟩
      · constructor <;> simp only [Operation.play, here, there]
        exact like
      · exact .cons here there (ih (alike.onward moment here)
          (fun turn later => moments turn (List.mem_cons_of_mem _ later)) like')

/-- Only where it begins the stores may have to be more alike. -/
theorem playsAlike_transact {body : Transaction β} {next : β → Operation I α}
    (works : ∀ m, drawn m → body.Alike R body m s t)
    (onward : ∀ m b s', drawn m → body.Commits m s b s' → (next b).Alike drawn R)
    (moments : ∀ turn ∈ turns, drawn turn.moment) (like : R s t) :
    (transact body next).PlaysAlike R turns s t := by
  cases turns with
  | nil => exact ⟨rfl, rfl, like⟩
  | cons turn turns =>
      have moment := moments turn List.mem_cons_self
      have later := fun turn later => moments turn (List.mem_cons_of_mem _ later)
      rcases works turn.moment moment with ⟨b, s', t', here, there, like'⟩ | ⟨e, here, there⟩
      · exact .cons (step?_eq_some.mpr (.committed here)) (step?_eq_some.mpr (.committed there))
          ((onward _ b s' moment here).play later like')
      · exact .cons (step?_eq_some.mpr (.failed here)) (step?_eq_some.mpr (.failed there))
          ((show (finish (.error e) : Operation I α).Alike drawn R from trivial).play later like)

end Operation

section

variable {v : Service} {c : RequestContext} {call : Call} {s t : Store}
  {turns : List (Turn serviceInterface)}

/-- Tenants do not interfere. On stores that agree on what belongs to its project, and whose users
are unique by email and by account, a request on a session asks the same of outside services, ends
the same and leaves stores that agree again, with the same sessions and events added, as long as
what it draws is new to both. -/
theorem Service.noninterference (onSession : call.onSession = true)
    (agrees : s.Agrees t c.projectId) (users : s.UsersUnique) (users' : t.UsersUnique)
    (accounts : s.AccountsUnique) (accounts' : t.AccountsUnique)
    (unused : ∀ turn ∈ turns, s.Unused turn.moment ∧ t.Unused turn.moment) :
    let here := (v.serve c call).play turns s
    let there := (v.serve c call).play turns t
    here.1 = there.1 ∧ here.2.1 = there.2.1 ∧ here.2.2.Agrees there.2.2 c.projectId ∧
      (∃ issued, here.2.2.sessions.rows = s.sessions.rows ++ issued ∧
        there.2.2.sessions.rows = t.sessions.rows ++ issued) ∧
      ∃ events, here.2.2.auditLog = s.auditLog ++ events ∧
        there.2.2.auditLog = t.auditLog ++ events := by
  obtain ⟨drawn, moments, fresh⟩ : ∃ drawn : Moment → Prop, (∀ turn ∈ turns, drawn turn.moment) ∧
      ∀ m, drawn m → s.Unused m ∧ t.Unused m := by
    refine ⟨fun m => ∃ turn ∈ turns, turn.moment = m, fun turn taken => ⟨turn, taken, rfl⟩, ?_⟩
    rintro m ⟨turn, taken, rfl⟩
    exact unused turn taken
  have likeness := Store.Parallel.userLikeness (p := c.projectId) fresh
  have like := Store.Parallel.refl agrees users users' fresh
  have plays : (v.serve c call).PlaysAlike (Store.Parallel c.projectId drawn s t) turns s t := by
    cases call with
    | login => exact (Service.serve_alike likeness onSession nofun).play moments like
    | exchange =>
        refine Operation.playsAlike_transact (fun m moment => ?_) (fun m b s' moment => ?_) moments
          like
        · exact Service.exchangeBody_alike likeness moment like
            fun id owned => agrees.linksAlike accounts accounts' owned
        · exact Service.exchange_alike_onward likeness moment
    | accessToken => cases onSession
  obtain ⟨questions, left, stores⟩ := plays
  obtain ⟨issued, here, there, _⟩ := stores.sessions
  exact ⟨questions, left, stores.agrees, ⟨issued, here, there⟩, stores.auditLog⟩

end

namespace Deployment

def rival : Project := { Project.new (.ofNat 11) now "market" with loginMethods := .all }

def rivalOrganization : Organization :=
  { Organization.new (.ofNat 12) now rival.id "sellers" with loginMethods := .all }

/-- A user of another tenant with the same email and password. -/
def namesake : User := { user with id := .ofNat 13, organizationId := rivalOrganization.id }

/-- A store of two tenants, of which one has a user. -/
def shared : Store :=
  { store (only user) none with
    projects := { rows := [project, rival], distinct := by decide +kernel }
    organizations :=
      { rows := [organization, rivalOrganization], distinct := by decide +kernel } }

def crowded : Store := { shared with users := shared.users.add namesake }

def passwordLogin : Call := .login [] (.verifyPassword (some user.email) "correct horse")

def firstTurn : Turn serviceInterface :=
  ⟨.ofDraws now id true fun _ _ _ state => .ok state, fun _ => none, false⟩

end Deployment

theorem Service.noninterference_of_namesake :
    let login := Deployment.service.serve Deployment.context Deployment.passwordLogin
    let here := login.play [Deployment.firstTurn] Deployment.shared
    let there := login.play [Deployment.firstTurn] Deployment.crowded
    here.2.1 = there.2.1 ∧ there.2.1.answer?.map (·.isOk) = some true ∧
      here.2.2.Agrees there.2.2 Deployment.project.id := by
  have fresh : Deployment.shared.users.contains Deployment.namesake.id = false := by
    decide +kernel
  have agrees : Deployment.shared.Agrees Deployment.crowded Deployment.project.id :=
    .addStranger fresh (by unfold Store.Owns; decide +kernel)
  have users : Deployment.shared.UsersUnique ∧ Deployment.crowded.UsersUnique := by
    unfold Store.UsersUnique
    decide +kernel
  have accounts : Deployment.shared.AccountsUnique ∧ Deployment.crowded.AccountsUnique :=
    ⟨.of_none fun p => by cases p <;> decide +kernel,
      .of_none fun p => by cases p <;> decide +kernel⟩
  have unused : ∀ turn ∈ [Deployment.firstTurn],
      Deployment.shared.Unused turn.moment ∧ Deployment.crowded.Unused turn.moment := by
    intro turn taken
    cases List.mem_singleton.mp taken
    exact ⟨⟨by decide +kernel, by decide +kernel, by decide +kernel⟩,
      ⟨by decide +kernel, by decide +kernel, by decide +kernel⟩⟩
  obtain ⟨_, left, again, _⟩ := Service.noninterference (v := Deployment.service)
    (c := Deployment.context) (show Deployment.passwordLogin.onSession = true from rfl) agrees
    users.1 users.2 accounts.1 accounts.2 unused
  exact ⟨left, by decide +kernel, again⟩

end Vestibule
