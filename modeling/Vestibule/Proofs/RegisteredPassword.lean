import Vestibule.Proofs.Lockout
import Vestibule.Proofs.Noninterference
import Vestibule.Proofs.PasswordCheck
import Vestibule.Proofs.PasswordReplacement

/-! Which texts a registered password answers to. What is stored guards the key stream of the
password from its registration on, through the exchange and every time it is hashed anew, until
another password takes its place. -/

namespace Vestibule

/-- The password that the request of a turn presents. -/
def Entry.presented? (x : Entry) : Option String :=
  match x.call with
  | .login _ (.registerPassword password) | .login _ (.verifyPassword _ password) => some password
  | _ => none

/-- The salts that a turn may hash a password under have 16 bytes. -/
def Entry.salted (x : Entry) : Bool :=
  (match x.call with
    | .login salt (.registerPassword _) => salt.length == 16
    | _ => true) &&
  match x.deed with
  | .committed m _ _ => m.salt.length == 16
  | _ => true

/-- The turns present no other passwords than these texts, and hash under salts of 16 bytes. -/
def Presents (texts : String → Prop) (past : List Entry) : Prop :=
  ∀ z ∈ past, (∀ q ∈ z.presented?, texts q) ∧ z.salted = true

variable {v : Service} {k : CredentialMatcher} {texts : String → Prop} {stream : List UInt8}
  {digest : Nat → List UInt8 → List UInt8 → List UInt8} {p q hash : String} {salt : List UInt8}
  {id : Uuid} {past earlier later : List Entry} {x : Entry} {s s' : Store} {sys sys' : System}
  {u u' : User}

theorem CredentialMatcher.miss?_passwordHash {now : Instant} {w : Mismatch}
    (missed : k.miss? now u = some w) : w.user.passwordHash = u.passwordHash := by
  rcases miss?_eq_some missed with ⟨_, rfl⟩ | ⟨_, _, _, rfl⟩ <;> rfl

/-- A turn that registers no password leaves what waits on the session. -/
theorem Entry.Did.keeps_staged {r' : IntermediateSession} (did : x.Did v s s')
    (other : x.registersPassword id = false)
    (stored : s'.intermediateSessions.get? id = some r') :
    ∃ r, s.intermediateSessions.get? id = some r ∧
      r'.stagedPasswordHash = r.stagedPasswordHash := by
  obtain ⟨r, before, learns⟩ := did.learns stored
  refine ⟨r, before, ?_⟩
  cases learns with
  | kept => rfl
  | exchanged time => rfl
  | taught own _ takes =>
      rw [Lesson.apply_stagedPasswordHash]
      cases takes.step with
      | passwordStaged =>
          have registers := Entry.registersPassword_iff.mpr ⟨own, _, takes.performed?⟩
          exact absurd (registers.symm.trans other) (by decide)
      | _ => rfl

/-- And so does a run in which none is registered. -/
theorem Run.keeps_staged {r' : IntermediateSession} (run : Run TenantChange v sys later sys')
    (sound : sys.Sound v) (others : ∀ z ∈ later, z.registersPassword id = false)
    (stored : sys'.store.intermediateSessions.get? id = some r') :
    ∃ r, sys.store.intermediateSessions.get? id = some r ∧
      r'.stagedPasswordHash = r.stagedPasswordHash := by
  refine run.invariant sound
    (P := fun past s => (∀ z ∈ past, z.registersPassword id = false) →
      ∀ r', s.intermediateSessions.get? id = some r' →
        ∃ r, sys.store.intermediateSessions.get? id = some r ∧
          r'.stagedPasswordHash = r.stagedPasswordHash) ?_ ?_ ?_ others r' stored
  · exact fun _ r' stored => ⟨r', stored, rfl⟩
  · intro past s z s' ih did others r' stored
    obtain ⟨r, before, kept⟩ := did.keeps_staged (others z (by simp)) stored
    obtain ⟨r₀, first, kept₀⟩ :=
      ih (fun y member => others y (List.mem_append_left _ member)) r before
    exact ⟨r₀, first, kept.trans kept₀⟩
  · intro past s s' ih changed others r' stored
    exact ih others r' (changed.intermediateSessions ▸ stored)

/-- What a turn makes of the stored hash of a user: nothing, the hash of a password that matched it,
or that of a password which waited on the user's session. -/
inductive Entry.Rekeys (x : Entry) (k : CredentialMatcher) (id : Uuid) (u : User) :
    User → Prop where
  | kept {u' : User} (same : u'.passwordHash = u.passwordHash) : Rekeys x k id u u'
  | rehashed {u' : User} {m : Moment} {s s' : Store} {password hash : String}
      (deed : x.deed = .committed m s s') (presented : x.presented? = some password)
      (compared : k.Compares m.now u password true)
      (hashed : k.hash m.salt password = .ok hash) (renewed : u'.passwordHash = some hash) :
      Rekeys x k id u u'
  | attached {u' : User} (attaches : x.attachesPassword id = true) : Rekeys x k id u u'

/-- A step of a login hashes the password anew that it matched. -/
theorem Entry.Takes.rekeys {m : Moment} {l : Loaded} {request : LoginRequest} {lesson : Lesson}
    {written : Store} {change : Audit.IntermediateSessionChange}
    {rest : ServiceOperation LoginReply}
    (takes : x.Takes v s s' salt m l request lesson written change rest)
    (stored : s.users.get? id = some u) :
    ∃ u', s'.users.get? id = some u' ∧ x.Rekeys v.matcher id u u' := by
  have kept : written.users = s.users →
      ∃ u', s'.users.get? id = some u' ∧ x.Rekeys v.matcher id u u' := by
    intro same
    refine ⟨u, ?_, .kept rfl⟩
    rw [takes.after]
    exact same ▸ stored
  cases takes.step with
  | challengeIssued _ _ _ charged | resetCodeIssued _ _ _ charged =>
      exact kept (by rw [charged.counted, Store.countEmail_eq])
  | emailProved => exact kept (by rw [Store.recordVerifiedEmail_eq])
  | accountRedeemed =>
      refine kept ?_
      split
      · rw [Store.recordVerifiedEmail_eq]
      · rfl
  | @passwordMatched _ hash _ w _ owner compared hashed
  | @loggedIn _ _ hash w owner compared hashed =>
      have presented := takes.asked
      have identity : (w.rehashed m.now hash).id = w.id := User.rehashed_sameIdentity.id
      rw [takes.after]
      rcases Store.get?_replaced owner.stored.1 identity stored with ⟨rfl, _, after⟩ | ⟨_, after⟩
      · exact ⟨_, after, .rehashed takes.deed (by simp [Entry.presented?, presented]) compared
          hashed rfl⟩
      · exact ⟨u, after, .kept rfl⟩
  | resetCodeRedeemed | passwordStaged | stagedMatched | redirected | connectionRedeemed
  | asserted => exact kept rfl

theorem Entry.Did.rekeys (did : x.Did v s s') (stored : s.users.get? id = some u) :
    ∃ u', s'.users.get? id = some u' ∧ x.Rekeys v.matcher id u u' := by
  rcases did with ⟨m, deed, wrote⟩ | ⟨rfl, _⟩
  · obtain ⟨flight, context, call, heard, done, rest⟩ := x
    cases wrote with
    | login commit =>
        cases commit with
        | read => exact ⟨u, stored, .kept rfl⟩
        | took took =>
            obtain ⟨l, lesson, written, change, admitted, step, _, after⟩ := took
            exact Entry.Takes.rekeys ⟨rfl, deed, rfl, admitted, step, after⟩ stored
        | missed missed =>
            obtain ⟨l, w, _, _, owner, _, missed, _, _, rfl⟩ := missed
            have same := CredentialMatcher.miss?_id missed
            rcases Store.get?_replaced owner.stored.1 same stored with ⟨rfl, _, after⟩ | ⟨_, after⟩
            · exact ⟨_, after, .kept (CredentialMatcher.miss?_passwordHash missed)⟩
            · exact ⟨u, after, .kept rfl⟩
    | exchanged exchanged =>
        obtain ⟨l, o, factor, w, created, written, expire, admitted, _, resolves, _, fresh, _, _,
          rfl⟩ := exchanged
        cases resolves with
        | created _ _ _ _ absent =>
            exact ⟨u, Table.get?_add_of_some stored absent, .kept rfl⟩
        | found found attached =>
            obtain ⟨present, _⟩ := Store.userForExchange?_eq_some found
            obtain ⟨identity, attached⟩ := attachIdentity_sameIdentity attached
            rcases Store.get?_replaced present identity.id stored with
              ⟨rfl, own, after⟩ | ⟨_, after⟩
            · refine ⟨_, after, ?_⟩
              cases waiting : l.session.stagedPasswordHash with
              | none =>
                  rw [waiting, Option.none_or] at attached
                  exact .kept attached
              | some hash =>
                  exact .attached (Entry.attachesPassword_of_staged (x := ⟨_, _, _, _, _, _⟩) deed
                    rfl admitted (by simp [waiting]) (Table.rows_add fresh)
                    (identity.id.trans own))
            · exact ⟨u, after, .kept rfl⟩
    | minted | refreshed => exact ⟨u, stored, .kept rfl⟩
  · exact ⟨u, stored, .kept rfl⟩

theorem Entry.salt_of_salted {m : Moment} (salted : x.salted = true)
    (deed : x.deed = .committed m s s') : m.salt.length = 16 := by
  simp only [Entry.salted, deed, Bool.and_eq_true, beq_iff_eq] at salted
  exact salted.2

/-- A user's hash keeps guarding a stream, whatever is matched with it, until another password is
attached. -/
theorem Entry.Rekeys.guarded (rekeys : x.Rekeys k id u u') (keyed : k.scheme.Keyed digest)
    (apart : Bcrypt.Separates digest texts) (presented : ∀ q ∈ x.presented?, texts q)
    (salted : x.salted = true) (unattached : x.attachesPassword id = false)
    (guarded : u.Guarded k texts stream) : u'.Guarded k texts stream := by
  cases rekeys with
  | kept same =>
      obtain ⟨hash, set, guards⟩ := guarded
      exact ⟨hash, same.trans set, guards⟩
  | @rehashed _ _ _ password new deed shown compared hashed renewed =>
      obtain ⟨hash, set, guards⟩ := guarded
      obtain ⟨hash', set', matched⟩ := compared.compared
      cases set.symm.trans set'
      have listed := presented password shown
      have same : Bcrypt.stream password = stream := guards.stream_eq listed matched
      exact ⟨new, renewed, same ▸ CredentialMatcher.guards_of_hash keyed apart listed
        (Entry.salt_of_salted salted deed) hashed⟩
  | attached attaches => exact absurd (attaches.symm.trans unattached) (by decide)

theorem Run.keeps_guarded (run : Run TenantChange v sys later sys') (sound : sys.Sound v)
    (keyed : v.matcher.scheme.Keyed digest) (apart : Bcrypt.Separates digest texts)
    (presents : Presents texts later) (unattached : ∀ z ∈ later, z.attachesPassword id = false)
    (stored : sys.store.users.get? id = some u) (guarded : u.Guarded v.matcher texts stream) :
    ∃ u', sys'.store.users.get? id = some u' ∧ u'.Guarded v.matcher texts stream := by
  refine run.invariant sound
    (P := fun past s => Presents texts past → (∀ z ∈ past, z.attachesPassword id = false) →
      ∃ u', s.users.get? id = some u' ∧ u'.Guarded v.matcher texts stream) ?_ ?_ ?_ presents
    unattached
  · exact fun _ _ => ⟨u, stored, guarded⟩
  · intro past s z s' ih did presents unattached
    obtain ⟨w, stored, guarded⟩ := ih (fun y member => presents y (List.mem_append_left _ member))
      fun y member => unattached y (List.mem_append_left _ member)
    obtain ⟨w', stored', rekeys⟩ := did.rekeys stored
    obtain ⟨presented, salted⟩ := presents z (by simp)
    exact ⟨w', stored',
      rekeys.guarded keyed apart presented salted (unattached z (by simp)) guarded⟩
  · intro past s s' ih changed presents unattached
    obtain ⟨w, stored, guarded⟩ := ih presents unattached
    exact ⟨w, changed.users ▸ stored, guarded⟩

/-- The user that an exchange writes has the hash that waited on the session. -/
theorem Resolves.takes_over {m : Moment} {organizationId : Uuid} {r : IntermediateSession}
    {created : Bool} {written : Store} (resolves : Resolves m s organizationId r u created written)
    (waiting : r.stagedPasswordHash = some hash) :
    written.users.get? u.id = some u ∧ u.passwordHash = some hash := by
  cases resolves with
  | found found attached =>
      obtain ⟨present, _⟩ := Store.userForExchange?_eq_some found
      obtain ⟨identity, attached⟩ := attachIdentity_sameIdentity attached
      rw [← identity.id] at present
      exact ⟨Table.get?_replace_self present, by rw [attached, waiting, Option.some_or]⟩
  | created _ _ attached _ fresh =>
      obtain ⟨_, attached⟩ := attachIdentity_sameIdentity attached
      refine ⟨?_, by rw [attached, waiting, Option.some_or]⟩
      rw [Table.get?_add fresh, if_pos rfl]

/-- An exchange gives the hash that waits on the session to the user that it creates a session
for. -/
theorem Entry.Did.hands_over {r : IntermediateSession} {userId : Uuid} (did : x.Did v s s')
    (exchanges : x.exchanges id = true) (given : x.sessions.any (·.userId == userId) = true)
    (stored : s.intermediateSessions.get? id = some r)
    (waiting : r.stagedPasswordHash = some hash) :
    ∃ u, s'.users.get? userId = some u ∧ u.passwordHash = some hash := by
  obtain ⟨m, result, deed, own, exchanged⟩ := did.exchanged exchanges
  obtain ⟨issued, only, whose⟩ := exchanged.sessions deed
  obtain ⟨l, o, factor, w, created, written, _, admitted, _, resolves, _, _, _, rfl, rfl⟩ :=
    exchanged
  cases stored.symm.trans (own ▸ admitted.stored)
  obtain ⟨kept, set⟩ := resolves.takes_over waiting
  have same : issued.userId = userId := by simpa [only] using given
  rw [← same, whose]
  exact ⟨w, kept, set⟩

/-- A password that was registered has at most as many bytes as bcrypt looks at. -/
theorem Run.registered_length {start : Store} (run : Run TenantChange v { store := start } past sys)
    (member : x ∈ past) (registers : x.performed? = some (.registerPassword p)) :
    (Utf8.encode p).length ≤ 72 := by
  by_contra long
  have known := run.follows.1 x member
  have flying : sys.flights[x.flight]? = some sys.flights[x.flight] :=
    List.getElem?_eq_getElem known
  obtain ⟨_, call⟩ := (run.follows.2 _ _ flying).own x member rfl
  obtain ⟨_, _, did⟩ := run.did member
  obtain ⟨salt, _, _, _, _, _, _, takes⟩ := did.performed registers
  have leads := run.leads _ _ flying
  rw [← call, takes.asked] at leads
  have refused : ∃ reason, v.serve sys.flights[x.flight].context
      (.login salt (.registerPassword p)) = .finish (.error reason) := by
    simp only [Service.serve, Service.perform, Service.registerPassword]
    split
    · exact ⟨_, rfl⟩
    · rw [if_pos (by simpa [Service.maxPasswordBytes] using long)]
      exact ⟨_, rfl⟩
  -- A longer one is refused before the first step, so its request takes no turn.
  obtain ⟨reason, refused⟩ := refused
  rw [refused] at leads
  have none := leads.of_finish.1
  have own : x ∈ past.filter (·.flight == x.flight) := List.mem_filter.mpr ⟨member, by simp⟩
  rw [none] at own
  cases own

/-- The hash that waits on a session since a password was registered guards its key stream. -/
theorem Entry.Did.stages (did : x.Did v s s') (keyed : v.matcher.scheme.Keyed digest)
    (apart : Bcrypt.Separates digest texts)
    (registers : x.performed? = some (.registerPassword p))
    (presented : ∀ q ∈ x.presented?, texts q) (salted : x.salted = true) :
    ∃ r hash, s'.intermediateSessions.get? x.context.intermediateSessionId = some r ∧
      r.stagedPasswordHash = some hash ∧ v.matcher.Guards texts (Bcrypt.stream p) hash ∧
        ∀ salt q, ∃ hash, v.matcher.hash salt q = .ok hash := by
  obtain ⟨salt, m, l, lesson, written, change, rest, takes⟩ := did.performed registers
  have taught := takes.taught
  have asked := takes.asked
  cases takes.step with
  | passwordStaged _ _ _ hashed =>
      have listed : texts p := presented p (by simp [Entry.presented?, asked])
      have sixteen : salt.length = 16 := by
        simp only [Entry.salted, asked, Bool.and_eq_true, beq_iff_eq] at salted
        exact salted.1
      refine ⟨_, _, taught, rfl,
        CredentialMatcher.guards_of_hash keyed apart listed sixteen hashed, fun salt' q => ?_⟩
      obtain ⟨stored, again⟩ := keyed.hashes (Service.mapError_eq_ok.mp hashed) salt' q
      exact ⟨stored, Service.mapError_eq_ok.mpr again⟩

section

variable {start : Store} {c : RequestContext} {m : Moment} {l : Loaded} {o : Organization}

/-- After a registration, until the next one on the session. -/
theorem Run.staged_decides (keyed : v.matcher.scheme.Keyed digest)
    (apart : Bcrypt.Separates digest texts)
    (run : Run TenantChange v { store := start } (earlier ++ x :: later) sys)
    (registers : x.performed? = some (.registerPassword p)) (presents : Presents texts [x])
    (last : ∀ z ∈ later, z.registersPassword x.context.intermediateSessionId = false)
    (own : c.intermediateSessionId = x.context.intermediateSessionId)
    (admitted : Loaded.Admitted c m.now sys.store l)
    (checked : Service.PasswordStep sys.store l o) (writable : m.auditWritable = true) :
    v.Decides c none m sys.store texts (Bcrypt.stream p) := by
  obtain ⟨sys₁, sys₂, t, i, begun, took, onward⟩ := run.split
  obtain ⟨sound, did⟩ := (begun.sound System.sound_idle).turn took
  obtain ⟨presented, salted⟩ := presents x (by simp)
  obtain ⟨r, hash, stored, waiting, guards, _⟩ := did.stages keyed apart registers presented salted
  obtain ⟨r', before, kept⟩ := onward.keeps_staged sound last (own ▸ admitted.stored)
  cases stored.symm.trans before
  exact Service.decides_of_staged admitted checked writable (kept.trans waiting) guards

/-- After the exchange that follows, until another password is attached to the user. -/
theorem Run.attached_decides {between after : List Entry} {y : Entry} {email : Option String}
    (keyed : v.matcher.scheme.Keyed digest) (apart : Bcrypt.Separates digest texts)
    (run : Run TenantChange v { store := start } (earlier ++ x :: (between ++ y :: after)) sys)
    (registers : x.performed? = some (.registerPassword p))
    (presents : Presents texts (x :: (between ++ y :: after)))
    (last : ∀ z ∈ between, z.registersPassword x.context.intermediateSessionId = false)
    (exchanges : y.exchanges x.context.intermediateSessionId = true)
    (given : y.sessions.any (·.userId == u.id) = true)
    (unattached : ∀ z ∈ after, z.attachesPassword u.id = false)
    (admitted : Loaded.Admitted c m.now sys.store l)
    (owner : Service.HashOwner sys.store l email u) (unlocked : u.isLockedOut m.now = false)
    (writable : m.auditWritable = true) :
    v.Decides c email m sys.store texts (Bcrypt.stream p) := by
  obtain ⟨sys₁, sys₂, t, i, begun, took, onward⟩ := run.split
  obtain ⟨sound, did⟩ := (begun.sound System.sound_idle).turn took
  obtain ⟨presented, salted⟩ := presents x (by simp)
  obtain ⟨r, hash, stored, waiting, guards, hashes⟩ :=
    did.stages keyed apart registers presented salted
  obtain ⟨sys₃, sys₄, t', i', meanwhile, took', since⟩ := onward.split
  obtain ⟨sound', did'⟩ := (meanwhile.sound sound).turn took'
  obtain ⟨_, _, _, own, exchanged⟩ := did'.exchanged exchanges
  obtain ⟨l', _, _, _, _, _, _, admitted', _⟩ := exchanged
  obtain ⟨r', before, kept⟩ := meanwhile.keeps_staged sound last (own ▸ admitted'.stored)
  cases stored.symm.trans before
  -- Up to the exchange the hash waited on the session, from there on it is the user's.
  obtain ⟨w, held, set⟩ :=
    did'.hands_over exchanges given (own ▸ admitted'.stored) (kept.trans waiting)
  obtain ⟨w', held', guarded⟩ := since.keeps_guarded sound' keyed apart
    (fun z member => presents z (by simp [member])) unattached held ⟨hash, set, guards⟩
  cases held'.symm.trans owner.stored.1
  exact Service.decides_of_owner admitted owner unlocked writable (hashes m.salt) guarded

end

/-- A password that was registered answers to the texts with its key stream, and to no others: on
the session while it waits there, and against the user that the exchange attaches it to, whatever
matches and is hashed anew, until another is attached. These are, as far as texts without a zero
character go, the password itself and, where it has all of 72 bytes, each text that goes on from
it. -/
theorem Run.registered_password_decides {start : Store} (keyed : v.matcher.scheme.Keyed digest)
    (apart : Bcrypt.Separates digest texts)
    (run : Run TenantChange v { store := start } (earlier ++ x :: later) sys)
    (registers : x.performed? = some (.registerPassword p))
    (presents : Presents texts (x :: later)) :
    (∀ c m l o, c.intermediateSessionId = x.context.intermediateSessionId →
      (∀ z ∈ later, z.registersPassword x.context.intermediateSessionId = false) →
        Loaded.Admitted c m.now sys.store l → Service.PasswordStep sys.store l o →
          m.auditWritable = true → v.Decides c none m sys.store texts (Bcrypt.stream p)) ∧
    (∀ between y after c email m l u, later = between ++ y :: after →
      (∀ z ∈ between, z.registersPassword x.context.intermediateSessionId = false) →
        y.exchanges x.context.intermediateSessionId = true →
          y.sessions.any (·.userId == u.id) = true →
            (∀ z ∈ after, z.attachesPassword u.id = false) →
              Loaded.Admitted c m.now sys.store l → Service.HashOwner sys.store l email u →
                u.isLockedOut m.now = false → m.auditWritable = true →
                  v.Decides c email m sys.store texts (Bcrypt.stream p)) ∧
    ∀ q, '\x00' ∉ p.toList → '\x00' ∉ q.toList → (Bcrypt.stream q = Bcrypt.stream p ↔
      q = p ∨ (Utf8.encode p).length = 72 ∧ p.toList <+: q.toList) := by
  refine ⟨fun c m l o own last admitted checked writable => ?_, ?_, fun q free free' => ?_⟩
  · exact run.staged_decides keyed apart registers (fun z member => presents z (by simp_all)) last
      own admitted checked writable
  · rintro between y after c email m l u rfl last exchanges given unattached admitted owner unlocked
      writable
    exact run.attached_decides keyed apart registers presents last exchanges given unattached
      admitted owner unlocked writable
  · exact Bcrypt.stream_eq_iff (run.registered_length (by simp) registers) free free'

namespace Deployment

def streamText (password : String) : String :=
  String.ofList ((Bcrypt.stream password).map Char.ofUInt8)

/-- Hashing that keeps the key stream of a password as it is. -/
def streaming : PasswordScheme where
  hash _ _ password := .ok (streamText password)
  verify password stored := .ok (streamText password == stored)

theorem streamText_inj {p q : String} :
    streamText q = streamText p ↔ Bcrypt.stream q = Bcrypt.stream p := by
  have letter : Function.Injective Char.ofUInt8 := by
    intro a b same
    exact UInt8.toUInt32_inj.mp (congrArg Char.val same)
  refine ⟨fun same => ?_, fun same => by rw [streamText, streamText, same]⟩
  exact List.map_injective_iff.mpr letter (String.ofList_injective same)

theorem keyed_streaming : streaming.Keyed fun _ _ stream => stream := by
  refine ⟨fun _ _ q => ⟨streamText q, rfl⟩, fun {_ _ p stored} _ hashed q => ?_⟩
  have same : streamText p = stored := Except.ok.inj hashed
  subst same
  change Except.ok (streamText q == streamText p) = _
  rw [Except.ok.injEq, Bool.eq_iff_iff, beq_iff_eq, beq_iff_eq]
  exact streamText_inj

/-- The service with another way to hash passwords. -/
def hashing (scheme : PasswordScheme) : Service := { service with matcher := .ofConfig scheme {} }

def secondSession : IntermediateSession := .new (.ofNat 5) now project.id soon

def secondContext : RequestContext := ⟨project.id, secondSession.id⟩

/-- No users yet, a session that is bound to the organization, and one that is not. -/
def newcomers : Store :=
  { store ⟨[], List.nodup_nil⟩ none with
    intermediateSessions :=
      ⟨[{ session with organizationId := some organization.id }, secondSession], by decide⟩ }

/-- A newcomer proves an email and registers a password. -/
def enrolling (password : String) : List Move :=
  [.arrive context (.login [] (.issueEmailChallenge user.email)), turn none 0 0, turn none 1 0,
    .arrive context (.login [] (.verifyEmailChallenge (code .emailVerificationCode 0))),
    turn none 2 1,
    .arrive context (.login (List.replicate 16 0) (.registerPassword password)), turn none 3 2,
    turn none 4 2, turn none 5 2, turn none 6 2]

def enrolled (scheme : PasswordScheme) (password : String) : List Entry × System :=
  System.play (hashing scheme) (enrolling password) { store := newcomers }

/-- And then exchanges the session. -/
def member (scheme : PasswordScheme) (password : String) : List Entry × System :=
  System.play (hashing scheme) (enrolling password ++ [.arrive context .exchange, turn none 7 3])
    { store := newcomers }

/-- The newcomer's session is one that a check of a password asks for. -/
def checkable (s : Store) : Bool :=
  decide (s.project? project.id = some project) &&
    decide (s.organization? project.id organization.id = some organization) &&
      (s.intermediateSession? project.id session.id).any fun r =>
        !r.isExchanged && !r.isExpired now && r.organizationId == some organization.id &&
          r.emailChallengeCompleted && !r.passwordVerified

theorem admitted_of_checkable {s : Store} (ready : checkable s = true) :
    ∃ l, Loaded.Admitted context now s l ∧ Service.PasswordStep s l organization := by
  simp only [checkable, Bool.and_eq_true, decide_eq_true_eq, Option.any_eq_true, Bool.not_eq_true',
    beq_iff_eq] at ready
  obtain ⟨⟨place, tenant⟩, r, stored, ⟨⟨⟨unexchanged, unexpired⟩, bound⟩, proved⟩, unmatched⟩ :=
    ready
  refine ⟨⟨r, project, some organization⟩, ⟨stored, unexchanged, unexpired, place, rfl, ?_,
    fun _ => rfl, ?_⟩, rfl, rfl, ?_, unmatched⟩
  · rw [bound]
    exact tenant.symm
  · rintro _ ⟨⟩
    rfl
  · simp [Loaded.isEmailVerified, proved]

theorem admitted_second {s : Store} (place : s.project? project.id = some project)
    (found : s.intermediateSession? project.id secondSession.id = some secondSession) :
    Loaded.Admitted secondContext now s ⟨secondSession, project, none⟩ :=
  ⟨found, rfl, by decide, place, rfl, rfl, id, by simp⟩

/-- What shows of a turn that registers a password. -/
def glance (x : Entry) : Option LoginRequest × Option String × RequestContext × Bool :=
  (x.performed?, x.presented?, x.context, x.salted)

/-- The last turn of the enrolling is the registration. -/
theorem enrolled_ends {scheme : PasswordScheme} {password : String}
    (turns : (enrolled scheme password).1.map glance =
      (enrolled scheme password).1.dropLast.map glance ++
        [(some (.registerPassword password), some password, context, true)])
    (texts : String → Prop) (listed : texts password) :
    ∃ earlier x, (enrolled scheme password).1 = earlier ++ [x] ∧
      x.performed? = some (.registerPassword password) ∧ x.context = context ∧
        Presents texts [x] := by
  obtain ⟨earlier, ended, whole, _, ends⟩ := List.map_eq_append_iff.mp turns
  obtain ⟨x, rfl, last⟩ := List.map_eq_singleton_iff.mp ends
  simp only [glance, Prod.mk.injEq] at last
  obtain ⟨registers, shown, own, salted⟩ := last
  refine ⟨earlier, x, whole, registers, own, fun z member => ?_⟩
  cases List.mem_singleton.mp member
  refine ⟨fun q presented => ?_, salted⟩
  cases shown.symm.trans presented
  exact listed

/-- And the exchange follows on it. -/
theorem member_ends : ∃ earlier x y,
    (member streaming "battery staple").1 = earlier ++ x :: ([] ++ y :: []) ∧
      x.performed? = some (.registerPassword "battery staple") ∧ x.context = context ∧
        Presents (fun _ => True) (x :: ([] ++ y :: [])) ∧ y.exchanges session.id = true ∧
          y.sessions.map (·.userId) = [.v7 now.millis 7001] := by
  have turns : (member streaming "battery staple").1.map
      (fun x => (glance x, x.exchanges session.id, x.sessions.map (·.userId))) =
        (member streaming "battery staple").1.dropLast.dropLast.map
          (fun x => (glance x, x.exchanges session.id, x.sessions.map (·.userId))) ++
          [((some (.registerPassword "battery staple"), some "battery staple", context, true),
              false, []),
            ((none, none, context, true), true, [.v7 now.millis 7001])] := by
    decide +kernel
  obtain ⟨earlier, ended, whole, _, ends⟩ := List.map_eq_append_iff.mp turns
  obtain ⟨x, rest, rfl, last, ends⟩ := List.map_eq_cons_iff.mp ends
  obtain ⟨y, rfl, last'⟩ := List.map_eq_singleton_iff.mp ends
  simp only [glance, Prod.mk.injEq] at last last'
  obtain ⟨⟨registers, _, own, salted⟩, _, _⟩ := last
  obtain ⟨⟨_, _, _, salted'⟩, exchanges, given⟩ := last'
  refine ⟨earlier, x, y, whole, registers, own, fun z listed => ?_, exchanges, given⟩
  rcases List.mem_cons.mp listed with rfl | listed
  · exact ⟨fun _ _ => True.intro, salted⟩
  · cases List.mem_singleton.mp listed
    exact ⟨fun _ _ => True.intro, salted'⟩

/-- The member may then log in on another session. -/
theorem member_candidate :
    Loaded.Admitted secondContext now (member streaming "battery staple").2.store
        ⟨secondSession, project, none⟩ ∧
      ∃ u, (member streaming "battery staple").2.store.passwordLoginCandidates project.id
          user.email = [u] ∧ u.id = .v7 now.millis 7001 ∧ u.isLockedOut now = false := by
  have found : (member streaming "battery staple").2.store.project? project.id = some project ∧
      (member streaming "battery staple").2.store.intermediateSession? project.id
        secondSession.id = some secondSession ∧
      ((member streaming "battery staple").2.store.passwordLoginCandidates project.id
        user.email).map (fun u => (u.id, u.isLockedOut now)) =
          [(.v7 now.millis 7001, false)] := by
    decide +kernel
  obtain ⟨place, waiting, candidates⟩ := found
  obtain ⟨u, found, named⟩ := List.map_eq_singleton_iff.mp candidates
  simp only [Prod.mk.injEq] at named
  exact ⟨admitted_second place waiting, u, found, named⟩

end Deployment

open Deployment in
theorem Run.registered_password_decides_of_newcomer :
    ((hashing streaming).Accepts context none "battery staple" firstTurn.moment
        (enrolled streaming "battery staple").2.store ∧
      (hashing streaming).Rejects context none "correct horse" firstTurn.moment
        (enrolled streaming "battery staple").2.store) ∧
    (hashing streaming).Accepts secondContext (some user.email) "battery staple" firstTurn.moment
        (member streaming "battery staple").2.store ∧
      (hashing streaming).Rejects secondContext (some user.email) "correct horse" firstTurn.moment
        (member streaming "battery staple").2.store := by
  have separates : Bcrypt.Separates (fun _ _ stream => stream) fun _ => True :=
    fun _ _ _ _ _ _ same => same
  have apart : Bcrypt.stream "correct horse" ≠ Bcrypt.stream "battery staple" := by decide +kernel
  refine ⟨?_, ?_⟩
  · have run : Run TenantChange (hashing streaming) { store := newcomers }
        (enrolled streaming "battery staple").1 (enrolled streaming "battery staple").2 :=
      System.run_play _ _
    have turns : (enrolled streaming "battery staple").1.map glance =
        (enrolled streaming "battery staple").1.dropLast.map glance ++
          [(some (.registerPassword "battery staple"), some "battery staple", context, true)] := by
      decide +kernel
    obtain ⟨earlier, x, whole, registers, own, presents⟩ :=
      enrolled_ends turns (fun _ => True) True.intro
    have ready : checkable (enrolled streaming "battery staple").2.store = true := by
      decide +kernel
    obtain ⟨l, admitted, checked⟩ := admitted_of_checkable ready
    have decides := (Run.registered_password_decides keyed_streaming separates (whole ▸ run)
      registers presents).1 context firstTurn.moment l organization
        (congrArg RequestContext.intermediateSessionId own.symm)
        (fun _ listed => absurd listed List.not_mem_nil) admitted checked rfl
    exact ⟨(decides "battery staple" True.intro).1.mpr rfl,
      (decides "correct horse" True.intro).2.mpr apart⟩
  · have run : Run TenantChange (hashing streaming) { store := newcomers }
        (member streaming "battery staple").1 (member streaming "battery staple").2 :=
      System.run_play _ _
    obtain ⟨earlier, x, y, whole, registers, own, presents, exchanges, given⟩ := member_ends
    obtain ⟨admitted, u, found, named, unlocked⟩ := member_candidate
    have same : x.context.intermediateSessionId = session.id := by rw [own]; rfl
    obtain ⟨issued, only, whose⟩ := List.map_eq_singleton_iff.mp given
    have given : y.sessions.any (·.userId == u.id) = true := by
      simp [only, whose, named]
    have decides := (Run.registered_password_decides keyed_streaming separates (whole ▸ run)
      registers presents).2.1 [] y [] secondContext (some user.email) firstTurn.moment
        ⟨secondSession, project, none⟩ u rfl (fun _ listed => absurd listed List.not_mem_nil)
        (same ▸ exchanges) given (fun _ listed => absurd listed List.not_mem_nil) admitted
        (.direct rfl rfl (fun _ known => by cases known) found) unlocked rfl
    exact ⟨(decides "battery staple" True.intro).1.mpr rfl,
      (decides "correct horse" True.intro).2.mpr apart⟩

namespace Deployment

/-- The longest password that may be registered. -/
def longest : String := String.ofList (List.replicate 72 'a')

/-- A text that goes on where bcrypt stops. -/
def longer : String := String.ofList (List.replicate 73 'a')

end Deployment

open Deployment in
/-- A registered password is not the only one that is accepted: bcrypt, as it is, takes a longer one
for it. -/
theorem Run.registered_password_not_alone :
    ¬ ∀ (v : Service) (texts : String → Prop) (start : Store) (sys : System)
      (earlier later : List Entry) (x : Entry) (p q : String) (c : RequestContext) (m : Moment)
      (l : Loaded) (o : Organization), v.matcher.scheme = .bcrypt →
        Bcrypt.Separates Bcrypt.digest texts →
          Run TenantChange v { store := start } (earlier ++ x :: later) sys →
            x.performed? = some (.registerPassword p) → Presents texts (x :: later) → texts q →
              (∀ z ∈ later, z.registersPassword x.context.intermediateSessionId = false) →
                c.intermediateSessionId = x.context.intermediateSessionId →
                  Loaded.Admitted c m.now sys.store l → Service.PasswordStep sys.store l o →
                    m.auditWritable = true → (v.Accepts c none q m sys.store ↔ q = p) := by
  intro claim
  have same : Bcrypt.stream longer = Bcrypt.stream longest := by decide +kernel
  have run : Run TenantChange (hashing .bcrypt) { store := newcomers } (enrolled .bcrypt longest).1
      (enrolled .bcrypt longest).2 := System.run_play _ _
  have separates : Bcrypt.Separates Bcrypt.digest fun q =>
      Bcrypt.stream q = Bcrypt.stream longest := fun _ _ p q told told' _ => told'.trans told.symm
  have turns : (enrolled .bcrypt longest).1.map glance =
      (enrolled .bcrypt longest).1.dropLast.map glance ++
        [(some (.registerPassword longest), some longest, context, true)] := by
    decide +kernel
  obtain ⟨earlier, x, whole, registers, own, presents⟩ :=
    enrolled_ends turns (fun q => Bcrypt.stream q = Bcrypt.stream longest) rfl
  have ready : checkable (enrolled .bcrypt longest).2.store = true := by
    decide +kernel
  obtain ⟨l, admitted, checked⟩ := admitted_of_checkable ready
  have session := congrArg RequestContext.intermediateSessionId own.symm
  have decides := Run.staged_decides PasswordScheme.keyed_bcrypt separates (whole ▸ run) registers
    presents (fun _ listed => absurd listed List.not_mem_nil) session admitted checked
    (m := firstTurn.moment) rfl
  have alone := claim _ _ _ _ _ _ x longest longer context firstTurn.moment l organization rfl
    separates (whole ▸ run) registers presents same
    (fun _ listed => absurd listed List.not_mem_nil) session admitted checked rfl
  exact absurd (alone.mp ((decides longer same).1.mpr same)) (by decide)

end Vestibule
