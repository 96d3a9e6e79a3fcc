import Vestibule.Flow.StandIn
import Vestibule.Proofs.Commit

/-! Many requests at once. Requests arrive at any time and take their turns in any order, so that
between two turns of one any number of the others may commit, and other parties may change what is
theirs. A run keeps every turn that was taken. -/

namespace Vestibule

/-- A request under way: what it did so far, and what is left of it. -/
structure Flight where
  context : RequestContext
  call : Call
  heard : List ServiceDeed
  rest : ServiceOperation Answer

structure System where
  store : Store
  flights : List Flight := []

/-- A turn of the request that arrived as number `flight`: what it had done before, what it did, and
what is left of it. -/
structure Entry where
  flight : Nat
  context : RequestContext
  call : Call
  heard : List ServiceDeed
  deed : ServiceDeed
  rest : ServiceOperation Answer

namespace Entry

/-- Whether the turn committed the exchange of a session. -/
def exchanges (x : Entry) (id : Uuid) : Bool :=
  match x.deed with
  | .committed .. => x.context.intermediateSessionId == id && x.call.exchanges x.heard
  | _ => false

/-- The login request that the turn brought to a success, with a commit. -/
def performed? (x : Entry) : Option LoginRequest :=
  match x.call, x.deed, x.rest.answer? with
  | .login _ request, .committed .., some (.ok _) => some request
  | _, _, _ => none

/-- The sessions that the turn created. -/
def sessions (x : Entry) : List Session :=
  match x.deed with
  | .committed _ before after => after.sessions.rows.drop before.sessions.rows.length
  | _ => []

end Entry

namespace System

def arrive (v : Service) (sys : System) (c : RequestContext) (call : Call) : System :=
  { sys with flights := sys.flights ++ [⟨c, call, [], v.serve c call⟩] }

/-- Gives one request its turn. -/
def turn? (t : Turn serviceInterface) (i : Nat) (sys : System) : Option (Entry × System) :=
  sys.flights[i]?.bind fun f => (f.rest.step? t sys.store).map fun done =>
    (⟨i, f.context, f.call, f.heard, done.1, done.2.1⟩,
      { store := done.2.2
        flights := sys.flights.set i
          { f with heard := f.heard ++ [done.1], rest := done.2.1 } })

end System

/-- The turns that were taken from `first` on, and what they led to. What other parties may do to
the store is given by `others`. -/
inductive Run (others : Store → Store → Prop) (v : Service) (first : System) :
    List Entry → System → Prop where
  | start : Run others v first [] first
  | arrive {past : List Entry} {sys : System} (run : Run others v first past sys)
      (c : RequestContext) (call : Call) : Run others v first past (sys.arrive v c call)
  | turn {past : List Entry} {sys sys' : System} {x : Entry} (run : Run others v first past sys)
      (t : Turn serviceInterface) (i : Nat) (taken : sys.turn? t i = some (x, sys')) :
      Run others v first (past ++ [x]) sys'
  | change {past : List Entry} {sys : System} {s : Store} (run : Run others v first past sys)
      (changed : others sys.store s) : Run others v first past { sys with store := s }

/-- What the parties that run a project may do while logins are under way: everything with
projects, organizations and connections. -/
structure TenantChange (s s' : Store) : Prop where
  users : s'.users = s.users
  verifiedEmails : s'.verifiedEmails = s.verifiedEmails
  intermediateSessions : s'.intermediateSessions = s.intermediateSessions
  sessions : s'.sessions = s.sessions
  emailUsage : s'.emailUsage = s.emailUsage
  auditLog : s'.auditLog = s.auditLog

/-- Every request under way commits only what its kind may. -/
def System.Sound (v : Service) (sys : System) : Prop :=
  ∀ f ∈ sys.flights, f.rest.Always (v.Wrote f.context f.call) f.heard

/-- What a turn did to the store: what its request may commit, or nothing. -/
def Entry.Did (v : Service) (x : Entry) (s s' : Store) : Prop :=
  (∃ m, x.deed = .committed m s s' ∧ v.Wrote x.context x.call x.heard m s s' x.rest) ∨
    s' = s ∧ ∀ m before after, x.deed ≠ .committed m before after

variable {others : Store → Store → Prop} {v : Service} {first sys sys' : System}
  {past later : List Entry} {x : Entry}

theorem Entry.Did.wrote {s s' before after : Store} {m : Moment} (did : x.Did v s s')
    (deed : x.deed = .committed m before after) :
    before = s ∧ after = s' ∧ v.Wrote x.context x.call x.heard m s s' x.rest := by
  rcases did with ⟨m', committed, wrote⟩ | ⟨_, idle⟩
  · cases deed.symm.trans committed
    exact ⟨rfl, rfl, wrote⟩
  · exact absurd deed (idle m before after)

/-- The turn that exchanges a session is the first commit of an exchange on its behalf. -/
theorem Entry.Did.exchanged {id : Uuid} {s s' : Store} (did : x.Did v s s')
    (exchanges : x.exchanges id = true) :
    ∃ m result, x.deed = .committed m s s' ∧ x.context.intermediateSessionId = id ∧
      v.Exchanged x.context m s s' result := by
  cases deed : x.deed with
  | committed m before after =>
      obtain ⟨rfl, rfl, wrote⟩ := did.wrote deed
      simp only [Entry.exchanges, deed, Bool.and_eq_true, beq_iff_eq] at exchanges
      obtain ⟨result, exchanged⟩ := wrote.of_exchanges exchanges.2
      exact ⟨m, result, rfl, exchanges.1, exchanged⟩
  | failed | answered | overdue | passed => simp [Entry.exchanges, deed] at exchanges

/-- The turn took a step of a login: it was asked for, its session was admitted, and it committed
what the step writes. -/
structure Entry.Takes (v : Service) (x : Entry) (s s' : Store) (salt : List UInt8) (m : Moment)
    (l : Loaded) (request : LoginRequest) (lesson : Lesson) (written : Store)
    (change : Audit.IntermediateSessionChange) (rest : ServiceOperation LoginReply) : Prop where
  asked : x.call = .login salt request
  deed : x.deed = .committed m s s'
  left : x.rest = rest.map .login
  admitted : Loaded.Admitted x.context m.now s l
  step : v.Step x.context salt x.heard m s l request lesson written change rest
  after : s' = written.persisted x.context m (lesson.apply l.session) change

/-- A request that succeeded took its step. -/
theorem Entry.Did.performed {request : LoginRequest} {s s' : Store} (did : x.Did v s s')
    (performed : x.performed? = some request) :
    ∃ salt m l lesson written change rest,
      x.Takes v s s' salt m l request lesson written change rest := by
  unfold Entry.performed? at performed
  split at performed
  · rename_i salt asked m before after reply call deed ended
    cases performed
    obtain ⟨rfl, rfl, wrote⟩ := did.wrote deed
    rw [call] at wrote
    obtain ⟨onward, commit, left⟩ := wrote.of_login
    rw [left] at ended
    obtain ⟨_, ended⟩ := Operation.answer?_of_map ended
    obtain ⟨l, lesson, written, change, admitted, step, _, after⟩ := commit.of_answer ended
    exact ⟨salt, m, l, lesson, written, change, onward, call, deed, left, admitted, step, after⟩
  · cases performed

/-- A step after which nothing is left to do brought its request to a success. -/
theorem Entry.Takes.performed? {s s' written : Store} {salt : List UInt8} {m : Moment} {l : Loaded}
    {request : LoginRequest} {lesson : Lesson} {change : Audit.IntermediateSessionChange}
    {reply : LoginReply}
    (takes : x.Takes v s s' salt m l request lesson written change (.finish (.ok reply))) :
    x.performed? = some request := by
  simp only [Entry.performed?, takes.asked, takes.deed, takes.left]
  rfl

/-- Only the steps of logins attest emails. -/
theorem Entry.Did.takes_of_attested {s s' : Store} {e : VerifiedEmail} (did : x.Did v s s')
    (member : e ∈ s'.verifiedEmails) : e ∈ s.verifiedEmails ∨
      ∃ salt m l request lesson written change rest,
        x.Takes v s s' salt m l request lesson written change rest := by
  rcases did with ⟨m, deed, wrote⟩ | ⟨rfl, _⟩
  · obtain ⟨flight, context, call, heard, done, rest⟩ := x
    cases wrote with
    | login commit =>
        cases commit with
        | read => exact .inl member
        | took took =>
            obtain ⟨l, lesson, written, change, admitted, step, _, after⟩ := took
            exact .inr ⟨_, m, l, _, lesson, written, change, _,
              ⟨rfl, deed, rfl, admitted, step, after⟩⟩
        | missed missed =>
            obtain ⟨_, _, _, _, _, rfl⟩ := missed.frame
            exact .inl member
    | exchanged exchanged =>
        obtain ⟨_, _, _, _, _, _, _, _, _, rfl⟩ := exchanged.frame
        exact .inl member
    | minted | refreshed => exact .inl member
  · exact .inl member

/-- What a turn made of the record of a session: nothing, what a step of its login taught it, or
the mark of its exchange. -/
inductive Entry.Learns (v : Service) (x : Entry) (s s' : Store) (id : Uuid)
    (r : IntermediateSession) : IntermediateSession → Prop where
  | kept : Learns v x s s' id r r
  | taught {salt : List UInt8} {m : Moment} {l : Loaded} {request : LoginRequest} {lesson : Lesson}
      {written : Store} {change : Audit.IntermediateSessionChange}
      {rest : ServiceOperation LoginReply} (own : x.context.intermediateSessionId = id)
      (record : l.session = r)
      (takes : x.Takes v s s' salt m l request lesson written change rest) :
      Learns v x s s' id r (lesson.apply r)
  | exchanged (time : Instant) : Learns v x s s' id r (Lesson.apply r (.exchanged time))

theorem Entry.Did.learns {s s' : Store} {id : Uuid} {r' : IntermediateSession} (did : x.Did v s s')
    (stored : s'.intermediateSessions.get? id = some r') :
    ∃ r, s.intermediateSessions.get? id = some r ∧ x.Learns v s s' id r r' := by
  rcases did with ⟨m, deed, wrote⟩ | ⟨rfl, _⟩
  · by_cases own : x.context.intermediateSessionId = id
    · obtain ⟨flight, context, call, heard, done, rest⟩ := x
      cases own
      cases wrote with
      | login commit =>
          cases commit with
          | read => exact ⟨r', stored, .kept⟩
          | took took =>
              obtain ⟨l, lesson, written, change, admitted, step, _, after⟩ := took
              obtain ⟨_, _, _, _, framed⟩ := step.frame
              have taught := admitted.get?_taught lesson
              rw [after, framed] at stored
              cases taught.symm.trans stored
              exact ⟨l.session, admitted.stored,
                .taught rfl rfl ⟨rfl, deed, rfl, admitted, step, after⟩⟩
          | missed missed =>
              obtain ⟨_, _, _, _, _, rfl⟩ := missed.frame
              exact ⟨r', stored, .kept⟩
      | exchanged exchanged =>
          obtain ⟨l, _, _, _, admitted, _, _, _, _, rfl⟩ := exchanged.frame
          cases (admitted.get?_taught (.exchanged m.now)).symm.trans stored
          exact ⟨l.session, admitted.stored, .exchanged m.now⟩
      | minted | refreshed => exact ⟨r', stored, .kept⟩
    · rw [wrote.get?_of_ne own] at stored
      exact ⟨r', stored, .kept⟩
  · exact ⟨r', stored, .kept⟩

namespace System

theorem sound_idle {s : Store} : System.Sound v { store := s } := by
  intro f flying
  cases flying

theorem Sound.arrive (sound : sys.Sound v) (c : RequestContext) (call : Call) :
    (sys.arrive v c call).Sound v := by
  intro f flying
  rcases List.mem_append.mp flying with before | new
  · exact sound f before
  · cases List.mem_singleton.mp new
    exact Service.serve_always call

theorem Sound.turn {t : Turn serviceInterface} {i : Nat} (sound : sys.Sound v)
    (taken : sys.turn? t i = some (x, sys')) : sys'.Sound v ∧ x.Did v sys.store sys'.store := by
  obtain ⟨f, flying, taken⟩ := Option.bind_eq_some_iff.mp taken
  obtain ⟨⟨deed, rest, s'⟩, stepped, same⟩ := Option.map_eq_some_iff.mp taken
  cases same
  have always := sound f (List.mem_of_getElem? flying)
  obtain ⟨onward, did⟩ := always.step stepped
  refine ⟨fun g member => ?_, did⟩
  rcases List.mem_or_eq_of_mem_set member with before | rfl
  · exact sound g before
  · exact onward

end System

namespace Run

theorem sound (run : Run others v first past sys) (sound : first.Sound v) : sys.Sound v := by
  induction run with
  | start => exact sound
  | arrive run c call ih => exact ih.arrive c call
  | turn run t i taken ih => exact (ih.turn taken).1
  | change run changed ih => exact ih

/-- What holds at the start, and is kept by every turn and by what others do, holds after every
run. -/
theorem invariant {P : List Entry → Store → Prop} (run : Run others v first past sys)
    (sound : first.Sound v) (init : P [] first.store)
    (turn : ∀ past s x s', P past s → x.Did v s s' → P (past ++ [x]) s')
    (change : ∀ past s s', P past s → others s s' → P past s') : P past sys.store := by
  induction run with
  | start => exact init
  | arrive run c call ih => exact ih
  | turn run t i taken ih => exact turn _ _ _ _ ih ((run.sound sound).turn taken).2
  | change run changed ih => exact change _ _ _ ih changed

theorem trans (run : Run others v first past sys) (onward : Run others v sys later sys') :
    Run others v first (past ++ later) sys' := by
  induction onward with
  | start => simpa using run
  | arrive onward c call ih => exact ih.arrive c call
  | turn onward t i taken ih =>
      rw [← List.append_assoc]
      exact ih.turn t i taken
  | change onward changed ih => exact ih.change changed

theorem mono {others' : Store → Store → Prop} (run : Run others v first past sys)
    (less : ∀ s s', others s s' → others' s s') : Run others' v first past sys := by
  induction run with
  | start => exact .start
  | arrive run c call ih => exact ih.arrive c call
  | turn run t i taken ih => exact ih.turn t i taken
  | change run changed ih => exact ih.change (less _ _ changed)

/-- A run is cut at any of its turns: the run before it, the turn, and the run after it. -/
theorem split {before after : List Entry} (run : Run others v first (before ++ x :: after) sys) :
    ∃ sys₁ sys₂ t i, Run others v first before sys₁ ∧ sys₁.turn? t i = some (x, sys₂) ∧
      Run others v sys₂ after sys := by
  generalize whole : before ++ x :: after = past at run
  induction run generalizing after with
  | start => simp at whole
  | arrive run c call ih =>
      obtain ⟨sys₁, sys₂, t, i, earlier, taken, onward⟩ := ih whole
      exact ⟨sys₁, sys₂, t, i, earlier, taken, onward.arrive c call⟩
  | change run changed ih =>
      obtain ⟨sys₁, sys₂, t, i, earlier, taken, onward⟩ := ih whole
      exact ⟨sys₁, sys₂, t, i, earlier, taken, onward.change changed⟩
  | turn run t i taken ih =>
      rcases List.eq_nil_or_concat after with rfl | ⟨rest, last, rfl⟩
      · obtain ⟨rfl, last⟩ := List.append_inj' whole rfl
        cases last
        exact ⟨_, _, t, i, run, taken, .start⟩
      · rw [List.concat_eq_append, ← List.cons_append, ← List.append_assoc] at whole
        obtain ⟨shorter, same⟩ := List.append_inj' whole rfl
        cases same
        obtain ⟨sys₁, sys₂, t₁, i₁, earlier, took, onward⟩ := ih shorter
        refine ⟨sys₁, sys₂, t₁, i₁, earlier, took, ?_⟩
        rw [List.concat_eq_append]
        exact onward.turn t i taken

end Run

/-- What happens next where a run is played: a request arrives, or one takes its turn. -/
inductive Move where
  | arrive (c : RequestContext) (call : Call)
  | turn (t : Turn serviceInterface) (i : Nat)

namespace System

def play? (v : Service) : List Move → System → Option (List Entry × System)
  | [], sys => some ([], sys)
  | .arrive c call :: moves, sys => play? v moves (sys.arrive v c call)
  | .turn t i :: moves, sys => (sys.turn? t i).bind fun taken =>
    (play? v moves taken.2).map fun played => (taken.1 :: played.1, played.2)

/-- What the moves lead to, if each of them is possible. -/
def play (v : Service) (moves : List Move) (sys : System) : List Entry × System :=
  (play? v moves sys).getD ([], sys)

theorem run_of_play? {moves : List Move} {played : List Entry × System}
    (possible : play? v moves sys = some played) : Run others v sys played.1 played.2 := by
  induction moves generalizing sys played with
  | nil =>
      cases possible
      exact .start
  | cons move moves ih =>
      cases move with
      | arrive c call =>
          have arrived : Run others v sys [] (sys.arrive v c call) := .arrive .start c call
          exact arrived.trans (ih possible)
      | turn t i =>
          obtain ⟨taken, took, onward⟩ := Option.bind_eq_some_iff.mp possible
          obtain ⟨rest, finished, rfl⟩ := Option.map_eq_some_iff.mp onward
          have turned : Run others v sys [taken.1] taken.2 := .turn .start t i took
          exact turned.trans (ih finished)

/-- Whatever is played is a run. -/
theorem run_play (moves : List Move) (sys : System) :
    Run others v sys (play v moves sys).1 (play v moves sys).2 := by
  unfold play
  cases possible : play? v moves sys with
  | none => exact .start
  | some played => exact run_of_play? possible

end System

/-! A deployment to play runs on: one organization with every method on, one user with a password,
and one session that has proved nothing yet. -/

namespace Deployment

def now : Instant := ⟨1700000000, 0, by decide⟩

/-- Ten minutes later. -/
def soon : Instant := ⟨1700000600, 0, by decide⟩

def project : Project := { Project.new (.ofNat 1) now "shop" with loginMethods := .all }

def organization : Organization :=
  { Organization.new (.ofNat 2) now project.id "buyers" with loginMethods := .all }

def user : User :=
  { User.new (.ofNat 3) now organization.id "ann@buyers.test" with
    passwordHash := some "correct horse" }

def session : IntermediateSession := .new (.ofNat 4) now project.id soon

def context : RequestContext := ⟨project.id, session.id⟩

def only (u : User) : Table User User.id := { rows := [u] }

/-- The store with these users, and a session that may be bound to the organization. -/
def store (users : Table User User.id) (organizationId : Option Uuid) : Store where
  projects := { rows := [project] }
  organizations := { rows := [organization] }
  users := users
  intermediateSessions := { rows := [{ session with organizationId := organizationId }] }

/-- Passwords are kept as they are: what is shown on this deployment does not depend on the hash. -/
def service : Service where
  providers := .default
  config := {}
  matcher := .ofConfig
    ⟨fun _ _ password => .ok password, fun password hash => .ok (password == hash)⟩ {}
  issuer := ⟨.ofAuthConfig {}, ⟨[], []⟩⟩

/-- The turn of a request that draws the values from `1000 * n` on, while providers answer with
`identity`. -/
def turn (identity : Option RedeemedIdentity) (n i : Nat) : Move :=
  .turn ⟨.ofDraws now (1000 * n + ·) true fun _ _ _ state => .ok state,
    fun request => some ((⟨identity, none, [], fun _ => none⟩ : StandIns).reply request), false⟩ i

/-- The code of a kind that is drawn in turn `n`. -/
def code (kind : SecretTokenKind) (n : Nat) : String := (Secret.ofNat (1000 * n + 5)).token kind

/-- A login with an account at Google: the request for the address, which arrives as number `i`, and
the one that redeems the code. -/
def viaGoogle (identity : RedeemedIdentity) (n i : Nat) : List Move :=
  let google : OAuthTarget := .provider .google
  let state := code .oauthState (n + 1)
  [.arrive context (.login [] (.oauthRedirect google none)), turn none n i, turn none (n + 1) i,
    .arrive context (.login [] (.redeemOAuth google "code" state none)), turn none (n + 2) (i + 1),
    turn (some identity) (n + 3) (i + 1), turn none (n + 4) (i + 1)]

end Deployment

end Vestibule
