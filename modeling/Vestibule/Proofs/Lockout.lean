import Vestibule.Proofs.Clock
import Vestibule.Proofs.MatchedUser

/-! How often a password may be guessed. Mismatches against a user's stored hash are counted, the
count that fills the allowance locks the user out, and while it is locked out nothing is
compared. -/

namespace Vestibule

/-- The user whose stored hash the turn compared, and found to differ: it checked a password, and
answered with an error what it committed. -/
def Entry.mismatchedUser? (x : Entry) : Option User :=
  match x.call, x.deed, x.rest.answer? with
  | .login _ (.verifyPassword email _), .committed m before _, some (.error _) =>
    ((Loaded.load x.context).run m before).toOption.bind fun loaded =>
      loaded.1.hashOwner? before email
  | _, _, _ => none

/-- Whether the turn answered that the password is not the one of the user. -/
def Entry.mismatches (x : Entry) (id : Uuid) : Bool := x.mismatchedUser?.any (·.id == id)

/-- Whether the turn exchanged a session for the user, and the password that was staged on the
session became the user's. -/
def Entry.attachesPassword (x : Entry) (id : Uuid) : Bool :=
  x.exchanges x.context.intermediateSessionId && x.sessions.any (·.userId == id) &&
    match x.deed with
    | .committed _ before _ =>
      (before.intermediateSessions.get? x.context.intermediateSessionId).any
        (·.stagedPasswordHash.isSome)
    | _ => false

/-- Whether the turn gave the user a clean slate. -/
def Entry.clears (x : Entry) (id : Uuid) : Bool :=
  x.matchedUser?.any (·.id == id) || x.attachesPassword id

/-- The count of mismatches and the lockout are the same. -/
structure User.SameAttempts (u u' : User) : Prop where
  attempts : u'.failedPasswordAttempts = u.failedPasswordAttempts
  lockout : u'.lockoutExpireTime = u.lockoutExpireTime

/-- No mismatch is counted, and the user is not locked out. -/
structure User.Clean (u : User) : Prop where
  attempts : u.failedPasswordAttempts = 0
  lockout : u.lockoutExpireTime = none

variable {v : Service} {past : List Entry} {x : Entry} {s s' : Store} {id : Uuid} {u u' : User}
  {k : CredentialMatcher} {now : Instant} {w : Mismatch}

/-- What a turn makes of the count of a user: nothing, one more mismatch, or a clean slate. -/
inductive Entry.Counts (x : Entry) (k : CredentialMatcher) (id : Uuid) (u : User) :
    User → Prop where
  | kept {u' : User} (quiet : x.mismatches id = false) (same : u.SameAttempts u') :
      Counts x k id u u'
  | missed {m : Moment} {password : String} (mismatches : x.mismatches id = true)
      (read : x.time? = some m.now) (compared : k.Compares m.now u password false)
      {w : Mismatch} (missed : k.miss? m.now u = some w) : Counts x k id u w.user
  | cleared {u' : User} {now : Instant} (quiet : x.mismatches id = false)
      (read : x.time? = some now) (clears : x.clears id = true) (clean : u'.Clean) :
      Counts x k id u u'

section

variable {r : IntermediateSession} {accounts : List (OAuthProvider × String)}

theorem User.setProviderSubject_sameAttempts {p : OAuthProvider} {subject : String} :
    u.SameAttempts (u.setProviderSubject p subject) := by
  cases p <;> exact ⟨rfl, rfl⟩

theorem linkAccounts_sameAttempts (linked : linkAccounts u accounts = .ok u') :
    u.SameAttempts u' := by
  induction accounts generalizing u with
  | nil =>
      cases linked
      exact ⟨rfl, rfl⟩
  | cons account rest ih =>
      obtain ⟨provider, subject⟩ := account
      simp only [linkAccounts] at linked
      split at linked
      · split at linked
        · exact ih linked
        · cases linked
      · obtain ⟨attempts, lockout⟩ := ih linked
        obtain ⟨attempts', lockout'⟩ :=
          @User.setProviderSubject_sameAttempts u provider subject
        exact ⟨attempts.trans attempts', lockout.trans lockout'⟩

/-- An exchange leaves the count of its user, unless a password waited. -/
theorem attachIdentity_attempts (attached : attachIdentity now u r = .ok u') :
    if r.stagedPasswordHash.isSome then u'.Clean else u.SameAttempts u' := by
  cases linked : linkAccounts u r.providerSubjects with
  | error provider =>
      simp [attachIdentity, linked, bind, Except.bind] at attached
  | ok w =>
      obtain ⟨attempts, lockout⟩ := linkAccounts_sameAttempts linked
      simp only [attachIdentity, linked, bind, Except.bind, pure, Except.pure,
        Except.ok.injEq] at attached
      subst attached
      cases r.stagedPasswordHash with
      | none => exact ⟨attempts, lockout⟩
      | some hash => exact ⟨rfl, rfl⟩

end

/-- A user whose record is replaced, and the others. -/
theorem Store.get?_replaced {w w' : User} (present : s.users.get? w.id = some w)
    (same : w'.id = w.id) (stored : s.users.get? id = some u) :
    w = u ∧ w.id = id ∧ (s.users.replace w').get? id = some w' ∨
      w.id ≠ id ∧ (s.users.replace w').get? id = some u := by
  by_cases own : w.id = id
  · subst own
    refine .inl ⟨Option.some.inj (present.symm.trans stored), rfl, ?_⟩
    rw [← same] at present ⊢
    exact Table.get?_replace_self present
  · exact .inr ⟨own, by rw [Table.get?_replace_of_ne (same ▸ own), stored]⟩

section

variable {salt : List UInt8} {m : Moment} {l : Loaded} {request : LoginRequest} {lesson : Lesson}
  {written : Store} {change : Audit.IntermediateSessionChange}
  {rest : ServiceOperation LoginReply}

theorem Entry.Takes.mismatches
    (takes : x.Takes v s s' salt m l request lesson written change rest) :
    x.mismatches id = false := by
  have unmatched : x.mismatchedUser? = none := by
    simp only [Entry.mismatchedUser?, takes.asked, takes.deed, takes.left]
    cases takes.step <;> rfl
  rw [Entry.mismatches, unmatched]
  rfl

/-- A step changes the count of the user whose hash it matched, and of nobody else. -/
theorem Entry.Takes.counts (takes : x.Takes v s s' salt m l request lesson written change rest)
    (stored : s.users.get? id = some u) :
    ∃ u', s'.users.get? id = some u' ∧ x.Counts v.matcher id u u' := by
  have kept : written.users = s.users →
      ∃ u', s'.users.get? id = some u' ∧ x.Counts v.matcher id u u' := by
    intro same
    refine ⟨u, ?_, .kept takes.mismatches ⟨rfl, rfl⟩⟩
    rw [takes.after]
    exact same ▸ stored
  cases takes.step with
  | challengeIssued _ _ _ charged | resetCodeIssued _ _ _ charged =>
      exact kept (by rw [charged.counted, Store.countEmail_eq])
  | emailProved => exact kept (by rw [Store.recordVerifiedEmail_eq])
  | accountRedeemed =>
      refine kept ?_
      split
      · rw [Store.recordVerifiedEmail_eq]
      · rfl
  | passwordMatched _ owner | loggedIn owner =>
      have matched := takes.matchedUser? takes.performed?
      rw [owner.hashOwner?] at matched
      rw [takes.after]
      rcases Store.get?_replaced owner.stored.1 User.rehashed_sameIdentity.id stored with
        ⟨rfl, own, after⟩ | ⟨_, after⟩
      · exact ⟨_, after, .cleared takes.mismatches (by rw [Entry.time?, takes.deed])
          (by simp [Entry.clears, matched, own]) ⟨rfl, rfl⟩⟩
      · exact ⟨u, after, .kept takes.mismatches ⟨rfl, rfl⟩⟩
  | resetCodeRedeemed | passwordStaged | stagedMatched | redirected | connectionRedeemed
  | asserted => exact kept rfl

end

/-- A mismatch that was counted is one against the user whose count it is. -/
theorem Entry.mismatchedUser?_of_missed {m : Moment} {salt : List UInt8} {l : Loaded}
    {email : Option String} {password : String} {reason : RequestError} {w : User}
    (asked : x.call = .login salt (.verifyPassword email password))
    (deed : x.deed = .committed m s s') (answered : x.rest.answer? = some (.error reason))
    (admitted : Loaded.Admitted x.context m.now s l) (owner : Service.HashOwner s l email w) :
    x.mismatchedUser? = some w := by
  have loads : (Loaded.load x.context).Commits m s l s := Loaded.load_commits.mpr ⟨rfl, admitted⟩
  simp only [Entry.mismatchedUser?, asked, deed, answered]
  rw [loads]
  exact owner.hashOwner?

/-- An exchange that attached a password counts as such. -/
theorem Entry.attachesPassword_of_staged {m : Moment} {l : Loaded} {issued : Session}
    (deed : x.deed = .committed m s s') (exchanging : x.call.exchanges x.heard = true)
    (admitted : Loaded.Admitted x.context m.now s l)
    (staged : l.session.stagedPasswordHash.isSome = true)
    (added : s'.sessions.rows = s.sessions.rows ++ [issued]) (owner : issued.userId = id) :
    x.attachesPassword id = true := by
  simp [Entry.attachesPassword, Entry.exchanges, exchanging, Entry.sessions, deed, added, owner,
    admitted.stored, staged]

theorem Entry.Did.counts (did : x.Did v s s') (stored : s.users.get? id = some u) :
    ∃ u', s'.users.get? id = some u' ∧ x.Counts v.matcher id u u' := by
  rcases did with ⟨m, deed, wrote⟩ | ⟨rfl, idle⟩
  · obtain ⟨flight, context, call, heard, done, rest⟩ := x
    cases wrote with
    | @login _ request _ _ _ _ _ commit =>
        cases commit with
        | read phases unfinished =>
            refine ⟨u, stored, .kept ?_ ⟨rfl, rfl⟩⟩
            cases request <;> first | rfl | cases phases
        | took took =>
            obtain ⟨l, lesson, written, change, admitted, step, _, after⟩ := took
            exact Entry.Takes.counts ⟨rfl, deed, rfl, admitted, step, after⟩ stored
        | missed missed =>
            obtain ⟨l, w, _, admitted, owner, compared, missed, _, rfl, rfl⟩ := missed
            have mismatched := Entry.mismatchedUser?_of_missed (x := ⟨_, _, _, _, _, _⟩) rfl deed
              rfl admitted owner
            have same := CredentialMatcher.miss?_id missed
            rcases Store.get?_replaced owner.stored.1 same stored with
              ⟨rfl, own, after⟩ | ⟨other, after⟩
            · exact ⟨_, after, .missed (by simp [Entry.mismatches, mismatched, own])
                (by rw [Entry.time?, deed]) compared missed⟩
            · exact ⟨u, after, .kept (by simp [Entry.mismatches, mismatched, other]) ⟨rfl, rfl⟩⟩
    | exchanged exchanged =>
        obtain ⟨l, o, factor, w, created, written, expire, admitted, _, resolves, _, fresh, _, _,
          rfl⟩ := exchanged
        cases resolves with
        | created _ _ _ _ absent =>
            exact ⟨u, Table.get?_add_of_some stored absent, .kept rfl ⟨rfl, rfl⟩⟩
        | found found attached =>
            obtain ⟨present, _⟩ := Store.userForExchange?_eq_some found
            have attempts := attachIdentity_attempts attached
            have identity := (attachIdentity_sameIdentity attached).1.id
            rcases Store.get?_replaced present identity stored with
              ⟨rfl, own, after⟩ | ⟨other, after⟩
            · refine ⟨_, after, ?_⟩
              cases staged : l.session.stagedPasswordHash.isSome with
              | false => exact .kept rfl (by simpa [staged] using attempts)
              | true =>
                  refine .cleared rfl (by rw [Entry.time?, deed]) ?_
                    (by simpa [staged] using attempts)
                  have attaches := Entry.attachesPassword_of_staged (x := ⟨_, _, _, _, _, _⟩) deed
                    rfl admitted staged (Table.rows_add fresh) (identity.trans own)
                  simp [Entry.clears, attaches]
            · exact ⟨u, after, .kept rfl ⟨rfl, rfl⟩⟩
    | minted | refreshed => exact ⟨u, stored, .kept rfl ⟨rfl, rfl⟩⟩
  · refine ⟨u, stored, .kept ?_ ⟨rfl, rfl⟩⟩
    unfold Entry.mismatches Entry.mismatchedUser?
    split
    · exact absurd ‹_› (idle _ _ _)
    · rfl

namespace CredentialMatcher

theorem new_lockoutAttempts {scheme : PasswordScheme} {attempts : Int32} {duration : Span}
    {cost : Nat} :
    (new scheme attempts duration cost).lockoutAttempts.toInt = max 1 attempts.toInt := by
  have one : (1 : Int32).toInt = 1 := by decide
  unfold new
  dsimp only
  split
  · rename_i few
    rw [Int32.lt_iff_toInt_lt, one] at few
    omega
  · rename_i enough
    rw [Int32.lt_iff_toInt_lt, one] at enough
    omega

theorem toInt_add_one {n : Int32} (room : n.toInt < 2147483647) :
    (n + 1).toInt = n.toInt + 1 := by
  have low := n.le_toInt
  have one : (1 : Int32).toInt = 1 := by decide
  rw [Int32.toInt_add, one]
  apply Int.bmod_eq_of_le_mul_two <;> omega

/-- One more mismatch fills the allowance and locks the user out, or is counted. -/
theorem miss?_attempts (missed : k.miss? now u = some w)
    (room : u.failedPasswordAttempts.toInt < 2147483647) :
    k.lockoutAttempts.toInt ≤ u.failedPasswordAttempts.toInt + 1 ∧
        w.user.failedPasswordAttempts.toInt = 0 ∧
        (∃ expire, now.add? k.lockoutDuration = some expire ∧
          w.user.lockoutExpireTime = some expire) ∨
      u.failedPasswordAttempts.toInt + 1 < k.lockoutAttempts.toInt ∧
        w.user.failedPasswordAttempts.toInt = u.failedPasswordAttempts.toInt + 1 ∧
        w.user.lockoutExpireTime = u.lockoutExpireTime := by
  have counted := toInt_add_one room
  rcases miss?_eq_some missed with ⟨allowed, rfl⟩ | ⟨filled, expire, ends, rfl⟩
  · rw [Int32.le_iff_toInt_le, counted] at allowed
    exact .inr ⟨by omega, counted, rfl⟩
  · rw [Int32.le_iff_toInt_le, counted] at filled
    exact .inl ⟨filled, Int32.toInt_zero, expire, ends, rfl⟩

/-- The count stays one that has room for the next mismatch, as the allowance is one. -/
theorem miss?_room (missed : k.miss? now u = some w) (nonneg : 0 ≤ u.failedPasswordAttempts.toInt)
    (room : u.failedPasswordAttempts.toInt < 2147483647) :
    0 ≤ w.user.failedPasswordAttempts.toInt ∧
      w.user.failedPasswordAttempts.toInt < 2147483647 := by
  have allowance := k.lockoutAttempts.toInt_lt
  rcases miss?_attempts missed room with ⟨_, same, _⟩ | ⟨_, same, _⟩ <;> omega

end CredentialMatcher

/-- The mismatches that were answered in the span of time that starts at `t`. -/
def guesses (past : List Entry) (id : Uuid) (t : Instant) (d : Span) : Nat :=
  past.countP fun x => x.within t d && x.mismatches id

/-- Where the guesses in a span of time stand. After the first of them the count of the user is at
least theirs, until the user is locked out past the end of the span. -/
structure Tally (k : CredentialMatcher) (id : Uuid) (t : Instant) (past : List Entry) (u : User) :
    Prop where
  nonneg : 0 ≤ u.failedPasswordAttempts.toInt
  room : u.failedPasswordAttempts.toInt < 2147483647
  within : (guesses past id t k.lockoutDuration : Int) ≤ k.lockoutAttempts.toInt
  held : guesses past id t k.lockoutDuration = 0 ∨
    (guesses past id t k.lockoutDuration ≤ u.failedPasswordAttempts.toInt ∧
      u.failedPasswordAttempts.toInt < k.lockoutAttempts.toInt) ∨
    (∃ expire, u.lockoutExpireTime = some expire ∧ expire.Ordinary ∧
      t.elapsed + k.lockoutDuration.nanos ≤ expire.elapsed) ∨
    ∃ now ∈ readings past, t.elapsed + k.lockoutDuration.nanos ≤ now.elapsed

section

variable {t : Instant} {d : Span}

theorem guesses_append : guesses (past ++ [x]) id t d =
    guesses past id t d + if x.within t d && x.mismatches id then 1 else 0 := by
  rw [guesses, List.countP_append, List.countP_singleton]
  rfl

/-- A reading outside of the span is before it, so that there was no guess in it, or the span is
over. -/
theorem Steady.outside (steady : Steady (past ++ [x])) (read : x.time? = some now)
    (outside : x.within t d = false) :
    guesses past id t d = 0 ∨
      ∃ r ∈ readings (past ++ [x]), t.elapsed + d.nanos ≤ r.elapsed := by
  obtain ⟨_, order⟩ := steady.last read
  by_cases late : now.elapsed < t.elapsed + d.nanos
  · have early : now < t := Decidable.byContradiction fun started =>
      absurd ((Entry.within_iff read).mpr ⟨started, late⟩) (by simp [outside])
    left
    rw [guesses, List.countP_eq_zero]
    intro y member within
    obtain ⟨inside, _⟩ := (Bool.and_eq_true _ _).mp within
    cases known : y.time? with
    | none => simp [Entry.within, known] at inside
    | some r =>
        obtain ⟨started, _⟩ := (Entry.within_iff known).mp inside
        have listed : r ∈ readings past := List.mem_filterMap.mpr ⟨y, member, known⟩
        exact (order r listed).1 (Instant.lt_of_lt_of_not_lt early started)
  · right
    refine ⟨now, ?_, Int.not_lt.mp late⟩
    rw [readings_append, read]
    simp

namespace Tally

variable (tally : Tally k id t past u) (steady : Steady (past ++ [x]))

include tally

theorem kept (quiet : x.mismatches id = false) (same : u.SameAttempts u') :
    Tally k id t (past ++ [x]) u' := by
  obtain ⟨nonneg, room, within, held⟩ := tally
  have guessed : guesses (past ++ [x]) id t k.lockoutDuration =
      guesses past id t k.lockoutDuration := by
    simp [guesses_append, quiet]
  refine ⟨same.attempts ▸ nonneg, same.attempts ▸ room, guessed ▸ within, ?_⟩
  rw [guessed, same.attempts, same.lockout]
  rcases held with unguessed | counted | locked | ⟨now, member, passed⟩
  · exact .inl unguessed
  · exact .inr (.inl counted)
  · exact .inr (.inr (.inl locked))
  · refine .inr (.inr (.inr ⟨now, ?_, passed⟩))
    rw [readings_append]
    exact List.mem_append_left _ member

include steady

/-- A turn outside of the span may leave any count that has room. -/
theorem outside (read : x.time? = some now) (outside : x.within t k.lockoutDuration = false)
    (nonneg : 0 ≤ u'.failedPasswordAttempts.toInt)
    (room : u'.failedPasswordAttempts.toInt < 2147483647) : Tally k id t (past ++ [x]) u' := by
  have guessed : guesses (past ++ [x]) id t k.lockoutDuration =
      guesses past id t k.lockoutDuration := by
    simp [guesses_append, outside]
  refine ⟨nonneg, room, guessed ▸ tally.within, ?_⟩
  rw [guessed]
  rcases steady.outside read outside with unguessed | passed
  · exact .inl unguessed
  · exact .inr (.inr (.inr passed))

/-- A mismatch in the span is counted, or it fills the allowance, and then the lockout lasts until
the span is over. -/
theorem missed {password : String} {m : Moment} (ordinary : t.Ordinary)
    (mismatches : x.mismatches id = true) (read : x.time? = some m.now)
    (compared : k.Compares m.now u password false) (missed : k.miss? m.now u = some w)
    (allowance : 1 ≤ k.lockoutAttempts.toInt) : Tally k id t (past ++ [x]) w.user := by
  obtain ⟨nonneg', room'⟩ := CredentialMatcher.miss?_room missed tally.nonneg tally.room
  cases inside : x.within t k.lockoutDuration with
  | false => exact tally.outside steady read inside nonneg' room'
  | true =>
      obtain ⟨started, early⟩ := (Entry.within_iff read).mp inside
      obtain ⟨reading, order⟩ := steady.last read
      have guessed : guesses (past ++ [x]) id t k.lockoutDuration =
          guesses past id t k.lockoutDuration + 1 := by
        simp [guesses_append, inside, mismatches]
      -- The user was not locked out, and the span was not over.
      have below : guesses past id t k.lockoutDuration = 0 ∨
          guesses past id t k.lockoutDuration ≤ u.failedPasswordAttempts.toInt ∧
            u.failedPasswordAttempts.toInt < k.lockoutAttempts.toInt := by
        rcases tally.held with
          unguessed | counted | ⟨expire, locked, ordinary', long⟩ | ⟨r, listed, passed⟩
        · exact .inl unguessed
        · exact .inr counted
        · have unlocked := compared.unlocked
          simp only [User.isLockedOut, locked, decide_eq_false_iff_not,
            reading.lt_iff ordinary'] at unlocked
          omega
        · have order' := (order r listed).2
          omega
      have nonneg := tally.nonneg
      refine ⟨nonneg', room', ?_, ?_⟩
      · omega
      · rw [guessed]
        rcases CredentialMatcher.miss?_attempts missed tally.room with
          ⟨_, _, expire, ends, locked⟩ | ⟨allowed, counted, _⟩
        · obtain ⟨ordinary', lasts⟩ := reading.of_add? ends
          rw [reading.lt_iff ordinary] at started
          exact .inr (.inr (.inl ⟨expire, locked, ordinary', by omega⟩))
        · exact .inr (.inl (by omega))

/-- A clean slate is given outside of the span. -/
theorem cleared (read : x.time? = some now) (outside : x.within t k.lockoutDuration = false)
    (clean : u'.Clean) : Tally k id t (past ++ [x]) u' := by
  have zero : u'.failedPasswordAttempts.toInt = 0 := by rw [clean.attempts, Int32.toInt_zero]
  exact tally.outside steady read outside (by omega) (by omega)

end Tally

theorem Tally.turn (tally : Tally k id t past u) (steady : Steady (past ++ [x]))
    (ordinary : t.Ordinary) (allowance : 1 ≤ k.lockoutAttempts.toInt)
    (counts : x.Counts k id u u')
    (unclear : x.within t k.lockoutDuration = true → x.clears id = false) :
    Tally k id t (past ++ [x]) u' := by
  cases counts with
  | kept quiet same => exact tally.kept quiet same
  | missed mismatches read compared missed =>
      exact tally.missed steady ordinary mismatches read compared missed allowance
  | cleared quiet read clears clean =>
      refine tally.cleared steady read ?_ clean
      cases inside : x.within t k.lockoutDuration with
      | false => rfl
      | true => exact absurd clears (by simp [unclear inside])

variable {start : Store} {first sys : System}

/-- In every run the guesses in a span are tallied. -/
theorem Run.tally (run : Run TenantChange v { store := start } past sys)
    (stored : start.users.get? id = some u) (nonneg : 0 ≤ u.failedPasswordAttempts.toInt)
    (room : u.failedPasswordAttempts.toInt < 2147483647) (ordinary : t.Ordinary)
    (allowance : 1 ≤ v.matcher.lockoutAttempts.toInt) (steady : Steady past)
    (unclear : ∀ x ∈ past, x.within t v.matcher.lockoutDuration = true → x.clears id = false) :
    ∃ u', sys.store.users.get? id = some u' ∧ Tally v.matcher id t past u' := by
  refine run.invariant System.sound_idle
    (P := fun past s => Steady past →
      (∀ x ∈ past, x.within t v.matcher.lockoutDuration = true → x.clears id = false) →
        ∃ u', s.users.get? id = some u' ∧ Tally v.matcher id t past u') ?_ ?_ ?_ steady unclear
  · intro _ _
    exact ⟨u, stored, nonneg, room, by simpa [guesses] using Int.le_trans (by decide) allowance,
      .inl rfl⟩
  · intro past s x s' ih did steady unclear
    obtain ⟨w, stored, tally⟩ :=
      ih steady.initial fun y member => unclear y (List.mem_append_left _ member)
    obtain ⟨w', stored', counts⟩ := did.counts stored
    exact ⟨w', stored', tally.turn steady ordinary allowance counts (unclear x (by simp))⟩
  · intro past s s' ih changed steady unclear
    obtain ⟨w, stored, tally⟩ := ih steady unclear
    exact ⟨w, changed.users ▸ stored, tally⟩

end

/-- What holds of the count of a user, holds of none, and is kept by each mismatch that does not
fill the allowance, holds after every run. -/
theorem Run.count {P : Int → Prop} {first sys : System} (run : Run TenantChange v first past sys)
    (sound : first.Sound v) (stored : first.store.users.get? id = some u)
    (counted : P u.failedPasswordAttempts.toInt) (zero : P 0)
    (next : ∀ n, P n → n + 1 < v.matcher.lockoutAttempts.toInt → P (n + 1))
    (room : ∀ n, P n → n < 2147483647) :
    ∃ u', sys.store.users.get? id = some u' ∧ P u'.failedPasswordAttempts.toInt := by
  refine run.invariant sound
    (P := fun _ s => ∃ u', s.users.get? id = some u' ∧ P u'.failedPasswordAttempts.toInt)
    ⟨u, stored, counted⟩ ?_ ?_
  · rintro past s x s' ⟨w, stored, counted⟩ did
    obtain ⟨w', stored', counts⟩ := did.counts stored
    refine ⟨w', stored', ?_⟩
    cases counts with
    | kept _ same => exact same.attempts ▸ counted
    | missed _ _ _ missed =>
        rcases CredentialMatcher.miss?_attempts missed (room _ counted) with
          ⟨_, same, _⟩ | ⟨few, same, _⟩
        · exact same ▸ zero
        · exact same ▸ next _ counted few
    | cleared _ _ _ clean => exact clean.attempts ▸ zero
  · rintro past s s' ⟨w, stored, counted⟩ changed
    exact ⟨w, changed.users ▸ stored, counted⟩

/-- How a check of a password is answered while its user is locked out. -/
def User.refusal (u : User) : RequestError :=
  .failedPrecondition (if u.passwordHash.isSome then .lockedOut else .noPassword)

section

open Transaction

variable {c : RequestContext} {m : Moment} {l : Loaded} {password : String} {email : Option String}

/-- While a user is locked out the password does not matter, nor how hashes are compared. -/
theorem CredentialMatcher.matchPassword_locked (locked : u.isLockedOut m.now = true) :
    (k.matchPassword c.projectId c.actor u password).run m s = .error u.refusal := by
  unfold matchPassword User.refusal
  rw [(commits_read.mpr ⟨rfl, rfl⟩).run_bind]
  cases set : u.passwordHash with
  | none => exact run_bind_of_error rfl
  | some hash =>
      rw [(commits_need.mpr ⟨rfl, rfl⟩ : Commits _ m s hash s).run_bind, if_pos locked]
      rfl

theorem Service.matchAndRehash_locked (locked : u.isLockedOut m.now = true) :
    (v.matchAndRehash c u password).run m s = .error u.refusal :=
  run_bind_of_error (CredentialMatcher.matchPassword_locked locked)

theorem Service.verifyPasswordBody_locked (admitted : Loaded.Admitted c m.now s l)
    (owner : HashOwner s l email u) (locked : u.isLockedOut m.now = true) :
    (v.verifyPasswordBody c email password).run m s = .error u.refusal := by
  have loads : (Loaded.load c).Commits m s l s := Loaded.load_commits.mpr ⟨rfl, admitted⟩
  obtain ⟨f, _, ran⟩ := owner.run_check v c password
  have failed : (v.check c l password email).run m s = .error u.refusal :=
    ran.trans (run_bind_of_error (matchAndRehash_locked locked))
  unfold verifyPasswordBody
  rw [loads.run_bind]
  cases email <;> exact run_bind_of_error failed

/-- So a request that would check it fails at once, and leaves the store as it was. -/
theorem Service.serve_locked {t : Turn serviceInterface} {salt : List UInt8}
    (admitted : Loaded.Admitted c t.moment.now s l) (owner : HashOwner s l email u)
    (locked : u.isLockedOut t.moment.now = true) :
    (v.serve c (.login salt (.verifyPassword email password))).step? t s =
      some (.failed t.moment s u.refusal, .finish (.error u.refusal), s) := by
  simp only [serve, perform, verifyPassword, Operation.map, Operation.step?]
  rw [verifyPasswordBody_locked admitted owner locked]

end

/-- Guesses are bounded. In every span of time as long as a lockout, in which the user's password is
neither matched nor replaced, at most as many mismatches are answered as the allowance says. While
the user is locked out a check fails without a comparison and without a write, under any scheme.
And a count below the allowance stays so, and has room. -/
theorem Run.mismatches_bounded {start : Store} {sys : System} {scheme : PasswordScheme}
    {attempts : Int32} {duration : Span} {cost : Nat}
    (matcher : v.matcher = .new scheme attempts duration cost)
    (run : Run TenantChange v { store := start } past sys)
    (stored : start.users.get? id = some u) (nonneg : 0 ≤ u.failedPasswordAttempts)
    (room : u.failedPasswordAttempts ≠ Int32.maxValue) (steady : Steady past) :
    (∀ t : Instant, t.Ordinary →
      (∀ x ∈ past, x.within t duration = true → x.clears id = false) →
        (guesses past id t duration : Int) ≤ max 1 attempts.toInt) ∧
    (∀ (w : Service) (c : RequestContext) (salt : List UInt8) (email : Option String)
      (password : String) (t : Turn serviceInterface) (s : Store) (l : Loaded) (u' : User),
        Loaded.Admitted c t.moment.now s l → Service.HashOwner s l email u' →
          u'.isLockedOut t.moment.now = true →
            (w.serve c (.login salt (.verifyPassword email password))).step? t s =
              some (.failed t.moment s u'.refusal, .finish (.error u'.refusal), s)) ∧
    ∀ u', sys.store.users.get? id = some u' →
      u'.failedPasswordAttempts.toInt < max 1 attempts.toInt →
        ∀ later sys', Run TenantChange v sys later sys' →
          ∃ u'', sys'.store.users.get? id = some u'' ∧ 0 ≤ u''.failedPasswordAttempts.toInt ∧
            u''.failedPasswordAttempts.toInt < max 1 attempts.toInt ∧
            (u''.failedPasswordAttempts + 1).toInt = u''.failedPasswordAttempts.toInt + 1 := by
  have nonneg : 0 ≤ u.failedPasswordAttempts.toInt := Int32.le_iff_toInt_le.mp nonneg
  have room : u.failedPasswordAttempts.toInt < 2147483647 := by
    have top := u.failedPasswordAttempts.toInt_le
    have apart : u.failedPasswordAttempts.toInt ≠ Int32.maxValue.toInt :=
      fun same => room (Int32.toInt_inj.mp same)
    have value : Int32.maxValue.toInt = 2147483647 := by decide
    omega
  have allowance : v.matcher.lockoutAttempts.toInt = max 1 attempts.toInt := by
    rw [matcher, CredentialMatcher.new_lockoutAttempts]
  have lasting : v.matcher.lockoutDuration = duration := by rw [matcher]; rfl
  have few := v.matcher.lockoutAttempts.toInt_lt
  refine ⟨fun t ordinary unclear => ?_, fun _ _ _ _ _ _ _ _ _ => Service.serve_locked, ?_⟩
  · rw [← lasting] at unclear ⊢
    obtain ⟨_, _, tally⟩ :=
      run.tally stored nonneg room ordinary (by omega) steady unclear
    exact allowance ▸ tally.within
  · intro u' now below later sys' onward
    obtain ⟨_, same, counted⟩ := run.count (P := fun n => 0 ≤ n ∧ n < 2147483647)
      System.sound_idle stored ⟨nonneg, room⟩ (by omega) (by omega) (by omega)
    cases same.symm.trans now
    obtain ⟨u'', stored'', nonneg'', below''⟩ :=
      onward.count (P := fun n => 0 ≤ n ∧ n < max 1 attempts.toInt)
        (run.sound System.sound_idle) now ⟨counted.1, below⟩ (by omega) (by omega) (by omega)
    exact ⟨u'', stored'', nonneg'', below'', CredentialMatcher.toInt_add_one (by omega)⟩

namespace Deployment

/-- A service that allows so many mismatches, and locks users out for a quarter of an hour. -/
def strict (attempts : Int32) : Service :=
  { service with matcher := .new service.matcher.scheme attempts (.minutes 15) 4 }

/-- A visitor guesses the password of a user. -/
def guessing (attempts : Int32) (u : User) (n : Nat) : List Entry × System :=
  System.play (strict attempts)
    ((List.range n).flatMap fun i =>
      [.arrive context (.login [] (.verifyPassword (some user.email) "wrong")), turn none i i])
    { store := store (only u) none }

/-- A user whose count cannot be raised. -/
def exhausted : User := { user with failedPasswordAttempts := Int32.maxValue }

theorem steady_guessing {attempts : Int32} {u : User} {n : Nat}
    (same : readings (guessing attempts u n).1 = List.replicate n Deployment.now) :
    Steady (guessing attempts u n).1 := by
  refine ⟨fun t member => ?_, ?_⟩
  · rw [same] at member
    cases List.eq_of_mem_replicate member
    unfold Instant.Ordinary
    decide
  · rw [same, List.pairwise_replicate]
    exact .inr (by decide)

end Deployment

/-- Of three guesses two are answered; the third finds the user locked out. -/
theorem Run.mismatches_bounded_of_three :
    (Deployment.guessing 2 Deployment.user 3).1.map (·.mismatches Deployment.user.id) =
        [true, true, false] ∧
      (guesses (Deployment.guessing 2 Deployment.user 3).1 Deployment.user.id Deployment.now
        (.minutes 15) : Int) ≤ max 1 (2 : Int32).toInt := by
  refine ⟨by decide +kernel, ?_⟩
  have run : Run TenantChange (Deployment.strict 2)
      { store := Deployment.store (Deployment.only Deployment.user) none }
      (Deployment.guessing 2 Deployment.user 3).1 (Deployment.guessing 2 Deployment.user 3).2 :=
    System.run_play _ _
  have steady : Steady (Deployment.guessing 2 Deployment.user 3).1 :=
    Deployment.steady_guessing (by decide +kernel)
  have unclear : ∀ x ∈ (Deployment.guessing 2 Deployment.user 3).1,
      x.within Deployment.now (.minutes 15) = true → x.clears Deployment.user.id = false := by
    decide +kernel
  exact (Run.mismatches_bounded (u := Deployment.user) rfl run rfl (by decide) (by decide)
    steady).1 Deployment.now (by unfold Instant.Ordinary; decide) unclear

/-- From the largest count it fails: one more mismatch makes the count negative, and guesses are
answered on and on. -/
theorem Run.mismatches_unbounded :
    ¬ ∀ (v : Service) (scheme : PasswordScheme) (attempts : Int32) (duration : Span) (cost : Nat)
      (start : Store) (sys : System) (past : List Entry) (id : Uuid) (u : User) (t : Instant),
        v.matcher = .new scheme attempts duration cost →
          Run TenantChange v { store := start } past sys → start.users.get? id = some u →
            0 ≤ u.failedPasswordAttempts → Steady past → t.Ordinary →
              (∀ x ∈ past, x.within t duration = true → x.clears id = false) →
                (guesses past id t duration : Int) ≤ max 1 attempts.toInt := by
  intro claim
  have run : Run TenantChange (Deployment.strict 1)
      { store := Deployment.store (Deployment.only Deployment.exhausted) none }
      (Deployment.guessing 1 Deployment.exhausted 2).1
      (Deployment.guessing 1 Deployment.exhausted 2).2 := System.run_play _ _
  have steady : Steady (Deployment.guessing 1 Deployment.exhausted 2).1 :=
    Deployment.steady_guessing (by decide +kernel)
  have unclear : ∀ x ∈ (Deployment.guessing 1 Deployment.exhausted 2).1,
      x.within Deployment.now (.minutes 15) = true → x.clears Deployment.user.id = false := by
    decide +kernel
  have bounded := claim _ _ 1 (.minutes 15) _ _ _ _ Deployment.user.id Deployment.exhausted
    Deployment.now rfl run rfl (by decide) steady (by unfold Instant.Ordinary; decide) unclear
  have answered : guesses (Deployment.guessing 1 Deployment.exhausted 2).1 Deployment.user.id
      Deployment.now (.minutes 15) = 2 := by
    decide +kernel
  rw [answered] at bounded
  exact absurd bounded (by decide)

end Vestibule
