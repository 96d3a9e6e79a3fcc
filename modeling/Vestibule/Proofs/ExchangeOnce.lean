import Vestibule.Proofs.Interleaving

/-! An intermediate session is exchanged at most once, however its requests interleave, and the
exchange is the last thing that is written on its behalf. -/

namespace Vestibule

/-- Whether an entry of the audit log tells of a session created for an intermediate session. -/
def Audit.Event.createsSessionFor (e : Audit.Event) (id : Uuid) : Bool :=
  e.name == "sessions.create" && e.actor == .intermediateSession id

/-- The record of the session is exchanged. -/
def Store.Spent (s : Store) (id : Uuid) : Prop :=
  ∃ r, s.intermediateSessions.get? id = some r ∧ r.isExchanged = true

/-- What a run has counted for one session: its exchanges, at most one, the sessions created on its
behalf, and the entries in the audit log that tell of them. -/
structure ExchangeTally (first : Store) (id : Uuid) (past : List Entry) (s : Store) : Prop where
  once : past.countP (·.exchanges id) ≤ 1
  spent : 0 < past.countP (·.exchanges id) → s.Spent id
  sessions : ((past.filter (·.context.intermediateSessionId == id)).flatMap Entry.sessions).length =
    past.countP (·.exchanges id)
  rows : s.sessions.rows = first.sessions.rows ++ past.flatMap Entry.sessions
  events : ∃ added, s.auditLog = first.auditLog ++ added ∧
    added.countP (·.createsSessionFor id) = past.countP (·.exchanges id)

/-- What one turn adds to the tally of a session. -/
structure Entry.Tallied (x : Entry) (id : Uuid) (s s' : Store) : Prop where
  first : x.exchanges id = true → ¬ s.Spent id
  spent : x.exchanges id = true ∨ s.Spent id → s'.Spent id
  own : x.context.intermediateSessionId = id →
    x.sessions.length = if x.exchanges id then 1 else 0
  foreign : x.context.intermediateSessionId ≠ id → x.exchanges id = false
  rows : s'.sessions.rows = s.sessions.rows ++ x.sessions
  events : ∃ added, s'.auditLog = s.auditLog ++ added ∧
    added.countP (·.createsSessionFor id) = if x.exchanges id then 1 else 0

variable {v : Service} {first s s' : Store} {id : Uuid} {past later : List Entry} {x : Entry}

/-- A turn that commits nothing adds nothing. -/
theorem Entry.tallied_idle (idle : ∀ m before after, x.deed ≠ .committed m before after) :
    x.Tallied id s s := by
  have quiet : x.exchanges id = false ∧ x.sessions = [] := by
    unfold Entry.exchanges Entry.sessions
    cases deed : x.deed with
    | committed m before after => exact absurd deed (idle m before after)
    | failed | answered | overdue | passed => exact ⟨rfl, rfl⟩
  obtain ⟨unexchanging, none⟩ := quiet
  refine ⟨?_, ?_, ?_, fun _ => unexchanging, ?_, [], ?_, ?_⟩
  · simp [unexchanging]
  · simp [unexchanging]
  · simp [unexchanging, none]
  · simp [none]
  · simp
  · simp [unexchanging]

/-- A commit that exchanges the session found it unexchanged, and creates one session. -/
theorem Entry.tallied_commit {m : Moment} (deed : x.deed = .committed m s s')
    (wrote : v.Wrote x.context x.call x.heard m s s' x.rest) : x.Tallied id s s' := by
  have exchanges : x.exchanges id =
      (x.context.intermediateSessionId == id && x.call.exchanges x.heard) := by
    simp only [Entry.exchanges, deed]
  obtain ⟨created, rows, count⟩ := wrote.sessions
  have sessions : x.sessions = created := by
    simp only [Entry.sessions, deed, rows, List.drop_left]
  obtain ⟨added, log, own, named⟩ := wrote.auditLog
  by_cases same : x.context.intermediateSessionId = id
  · subst same
    simp only [BEq.rfl, Bool.true_and] at exchanges
    refine ⟨?_, ?_, ?_, fun foreign => absurd rfl foreign, ?_, added, log, ?_⟩
    · rintro exchanging ⟨r, stored, spent⟩
      obtain ⟨l, _, admitted, _⟩ := wrote.exchanges (exchanges ▸ exchanging)
      have found := stored.symm.trans admitted.stored
      cases found
      exact absurd (spent.symm.trans admitted.unexchanged) (by decide)
    · rintro (exchanging | ⟨r, stored, spent⟩)
      · obtain ⟨_, r, _, stored, spent⟩ := wrote.exchanges (exchanges ▸ exchanging)
        exact ⟨r, stored, spent⟩
      · rw [wrote.unchanged stored spent]
        exact ⟨r, stored, spent⟩
    · intro _
      rw [sessions, count, exchanges]
    · rw [sessions, rows]
    · rw [exchanges, ← named]
      refine List.countP_congr fun e member => ?_
      simp [Audit.Event.createsSessionFor, own e member, RequestContext.actor]
  · have unexchanging : x.exchanges id = false := by
      simp [exchanges, same]
    refine ⟨by simp [unexchanging], ?_, fun own => absurd own same, fun _ => unexchanging, ?_,
      added, log, ?_⟩
    · rintro (exchanging | ⟨r, stored, spent⟩)
      · exact absurd (exchanging.symm.trans unexchanging) (by decide)
      · exact ⟨r, (wrote.get?_of_ne same).trans stored, spent⟩
    · rw [sessions, rows]
    · rw [unexchanging, List.countP_eq_zero.mpr]
      · rfl
      · intro e member
        simp [Audit.Event.createsSessionFor, own e member, RequestContext.actor, same]

namespace ExchangeTally

theorem start : ExchangeTally first id [] first :=
  ⟨Nat.zero_le 1, by simp, rfl, by simp, [], by simp, rfl⟩

theorem turn (tally : ExchangeTally first id past s) (tallied : x.Tallied id s s') :
    ExchangeTally first id (past ++ [x]) s' := by
  obtain ⟨once, spent, sessions, rows, before, log, events⟩ := tally
  obtain ⟨unspent, onward, own, foreign, created, added, written, told⟩ := tallied
  have count : (past ++ [x]).countP (·.exchanges id) =
      past.countP (·.exchanges id) + if x.exchanges id then 1 else 0 := by
    rw [List.countP_append, List.countP_singleton]
  refine ⟨?_, ?_, ?_, ?_, before ++ added, ?_, ?_⟩
  · rw [count]
    split
    · rename_i exchanging
      have none : ¬ 0 < past.countP (·.exchanges id) := fun some => unspent exchanging (spent some)
      omega
    · exact once
  · rw [count]
    intro some
    by_cases exchanging : x.exchanges id = true
    · exact onward (.inl exchanging)
    · rw [if_neg exchanging] at some
      exact onward (.inr (spent some))
  · rw [count, List.filter_append, List.flatMap_append, List.length_append, sessions]
    by_cases same : x.context.intermediateSessionId = id
    · simp [same, own same]
    · simp [same, foreign same]
  · rw [created, rows, List.flatMap_append, List.append_assoc]
    simp
  · rw [written, log, List.append_assoc]
  · rw [count, List.countP_append, events, told]

theorem change (tally : ExchangeTally first id past s) (changed : TenantChange s s') :
    ExchangeTally first id past s' := by
  obtain ⟨once, spent, sessions, rows, before, log, events⟩ := tally
  refine ⟨once, ?_, sessions, ?_, before, ?_, events⟩
  · intro some
    obtain ⟨r, stored, exchanged⟩ := spent some
    exact ⟨r, changed.intermediateSessions ▸ stored, exchanged⟩
  · rw [changed.sessions, rows]
  · rw [changed.auditLog, log]

end ExchangeTally

theorem Run.exchangeTally {sys : System} (run : Run TenantChange v { store := first } past sys)
    (id : Uuid) : ExchangeTally first id past sys.store := by
  refine run.invariant System.sound_idle .start ?_ fun _ _ _ tally changed => tally.change changed
  intro past s x s' tally did
  rcases did with ⟨m, deed, wrote⟩ | ⟨rfl, idle⟩
  · exact tally.turn (Entry.tallied_commit deed wrote)
  · exact tally.turn (Entry.tallied_idle idle)

/-- Once a session is exchanged its record stays as it is, and what is still committed on its
behalf writes nothing at all. -/
theorem Run.spent_final {sys sys' : System} (sound : sys.Sound v)
    (run : Run TenantChange v sys later sys') {r : IntermediateSession}
    (stored : sys.store.intermediateSessions.get? id = some r) (spent : r.isExchanged = true) :
    sys'.store.intermediateSessions.get? id = some r ∧
      ∀ x ∈ later, ∀ m before after, x.deed = .committed m before after →
        after.intermediateSessions.get? id = some r ∧
          (x.context.intermediateSessionId = id → after = before) := by
  refine run.invariant sound
    (P := fun later s => s.intermediateSessions.get? id = some r ∧
      ∀ x ∈ later, ∀ m before after, x.deed = .committed m before after →
        after.intermediateSessions.get? id = some r ∧
          (x.context.intermediateSessionId = id → after = before))
    ⟨stored, by simp⟩ ?_ ?_
  · rintro later s x s' ⟨stored, earlier⟩ (⟨m, deed, wrote⟩ | ⟨rfl, idle⟩)
    · have unchanged : x.context.intermediateSessionId = id → s' = s := by
        rintro rfl
        exact wrote.unchanged stored spent
      have kept : s'.intermediateSessions.get? id = some r := by
        by_cases same : x.context.intermediateSessionId = id
        · rw [unchanged same, stored]
        · rw [wrote.get?_of_ne same, stored]
      refine ⟨kept, fun y member m' before after did => ?_⟩
      rcases List.mem_append.mp member with old | new
      · exact earlier y old m' before after did
      · cases List.mem_singleton.mp new
        cases deed.symm.trans did
        exact ⟨kept, unchanged⟩
    · refine ⟨stored, fun y member m' before after did => ?_⟩
      rcases List.mem_append.mp member with old | new
      · exact earlier y old m' before after did
      · cases List.mem_singleton.mp new
        exact absurd did (idle m' before after)
  · rintro later s s' ⟨stored, earlier⟩ changed
    exact ⟨changed.intermediateSessions ▸ stored, earlier⟩

/-- Exchange is exactly-once and final. In every run, at most one exchange of a session is
committed, at most one session is created on its behalf and at most one audit entry tells of one;
and whatever a session that is exchanged still has under way, or is asked for later, changes
neither its record nor, on its behalf, anything else. -/
theorem Run.exchange_once {sys : System} (run : Run TenantChange v { store := first } past sys)
    (id : Uuid) :
    past.countP (·.exchanges id) ≤ 1 ∧
      ((past.filter (·.context.intermediateSessionId == id)).flatMap Entry.sessions).length ≤ 1 ∧
      (∃ added, sys.store.auditLog = first.auditLog ++ added ∧
        added.countP (·.createsSessionFor id) ≤ 1) ∧
      sys.store.sessions.rows = first.sessions.rows ++ past.flatMap Entry.sessions ∧
      ∀ r, sys.store.intermediateSessions.get? id = some r → r.isExchanged = true →
        ∀ later sys', Run TenantChange v sys later sys' →
          sys'.store.intermediateSessions.get? id = some r ∧
            ∀ x ∈ later, ∀ m before after, x.deed = .committed m before after →
              after.intermediateSessions.get? id = some r ∧
                (x.context.intermediateSessionId = id → after = before) := by
  have sound := run.sound System.sound_idle
  obtain ⟨once, _, sessions, rows, added, log, events⟩ := run.exchangeTally id
  refine ⟨once, sessions ▸ once, ⟨added, log, events ▸ once⟩, rows, ?_⟩
  intro r stored spent later sys' onward
  exact onward.spent_final sound stored spent

namespace Deployment

/-- A login with a password, and two exchanges of the session that are under way at once. -/
def exchangedTwice : List Entry × System :=
  System.play service
    [.arrive context (.login [] (.verifyPassword (some user.email) "correct horse")),
      .arrive context .exchange, .arrive context .exchange,
      turn none 0 0, turn none 1 1, turn none 2 2]
    { store := store (only user) none }

end Deployment

theorem Run.exchange_once_of_two :
    Deployment.exchangedTwice.1.length = 3 ∧
      Deployment.exchangedTwice.1.countP (·.exchanges Deployment.session.id) = 1 ∧
      ((Deployment.exchangedTwice.1.filter
        (·.context.intermediateSessionId == Deployment.session.id)).flatMap
          Entry.sessions).length ≤ 1 :=
  ⟨by decide +kernel, by decide +kernel,
    (Run.exchange_once (System.run_play _ _) Deployment.session.id).2.1⟩

end Vestibule
