import Vestibule.Proofs.Course

/-! How a request comes to its end. The turns of a request lead from what it starts with to what is
left of it, each from where the one before it stopped. -/

namespace Vestibule

/-- Why an operation failed. -/
def Operation.failure? {I : Interface} {α : Type} : Operation I α → Option RequestError
  | finish (.error e) => some e
  | _ => none

theorem Operation.failure?_eq_some {I : Interface} {α : Type} {op : Operation I α}
    {e : RequestError} : op.failure? = some e ↔ op = finish (.error e) := by
  cases op with
  | finish result => cases result <;> simp [failure?]
  | transact | await | checkpoint => simp [failure?]

/-- A transaction that failed was the operation's last, on the store as it was. -/
theorem Operation.step?_failed {I : Interface} {α : Type} {op rest : Operation I α} {t : Turn I}
    {m : Moment} {s before s' : Store} {e : RequestError}
    (stepped : op.step? t s = some (.failed m before e, rest, s')) :
    before = s ∧ rest = finish (.error e) := by
  cases step?_eq_some.mp stepped
  exact ⟨rfl, rfl⟩

/-- What has a turn to take has not ended. -/
theorem Operation.answer?_of_step? {I : Interface} {α : Type} {op : Operation I α} {t : Turn I}
    {s : Store} {done : Deed I × Operation I α × Store} (stepped : op.step? t s = some done) :
    op.answer? = none := by
  cases op with
  | finish result => cases stepped
  | transact | await | checkpoint => rfl

theorem System.turn?_failed {t : Turn serviceInterface} {i : Nat} {sys sys' : System} {x : Entry}
    {m : Moment} {s : Store} {e : RequestError} (taken : sys.turn? t i = some (x, sys'))
    (deed : x.deed = .failed m s e) : s = sys.store ∧ x.rest = .finish (.error e) := by
  obtain ⟨f, done, rest, s', _, stepped, rfl, rfl⟩ := System.turn?_eq_some.mp taken
  cases deed
  exact Operation.step?_failed stepped

/-- The turns lead, in their order, from one stage of a request to another. -/
def Leads : ServiceOperation Answer → List Entry → ServiceOperation Answer → Prop
  | op, [], rest => rest = op
  | op, x :: later, rest =>
    (∃ t s s', op.step? t s = some (x.deed, x.rest, s')) ∧ Leads x.rest later rest

namespace Leads

variable {op middle rest : ServiceOperation Answer} {turns later : List Entry} {x : Entry}
  {result : Except RequestError Answer} {β : Type}

theorem trans (leads : Leads op turns middle) (onward : Leads middle later rest) :
    Leads op (turns ++ later) rest := by
  induction turns generalizing op with
  | nil =>
      cases leads
      exact onward
  | cons x turns ih =>
      obtain ⟨stepped, leads⟩ := leads
      exact ⟨stepped, ih leads⟩

/-- What follows a turn starts from what the turn left. -/
theorem after (leads : Leads op (turns ++ x :: later) rest) : Leads x.rest later rest := by
  induction turns generalizing op with
  | nil => exact leads.2
  | cons y turns ih => exact ih leads.2

/-- A request that has ended takes no turn. -/
theorem of_finish (leads : Leads (.finish result) turns rest) :
    turns = [] ∧ rest = .finish result := by
  cases turns with
  | nil => exact ⟨rfl, leads⟩
  | cons x later =>
      obtain ⟨⟨_, _, _, stepped⟩, _⟩ := leads
      cases stepped

/-- A transaction that comes first fails and ends the request, or it is committed and the rest of
the turns follow it. -/
theorem of_transact {body : Transaction β} {next : β → ServiceOperation Answer}
    (leads : Leads (.transact body next) turns (.finish result)) :
    (∃ x m s e, turns = [x] ∧ x.deed = .failed m s e ∧ body.run m s = .error e ∧
      result = .error e) ∨
    ∃ x later m s b s', turns = x :: later ∧ x.deed = .committed m s s' ∧ x.rest = next b ∧
      body.Commits m s b s' ∧ Leads (next b) later (.finish result) := by
  cases turns with
  | nil => cases leads
  | cons x later =>
      obtain ⟨⟨t, s, s', stepped⟩, onward⟩ := leads
      generalize did : x.deed = deed at stepped
      generalize left : x.rest = middle at stepped onward
      cases Operation.step?_eq_some.mp stepped with
      | committed committed =>
          exact .inr ⟨x, later, t.moment, s, _, s', rfl, did, left, committed, onward⟩
      | failed failed =>
          obtain ⟨rfl, ended⟩ := onward.of_finish
          cases ended
          exact .inl ⟨x, t.moment, s, _, rfl, did, failed, rfl⟩

/-- A question without a deadline waits for its answer. -/
theorem of_await {request : ServiceRequest} {next : request.Reply → ServiceOperation Answer}
    (leads : Leads (.await (I := serviceInterface) false request next) turns (.finish result)) :
    ∃ x later reply, turns = x :: later ∧
      x.deed = .answered (I := serviceInterface) request reply ∧ x.rest = next reply ∧
        Leads (next reply) later (.finish result) := by
  cases turns with
  | nil => cases leads
  | cons x later =>
      obtain ⟨⟨t, s, s', stepped⟩, onward⟩ := leads
      generalize did : x.deed = deed at stepped
      generalize left : x.rest = middle at stepped onward
      cases Operation.step?_eq_some.mp stepped
      exact ⟨x, later, _, rfl, did, left, onward⟩

end Leads

variable {others : Store → Store → Prop} {v : Service} {start : Store} {sys : System}
  {past : List Entry} {x : Entry}

/-- Every turn of a run did what its request may. -/
theorem Run.did (run : Run others v { store := start } past sys) (member : x ∈ past) :
    ∃ s s', x.Did v s s' := by
  obtain ⟨earlier, later, rfl⟩ := List.append_of_mem member
  obtain ⟨sys₁, sys₂, t, i, begun, took, _⟩ := run.split
  exact ⟨_, _, ((begun.sound System.sound_idle).turn took).2⟩

/-- The turns of a request lead from its start to what is left of it. -/
theorem Run.leads (run : Run others v { store := start } past sys) :
    ∀ i (f : Flight), sys.flights[i]? = some f →
      Leads (v.serve f.context f.call) (past.filter (·.flight == i)) f.rest := by
  generalize begun : ({ store := start } : System) = first at run
  induction run with
  | start =>
      cases begun
      simp
  | @arrive past sys run c call ih =>
      intro i f flying
      by_cases early : i < sys.flights.length
      · simp only [System.arrive, List.getElem?_append_left early] at flying
        exact ih i f flying
      · simp only [System.arrive, List.getElem?_append_right (Nat.le_of_not_lt early)] at flying
        cases List.mem_singleton.mp (List.mem_of_getElem? flying)
        have none : past.filter (·.flight == i) = [] := by
          subst begun
          have known := run.follows.1
          simp only [List.filter_eq_nil_iff, beq_iff_eq]
          intro y member same
          have before := known y member
          omega
        rw [none]
        rfl
  | @turn past sys sys' x run t i taken ih =>
      obtain ⟨f, deed, rest, s', flying, stepped, rfl, rfl⟩ := System.turn?_eq_some.mp taken
      have bound : i < sys.flights.length := (List.getElem?_eq_some_iff.mp flying).1
      intro j g flying'
      by_cases own : i = j
      · subst own
        simp only [List.getElem?_set_self bound, Option.some.injEq] at flying'
        subst flying'
        have last : Leads f.rest [⟨i, f.context, f.call, f.heard, deed, rest⟩] rest :=
          ⟨⟨t, sys.store, s', stepped⟩, rfl⟩
        simpa [List.filter_append] using (ih i f flying).trans last
      · simp only [List.getElem?_set_ne own] at flying'
        simpa [List.filter_append, own] using ih j g flying'
  | change run changed ih => exact ih

end Vestibule
