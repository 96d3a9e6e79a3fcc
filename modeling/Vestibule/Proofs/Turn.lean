import Vestibule.Operation
import Vestibule.Proofs.Transaction

/-! Operations one turn at a time. Between two turns of one operation any number of others may take
theirs, so what an operation does is known by what each of its transactions commits. -/

namespace Vestibule

/-- What an operation did in one turn. -/
inductive Deed (I : Interface) where
  | committed (moment : Moment) (before after : Store)
  | failed (moment : Moment) (before : Store) (reason : RequestError)
  | answered (request : I.Request) (reply : I.Reply request)
  | overdue
  | passed

/-- What the surroundings decide in one turn. A question without a reply is one whose deadline came
first. -/
structure Turn (I : Interface) where
  moment : Moment
  reply : (request : I.Request) → Option (I.Reply request)
  late : Bool

namespace Operation

variable {I : Interface} {α β σ φ : Type} {t : Turn I} {s s' : Store} {d : Deed I}
  {op rest : Operation I α} {past : List (Deed I)}

/-- One turn: what was done, what is left, and the store. An operation that has ended takes no
turn, and without a deadline it waits for its answer. -/
def step? (t : Turn I) (s : Store) : Operation I α → Option (Deed I × Operation I α × Store)
  | finish _ => none
  | transact body next =>
    match body.run t.moment s with
    | .ok (b, s') => some (.committed t.moment s s', next b, s')
    | .error e => some (.failed t.moment s e, finish (.error e), s)
  | await bounded request next =>
    match t.reply request with
    | some reply => some (.answered request reply, next reply, s)
    | none => if bounded then some (.overdue, finish (.error .deadlineExceeded), s) else none
  | checkpoint next =>
    if t.late then some (.overdue, finish (.error .deadlineExceeded), s)
    else some (.passed, next, s)

/-- All that one turn may do. -/
inductive Steps (t : Turn I) (s : Store) :
    Operation I α → Deed I → Operation I α → Store → Prop where
  | committed {β : Type} {body : Transaction β} {next : β → Operation I α} {b : β} {s' : Store}
      (committed : body.Commits t.moment s b s') :
      Steps t s (transact body next) (.committed t.moment s s') (next b) s'
  | failed {β : Type} {body : Transaction β} {next : β → Operation I α} {e : RequestError}
      (failed : body.run t.moment s = .error e) :
      Steps t s (transact body next) (.failed t.moment s e) (finish (.error e)) s
  | answered {bounded : Bool} {request : I.Request} {next : I.Reply request → Operation I α}
      {reply : I.Reply request} (replied : t.reply request = some reply) :
      Steps t s (await bounded request next) (.answered request reply) (next reply) s
  | unanswered {request : I.Request} {next : I.Reply request → Operation I α}
      (silent : t.reply request = none) :
      Steps t s (await true request next) .overdue (finish (.error .deadlineExceeded)) s
  | passed {next : Operation I α} (early : t.late = false) :
      Steps t s (checkpoint next) .passed next s
  | late {next : Operation I α} (late : t.late = true) :
      Steps t s (checkpoint next) .overdue (finish (.error .deadlineExceeded)) s

theorem step?_eq_some : op.step? t s = some (d, rest, s') ↔ op.Steps t s d rest s' := by
  constructor
  · intro stepped
    cases op with
    | finish result => cases stepped
    | transact body next =>
        cases ran : body.run t.moment s with
        | ok done =>
            simp only [step?, ran, Option.some.injEq, Prod.mk.injEq] at stepped
            obtain ⟨rfl, rfl, rfl⟩ := stepped
            exact .committed ran
        | error e =>
            simp only [step?, ran, Option.some.injEq, Prod.mk.injEq] at stepped
            obtain ⟨rfl, rfl, rfl⟩ := stepped
            exact .failed ran
    | await bounded request next =>
        cases replied : t.reply request with
        | some reply =>
            simp only [step?, replied, Option.some.injEq, Prod.mk.injEq] at stepped
            obtain ⟨rfl, rfl, rfl⟩ := stepped
            exact .answered replied
        | none =>
            cases bounded <;> simp only [step?, replied] at stepped <;> cases stepped
            exact .unanswered replied
    | checkpoint next =>
        cases reached : t.late <;> simp only [step?, reached] at stepped <;> cases stepped
        · exact .passed reached
        · exact .late reached
  · intro steps
    cases steps with
    | committed committed =>
        have ran : _ = Except.ok _ := committed
        simp [step?, ran]
    | failed failed => simp [step?, failed]
    | answered replied => simp [step?, replied]
    | unanswered silent => simp [step?, silent]
    | passed early => simp [step?, early]
    | late late => simp [step?, late]

/-- The question that an operation waits on. -/
def question? : Operation I α → Option I.Request
  | await _ request _ => some request
  | _ => none

/-- How an operation ended. -/
def answer? : Operation I α → Option (Except RequestError α)
  | finish result => some result
  | _ => none

/-- The operation has not succeeded, though it may have failed. -/
def Unfinished (op : Operation I α) : Prop := ∀ a, op.answer? ≠ some (.ok a)

theorem answer?_of_map {f : α → β} {b : β} (ended : (op.map f).answer? = some (.ok b)) :
    ∃ a, op.answer? = some (.ok a) := by
  cases op with
  | finish result =>
      cases result with
      | error e => cases ended
      | ok a => exact ⟨a, rfl⟩
  | transact | await | checkpoint => cases ended

theorem Unfinished.map {f : α → β} (unfinished : op.Unfinished) : (op.map f).Unfinished := by
  intro b ended
  obtain ⟨a, ended⟩ := answer?_of_map ended
  exact unfinished a ended

/-- An operation that nobody interrupts: it takes its turns in a row. -/
def finish? : List (Turn I) → Store → Operation I α →
    Option (Except RequestError α × List (Turn I) × Store)
  | turns, s, finish result => some (result, turns, s)
  | [], _, _ => none
  | t :: turns, s, op => (op.step? t s).bind fun done => finish? turns done.2.2 done.2.1

namespace Uninterrupted

/-- The turns that are left, with the store. -/
abbrev Work (I : Interface) := StateT (List (Turn I) × Store) Option

/-- Work that takes the next turn. -/
def taking (f : Turn I → Store → Option (β × Store)) : Work I β := fun
  | (t :: turns, s) => (f t s).map fun done => (done.1, turns, done.2)
  | ([], _) => none

@[simp] theorem taking_nil {f : Turn I → Store → Option (β × Store)} :
    (taking f).run ([], s) = none := rfl

@[simp] theorem taking_cons {f : Turn I → Store → Option (β × Store)} {turns : List (Turn I)} :
    (taking f).run (t :: turns, s) = (f t s).map fun done => (done.1, turns, done.2) := rfl

def commit (body : Transaction β) : Work I (Except RequestError β) :=
  taking fun t s => match body.run t.moment s with
    | .ok (b, s') => some (.ok b, s')
    | .error e => some (.error e, s)

def wait (bounded : Bool) (request : I.Request) : Work I (Option (I.Reply request)) :=
  taking fun t s => match t.reply request with
    | some reply => some (some reply, s)
    | none => if bounded then some (none, s) else none

def late : Work I Bool := taking fun t s => some (t.late, s)

end Uninterrupted

open Uninterrupted in
/-- Taking turns is what running an operation does. -/
theorem run_eq_finish? (op : Operation I α) (turns : List (Turn I)) (s : Store) :
    (op.run commit wait late).run (turns, s) = op.finish? turns s := by
  have ended : ∀ (turns : List (Turn I)) (s : Store) (result : Except RequestError α),
      finish? turns s (finish result) = some (result, turns, s) := by
    intro turns s result
    cases turns <;> rfl
  induction op generalizing turns s with
  | finish result => exact (ended turns s result).symm
  | transact body next ih =>
      cases turns with
      | nil => simp [run, finish?, commit]
      | cons t turns =>
          cases ran : body.run t.moment s with
          | error e => simp [run, finish?, commit, step?, ran, ended]
          | ok done => simp [run, finish?, commit, step?, ran, ih]
  | await bounded request next ih =>
      cases turns with
      | nil => simp [run, finish?, wait]
      | cons t turns =>
          cases replied : t.reply request with
          | some reply => simp [run, finish?, wait, step?, replied, ih]
          | none => cases bounded <;> simp [run, finish?, wait, step?, replied, ended]
  | checkpoint next ih =>
      cases turns with
      | nil => simp [run, finish?, late]
      | cons t turns =>
          have ih := ih turns s
          cases reached : t.late <;> simp [run, finish?, late, step?, reached, ended] at ih ⊢
          exact ih

/-- Every transaction that the operation can still commit satisfies `G`, which is told what the
operation did before, the moment, the store before and after, and what is left. -/
def Always (G : List (Deed I) → Moment → Store → Store → Operation I α → Prop) :
    List (Deed I) → Operation I α → Prop
  | _, finish _ => True
  | past, transact body next => ∀ m s b s', body.Commits m s b s' →
      G past m s s' (next b) ∧ Always G (past ++ [.committed m s s']) (next b)
  | past, await _ request next => ∀ reply, Always G (past ++ [.answered request reply]) (next reply)
  | past, checkpoint next => Always G (past ++ [.passed]) next

variable {G : List (Deed I) → Moment → Store → Store → Operation I α → Prop}

theorem Always.imp {G' : List (Deed I) → Moment → Store → Store → Operation I α → Prop}
    (always : Always G past op)
    (each : ∀ past m s s' rest, G past m s s' rest → G' past m s s' rest) :
    Always G' past op := by
  induction op generalizing past with
  | finish result => trivial
  | transact body next ih =>
      intro m s b s' committed
      obtain ⟨holds, onward⟩ := always m s b s' committed
      exact ⟨each _ _ _ _ _ holds, ih b onward⟩
  | await bounded request next ih => exact fun reply => ih reply (always reply)
  | checkpoint next ih => exact ih always

/-- A turn leaves an operation whose transactions satisfy `G`, and only a commit writes. -/
theorem Always.step (always : Always G past op) (stepped : op.step? t s = some (d, rest, s')) :
    Always G (past ++ [d]) rest ∧
      ((∃ m, d = .committed m s s' ∧ G past m s s' rest) ∨
        s' = s ∧ ∀ m before after, d ≠ .committed m before after) := by
  cases step?_eq_some.mp stepped with
  | committed committed =>
      obtain ⟨holds, onward⟩ := always _ _ _ _ committed
      exact ⟨onward, .inl ⟨_, rfl, holds⟩⟩
  | failed | unanswered | late => exact ⟨trivial, .inr ⟨rfl, by simp⟩⟩
  | answered => exact ⟨always _, .inr ⟨rfl, by simp⟩⟩
  | passed => exact ⟨always, .inr ⟨rfl, by simp⟩⟩

end Operation

namespace Fetch

variable {I : Interface} {α β : Type} {x : Fetch I α} {deeds : List (Deed I)}

/-- The calls may end with `a`, after these deeds. -/
inductive Yields : Fetch I α → List (Deed I) → α → Prop where
  | done {a : α} : Yields (.done (.ok a)) [] a
  | ask {request : I.Request} {next : I.Reply request → Fetch I α} {deeds : List (Deed I)} {a : α}
      (reply : I.Reply request) (rest : Yields (next reply) deeds a) :
      Yields (.ask request next) (.answered request reply :: deeds) a
  | pause {next : Fetch I α} {deeds : List (Deed I)} {a : α} (rest : Yields next deeds a) :
      Yields (.pause next) (.passed :: deeds) a

@[simp] theorem yields_pure {a b : α} :
    (pure b : Fetch I α).Yields deeds a ↔ deeds = [] ∧ a = b := by
  constructor
  · intro yields
    cases yields
    exact ⟨rfl, rfl⟩
  · rintro ⟨rfl, rfl⟩
    exact .done

theorem yields_bind {f : α → Fetch I β} {b : β} (yields : (x >>= f).Yields deeds b) :
    ∃ first second a, x.Yields first a ∧ (f a).Yields second b ∧ deeds = first ++ second := by
  induction x generalizing deeds with
  | done result =>
      cases result with
      | error e => cases yields
      | ok a => exact ⟨[], deeds, a, .done, yields, rfl⟩
  | ask request next ih =>
      obtain _ | ⟨reply, rest⟩ := yields
      obtain ⟨first, second, a, found, followed, rfl⟩ := ih reply rest
      exact ⟨_, second, a, .ask reply found, followed, rfl⟩
  | pause next ih =>
      obtain _ | _ | rest := yields
      obtain ⟨first, second, a, found, followed, rfl⟩ := ih rest
      exact ⟨_, second, a, .pause found, followed, rfl⟩

theorem unfinished_bounded {next : α → Operation I β} (each : ∀ a, (next a).Unfinished) :
    (x.bounded next).Unfinished := by
  cases x with
  | done result =>
      cases result with
      | error e =>
          intro b ended
          cases ended
      | ok a => exact each a
  | ask | pause =>
      intro b ended
      cases ended

theorem always_bounded {G : List (Deed I) → Moment → Store → Store → Operation I β → Prop}
    {past : List (Deed I)} {next : α → Operation I β}
    (each : ∀ deeds a, x.Yields deeds a → (next a).Always G (past ++ deeds)) :
    (x.bounded next).Always G past := by
  induction x generalizing past with
  | done result =>
      cases result with
      | error e => trivial
      | ok a => simpa only [bounded, List.append_nil] using each [] a .done
  | ask request k ih =>
      intro reply
      refine ih reply fun deeds a yields => ?_
      simpa using each _ a (.ask reply yields)
  | pause k ih =>
      refine ih fun deeds a yields => ?_
      simpa using each _ a (.pause yields)

end Fetch

namespace Operation

variable {I : Interface} {α β σ φ : Type} {past : List (Deed I)}

theorem always_map {f : α → β} {op : Operation I α}
    {G : List (Deed I) → Moment → Store → Store → Operation I β → Prop}
    (always : op.Always (fun past m s s' rest => G past m s s' (rest.map f)) past) :
    (op.map f).Always G past := by
  induction op generalizing past with
  | finish result => trivial
  | transact body next ih =>
      intro m s b s' committed
      obtain ⟨holds, onward⟩ := always m s b s' committed
      exact ⟨holds, ih b onward⟩
  | await bounded request next ih => exact fun reply => ih reply (always reply)
  | checkpoint next ih => exact ih always

variable {G : List (Deed I) → Moment → Store → Store → Operation I α → Prop}

/-- An operation in two phases commits twice: first it reads, writes nothing and is not finished,
then it writes with what it had read and was told. -/
theorem always_twoPhase {read : Transaction σ} {fetch : σ → Fetch I φ}
    {write : σ → φ → Transaction α}
    (reads : ∀ m s rest, rest.Unfinished → G past m s s rest)
    (writes : ∀ m₀ s₀ snapshot s₁ deeds fetched m s a s', read.Commits m₀ s₀ snapshot s₁ →
      (fetch snapshot).Yields deeds fetched → (write snapshot fetched).Commits m s a s' →
      G (past ++ .committed m₀ s₀ s₀ :: deeds) m s s' (finish (.ok a))) :
    (twoPhase read fetch write).Always G past := by
  intro m₀ s₀ snapshot s₁ dropped
  simp only [Transaction.commits_bind, Transaction.commits_get, Transaction.commits_set,
    Transaction.commits_pure, and_assoc, exists_and_left, exists_eq_left] at dropped
  obtain ⟨_, s₂, found, rfl, _, rfl⟩ := dropped
  refine ⟨reads _ _ _ (Fetch.unfinished_bounded fun _ _ ended => by cases ended), ?_⟩
  refine Fetch.always_bounded fun deeds fetched yields m s a s' written => ⟨?_, trivial⟩
  rw [List.append_assoc]
  exact writes m₀ s₁ snapshot s₂ deeds fetched m s a s' found yields written

/-- An operation of one transaction. -/
theorem always_single {body : Transaction α}
    (writes : ∀ m s a s', body.Commits m s a s' → G past m s s' (finish (.ok a))) :
    (single body).Always G past :=
  fun m s a s' written => ⟨writes m s a s' written, trivial⟩

end Operation

end Vestibule
