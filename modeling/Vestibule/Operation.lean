import Vestibule.Store.Transaction

/-! Operations: transactions with calls to outside services between them. While an operation waits
for an answer it holds no transaction, and other operations may commit. -/

namespace Vestibule

/-- The questions that outside services are asked, and the answers to each. -/
structure Interface where
  Request : Type
  Reply : Request → Type

/-- What is left of an operation. A transaction that fails ends it. A wait may be bounded by the
deadline of the request. -/
inductive Operation (I : Interface) (α : Type) : Type 1 where
  | finish (result : Except RequestError α)
  | transact {β : Type} (body : Transaction β) (next : β → Operation I α)
  | await (bounded : Bool) (request : I.Request) (next : I.Reply request → Operation I α)
  | checkpoint (next : Operation I α)

/-- Calls to outside services without a transaction. A `pause` gives way, so that a deadline that
has been reached is noticed. -/
inductive Fetch (I : Interface) (α : Type) where
  | done (result : Except RequestError α)
  | ask (request : I.Request) (next : I.Reply request → Fetch I α)
  | pause (next : Fetch I α)

namespace Fetch

variable {I : Interface} {α β : Type}

def bind (x : Fetch I α) (f : α → Fetch I β) : Fetch I β :=
  match x with
  | done (.ok a) => f a
  | done (.error e) => done (.error e)
  | ask request next => ask request fun reply => bind (next reply) f
  | pause next => pause (bind next f)

instance : Monad (Fetch I) where
  pure a := done (.ok a)
  bind := bind

def fail (e : RequestError) : Fetch I α := done (.error e)

def call (request : I.Request) : Fetch I (I.Reply request) :=
  ask request fun reply => done (.ok reply)

/-- The operation that makes the calls within the deadline and goes on with their result. -/
def bounded (x : Fetch I α) (next : α → Operation I β) : Operation I β :=
  match x with
  | done (.ok a) => next a
  | done (.error e) => .finish (.error e)
  | ask request k => .await true request fun reply => bounded (k reply) next
  | pause k => .checkpoint (bounded k next)

end Fetch

namespace Operation

variable {I : Interface} {α β σ φ : Type}

/-- One transaction. -/
def single (body : Transaction α) : Operation I α :=
  transact body fun a => finish (.ok a)

/-- Reads under one transaction, which it drops, calls outside services within the deadline, and
writes under a second transaction. -/
def twoPhase (read : Transaction σ) (fetch : σ → Fetch I φ) (write : σ → φ → Transaction α) :
    Operation I α :=
  let dropped : Transaction σ := do
    let before ← get
    let snapshot ← read
    set before
    return snapshot
  transact dropped fun snapshot => (fetch snapshot).bounded fun fetched =>
    single (write snapshot fetched)

def map {β : Type} (f : α → β) : Operation I α → Operation I β
  | finish result => finish (result.map f)
  | transact body next => transact body fun b => map f (next b)
  | await bounded request next => await bounded request fun reply => map f (next reply)
  | checkpoint next => checkpoint (map f next)

/-- Runs an operation: `commit` runs a transaction, `wait` asks an outside service and has no reply
where the deadline comes first, and `late` tells whether the deadline has been reached. -/
def run {m : Type → Type} [Monad m]
    (commit : {β : Type} → Transaction β → m (Except RequestError β))
    (wait : Bool → (request : I.Request) → m (Option (I.Reply request)))
    (late : m Bool) : Operation I α → m (Except RequestError α)
  | finish result => pure result
  | transact body next => do
    match ← commit body with
    | .ok b => run commit wait late (next b)
    | .error e => pure (.error e)
  | await bounded request next => do
    match ← wait bounded request with
    | some reply => run commit wait late (next reply)
    | none => pure (.error .deadlineExceeded)
  | checkpoint next => do
    if ← late then pure (.error .deadlineExceeded) else run commit wait late next

end Operation

/-- When a wait that starts at `now` for an answer that takes `delay` ends: with the answer, or
before it at the deadline. An answer that comes at the deadline itself counts, and so does one that
is not waited for. -/
def waitUntil (deadline : Option Nat) (now delay : Nat) : Nat × Bool :=
  match deadline with
  | some d => if 0 < delay ∧ d < now + delay then (max now d, false) else (now + delay, true)
  | none => (now + delay, true)

/-- Whether the deadline has been reached at `now`. -/
def isPast (deadline : Option Nat) (now : Nat) : Bool := deadline.any (· ≤ now)

end Vestibule
