import Vestibule.Http.Conversation

/-! What is said in conversations with servers, whatever comes back: which requests are sent, how
often, and what the replies make of the result. With redirections a request leads to others, without
them it is sent alone. -/

namespace Vestibule

/-- What comes back after a request: an answer, or how the request failed. -/
abbrev HttpReply := Except TransportFault HttpResponse

/-- Requests with what came back after each. -/
abbrev Exchanges := List (HttpRequest × HttpReply)

namespace HttpReply

/-- No redirection. -/
def IsDirect (reply : HttpReply) : Prop :=
  ∀ response, reply = .ok response → response.status ∉ [301, 302, 303, 307, 308]

/-- A failure that may pass: no connection, no answer in time, or an answer that says so by its
status. What a status from 600 on would mean is nowhere said; it is taken for a server's error. -/
def MayPass : HttpReply → Prop
  | .error fault => fault = .timeout ∨ fault = .connect
  | .ok response => (500 ≤ response.status ∧ response.status < 600) ∨ response.status = 429 ∨
      600 ≤ response.status

end HttpReply

/-- A request, and each that a redirection of the one before leads to. -/
inductive Trail : HttpRequest → Exchanges → Prop
  | ends {request : HttpRequest} {reply : HttpReply} : Trail request [(request, reply)]
  | leads {request next : HttpRequest} {response : HttpResponse} {log : Exchanges}
      (redirected : (response.header? "location").bind (request.redirected? response.status) =
        some next) (rest : Trail next log) : Trail request ((request, .ok response) :: log)

namespace Conversation

variable {α β : Type}

/-- What is exchanged in a conversation, and its result, where the replies come in this order. -/
def run : Conversation α → (Nat → HttpReply) → Exchanges × Option α
  | done a, _ => ([], some a)
  | send request next, replies =>
    let (log, result) := (next (replies 0)).run fun n => replies (n + 1)
    ((request, replies 0) :: log, result)
  | wait _ next, replies => next.run replies
  | broken, _ => ([], none)

theorem done_bind {a : α} {f : α → Conversation β} : (done a >>= f) = f a := rfl

/-- A conversation can go like this. -/
inductive Goes : Conversation α → Exchanges → Option α → Prop
  | done {a : α} : Goes (done a) [] (some a)
  | send {request : HttpRequest} {next : HttpReply → Conversation α} {reply : HttpReply}
      {log : Exchanges} {result : Option α} (rest : Goes (next reply) log result) :
      Goes (send request next) ((request, reply) :: log) result
  | wait {delay : Span} {next : Conversation α} {log : Exchanges} {result : Option α}
      (rest : Goes next log result) : Goes (wait delay next) log result
  | broken : Goes broken [] none

section

variable {x : Conversation α} {f : α → Conversation β} {log : Exchanges} {result : Option β}
  {replies : Nat → HttpReply}

theorem goes_run : x.Goes (x.run replies).1 (x.run replies).2 := by
  induction x generalizing replies with
  | done => exact .done
  | send request next ih => exact .send (ih _)
  | wait delay next ih => exact .wait ih
  | broken => exact .broken

/-- Every reply is the one that comes at its place. -/
theorem run_replies : (x.run replies).1.map Prod.snd =
    (List.range (x.run replies).1.length).map replies := by
  induction x generalizing replies with
  | done | broken => rfl
  | wait delay next ih => exact ih
  | send request next ih =>
      simp only [run, List.map_cons, List.length_cons, List.range_succ_eq_map, List.map_map, ih]
      rfl

theorem run_direct (direct : ∀ n, (replies n).IsDirect) :
    ∀ e ∈ (x.run replies).1, e.2.IsDirect := by
  intro e member
  have listed : e.2 ∈ (x.run replies).1.map Prod.snd := List.mem_map_of_mem member
  rw [run_replies] at listed
  obtain ⟨n, -, same⟩ := List.mem_map.mp listed
  exact same ▸ direct n

/-- Nothing is exchanged where a result is only made use of. -/
theorem run_bind_done {g : α → β} (uses : ∀ a, f a = done (g a)) :
    (x.bind f).run replies = ((x.run replies).1, (x.run replies).2.map g) := by
  induction x generalizing replies with
  | done a => rw [bind, uses]; rfl
  | broken => rfl
  | wait delay next ih => exact ih
  | send request next ih =>
      rw [bind, run, ih]
      rfl

/-- One conversation after another, unless the first is broken off. -/
theorem goes_bind (goes : (x.bind f).Goes log result) :
    (result = none ∧ x.Goes log none) ∨
      ∃ a front back, log = front ++ back ∧ x.Goes front (some a) ∧ (f a).Goes back result := by
  induction x generalizing log with
  | done a => exact .inr ⟨a, [], log, rfl, .done, goes⟩
  | broken =>
      cases goes
      exact .inl ⟨rfl, .broken⟩
  | wait delay next ih =>
      cases goes with
      | wait rest =>
          rcases ih rest with ⟨none, first⟩ | ⟨a, front, back, rfl, first, second⟩
          · exact .inl ⟨none, .wait first⟩
          · exact .inr ⟨a, front, back, rfl, .wait first, second⟩
  | send request next ih =>
      cases goes with
      | send rest =>
          rcases ih _ rest with ⟨none, first⟩ | ⟨a, front, back, rfl, first, second⟩
          · exact .inl ⟨none, .send first⟩
          · exact .inr ⟨a, _ :: front, back, rfl, .send first, second⟩

end

/-- A success is no redirection. -/
theorem redirected?_of_success {request : HttpRequest} {response : HttpResponse}
    {location : String} (success : response.isSuccess = true) :
    request.redirected? response.status location = none := by
  have other : response.status ∉ [301, 302, 303, 307, 308] := by
    simp only [HttpResponse.isSuccess, Bool.and_eq_true, decide_eq_true_eq] at success
    simp only [List.mem_cons, List.not_mem_nil, or_false]
    omega
  simp [HttpRequest.redirected?, other]

/-- A request is pursued along its redirections. A success is the last answer, and the result. -/
def IsPursuit (x : Conversation (Except ProviderError HttpResponse)) (request : HttpRequest) :
    Prop :=
  ∀ log result, x.Goes log result → Trail request log ∧
    ∃ r last outcome, log.getLast? = some (r, last) ∧ result = some outcome ∧
      ∀ response, response.isSuccess = true → (outcome = .ok response ↔ last = .ok response)

/-- A request is answered for good, or with a redirection that is followed. -/
theorem goes_follow {left : Nat} {request : HttpRequest} {log : Exchanges}
    {result : Option (Except ProviderError HttpResponse)}
    (goes : (follow left request).Goes log result) :
    (∃ reply outcome, log = [(request, reply)] ∧ result = some outcome ∧
      ∀ response, response.isSuccess = true → (outcome = .ok response ↔ reply = .ok response)) ∨
    ∃ k next response rest, left = k + 1 ∧ log = (request, .ok response) :: rest ∧
      (response.header? "location").bind (request.redirected? response.status) = some next ∧
        (follow k next).Goes rest result := by
  rw [follow] at goes
  cases goes with
  | @send _ _ reply rest _ goes =>
  cases reply with
  | error fault =>
      cases goes
      exact .inl ⟨_, _, rfl, rfl, fun _ _ => by simp⟩
  | ok response =>
      cases redirected : (response.header? "location").bind
        (request.redirected? response.status) with
      | none =>
          simp only [redirected] at goes
          cases goes
          exact .inl ⟨_, _, rfl, rfl, fun _ _ => by simp⟩
      | some next =>
          simp only [redirected] at goes
          cases left with
          | zero =>
              cases goes
              refine .inl ⟨_, _, rfl, rfl, fun answer success => ⟨nofun, ?_⟩⟩
              rintro ⟨⟩
              obtain ⟨_, _, led⟩ := Option.bind_eq_some_iff.mp redirected
              cases (redirected?_of_success success).symm.trans led
          | succ k => exact .inr ⟨k, next, response, rest, rfl, rfl, redirected, goes⟩

/-- By induction on the redirections that are still followed. -/
theorem isPursuit_follow {left : Nat} {request : HttpRequest} :
    (follow left request).IsPursuit request := by
  intro log result goes
  induction left generalizing request log with
  | zero =>
      obtain ⟨reply, outcome, rfl, same, answered⟩ | ⟨_, _, _, _, none, _⟩ := goes_follow goes
      · exact ⟨.ends, request, reply, outcome, rfl, same, answered⟩
      · cases none
  | succ left ih =>
      obtain ⟨reply, outcome, rfl, same, answered⟩ |
        ⟨_, next, response, rest, ⟨⟩, rfl, redirected, goes⟩ := goes_follow goes
      · exact ⟨.ends, request, reply, outcome, rfl, same, answered⟩
      · obtain ⟨trail, r, last, outcome, final, same, answered⟩ := ih rest goes
        refine ⟨.leads redirected trail, r, last, outcome, ?_, same, answered⟩
        rw [List.getLast?_cons, final]
        rfl

/-- One exchange, from whose reply the result is read. -/
def IsSingle {ε : Type} (x : Conversation (Except ε α)) (request : HttpRequest)
    (read : HttpReply → Except ε α) : Prop :=
  ∀ log result, x.Goes log result → (∀ e ∈ log, e.2.IsDirect) →
    ∃ reply, log = [(request, reply)] ∧ result = some (read reply)

/-- Without a redirection there is one request. -/
theorem isSingle_follow {left : Nat} {request : HttpRequest} :
    (follow left request).IsSingle request (Except.mapError .requestFailed) := by
  intro log result goes direct
  rw [follow] at goes
  cases goes with
  | @send _ _ reply rest _ goes =>
      cases reply with
      | error fault =>
          cases goes
          exact ⟨_, rfl, rfl⟩
      | ok response =>
          have stays (location : String) : request.redirected? response.status location = none := by
            have other := direct _ List.mem_cons_self response rfl
            simp [HttpRequest.redirected?, other]
          have ends : (response.header? "location").bind
              (request.redirected? response.status) = none := by
            cases response.header? "location" with
            | none => rfl
            | some location => exact stays location
          simp only [ends] at goes
          cases goes
          exact ⟨_, rfl, rfl⟩

end Conversation

/-- One request over and over, at most `most` times, and again only after a reply of this kind. -/
structure Repeats (request : HttpRequest) (most : Nat) (again : HttpReply → Prop)
    (log : Exchanges) : Prop where
  same : ∀ e ∈ log, e.1 = request
  few : log.length ≤ most
  again : ∀ e ∈ log.dropLast, again e.2

section

variable {request : HttpRequest} {most : Nat} {again : HttpReply → Prop} {reply : HttpReply}
  {log : Exchanges}

theorem Repeats.once (allowed : 1 ≤ most) : Repeats request most again [(request, reply)] :=
  ⟨by simp, allowed, by simp⟩

theorem Repeats.cons (repeats : Repeats request most again log) (first : again reply) :
    Repeats request (most + 1) again ((request, reply) :: log) where
  same := by simpa using repeats.same
  few := Nat.succ_le_succ repeats.few
  again := by
    intro e member
    cases log with
    | nil => cases member
    | cons =>
        rw [List.dropLast_cons_cons] at member
        rcases List.mem_cons.mp member with rfl | member
        · exact first
        · exact repeats.again e member

end

/-- Attempts, at most `most` of them: a last one with this outcome, and before it those whose
failures are tried again. -/
inductive Tries {ε α : Type} (trial : Exchanges → Except ε α → Prop) (mayPass : ε → Bool) :
    Nat → Exchanges → Except ε α → Prop
  | last {most : Nat} {log : Exchanges} {outcome : Except ε α} (tried : trial log outcome) :
      Tries trial mayPass (most + 1) log outcome
  | again {most : Nat} {front back : Exchanges} {failure : ε} {outcome : Except ε α}
      (tried : trial front (.error failure)) (passes : mayPass failure = true)
      (rest : Tries trial mayPass most back outcome) :
      Tries trial mayPass (most + 1) (front ++ back) outcome

section

variable {ε α : Type} {mayPass : ε → Bool} {most : Nat} {log : Exchanges} {outcome : Except ε α}

/-- Attempts of one exchange repeat its request. -/
theorem Tries.repeats {request : HttpRequest} {read : HttpReply → Except ε α}
    (tries : Tries (fun log outcome => ∃ reply, log = [(request, reply)] ∧ outcome = read reply)
      mayPass most log outcome) :
    Repeats request most
        (fun reply => ∃ failure, read reply = .error failure ∧ mayPass failure = true) log ∧
      ∃ reply, log.getLast? = some (request, reply) ∧ outcome = read reply := by
  induction tries with
  | last tried =>
      obtain ⟨reply, rfl, same⟩ := tried
      exact ⟨.once (Nat.le_add_left ..), reply, rfl, same⟩
  | again tried passes _ ih =>
      obtain ⟨reply, rfl, failed⟩ := tried
      obtain ⟨repeats, last, final, same⟩ := ih
      refine ⟨repeats.cons ⟨_, failed.symm, passes⟩, last, ?_, same⟩
      rw [List.singleton_append, List.getLast?_cons, final]
      rfl

end

namespace RetryPolicy

open Conversation

variable {ε α : Type} {most made : Nat} {nextDelay? : Span → Option Span} {mayPass : ε → Bool}
  {trial : Exchanges → Except ε α → Prop} {good : HttpRequest × HttpReply → Prop}
  {attempt : Conversation (Except ε α)} {delay : Span} {log : Exchanges}
  {result : Option (Option (Except ε α))}

/-- An attempt is repeated as often as is allowed, and after failures that may pass. The outcome of
the last one is the result, or there is none after a failure. By induction on the attempts that are
left. -/
theorem goes_attempts
    (each : ∀ log result, attempt.Goes log result → (∀ e ∈ log, good e) →
      ∃ outcome, result = some outcome ∧ trial log outcome)
    (goes : (attempts most nextDelay? (fun delay => .wait delay (.done ())) mayPass attempt made
      delay).Goes log result) (all : ∀ e ∈ log, good e) :
    ∃ outcome, Tries trial mayPass (max 1 (most - made)) log outcome ∧
      (result = some (some outcome) ∨
        result = some none ∧ ∃ failure, outcome = .error failure) := by
  induction made, delay using attempts.induct most mayPass generalizing log result with
  | case1 made delay ih =>
  rw [attempts] at goes
  rcases goes_bind goes with ⟨-, cut⟩ | ⟨outcome, front, back, rfl, first, rest⟩
  · obtain ⟨_, returned, _⟩ := each _ _ cut all
    cases returned
  obtain ⟨_, same, tried⟩ := each _ _ first fun e member => all e (List.mem_append_left _ member)
  obtain rfl := Option.some.inj same
  have once : Tries trial mayPass (max 1 (most - made)) front outcome := by
    rw [show max 1 (most - made) = max 1 (most - made) - 1 + 1 by omega]
    exact .last tried
  cases outcome with
  | ok a =>
      cases rest
      exact ⟨_, by rwa [List.append_nil], .inl rfl⟩
  | error failure =>
      simp only [] at rest
      split at rest <;> rename_i due
      · cases rest with
        | wait rest =>
        rw [Conversation.bind] at rest
        cases next : nextDelay? delay with
        | none =>
            rw [next] at rest
            cases rest
            exact ⟨_, by rwa [List.append_nil], .inr ⟨rfl, failure, rfl⟩⟩
        | some delay' =>
            rw [next] at rest
            obtain ⟨outcome, tries, ended⟩ := ih failure due delay' rest fun e member =>
              all e (List.mem_append_right _ member)
            have room : max 1 (most - made) = max 1 (most - (made + 1)) + 1 := by omega
            exact ⟨outcome, room ▸ .again tried due.1 tries, ended⟩
      · cases rest
        exact ⟨_, by rwa [List.append_nil], .inl rfl⟩

end RetryPolicy

namespace ProviderConversation

variable {α β : Type} {p : RetryPolicy} {request : HttpRequest} {log : Exchanges}

section

variable {x : ProviderConversation α} {f : α → ProviderConversation β}
  {result : Option (Except ProviderError β)}

/-- How one conversation goes on with another. -/
inductive Sequel (x : ProviderConversation α) (f : α → ProviderConversation β) :
    Exchanges → Option (Except ProviderError β) → Prop
  | cut {log : Exchanges} (first : x.run.Goes log none) : Sequel x f log none
  | failed {log : Exchanges} {e : ProviderError} (first : x.run.Goes log (some (.error e))) :
      Sequel x f log (some (.error e))
  | passed {front back : Exchanges} {a : α} {result : Option (Except ProviderError β)}
      (first : x.run.Goes front (some (.ok a))) (rest : (f a).run.Goes back result) :
      Sequel x f (front ++ back) result

theorem goes_bind (goes : (x >>= f).run.Goes log result) : Sequel x f log result := by
  rcases Conversation.goes_bind goes with ⟨rfl, first⟩ | ⟨outcome, front, back, rfl, first, rest⟩
  · exact .cut first
  · cases outcome with
    | error e =>
        cases rest
        rw [List.append_nil]
        exact .failed first
    | ok a => exact .passed first rest

theorem isSingle_bind {read : HttpReply → Except ProviderError α} {g : α → Except ProviderError β}
    (single : x.run.IsSingle request read) (reads : ∀ a, (f a).run = .done (g a)) :
    (x >>= f).run.IsSingle request fun reply => (read reply).bind g := by
  intro log result goes direct
  cases goes_bind goes with
  | cut first =>
      obtain ⟨_, -, returned⟩ := single _ _ first direct
      cases returned
  | failed first =>
      obtain ⟨reply, rfl, returned⟩ := single _ _ first direct
      exact ⟨reply, rfl, by simp only [← Option.some.inj returned]; rfl⟩
  | @passed _ back a _ first rest =>
      rw [reads] at rest
      cases rest
      rw [List.append_nil] at direct ⊢
      obtain ⟨reply, rfl, returned⟩ := single _ _ first direct
      exact ⟨reply, rfl, by simp only [← Option.some.inj returned]; rfl⟩

end

theorem isSingle_fetch :
    (fetch (.ok request)).run.IsSingle request (Except.mapError .requestFailed) :=
  Conversation.isSingle_follow

/-- What an answer comes to that must be a success. -/
def readSuccess (response : HttpResponse) : Except ProviderError HttpResponse :=
  if response.isSuccess then .ok response else .error (.apiError response.status response.text)

theorem readSuccess_eq_ok {reply : HttpReply} {response : HttpResponse} :
    (reply.mapError .requestFailed).bind readSuccess = .ok response ↔
      reply = .ok response ∧ response.isSuccess = true := by
  cases reply with
  | error fault => exact ⟨nofun, nofun⟩
  | ok answer =>
      change readSuccess answer = _ ↔ _
      rw [readSuccess, Except.ok.injEq]
      constructor
      · intro read
        split at read <;> cases read
        exact ⟨rfl, ‹_›⟩
      · rintro ⟨rfl, success⟩
        rw [if_pos success]

theorem run_requireSuccess {response : HttpResponse} :
    ExceptT.run (m := Conversation) (if response.isSuccess then pure response
      else throw (.apiError response.status response.text)) = .done (readSuccess response) := by
  rw [readSuccess]
  split <;> rfl

theorem isSingle_fetchSuccess : (fetchSuccess (.ok request)).run.IsSingle request
    fun reply => (reply.mapError .requestFailed).bind readSuccess :=
  isSingle_bind isSingle_fetch fun _ => run_requireSuccess

/-- The record that a successful answer holds. -/
def record? (decode : Json → Option α) (response : HttpResponse) : Option α :=
  (Json.scan? response.body).bind decode

def readRecord (decode : Json → Option α) (reply : HttpReply) : Except ProviderError α :=
  ((reply.mapError .requestFailed).bind readSuccess).bind fun response =>
    (record? decode response).elim (.error (.invalidResponse "error decoding response body")) .ok

variable {decode : Json → Option α} {reply : HttpReply}

theorem isSingle_fetchRecord :
    (fetchRecord (.ok request) decode).run.IsSingle request (readRecord decode) := by
  refine isSingle_bind isSingle_fetchSuccess fun response => ?_
  change (need (record? decode response) _).run = _
  cases record? decode response <;> rfl

theorem readRecord_eq_ok {a : α} (read : readRecord decode reply = .ok a) :
    ∃ response, reply = .ok response ∧ response.isSuccess ∧ record? decode response = some a := by
  rw [readRecord] at read
  cases succeeded : (reply.mapError .requestFailed).bind readSuccess with
  | error failure =>
      rw [succeeded] at read
      cases read
  | ok response =>
      obtain ⟨rfl, success⟩ := readSuccess_eq_ok.mp succeeded
      rw [succeeded] at read
      refine ⟨response, rfl, success, ?_⟩
      cases known : record? decode response with
      | none =>
          simp only [Except.bind, known] at read
          cases read
      | some b =>
          simp only [Except.bind, known] at read
          cases read
          rfl

theorem mayPass_of_readRecord {e : ProviderError} (read : readRecord decode reply = .error e)
    (transient : e.isTransient = true) : reply.MayPass := by
  cases reply with
  | error fault =>
      cases read
      simpa [ProviderError.isTransient, HttpReply.MayPass] using transient
  | ok response =>
      change (readSuccess response).bind _ = _ at read
      rw [readSuccess] at read
      split at read
      · change Option.elim _ _ _ = _ at read
        cases known : record? decode response <;> rw [known] at read <;> cases read
        cases transient
      · cases read
        have told : 500 ≤ response.status ∨ response.status = 429 := by
          simpa [ProviderError.isTransient] using transient
        simp only [HttpReply.MayPass]
        omega

/-- A request is made, or its address or headers are bad. -/
theorem build_error {method : HttpMethod} {url : String} {headers : List (String × String)}
    {body : List UInt8} {fault : TransportFault}
    (failed : HttpRequest.build method url headers body = .error fault) : fault = .badRequest := by
  rw [HttpRequest.build] at failed
  repeat' split at failed
  all_goals cases failed
  all_goals rfl

/-- A failure before any request is not retried unless it may pass. -/
theorem run_retrying_of_done {attempt : ProviderConversation α} {e : ProviderError}
    (failed : attempt.run = .done (.error e)) (stays : e.isTransient = false) :
    (retrying p attempt).run = .done (.error e) := by
  rw [retrying, RetryPolicy.run, RetryPolicy.attempts, failed]
  simp only [Conversation.done_bind, stays, Bool.false_eq_true, false_and, if_false]
  rfl

/-- Retries of an attempt: the outcome of the last one is the result, unless the delays end. -/
theorem goes_retrying {trial : Exchanges → Except ProviderError α → Prop}
    {good : HttpRequest × HttpReply → Prop} {attempt : ProviderConversation α}
    {result : Option (Except ProviderError α)}
    (each : ∀ log result, attempt.run.Goes log result → (∀ e ∈ log, good e) →
      ∃ outcome, result = some outcome ∧ trial log outcome)
    (goes : (retrying p attempt).run.Goes log result) (all : ∀ e ∈ log, good e) :
    ∃ outcome, Tries trial ProviderError.isTransient (max 1 p.maxAttempts) log outcome ∧
      (result = some outcome ∨ result = none ∧ ∃ failure, outcome = .error failure) := by
  rcases Conversation.goes_bind goes with ⟨-, cut⟩ | ⟨outcome, front, back, rfl, first, rest⟩
  · obtain ⟨_, -, ended⟩ := RetryPolicy.goes_attempts each cut all
    rcases ended with ended | ⟨ended, -⟩ <;> cases ended
  · obtain ⟨outcome, tries, ended⟩ := RetryPolicy.goes_attempts each first fun e member =>
      all e (List.mem_append_left _ member)
    rcases ended with returned | ⟨returned, failed⟩ <;> cases returned <;> cases rest <;>
      rw [List.append_nil]
    · exact ⟨outcome, tries, .inl rfl⟩
    · exact ⟨outcome, tries, .inr ⟨rfl, failed⟩⟩

/-- Retries of one exchange. -/
theorem goes_retrying_single {read : HttpReply → Except ProviderError α}
    {attempt : ProviderConversation α} {result : Option (Except ProviderError α)}
    (single : attempt.run.IsSingle request read) (goes : (retrying p attempt).run.Goes log result)
    (direct : ∀ e ∈ log, e.2.IsDirect) :
    Repeats request (max 1 p.maxAttempts)
        (fun reply => ∃ failure, read reply = .error failure ∧ failure.isTransient = true) log ∧
      ∃ reply, log.getLast? = some (request, reply) ∧ (result = some (read reply) ∨
        result = none ∧ ∃ failure, read reply = .error failure) := by
  have each : ∀ log result, attempt.run.Goes log result → (∀ e ∈ log, e.2.IsDirect) →
      ∃ outcome, result = some outcome ∧ ∃ reply, log = [(request, reply)] ∧ outcome = read reply :=
    fun log result goes direct =>
      let ⟨reply, alone, same⟩ := single log result goes direct
      ⟨read reply, same, reply, alone, rfl⟩
  obtain ⟨outcome, tries, ended⟩ := goes_retrying each goes direct
  obtain ⟨repeats, reply, final, rfl⟩ := tries.repeats
  exact ⟨repeats, reply, final, ended⟩

/-! Redirections are followed in each attempt. -/

/-- What a request leads to where a success is asked for. -/
def Pursued (request : HttpRequest) (log : Exchanges)
    (outcome : Except ProviderError HttpResponse) : Prop :=
  Trail request log ∧ ∃ r last, log.getLast? = some (r, last) ∧
    ∀ response, outcome = .ok response ↔ last = .ok response ∧ response.isSuccess = true

theorem pursued_fetchSuccess {result : Option (Except ProviderError HttpResponse)}
    (goes : (fetchSuccess (.ok request)).run.Goes log result) :
    ∃ outcome, result = some outcome ∧ Pursued request log outcome := by
  cases goes_bind goes with
  | cut first =>
      obtain ⟨-, _, _, _, -, returned, -⟩ := Conversation.isPursuit_follow _ _ first
      cases returned
  | failed first =>
      obtain ⟨trail, r, last, _, final, returned, answered⟩ :=
        Conversation.isPursuit_follow _ _ first
      cases returned
      exact ⟨_, rfl, trail, r, last, final, fun response =>
        ⟨nofun, fun ⟨same, success⟩ => nomatch (answered response success).mpr same⟩⟩
  | @passed front back answer _ first rest =>
      obtain ⟨trail, r, last, _, final, returned, answered⟩ :=
        Conversation.isPursuit_follow _ _ first
      cases returned
      have read : (Conversation.done (readSuccess answer)).Goes back result :=
        run_requireSuccess ▸ rest
      cases read
      rw [List.append_nil]
      refine ⟨_, rfl, trail, r, last, final, fun response => ?_⟩
      refine (@readSuccess_eq_ok (.ok answer) response).trans (and_congr_left fun success => ?_)
      rw [← answered response success, Except.ok.injEq, Except.ok.injEq]

/-- With retries the request is pursued again and again, and the last answer decides. -/
theorem exists_trails {most : Nat} {mayPass : ProviderError → Bool}
    {outcome : Except ProviderError HttpResponse}
    (tries : Tries (Pursued request) mayPass most log outcome) :
    ∃ trails : List Exchanges, log = trails.flatten ∧ (∀ trail ∈ trails, Trail request trail) ∧
      trails.length ≤ most ∧ ∃ r last, log.getLast? = some (r, last) ∧
        ∀ response, outcome = .ok response ↔ last = .ok response ∧ response.isSuccess = true := by
  induction tries with
  | @last _ log _ tried =>
      obtain ⟨trail, answered⟩ := tried
      exact ⟨[log], by simp, by simpa using trail, by simp, answered⟩
  | @again _ front back _ _ tried _ _ ih =>
      obtain ⟨trails, rfl, each, few, r, last, final, answered⟩ := ih
      refine ⟨front :: trails, rfl, ?_, Nat.succ_le_succ few, r, last, ?_, answered⟩
      · simpa using ⟨tried.1, each⟩
      · rw [List.getLast?_append, final]
        rfl

end ProviderConversation

end Vestibule
