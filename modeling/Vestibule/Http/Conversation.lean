import Vestibule.Http.Message
import Vestibule.Json.Reader
import Vestibule.Provider.Retry

/-! Conversations with servers: requests and waits, and a result in the end, unless the conversation
is broken off. -/

namespace Vestibule

inductive Conversation (α : Type) where
  | done (result : α)
  | send (request : HttpRequest) (next : Except TransportFault HttpResponse → Conversation α)
  | wait (delay : Span) (next : Conversation α)
  | broken

namespace Conversation

variable {α β : Type}

def bind (x : Conversation α) (f : α → Conversation β) : Conversation β :=
  match x with
  | done a => f a
  | send request next => send request fun reply => bind (next reply) f
  | wait delay next => wait delay (bind next f)
  | broken => broken

instance : Monad Conversation where
  pure := done
  bind := bind

/-- What a conversation comes to when `answer` answers its requests. -/
def outcome (answer : HttpRequest → Except TransportFault HttpResponse) :
    Conversation α → Option α
  | done a => some a
  | send request next => outcome answer (next (answer request))
  | wait _ next => outcome answer next
  | broken => none

/-- Redirections in a row that are followed. -/
def redirectLimit : Nat := 10

/-- Sends a request and follows at most `left` redirections. -/
def follow : Nat → HttpRequest → Conversation (Except ProviderError HttpResponse)
  | left, request =>
    .send request fun reply =>
      match reply with
      | .error fault => .done (.error (.requestFailed fault))
      | .ok response =>
        match (response.header? "location").bind (request.redirected? response.status) with
        | none => .done (.ok response)
        | some next =>
          match left with
          | 0 => .done (.error (.requestFailed .tooManyRedirects))
          | left + 1 => follow left next

end Conversation

/-- A conversation that a provider's failure ends. -/
abbrev ProviderConversation := ExceptT ProviderError Conversation

namespace ProviderConversation

variable {α : Type}

def fetch (request : Except TransportFault HttpRequest) : ProviderConversation HttpResponse :=
  match request with
  | .ok request => ExceptT.mk (Conversation.follow Conversation.redirectLimit request)
  | .error fault => throw (.requestFailed fault)

/-- An answer that is no success is an error with its text. -/
def fetchSuccess (request : Except TransportFault HttpRequest) :
    ProviderConversation HttpResponse := do
  let response ← fetch request
  if response.isSuccess then return response
  else throw (.apiError response.status response.text)

def need (a : Option α) (e : ProviderError) : ProviderConversation α :=
  match a with
  | some a => pure a
  | none => throw e

/-- The record in the body of a successful answer. -/
def fetchRecord (request : Except TransportFault HttpRequest) (decode : Json → Option α) :
    ProviderConversation α := do
  let response ← fetchSuccess request
  need (do decode (← Json.scan? response.body))
    (.invalidResponse "error decoding response body")

/-- Tries again after failures that may pass. -/
def retrying (p : RetryPolicy) (attempt : ProviderConversation α) : ProviderConversation α :=
  ExceptT.mk do
    match ← p.run (fun delay => Conversation.wait delay (.done ())) ProviderError.isTransient
      attempt.run with
    | some result => return result
    | none => Conversation.broken

end ProviderConversation

end Vestibule
