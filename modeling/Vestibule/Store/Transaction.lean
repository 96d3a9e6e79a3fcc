import Vestibule.Error
import Vestibule.Provider.Spec
import Vestibule.Store.Basic

/-! Transactions: work on a private copy of the store, which replaces the shared one when the work
ends well and is dropped when it fails. -/

namespace Vestibule

/-- A secret of 32 bytes. -/
structure Secret where
  bytes : List UInt8
  length_bytes : bytes.length = SecretTokenKind.secretBytes

theorem Words.length_bigEndian (width n : Nat) : (Words.bigEndian width n).length = width := by
  induction width generalizing n with
  | zero => rfl
  | succ w ih => simp [Words.bigEndian, ih]

def Secret.ofNat (n : Nat) : Secret :=
  ⟨Words.bigEndian SecretTokenKind.secretBytes n, Words.length_bigEndian _ _⟩

namespace Secret

def token (s : Secret) (k : SecretTokenKind) : String := k.render s.bytes

def digest (s : Secret) : List UInt8 := Sha256.digest s.bytes

end Secret

/-- What a transaction sees besides the store: the clock, values that nobody used before, whether
the audit log can be written, and what the OAuth client answers at once. -/
structure Moment where
  now : Instant
  eventId : Uuid
  userId : Uuid
  sessionId : Uuid
  verifiedEmailId : Uuid
  claimsId : Uuid
  secret : Secret
  salt : List UInt8
  auditWritable : Bool
  authorizeUrl : ProviderSpec → String → String → String → Except ProviderError String

/-- The moment whose unused values are `draw 0` and those after it, numbers below `2 ^ 256`. -/
def Moment.ofDraws (now : Instant) (draw : Nat → Nat) (auditWritable : Bool)
    (authorizeUrl : ProviderSpec → String → String → String → Except ProviderError String) :
    Moment where
  now := now
  eventId := .v7 now.millis (draw 0)
  userId := .v7 now.millis (draw 1)
  sessionId := .v7 now.millis (draw 2)
  verifiedEmailId := .v7 now.millis (draw 3)
  claimsId := .v7 now.millis (draw 4)
  secret := .ofNat (draw 5)
  salt := Words.bigEndian 16 (draw 6)
  auditWritable := auditWritable
  authorizeUrl := authorizeUrl

abbrev Transaction := ReaderT Moment (StateT Store (Except RequestError))

namespace Transaction

/-- The result with the store to commit, or the failure that leaves the store as it was. -/
def run {α : Type} (t : Transaction α) (m : Moment) (s : Store) :
    Except RequestError (α × Store) :=
  StateT.run (ReaderT.run t m) s

def fail {α : Type} (e : RequestError) : Transaction α := throw e

def deny {α : Type} (reason : Precondition) : Transaction α := fail (.failedPrecondition reason)

def refuse {α : Type} (reason : InvalidArgument) : Transaction α := fail (.invalidArgument reason)

/-- The value, or the failure where there is none. -/
def need {α : Type} (a : Option α) (e : RequestError) : Transaction α :=
  match a with
  | some a => pure a
  | none => fail e

def ofExcept {α : Type} : Except RequestError α → Transaction α
  | .ok a => pure a
  | .error e => fail e

/-- Writes to the store, which may refuse. -/
def write (f : Store → Except StoreError Store) : Transaction Unit := do
  match f (← get) with
  | .ok s => set s
  | .error e => fail (.ofStore e)

def now : Transaction Instant := return (← read).now

/-- The instant `d` from now. Where the calendar has none the work breaks off. -/
def reach (d : Span) : Transaction Instant := do need ((← now).add? d) .brokenOff

end Transaction

/-- Writes one event to the audit log. -/
def recordEvent (e : Audit.Event) : Transaction Unit := do
  match (← get).appendEvent (← read).auditWritable e with
  | .ok s => set s
  | .error e => Transaction.fail (.internal (.auditWrite e))

end Vestibule
