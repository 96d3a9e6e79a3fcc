import Vestibule.Encoding.Base64
import Vestibule.Encoding.Utf8
import Vestibule.Password.Blowfish
import Vestibule.Text.Integer

/-! The bcrypt password hash: its key stream, its digest, and its stored text
`$version$cost$salt-and-digest`. -/

namespace Vestibule.Bcrypt

inductive Failure where
  | cost (given : Nat)
  | malformed
  deriving DecidableEq, Repr

/-- The first 72 bytes of the cyclic repetition of the password and a zero byte. A password only
acts through this stream. -/
def keyStream (password : List UInt8) : List UInt8 :=
  let key := (password ++ [0]).take 72
  (List.range 72).map fun i => key.getD (i % key.length) 0

def expandedKey (cost : Nat) (salt key : Array UInt32) : Blowfish.State :=
  let noSalt : Array UInt32 := #[]
  let saltKey := Array.ofFn fun i : Fin 18 => salt.getD (i % 4) 0
  let start := Blowfish.State.initial.expand salt key
  (Nat.pow 2 cost).fold (fun _ _ k => (k.expand noSalt key).expand noSalt saltKey) start

/-- The text that is enciphered, as three blocks. -/
def plainBlocks : List (UInt32 × UInt32) :=
  [(0x4f727068, 0x65616e42), (0x65686f6c, 0x64657253), (0x63727944, 0x6f756274)]

/-- The 23 bytes kept of the plain text enciphered 64 times under the expanded key. -/
def digest (cost : Nat) (salt stream : List UInt8) : List UInt8 :=
  let k := expandedKey cost (Words.ofBytes32 salt).toArray (Words.ofBytes32 stream).toArray
  let blocks := plainBlocks.map fun (l, r) =>
    (64 : Nat).fold (fun _ _ (b : UInt32 × UInt32) => Blowfish.encipher k b.1 b.2) (l, r)
  (blocks.flatMap fun (l, r) => Words.toBytes32 l ++ Words.toBytes32 r).take 23

def costInRange (cost : Nat) : Bool :=
  4 ≤ cost && cost ≤ 31

def twoDigits (n : Nat) : List Char :=
  [Char.ofNat (48 + n / 10), Char.ofNat (48 + n % 10)]

/-- The stored text of `password` under a salt of 16 bytes. -/
def hash (cost : Nat) (salt : List UInt8) (password : String) : Except Failure String :=
  if costInRange cost then
    let sum := digest cost salt (keyStream (Utf8.encode password))
    .ok <| String.ofList <| "$2b$".toList ++ twoDigits cost ++ '$' ::
      Base64.encode .crypt salt ++ Base64.encode .crypt sum
  else .error (.cost cost)

structure Parts where
  cost : Nat
  salt : List UInt8
  sum : List UInt8

/-- Splits at every `$` and drops empty pieces. -/
def pieces (text : List Char) : List (List Char) :=
  (text.splitOn '$').filter (· ≠ [])

def versions : List String := ["2y", "2b", "2a", "2x"]

/-- Reads a stored text: a known version, a cost, 22 letters of salt and 31 of digest. -/
def Parts.read (text : String) : Except Failure Parts :=
  match pieces text.toList with
  | [version, cost, rest] =>
    match versions.contains (String.ofList version), Integer.readUnsigned 32 cost with
    | true, some cost =>
      if (Utf8.encode (String.ofList rest)).length ≠ 53 then .error .malformed
      else
        match Base64.decode? .crypt (rest.take 22), Base64.decode? .crypt (rest.drop 22) with
        | some salt, some sum =>
          if costInRange cost then .ok ⟨cost, salt, sum⟩ else .error (.cost cost)
        | _, _ => .error .malformed
    | _, _ => .error .malformed
  | _ => .error .malformed

/-- Whether `password` has the stored text `text`. -/
def verify (password text : String) : Except Failure Bool := do
  let parts ← Parts.read text
  return digest parts.cost parts.salt (keyStream (Utf8.encode password)) == parts.sum

end Vestibule.Bcrypt
