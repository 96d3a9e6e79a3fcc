import Vestibule.Digest.Sha256
import Vestibule.Signature.Der
import Vestibule.Signature.Modular

/-! RSA signatures of SHA-256 digests, padded as PKCS #1 version 1.5 says. -/

namespace Vestibule.Rsa

structure PublicKey where
  modulus : Nat
  exponent : Nat

/-- A key with its primes, the exponents modulo each of them less one, and the inverse of the second
prime modulo the first. -/
structure PrivateKey where
  publicKey : PublicKey
  p : Nat
  q : Nat
  exponentP : Nat
  exponentQ : Nat
  inverseQ : Nat

def bitLength (n : Nat) : Nat := if n = 0 then 0 else n.log2 + 1

def byteLength (n : Nat) : Nat := (bitLength n + 7) / 8

/-- An odd modulus from 2048 bits, when its last byte is filled up, and an odd exponent of at most 33
bits. -/
def PublicKey.isSound (k : PublicKey) (maxBits minExponent : Nat) : Bool :=
  k.modulus % 2 = 1 && 256 ≤ byteLength k.modulus && bitLength k.modulus ≤ maxBits &&
    k.exponent % 2 = 1 && minExponent ≤ k.exponent && k.exponent < Nat.pow 2 33

def publicFields : Der.Reader PublicKey := do
  let n ← Der.natural
  let e ← Der.natural
  return ⟨n, e⟩

/-- Reads a key to check signatures with. -/
def PublicKey.read? (bytes : List UInt8) : Option PublicKey := do
  let k ← Der.whole? (Der.within Der.sequenceTag publicFields) bytes
  if k.isSound 8192 3 then some k else none

/-- A prime takes half of the bits of the modulus, and these are whole words of 512. -/
def isHalf (modulus prime : Nat) : Bool :=
  prime % 2 = 1 && bitLength prime = (bitLength modulus + 1) / 2 && bitLength prime % 512 = 0

/-- Whether the parts belong together, as far as can be told without knowing that the primes are
prime. The exponents of the primes are only looked at when a signature is checked. -/
def PrivateKey.isSound (k : PrivateKey) (exponent : Nat) : Bool :=
  let n := k.publicKey.modulus
  k.publicKey.isSound 4096 65537 && isHalf n k.p && isHalf n k.q && k.p * k.q % n = 0 &&
    exponent % 2 = 1 && (bitLength n + 1) / 2 < bitLength exponent && exponent < n &&
    k.inverseQ < k.p && k.inverseQ * k.q % k.p = 1 &&
    k.exponentP % 2 = 1 && k.exponentP < k.p && k.exponentQ % 2 = 1 && k.exponentQ < k.q

def privateFields : Der.Reader (Nat × PrivateKey) := do
  Der.exactly 0
  let publicKey ← publicFields
  let exponent ← Der.natural
  let p ← Der.natural
  let q ← Der.natural
  let exponentP ← Der.natural
  let exponentQ ← Der.natural
  let inverseQ ← Der.natural
  return (exponent, ⟨publicKey, p, q, exponentP, exponentQ, inverseQ⟩)

/-- Reads a key to sign with. -/
def PrivateKey.read? (bytes : List UInt8) : Option PrivateKey := do
  let (exponent, k) ← Der.whole? (Der.within Der.sequenceTag privateFields) bytes
  if k.isSound exponent then some k else none

/-- What precedes a SHA-256 digest to say what it is. -/
def digestInfo : List UInt8 :=
  [0x30, 0x31, 0x30, 0x0d, 0x06, 0x09, 0x60, 0x86, 0x48, 0x01, 0x65, 0x03, 0x04, 0x02, 0x01, 0x05,
    0x00, 0x04, 0x20]

/-- The padded digest of a message, as long as the modulus. -/
def padded (size : Nat) (message : List UInt8) : List UInt8 :=
  let tail := digestInfo ++ Sha256.digest message
  [0x00, 0x01] ++ List.replicate (size - 3 - tail.length) 0xff ++ 0x00 :: tail

/-- The number that the private key makes of `m`, put together from its rests modulo the primes. -/
def PrivateKey.apply (k : PrivateKey) (m : Nat) : Nat :=
  let a := Modular.pow k.p m k.exponentP
  let b := Modular.pow k.q m k.exponentQ
  b + k.q * (Modular.sub k.p a b * k.inverseQ % k.p)

/-- Signs a message. A signature that the public key does not undo is not given out. -/
def sign? (k : PrivateKey) (message : List UInt8) : Option (List UInt8) :=
  let n := k.publicKey.modulus
  let m := Words.toNat (padded (byteLength n) message)
  let s := k.apply m % n
  if Modular.pow n s k.publicKey.exponent = m then some (Words.bigEndian (byteLength n) s) else none

def verify (k : PublicKey) (message signature : List UInt8) : Bool :=
  let size := byteLength k.modulus
  let s := Words.toNat signature
  signature.length == size && s < k.modulus &&
    Words.bigEndian size (Modular.pow k.modulus s k.exponent) == padded size message

end Vestibule.Rsa
