import Vestibule.Digest.Hmac
import Vestibule.Signature.Der
import Vestibule.Signature.Modular

/-! ECDSA signatures of SHA-256 digests over the curve P-256. -/

namespace Vestibule.P256

def fieldPrime : Nat := Nat.pow 2 256 - Nat.pow 2 224 + Nat.pow 2 192 + Nat.pow 2 96 - 1

def groupOrder : Nat := 0xffffffff00000000ffffffffffffffffbce6faada7179e84f3b9cac2fc632551

def curveB : Nat := 0x5ac635d8aa3a93e7b3ebbd55769886bc651d06b0cc53b0f63bce3c3e27d2604b

/-- A point as `(x / z ^ 2, y / z ^ 3)`; the point at infinity has `z = 0`. -/
structure Point where
  x : Nat
  y : Nat
  z : Nat

def Point.infinity : Point := ⟨1, 1, 0⟩

def Point.base : Point :=
  ⟨0x6b17d1f2e12c4247f8bce6e563a440f277037d812deb33a0f4a13945d898c296,
    0x4fe342e2fe1a7f9b8ee7eb4a7c0f9e162bce33576b315ececbb6406837bf51f5, 1⟩

def mul (a b : Nat) : Nat := a * b % fieldPrime

def sub (a b : Nat) : Nat := Modular.sub fieldPrime a b

def Point.double (p : Point) : Point :=
  if p.z = 0 ∨ p.y = 0 then infinity
  else
    let yy := mul p.y p.y
    let s := mul 4 (mul p.x yy)
    let zz := mul p.z p.z
    let m := mul 3 (mul (sub p.x zz) (p.x + zz))
    let x := sub (mul m m) (2 * s)
    ⟨x, sub (mul m (sub s x)) (mul 8 (mul yy yy)), mul 2 (mul p.y p.z)⟩

def Point.add (p q : Point) : Point :=
  if p.z = 0 then q
  else if q.z = 0 then p
  else
    let zz1 := mul p.z p.z
    let zz2 := mul q.z q.z
    let u1 := mul p.x zz2
    let u2 := mul q.x zz1
    let s1 := mul p.y (mul q.z zz2)
    let s2 := mul q.y (mul p.z zz1)
    if u1 = u2 then (if s1 = s2 then p.double else infinity)
    else
      let h := sub u2 u1
      let r := sub s2 s1
      let hh := mul h h
      let hhh := mul h hh
      let v := mul u1 hh
      let x := sub (sub (mul r r) hhh) (2 * v)
      ⟨x, sub (mul r (sub v x)) (mul s1 hhh), mul h (mul p.z q.z)⟩

/-- The sum of `k` copies of a point, by doubling. -/
def Point.times (k : Nat) (p : Point) : Point :=
  if h : k = 0 then infinity
  else
    let half := times (k / 2) p.double
    if k % 2 = 1 then p.add half else half
termination_by k
decreasing_by omega

/-- The first coordinate of a point that is not at infinity. -/
def Point.affineX (p : Point) : Nat :=
  mul p.x (Modular.inverse fieldPrime (mul p.z p.z))

def Point.affineY (p : Point) : Nat :=
  mul p.y (Modular.inverse fieldPrime (mul p.z (mul p.z p.z)))

def onCurve (x y : Nat) : Bool :=
  x < fieldPrime && y < fieldPrime &&
    mul y y == (sub (mul x (mul x x)) (3 * x) + curveB) % fieldPrime

/-- Reads an uncompressed point of the curve. -/
def Point.read? : List UInt8 → Option Point
  | 0x04 :: rest =>
    let x := Words.toNat (rest.take 32)
    let y := Words.toNat (rest.drop 32)
    if rest.length = 64 ∧ onCurve x y then some ⟨x, y, 1⟩ else none
  | _ => none

/-- The bytes of an uncompressed point that is not at infinity. -/
def Point.write (p : Point) : List UInt8 :=
  0x04 :: Words.bigEndian 32 p.affineX ++ Words.bigEndian 32 p.affineY

/-- The object identifier of this curve, with its tag and length. -/
def curveId : List UInt8 := [0x06, 0x08, 0x2a, 0x86, 0x48, 0xce, 0x3d, 0x03, 0x01, 0x07]

/-- What says that a key belongs to an elliptic curve, and to which. -/
def algorithmId : List UInt8 :=
  [0x06, 0x07, 0x2a, 0x86, 0x48, 0xce, 0x3d, 0x02, 0x01] ++ curveId

/-- The key inside a PKCS #8 file. Attributes behind it are passed over. -/
def enclosed : Der.Reader (List UInt8) := do
  Der.exactly 0
  let algorithm ← Der.value Der.sequenceTag
  let key ← Der.value Der.octetStringTag
  let _ ← Der.option (Der.partTag 0)
  if algorithm = algorithmId then return key else StateT.lift none

/-- The secret multiplier and the bytes of the public point. The curve may be named once more. -/
def secretFields : Der.Reader (List UInt8 × List UInt8) := do
  Der.exactly 1
  let secret ← Der.value Der.octetStringTag
  let curve ← Der.option (Der.partTag 0)
  let point ← Der.within (Der.partTag 1) Der.bytes
  if curve.all (· = curveId) then return (secret, point) else StateT.lift none

/-- Reads a secret multiplier in PKCS #8, together with the public point it must give. -/
def secret? (bytes : List UInt8) : Option Nat := do
  let key ← Der.whole? (Der.within Der.sequenceTag enclosed) bytes
  let (secret, point) ← Der.whole? (Der.within Der.sequenceTag secretFields) key
  let d := Words.toNat secret
  if secret.length = 32 ∧ 0 < d ∧ d < groupOrder ∧ (Point.base.times d).write = point then some d
  else none

def hashNumber (message : List UInt8) : Nat := Words.toNat (Sha256.digest message)

/-- A multiplier that depends on the secret and the message alone. -/
def nonce (d : Nat) (message : List UInt8) : Nat :=
  let seed := HashFunction.sha512.hmac (Words.bigEndian 32 d) message
  Words.toNat seed % (groupOrder - 1) + 1

/-- The two halves of a signature, 32 bytes each. -/
def sign (d : Nat) (message : List UInt8) : List UInt8 :=
  let k := nonce d message
  let r := (Point.base.times k).affineX % groupOrder
  let s := Modular.inverse groupOrder k * (hashNumber message + r * d) % groupOrder
  Words.bigEndian 32 r ++ Words.bigEndian 32 s

def verify (key : Point) (message signature : List UInt8) : Bool :=
  let r := Words.toNat (signature.take 32)
  let s := Words.toNat (signature.drop 32)
  if signature.length = 64 ∧ 0 < r ∧ r < groupOrder ∧ 0 < s ∧ s < groupOrder then
    let w := Modular.inverse groupOrder s
    let u1 := hashNumber message * w % groupOrder
    let u2 := r * w % groupOrder
    let p := (Point.base.times u1).add (key.times u2)
    p.z != 0 && p.affineX % groupOrder == r
  else false

end Vestibule.P256
