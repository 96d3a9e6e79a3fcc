import Vestibule.Digest.Sha256
import Vestibule.Digest.Sha512

/-! Keyed digests (HMAC) over the SHA-2 family. -/

namespace Vestibule

/-- A digest together with the size of the blocks it works on. -/
structure HashFunction where
  blockBytes : Nat
  digest : List UInt8 → List UInt8

namespace HashFunction

def sha256 : HashFunction := ⟨64, Sha256.digest⟩

def sha384 : HashFunction := ⟨128, Sha512.digest384⟩

def sha512 : HashFunction := ⟨128, Sha512.digest⟩

/-- Keys longer than a block are digested first; shorter ones are filled with zeros. -/
def blockKey (h : HashFunction) (key : List UInt8) : List UInt8 :=
  let short := if h.blockBytes < key.length then h.digest key else key
  short ++ List.replicate (h.blockBytes - short.length) 0

def hmac (h : HashFunction) (key message : List UInt8) : List UInt8 :=
  let k := h.blockKey key
  let inner := h.digest (k.map (· ^^^ 0x36) ++ message)
  h.digest (k.map (· ^^^ 0x5c) ++ inner)

end HashFunction

end Vestibule
