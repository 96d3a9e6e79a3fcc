import Vestibule.Digest.Words

/-! SHA-1. -/

namespace Vestibule.Sha1

structure State where
  a : UInt32
  b : UInt32
  c : UInt32
  d : UInt32
  e : UInt32
  deriving DecidableEq

def State.start : State :=
  ⟨0x67452301, 0xefcdab89, 0x98badcfe, 0x10325476, 0xc3d2e1f0⟩

def rotl (x : UInt32) (n : UInt32) : UInt32 :=
  (x <<< n) ||| (x >>> (32 - n))

def State.add (s t : State) : State :=
  ⟨s.a + t.a, s.b + t.b, s.c + t.c, s.d + t.d, s.e + t.e⟩

/-- The mixing function and the constant of round `t`. -/
def mix (t : Nat) (s : State) : UInt32 :=
  if t < 20 then ((s.b &&& s.c) ||| (~~~s.b &&& s.d)) + 0x5a827999
  else if t < 40 then (s.b ^^^ s.c ^^^ s.d) + 0x6ed9eba1
  else if t < 60 then ((s.b &&& s.c) ||| (s.b &&& s.d) ||| (s.c &&& s.d)) + 0x8f1bbcdc
  else (s.b ^^^ s.c ^^^ s.d) + 0xca62c1d6

def State.round (t : Nat) (s : State) (w : UInt32) : State :=
  ⟨rotl s.a 5 + mix t s + s.e + w, s.a, rotl s.b 30, s.c, s.d⟩

/-- Runs `n` rounds, the first of them round `80 - n`, over the sliding window of the next sixteen
schedule words. -/
def rounds : Nat → List UInt32 → State → State
  | n + 1, w0 :: window, s =>
    let next := rotl (window.getD 12 0 ^^^ window.getD 7 0 ^^^ window.getD 1 0 ^^^ w0) 1
    rounds n (window ++ [next]) (s.round (79 - n) w0)
  | _, _, s => s

def compress (s : State) (block : List UInt32) : State :=
  s.add (rounds 80 block s)

def State.words (s : State) : List UInt32 :=
  [s.a, s.b, s.c, s.d, s.e]

def digest (message : List UInt8) : List UInt8 :=
  let words := Words.ofBytes32 (Words.pad 64 8 message)
  let state := (Words.blocks 16 words).foldl compress State.start
  state.words.flatMap Words.toBytes32

end Vestibule.Sha1
