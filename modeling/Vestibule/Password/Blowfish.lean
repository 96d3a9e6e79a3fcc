import Vestibule.Password.Blowfish.Tables

/-! The Blowfish block cipher and its key expansion with a salt. -/

namespace Vestibule.Blowfish

structure State where
  subkeys : Array UInt32
  boxes : Array UInt32

def State.initial : State :=
  ⟨initialSubkeys, initialBoxes⟩

/-- The word that a half block contributes to the other half. -/
def mix (boxes : Array UInt32) (x : UInt32) : UInt32 :=
  let a := boxes.getD (x >>> 24).toNat 0
  let b := boxes.getD (256 + ((x >>> 16) &&& 0xff).toNat) 0
  let c := boxes.getD (512 + ((x >>> 8) &&& 0xff).toNat) 0
  let d := boxes.getD (768 + (x &&& 0xff).toNat) 0
  ((a + b) ^^^ c) + d

/-- The sixteen rounds; `n` of them are left. -/
def rounds (k : State) : Nat → UInt32 → UInt32 → UInt32 × UInt32
  | 0, l, r => (r ^^^ k.subkeys.getD 17 0, l ^^^ k.subkeys.getD 16 0)
  | n + 1, l, r =>
    let l := l ^^^ k.subkeys.getD (15 - n) 0
    rounds k n (r ^^^ mix k.boxes l) l

/-- The cipher text of a block of two words. -/
def encipher (k : State) (l r : UInt32) : UInt32 × UInt32 :=
  rounds k 16 l r

/-- Replaces the `i`-th pair of words of the state: first the nine pairs of subkeys, then the 512
pairs of the boxes. -/
def State.setPair (k : State) (i : Nat) (l r : UInt32) : State :=
  match k with
  | ⟨subkeys, boxes⟩ =>
    if i < 9 then ⟨(subkeys.setIfInBounds (2 * i) l).setIfInBounds (2 * i + 1) r, boxes⟩
    else
      let j := 2 * (i - 9)
      ⟨subkeys, (boxes.setIfInBounds j l).setIfInBounds (j + 1) r⟩

/-- Adds the eighteen words of `key` to the subkeys. -/
def State.addKey (k : State) (key : Array UInt32) : State :=
  { k with subkeys := k.subkeys.mapIdx fun i w => w ^^^ key.getD i 0 }

/-- Replaces the whole state by cipher texts chained through it. The words of `salt`, used
cyclically, enter each block. -/
def State.refill (k : State) (salt : Array UInt32) : State :=
  let step := fun (i : Nat) (_ : i < 521) (acc : State × UInt32 × UInt32) =>
    let (k, l, r) := acc
    let s := 2 * (i % 2)
    let (l, r) := encipher k (l ^^^ salt.getD s 0) (r ^^^ salt.getD (s + 1) 0)
    (k.setPair i l r, l, r)
  (Nat.fold 521 step (k, 0, 0)).1

def State.expand (k : State) (salt key : Array UInt32) : State :=
  (k.addKey key).refill salt

end Vestibule.Blowfish
