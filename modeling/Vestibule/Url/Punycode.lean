import Vestibule.Text.Chars

/-! Punycode: text of any characters as letters and digits of ASCII. The characters of ASCII come
first, and the others follow as distances in an order by value and position. -/

namespace Vestibule.Punycode

def digit (d : Nat) : Char :=
  if d < 26 then Char.ofNat (97 + d) else Char.ofNat (22 + d)

def value? (c : Char) : Option Nat :=
  if Text.isAsciiLetter c then some ((Text.toAsciiLower c).toNat - 97)
  else if Text.isAsciiDigit c then some (c.toNat - 22)
  else none

def threshold (bias k : Nat) : Nat :=
  if k ≤ bias then 1 else if bias + 26 ≤ k then 26 else k - bias

theorem threshold_bounds (bias k : Nat) : 1 ≤ threshold bias k ∧ threshold bias k ≤ 26 := by
  unfold threshold
  split
  · omega
  · split <;> omega

/-- A number in base 36 with a lower threshold for each digit, the least significant first. -/
def writeDistance (bias k q : Nat) : List Char :=
  let t := threshold bias k
  if q < t then [digit q]
  else digit (t + (q - t) % (36 - t)) :: writeDistance bias (k + 36) ((q - t) / (36 - t))
termination_by q
decreasing_by
  have h := threshold_bounds bias k
  calc (q - threshold bias k) / (36 - threshold bias k)
      ≤ q - threshold bias k := Nat.div_le_self _ _
    _ < q := by omega

def reduce (delta k : Nat) : Nat × Nat :=
  if 455 < delta then reduce (delta / 35) (k + 36) else (delta, k)
termination_by delta
decreasing_by exact Nat.div_lt_self (by omega) (by omega)

/-- The bias after a distance: the base of the digits to expect next. -/
def adapt (delta count : Nat) (first : Bool) : Nat :=
  let d := if first then delta / 700 else delta / 2
  let (d, k) := reduce (d + d / count) 0
  k + 36 * d / (d + 38)

structure State where
  output : List Char
  delta : Nat
  bias : Nat
  handled : Nat

/-- One pass of the text at the character `n`. -/
def pass (basic n : Nat) (text : List Char) (s : State) : State :=
  text.foldl (fun s c =>
    if c.toNat < n then { s with delta := s.delta + 1 }
    else if c.toNat = n then
      { output := s.output ++ writeDistance s.bias 36 s.delta
        delta := 0
        bias := adapt s.delta (s.handled + 1) (s.handled == basic)
        handled := s.handled + 1 }
    else s) s

/-- Passes at each of the characters to come, in their order. -/
def passes (basic : Nat) (text : List Char) : List Nat → Nat → State → State
  | [], _, s => s
  | n :: later, from_, s =>
    let s := pass basic n text { s with delta := s.delta + (n - from_) * (s.handled + 1) }
    passes basic text later (n + 1) { s with delta := s.delta + 1 }

def encode (text : List Char) : List Char :=
  let ascii := text.filter (·.toNat < 128)
  let others := ((text.filter (128 ≤ ·.toNat)).map Char.toNat).mergeSort (· ≤ ·) |>.eraseDups
  let start : State := ⟨[], 0, 72, ascii.length⟩
  (if ascii.isEmpty then [] else ascii ++ ['-']) ++
    (passes ascii.length text others 128 start).output

/-- A distance and what follows it. Neither it nor the weight of a digit may need more than 32
bits. -/
def readDistance? (bias k weight acc : Nat) : List Char → Option (Nat × List Char)
  | [] => none
  | c :: rest => do
    let d ← value? c
    let t := threshold bias k
    let acc := acc + d * weight
    if 2 ^ 32 ≤ acc then none
    else if d < t then some (acc, rest)
    else if 2 ^ 32 ≤ weight * (36 - t) then none
    else readDistance? bias (k + 36) (weight * (36 - t)) acc rest

/-- Puts a character into the text for each distance. At most `fuel` of them are read. -/
def insertAll? : (fuel bias code position : Nat) → (done : List Char) → List Char →
    Option (List Char)
  | _, _, _, _, done, [] => some done
  | 0, _, _, _, _, _ :: _ => none
  | fuel + 1, bias, code, position, done, text => do
    let (place, rest) ← readDistance? bias 36 1 position text
    let count := done.length + 1
    let code := code + place / count
    if 0x10FFFF < code ∨ (0xD800 ≤ code ∧ code ≤ 0xDFFF) then none
    else
      insertAll? fuel (adapt (place - position) count (position == 0)) code (place % count + 1)
        (done.insertIdx (place % count) (Char.ofNat code)) rest

/-- The text that `encode` writes as `text`. The last hyphen, unless it comes first, ends the
characters of ASCII. -/
def decode? (text : List Char) : Option (List Char) :=
  let coded := (text.reverse.takeWhile (· != '-')).reverse
  let ascii := (text.take (text.length - coded.length)).dropLast
  if ascii.isEmpty then insertAll? text.length 72 128 0 [] text
  else insertAll? coded.length 72 128 0 ascii coded

end Vestibule.Punycode
