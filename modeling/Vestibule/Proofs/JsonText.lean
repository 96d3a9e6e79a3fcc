import Mathlib.Data.List.TakeWhile
import Vestibule.Json.Reader
import Vestibule.Json.Writer
import Vestibule.Proofs.IdText
import Vestibule.Proofs.KeyStream

/-! JSON values as texts. A value that holds no doubles and does not nest too deep is read again
from what is written of it. -/

namespace Vestibule

theorem Utf8.decode?_encode {s : String} : decode? (encode s) = some s := by
  have same : ByteArray.mk (encode s).toArray = s.toByteArray := by
    rw [← toByteArray_encode]
    apply ByteArray.ext
    simp
  rw [decode?, same, String.fromUTF8?, dif_pos s.isValidUTF8]
  rfl

namespace Json

mutual

/-- Whether a value is one that the text of it gives back: its integers fit 64 bits, it holds no
doubles, and less than `depth` arrays and objects are nested in it. -/
def isPlain : Nat → Json → Bool
  | depth, .array items => decide (1 < depth) && arePlain (depth - 1) items
  | depth, .object members => decide (1 < depth) && havePlainValues (depth - 1) members
  | _, .number (.int n) => decide (-9223372036854775808 ≤ n ∧ n < 18446744073709551616)
  | _, .number (.double _) | _, .unreadable => false
  | _, .null | _, .bool _ | _, .string _ => true

def arePlain : Nat → List Json → Bool
  | _, [] => true
  | depth, j :: items => isPlain depth j && arePlain depth items

def havePlainValues : Nat → List (String × Json) → Bool
  | _, [] => true
  | depth, (_, j) :: members => isPlain depth j && havePlainValues depth members

end

theorem toNat_ofNat_byte {b : UInt8} : (Char.ofNat b.toNat).toNat = b.toNat := by
  have small := b.toNat_lt
  rw [Char.ofNat, dif_pos (.inl (by omega))]
  rfl

/-- A text as the reader sees it: a character for each byte. -/
def bytewise (text : List Char) : List Char :=
  (text.flatMap String.utf8EncodeChar).map fun b => Char.ofNat b.toNat

section

variable {text text' rest : List Char} {c : Char}

theorem bytewise_append : bytewise (text ++ text') = bytewise text ++ bytewise text' := by
  simp [bytewise]

theorem bytewise_cons : bytewise (c :: text) = bytewise [c] ++ bytewise text :=
  @bytewise_append [c] text

/-- ASCII stands for itself. -/
theorem bytewise_cons_ascii (ascii : c.toNat < 128) :
    bytewise (c :: text) = c :: bytewise text := by
  have single : String.utf8EncodeChar c = [UInt8.ofNat c.toNat] := by
    have small : c.val.toNat ≤ 127 := Nat.le_of_lt_succ ascii
    simp only [String.utf8EncodeChar, if_pos small]
    rfl
  have byte : (UInt8.ofNat c.toNat).toNat = c.toNat := by
    rw [UInt8.toNat_ofNat']
    omega
  simp [bytewise, single, byte]

theorem bytewise_ascii (ascii : ∀ c ∈ text, c.toNat < 128) : bytewise text = text := by
  induction text with
  | nil => rfl
  | cons c text ih =>
      rw [bytewise_cons_ascii (ascii c List.mem_cons_self),
        ih fun d member => ascii d (List.mem_cons_of_mem _ member)]

end

/-! Strings, in pieces: an escape, or the bytes of the character. -/

/-- Whether a character does not stand for itself in a string. -/
def isEscaped (c : Char) : Bool := c = '"' || c = '\\' || decide (c.toNat < 32)

/-- The pieces that a character is written in. -/
def pieces (c : Char) : List StringPiece :=
  if isEscaped c then [.escape c.toNat] else (String.utf8EncodeChar c).map .byte

section

variable {c : Char} {text rest : List Char} {more : List StringPiece} {fuel : Nat}

theorem toNat_lt_of_isEscaped (escaped : isEscaped c = true) : c.toNat < 128 := by
  simp only [isEscaped, Bool.or_eq_true, decide_eq_true_eq] at escaped
  rcases escaped with (rfl | rfl) | control
  · decide
  · decide
  · omega

/-- What follows the backslash of an escape names the character. -/
theorem escape_of_isEscaped (escaped : isEscaped c = true) :
    ∃ name, escape c = '\\' :: name ∧ (∀ d ∈ name, d.toNat < 128) ∧
      ∀ rest, unescape? (name ++ rest) = some (c.toNat, rest) := by
  simp only [isEscaped, Bool.or_eq_true, decide_eq_true_eq] at escaped
  unfold escape
  split
  · exact ⟨['"'], rfl, by simp, fun _ => by simp [unescape?, *]⟩
  split
  · exact ⟨['\\'], rfl, by simp, fun _ => by simp [unescape?, *]⟩
  split
  · exact ⟨['n'], rfl, by simp, fun _ => by simp [unescape?, *]⟩
  split
  · exact ⟨['r'], rfl, by simp, fun _ => by simp [unescape?, *]⟩
  split
  · exact ⟨['t'], rfl, by simp, fun _ => by simp [unescape?, *]⟩
  split
  · exact ⟨['b'], rfl, by simp, fun _ => by simp [unescape?, *]⟩
  split
  · exact ⟨['f'], rfl, by simp, fun _ => by simp [unescape?, *]⟩
  have control : c.toNat < 32 := by simp_all
  rw [if_pos control]
  refine ⟨'u' :: Hex.ofNat 4 c.toNat, rfl, ?_, fun rest => ?_⟩
  · intro d member
    rcases List.mem_cons.mp member with rfl | member
    · decide
    · exact Hex.ascii_of_mem_ofNat member
  · have four : (Hex.ofNat 4 c.toNat).length = 4 := Hex.length_ofNat ..
    change hex4? (Hex.ofNat 4 c.toNat ++ rest) = _
    rw [hex4?, if_neg (by simp [four]), List.take_left' four, List.drop_left' four,
      Hex.toNat?_ofNat, Nat.mod_eq_of_lt (by omega)]
    rfl

/-- The bytes of a character that stands for itself do so, too. -/
theorem byte_of_unescaped {b : UInt8} (plain : isEscaped c = false)
    (member : b ∈ String.utf8EncodeChar c) : 32 ≤ b.toNat ∧ b.toNat ≠ 34 ∧ b.toNat ≠ 92 := by
  have quote : c.val.toNat ≠ 34 := fun same => by
    have : c = '"' := Char.ext (UInt32.toNat_inj.mp same)
    simp [this, isEscaped] at plain
  have slash : c.val.toNat ≠ 92 := fun same => by
    have : c = '\\' := Char.ext (UInt32.toNat_inj.mp same)
    simp [this, isEscaped] at plain
  have printed : 32 ≤ c.val.toNat := by
    by_contra control
    have control : c.toNat < 32 := Nat.not_le.mp control
    simp [isEscaped, control] at plain
  unfold String.utf8EncodeChar at member
  dsimp only at member
  repeat' split at member
  all_goals
    simp only [List.mem_cons, List.not_mem_nil, or_false, ← UInt8.toNat_inj,
      UInt8.toNat_ofNat'] at member
    omega

theorem stringPieces?_bytes {bytes : List UInt8}
    (plain : ∀ b ∈ bytes, 32 ≤ b.toNat ∧ b.toNat ≠ 34 ∧ b.toNat ≠ 92) :
    stringPieces? (fuel + bytes.length) (bytes.map (fun b => Char.ofNat b.toNat) ++ rest) =
      (stringPieces? fuel rest).map fun r => (bytes.map .byte ++ r.1, r.2) := by
  induction bytes with
  | nil => simp
  | cons b bytes ih =>
      obtain ⟨printed, quote, slash⟩ := plain b List.mem_cons_self
      have number : (Char.ofNat b.toNat).toNat = b.toNat := toNat_ofNat_byte
      have apart : Char.ofNat b.toNat ≠ '"' := fun same => quote (by rw [← number, same]; rfl)
      have apart' : Char.ofNat b.toNat ≠ '\\' := fun same => slash (by rw [← number, same]; rfl)
      rw [List.map_cons, List.cons_append, List.length_cons, ← Nat.add_assoc, stringPieces?,
        if_neg apart, if_neg apart', if_neg (by omega),
        ih fun d member => plain d (List.mem_cons_of_mem _ member), number, UInt8.ofNat_toNat]
      cases stringPieces? fuel rest <;> rfl

theorem escape_of_unescaped (plain : isEscaped c = false) : escape c = [c] := by
  simp only [isEscaped, Bool.or_eq_false_iff, decide_eq_false_iff_not] at plain
  obtain ⟨⟨quote, slash⟩, printed⟩ := plain
  have other : ∀ d : Char, d.toNat < 32 → c ≠ d := fun d control same => printed (same ▸ control)
  rw [escape, if_neg quote, if_neg slash, if_neg (other _ (by decide)),
    if_neg (other _ (by decide)), if_neg (other _ (by decide)), if_neg (by omega),
    if_neg (by omega), if_neg printed]

/-- The reader takes a character apart into its pieces. -/
theorem stringPieces?_escape :
    stringPieces? (fuel + (pieces c).length) (bytewise (escape c) ++ rest) =
      (stringPieces? fuel rest).map fun r => (pieces c ++ r.1, r.2) := by
  unfold pieces
  split
  · rename_i escaped
    obtain ⟨name, whole, ascii, named⟩ := escape_of_isEscaped escaped
    rw [whole, bytewise_cons_ascii (by decide), bytewise_ascii ascii, List.cons_append,
      List.length_singleton, stringPieces?, if_neg (by decide), if_pos rfl, named]
    simp only [Option.bind_eq_bind, Option.bind_some]
    cases stringPieces? fuel rest <;> rfl
  · rename_i plain
    rw [Bool.not_eq_true] at plain
    rw [escape_of_unescaped plain, List.length_map, bytewise, List.flatMap_singleton]
    exact stringPieces?_bytes fun b => byte_of_unescaped plain

/-- The pieces of a character stand for it. -/
theorem stringBytes?_pieces :
    stringBytes? (pieces c ++ more) =
      (stringBytes? more).map (String.utf8EncodeChar c ++ ·) := by
  unfold pieces
  split
  · rename_i escaped
    have ascii := toNat_lt_of_isEscaped escaped
    rw [List.singleton_append, stringBytes?.eq_def]
    dsimp only
    rw [if_neg (by omega), if_neg (by omega), Char.ofNat_toNat]
  · generalize String.utf8EncodeChar c = bytes
    induction bytes with
    | nil => simp
    | cons b bytes ih =>
        rw [List.map_cons, List.cons_append, stringBytes?, ih, Option.map_map]
        rfl

theorem length_pieces_le : (pieces c).length ≤ (bytewise (escape c)).length := by
  unfold pieces
  split
  · rename_i escaped
    obtain ⟨name, whole, ascii, _⟩ := escape_of_isEscaped escaped
    rw [whole, bytewise_cons_ascii (by decide)]
    simp
  · rename_i plain
    rw [escape_of_unescaped (by simpa using plain)]
    simp [bytewise]

theorem stringPieces?_text :
    stringPieces? (fuel + 1 + (text.flatMap pieces).length)
      (bytewise (text.flatMap escape) ++ '"' :: rest) = some (text.flatMap pieces, rest) := by
  induction text with
  | nil => rfl
  | cons c text ih =>
      rw [List.flatMap_cons, List.flatMap_cons, List.length_append, bytewise_append,
        List.append_assoc, Nat.add_comm (pieces c).length, ← Nat.add_assoc, stringPieces?_escape,
        ih]
      rfl

theorem stringBytes?_text :
    stringBytes? (text.flatMap pieces) = some (text.flatMap String.utf8EncodeChar) := by
  induction text with
  | nil => rfl
  | cons c text ih =>
      rw [List.flatMap_cons, List.flatMap_cons, stringBytes?_pieces, ih]
      rfl

/-- A string that is written is read again, up to its closing quote. -/
theorem stringRest?_text {s : String} :
    stringRest? (bytewise (s.toList.flatMap escape) ++ '"' :: rest) = some (some s, rest) := by
  have enough : (s.toList.flatMap pieces).length ≤ (bytewise (s.toList.flatMap escape)).length := by
    induction s.toList with
    | nil => simp
    | cons c text ih =>
        rw [List.flatMap_cons, List.flatMap_cons, bytewise_append, List.length_append,
          List.length_append]
        exact Nat.add_le_add length_pieces_le ih
  obtain ⟨fuel, whole⟩ := Nat.exists_eq_add_of_le
    (show 1 + (s.toList.flatMap pieces).length ≤
      (bytewise (s.toList.flatMap escape) ++ '"' :: rest).length + 1 by
        rw [List.length_append]; omega)
  rw [stringRest?, whole, show 1 + (s.toList.flatMap pieces).length + fuel =
    fuel + 1 + (s.toList.flatMap pieces).length by omega, stringPieces?_text]
  simp only [Option.map_some, stringBytes?_text, Option.bind_some]
  exact congrArg (fun t => some (t, rest)) Utf8.decode?_encode

end

/-! Numbers. -/

/-- What may stand behind a value inside another one, or nothing. -/
def Ends : List Char → Prop
  | [] => True
  | c :: _ => c = ',' ∨ c = ']' ∨ c = '\x7d'

section

variable {rest digits : List Char} {n : Nat} {negative : Bool}

theorem isAsciiDigit_of_mem_toDigits {c : Char} (member : c ∈ Nat.toDigits 10 n) :
    Text.isAsciiDigit c = true := by
  have digit := Char.isDigit_iff_toNat.mp
    (Nat.isDigit_of_mem_toDigits (by decide) (by decide) member)
  simp only [Text.isAsciiDigit, Bool.and_eq_true, decide_eq_true_eq]
  exact digit

theorem toDigits_begins :
    ∃ c digits, Nat.toDigits 10 n = c :: digits ∧ Text.isAsciiDigit c = true := by
  obtain ⟨c, digits, whole⟩ := List.exists_cons_of_ne_nil (@Nat.toDigits_ne_nil n 10)
  exact ⟨c, digits, whole, isAsciiDigit_of_mem_toDigits (whole ▸ List.mem_cons_self)⟩

theorem ascii_of_isAsciiDigit {c : Char} (digit : Text.isAsciiDigit c = true) : c.toNat < 128 := by
  simp only [Text.isAsciiDigit, Bool.and_eq_true, decide_eq_true_eq] at digit
  exact Nat.lt_of_le_of_lt digit.2 (by decide)

theorem bytewise_toDigits : bytewise (Nat.toDigits 10 n) = Nat.toDigits 10 n :=
  bytewise_ascii fun _ member => ascii_of_isAsciiDigit (isAsciiDigit_of_mem_toDigits member)

theorem digitRun_append (all : ∀ c ∈ digits, Text.isAsciiDigit c = true) (ends : Ends rest) :
    digitRun (digits ++ rest) = (digits.map fun c => c.toNat - 48, rest) := by
  have stops : rest.takeWhile Text.isAsciiDigit = [] ∧ rest.dropWhile Text.isAsciiDigit = rest := by
    cases rest with
    | nil => exact ⟨rfl, rfl⟩
    | cons c rest => rcases ends with rfl | rfl | rfl <;> exact ⟨rfl, rfl⟩
  rw [digitRun, List.takeWhile_append_of_pos all, List.dropWhile_append_of_pos all, stops.1,
    stops.2, List.append_nil]

/-- The digits of a number denote it. -/
theorem foldl_toDigits :
    ((Nat.toDigits 10 n).map fun c => c.toNat - 48).foldl (fun acc d => acc * 10 + d) 0 = n := by
  have denotes := @Nat.ofDigitChars_ten_toDigits n
  rw [Nat.ofDigitChars_eq_foldl] at denotes
  simp only [Nat.mul_comm 10] at denotes
  rwa [List.foldl_map]

/-- Only zero begins with one. -/
theorem toDigits_eq_cons (positive : 0 < n) :
    ∃ c digits, Nat.toDigits 10 n = c :: digits ∧ c.toNat - 48 ≠ 0 := by
  induction n using Nat.strongRecOn with
  | ind n ih =>
      by_cases single : n < 10
      · have apart : ∀ d < 10, 0 < d → (Nat.digitChar d).toNat - 48 ≠ 0 := by decide
        exact ⟨_, [], Nat.toDigits_of_lt_base single, apart n single positive⟩
      · obtain ⟨c, digits, whole, nonzero⟩ := ih (n / 10) (by omega) (by omega)
        rw [Nat.toDigits_of_base_le (by decide) (by omega), whole, List.cons_append]
        exact ⟨c, _, rfl, nonzero⟩

/-- Digits are read up to where the value ends. -/
theorem number?_toDigits (ends : Ends rest) :
    number? negative (Nat.toDigits 10 n ++ rest) =
      some (ofNumber? (integer negative ((Nat.toDigits 10 n).map fun c => c.toNat - 48)),
        rest) := by
  have shape : ∃ d ds, ((Nat.toDigits 10 n).map fun c => c.toNat - 48) = d :: ds ∧
      (d = 0 → ds = []) := by
    rcases Nat.eq_zero_or_pos n with rfl | positive
    · exact ⟨0, [], rfl, fun _ => rfl⟩
    · obtain ⟨c, digits, whole, nonzero⟩ := toDigits_eq_cons positive
      exact ⟨_, _, by rw [whole]; rfl, fun zero => absurd zero nonzero⟩
  rw [number?, digitRun_append (fun c => isAsciiDigit_of_mem_toDigits) ends]
  obtain ⟨d, ds, whole, leading⟩ := shape
  rw [whole]
  cases d with
  | zero =>
      cases leading rfl
      cases rest with
      | nil => rfl
      | cons c rest => rcases ends with rfl | rfl | rfl <;> rfl
  | succ d =>
      cases rest with
      | nil => cases ds <;> rfl
      | cons c rest => rcases ends with rfl | rfl | rfl <;> cases ds <;> rfl

theorem integer_toDigits (small : n < 18446744073709551616) :
    integer false ((Nat.toDigits 10 n).map fun c => c.toNat - 48) = some (.int n) := by
  have fits : n < Nat.pow 2 64 := small
  simp only [integer, foldl_toDigits, fits, if_true, Bool.false_eq_true, if_false]

theorem integer_toDigits_neg (positive : n ≠ 0) (small : n ≤ 9223372036854775808) :
    integer true ((Nat.toDigits 10 n).map fun c => c.toNat - 48) = some (.int (-n)) := by
  have fits : n ≠ 0 ∧ n ≤ Nat.pow 2 63 := ⟨positive, small⟩
  simp only [integer, foldl_toDigits, fits, if_true, ne_eq, not_false_eq_true, and_self]

end

theorem skipSpace_cons {c : Char} {rest : List Char} (printed : isSpace c = false) :
    skipSpace (c :: rest) = c :: rest := by
  rw [skipSpace, List.dropWhile_cons_of_neg (by simp [printed])]

section

variable {c : Char} {rest : List Char} {fuel depth : Nat}

theorem ne_of_isAsciiDigit {d : Char} (digit : Text.isAsciiDigit c = true)
    (other : Text.isAsciiDigit d = false) : c ≠ d :=
  fun same => by simp [same, other] at digit

theorem isSpace_of_isAsciiDigit (digit : Text.isAsciiDigit c = true) : isSpace c = false := by
  simp [isSpace, ne_of_isAsciiDigit digit (d := ' ') rfl,
    ne_of_isAsciiDigit digit (d := '\n') rfl, ne_of_isAsciiDigit digit (d := '\t') rfl,
    ne_of_isAsciiDigit digit (d := '\r') rfl]

/-- A digit begins a number. -/
theorem value?_digit (digit : Text.isAsciiDigit c = true) :
    value? (fuel + 1) depth (c :: rest) = number? false (c :: rest) := by
  rw [value?, skipSpace_cons (isSpace_of_isAsciiDigit digit)]
  split
  case h_1 same => cases same
  case h_9 => rfl
  all_goals
    rename_i same
    cases same
    exact absurd digit (by decide)

end

section

variable {rest : List Char} {fuel depth : Nat} {j : Json}

theorem writeNumber_ofNat {n : Nat} : writeNumber (.int (.ofNat n)) = Nat.toDigits 10 n := by
  change n.repr.toList = _
  rw [Nat.repr_eq_ofList_toDigits, String.toList_ofList]

theorem writeNumber_negSucc {n : Nat} :
    writeNumber (.int (.negSucc n)) = '-' :: Nat.toDigits 10 (n + 1) := by
  change ("-" ++ (n + 1).repr).toList = _
  rw [String.toList_append, Nat.repr_eq_ofList_toDigits]
  exact congrArg ('-' :: ·) String.toList_ofList

/-- An integer is read again, up to where the value ends. -/
theorem value?_int {n : Int} (fits : -9223372036854775808 ≤ n ∧ n < 18446744073709551616)
    (ends : Ends rest) :
    value? (fuel + 1) depth (bytewise (writeNumber (.int n)) ++ rest) =
      some (.number (.int n), rest) := by
  cases n with
  | ofNat m =>
      have small : (m : Int) < 18446744073709551616 := fits.2
      obtain ⟨c, digits, whole, digit⟩ := @toDigits_begins m
      have read := @number?_toDigits rest m false ends
      rw [integer_toDigits (by omega)] at read
      rw [writeNumber_ofNat, bytewise_toDigits]
      rw [whole, List.cons_append] at read ⊢
      rw [value?_digit digit, read]
      rfl
  | negSucc m =>
      rw [writeNumber_negSucc, bytewise_cons_ascii (by decide), bytewise_toDigits,
        List.cons_append, value?, skipSpace_cons (by decide)]
      change number? true _ = _
      rw [number?_toDigits ends, integer_toDigits_neg (by omega) (by omega)]
      rfl

/-- What is written of a value begins with no blank and closes nothing. -/
theorem write_begins (plain : j.isPlain depth = true) :
    ∃ c text, j.write = c :: text ∧ c.toNat < 128 ∧ isSpace c = false ∧ c ≠ ']' := by
  cases j with
  | null => exact ⟨'n', _, rfl, by decide⟩
  | bool b =>
      cases b with
      | false => exact ⟨'f', _, rfl, by decide⟩
      | true => exact ⟨'t', _, rfl, by decide⟩
  | number n =>
      cases n with
      | int n =>
          cases n with
          | ofNat m =>
              obtain ⟨c, digits, whole, digit⟩ := @toDigits_begins m
              exact ⟨c, digits, writeNumber_ofNat.trans whole, ascii_of_isAsciiDigit digit,
                isSpace_of_isAsciiDigit digit, ne_of_isAsciiDigit digit (by decide)⟩
          | negSucc m => exact ⟨'-', _, writeNumber_negSucc, by decide⟩
      | double bits => cases depth <;> cases plain
  | string s => exact ⟨'"', _, rfl, by decide⟩
  | array items => cases items <;> exact ⟨'[', _, rfl, by decide⟩
  | object members =>
      cases members with
      | nil => exact ⟨'\x7b', _, rfl, by decide⟩
      | cons m members => exact ⟨'\x7b', _, rfl, by decide⟩
  | unreadable => cases depth <;> cases plain

theorem writeItems_pos {items : List Json} : 0 < (writeItems items).length := by
  cases items <;> exact Nat.succ_pos _

theorem ends_writeItems {items : List Json} : Ends (bytewise (writeItems items) ++ rest) := by
  cases items with
  | nil =>
      rw [writeItems, bytewise_ascii (by simp)]
      exact .inr (.inl rfl)
  | cons k items =>
      rw [writeItems, List.cons_append, bytewise_cons_ascii (by decide)]
      exact .inl rfl

theorem writeMembers_pos {members : List (String × Json)} : 0 < (writeMembers members).length := by
  cases members <;> exact Nat.succ_pos _

theorem ends_writeMembers {members : List (String × Json)} :
    Ends (bytewise (writeMembers members) ++ rest) := by
  cases members with
  | nil =>
      rw [writeMembers, bytewise_ascii (by simp)]
      exact .inr (.inr rfl)
  | cons m members =>
      rw [writeMembers, List.cons_append, List.cons_append, bytewise_cons_ascii (by decide)]
      exact .inl rfl

/-- Names that are texts make an object. -/
theorem ofMembers_some {members : List (String × Json)} :
    ofMembers (members.map fun m => (some m.1, m.2)) = .object members := by
  have named : (members.map fun m => ((some m.1 : Option String), m.2)).mapM
      (fun m : Option String × Json => m.1.map (·, m.2)) = some members := by
    induction members with
    | nil => rfl
    | cons m members ih =>
        rw [List.map_cons, List.mapM_cons, ih]
        rfl
  rw [ofMembers, named]

/-- The items of an array are read behind its bracket. -/
theorem value?_array {c : Char} {text : List Char} {items : List Json} (deep : 1 < depth)
    (printed : isSpace c = false) (opened : c ≠ ']')
    (read : items? fuel (depth - 1) (c :: text) = some (items, rest)) :
    value? (fuel + 1) depth ('[' :: c :: text) = some (.array items, rest) := by
  simp only [value?, skipSpace_cons (show isSpace '[' = false by decide), skipSpace_cons printed]
  split
  · rename_i same
    exact absurd (List.cons.inj same).1 opened
  · rw [read, Option.map_some, if_neg (by omega)]

/-- The members of an object are read behind its brace. -/
theorem value?_object {text : List Char} {members : List (String × Json)} (deep : 1 < depth)
    (read : members? fuel (depth - 1) ('"' :: text) =
      some (members.map fun m => (some m.1, m.2), rest)) :
    value? (fuel + 1) depth ('\x7b' :: '"' :: text) = some (.object members, rest) := by
  simp only [value?, skipSpace_cons (show isSpace '\x7b' = false by decide),
    skipSpace_cons (show isSpace '"' = false by decide), read, Option.map_some, ofMembers_some,
    if_neg (Nat.not_le.mpr deep)]
  rfl

theorem bytewise_quoted {s : String} {text : List Char} :
    bytewise (quoted s) ++ text = '"' :: (bytewise (s.toList.flatMap escape) ++ '"' :: text) := by
  rw [quoted, List.cons_append, bytewise_cons_ascii (by decide), bytewise_append]
  simp [bytewise_ascii]

theorem bytewise_member {name : String} {text more : List Char} :
    bytewise (quoted name ++ ':' :: text ++ more) ++ rest =
      bytewise (quoted name) ++ ':' :: (bytewise text ++ (bytewise more ++ rest)) := by
  simp only [bytewise_append, List.append_assoc, List.cons_append,
    bytewise_cons_ascii (show (':' : Char).toNat < 128 by decide)]

/-- A name that is written is read again, with the last value of an object. -/
theorem members?_last {name : String} {text : List Char}
    (read : value? fuel depth text = some (j, '\x7d' :: rest)) :
    members? (fuel + 1) depth (bytewise (quoted name) ++ ':' :: text) =
      some ([(some name, j)], rest) := by
  rw [bytewise_quoted, members?, skipSpace_cons (by decide)]
  simp only [stringRest?_text, Option.bind_eq_bind, Option.bind_some,
    skipSpace_cons (show isSpace ':' = false by decide), read]
  rfl

/-- A name that is written is read again, with its value and the members that follow. -/
theorem members?_onward {name : String} {text more : List Char}
    {members : List (Option String × Json)} (read : value? fuel depth text = some (j, ',' :: more))
    (others : members? fuel depth more = some (members, rest)) :
    members? (fuel + 1) depth (bytewise (quoted name) ++ ':' :: text) =
      some ((some name, j) :: members, rest) := by
  rw [bytewise_quoted, members?, skipSpace_cons (by decide)]
  simp only [stringRest?_text, Option.bind_eq_bind, Option.bind_some,
    skipSpace_cons (show isSpace ':' = false by decide), read,
    skipSpace_cons (show isSpace ',' = false by decide), others]
  rfl

end

/-! A value, the items after the first and the members after the first are read again, with any text
behind them that may end a value. The induction is on what is written; two steps of the reader take
at least one character, and that many are left. -/

mutual

theorem value?_write : (j : Json) → ∀ {fuel depth : Nat} {rest : List Char},
    j.isPlain depth = true → Ends rest → 2 * j.write.length ≤ fuel + 2 →
      value? (fuel + 1) depth (bytewise j.write ++ rest) = some (j, rest)
  | .null, _, _, _, _, _, _ => by
      rw [write, bytewise_ascii (by simp)]
      rfl
  | .bool b, _, _, _, _, _, _ => by
      cases b <;> rw [write, bytewise_ascii (by simp)] <;> rfl
  | .number (.int n), _, _, _, plain, ends, _ => by
      rw [isPlain, decide_eq_true_eq] at plain
      exact value?_int plain ends
  | .number (.double _), _, depth, _, plain, _, _ => by
      cases depth <;> cases plain
  | .string s, _, _, _, _, _, _ => by
      rw [write, bytewise_quoted, value?, skipSpace_cons (by decide)]
      simp only [stringRest?_text]
      rfl
  | .array [], _, _, _, plain, _, _ => by
      rw [isPlain, Bool.and_eq_true, decide_eq_true_eq] at plain
      rw [write, bytewise_ascii (by simp)]
      simp only [List.cons_append, List.nil_append, value?,
        skipSpace_cons (show isSpace '[' = false by decide),
        skipSpace_cons (show isSpace ']' = false by decide), if_neg (Nat.not_le.mpr plain.1)]
  | .array (j :: items), fuel, depth, rest, plain, ends, enough => by
      simp only [isPlain, arePlain, Bool.and_eq_true, decide_eq_true_eq] at plain
      obtain ⟨deep, first, others⟩ := plain
      simp only [write, List.length_cons, List.length_append, List.cons_append] at enough ⊢
      have long := @writeItems_pos items
      obtain ⟨h, rfl⟩ : ∃ h, fuel = h + 2 := ⟨fuel - 2, by omega⟩
      have read : value? (h + 1) (depth - 1)
          (bytewise j.write ++ (bytewise (writeItems items) ++ rest)) =
            some (j, bytewise (writeItems items) ++ rest) :=
        value?_write j first ends_writeItems (by omega)
      have all := items?_writeItems items others (by omega) read
      obtain ⟨c, text, begins, ascii, printed, opened⟩ := write_begins first
      rw [bytewise_cons_ascii (by decide), bytewise_append, List.cons_append, List.append_assoc]
      rw [begins, bytewise_cons_ascii ascii, List.cons_append] at all ⊢
      exact value?_array deep printed opened all
  | .object [], _, _, _, plain, _, _ => by
      rw [isPlain, Bool.and_eq_true, decide_eq_true_eq] at plain
      rw [write, bytewise_ascii (by simp)]
      simp only [List.cons_append, List.nil_append, value?,
        skipSpace_cons (show isSpace '\x7b' = false by decide),
        skipSpace_cons (show isSpace '\x7d' = false by decide), if_neg (Nat.not_le.mpr plain.1)]
  | .object ((name, j) :: members), fuel, depth, rest, plain, ends, enough => by
      simp only [isPlain, havePlainValues, Bool.and_eq_true, decide_eq_true_eq] at plain
      obtain ⟨deep, first, others⟩ := plain
      simp only [write, List.length_cons, List.length_append, List.cons_append] at enough ⊢
      have long := @writeMembers_pos members
      obtain ⟨h, rfl⟩ : ∃ h, fuel = h + 2 := ⟨fuel - 2, by omega⟩
      have read : value? (h + 1) (depth - 1)
          (bytewise j.write ++ (bytewise (writeMembers members) ++ rest)) =
            some (j, bytewise (writeMembers members) ++ rest) :=
        value?_write j first ends_writeMembers (by omega)
      have all := members?_writeMembers members name others (by omega) read
      rw [bytewise_cons_ascii (by decide), List.cons_append, bytewise_member]
      rw [bytewise_quoted] at all ⊢
      exact value?_object deep all
  | .unreadable, _, depth, _, plain, _, _ => by
      cases depth <;> cases plain

theorem items?_writeItems : (items : List Json) → ∀ {fuel depth : Nat} {text rest : List Char}
    {j : Json}, arePlain depth items = true → 2 * (writeItems items).length ≤ fuel + 1 →
      value? fuel depth text = some (j, bytewise (writeItems items) ++ rest) →
        items? (fuel + 1) depth text = some (j :: items, rest)
  | [], fuel, depth, text, rest, j, plain, enough, read => by
      rw [items?, read]
      rfl
  | k :: items, fuel, depth, text, rest, j, plain, enough, read => by
      simp only [arePlain, Bool.and_eq_true] at plain
      obtain ⟨first, others⟩ := plain
      simp only [writeItems, List.length_cons, List.length_append, List.cons_append] at enough read
      have long := @writeItems_pos items
      obtain ⟨h, rfl⟩ : ∃ h, fuel = h + 2 := ⟨fuel - 2, by omega⟩
      have onward : value? (h + 1) depth
          (bytewise k.write ++ (bytewise (writeItems items) ++ rest)) =
            some (k, bytewise (writeItems items) ++ rest) :=
        value?_write k first ends_writeItems (by omega)
      have all := items?_writeItems items others (by omega) onward
      rw [bytewise_cons_ascii (by decide), bytewise_append, List.cons_append, List.append_assoc]
        at read
      rw [items?, read]
      simp only [Option.bind_eq_bind, Option.bind_some,
        skipSpace_cons (show isSpace ',' = false by decide), all]
      rfl

theorem members?_writeMembers : (members : List (String × Json)) → ∀ {fuel depth : Nat}
    {text rest : List Char} {j : Json} (name : String), havePlainValues depth members = true →
      2 * (writeMembers members).length ≤ fuel + 1 →
        value? fuel depth text = some (j, bytewise (writeMembers members) ++ rest) →
          members? (fuel + 1) depth (bytewise (quoted name) ++ ':' :: text) =
            some (((name, j) :: members).map fun m => (some m.1, m.2), rest)
  | [], fuel, depth, text, rest, j, name, plain, enough, read => by
      exact members?_last read
  | (other, k) :: members, fuel, depth, text, rest, j, name, plain, enough, read => by
      simp only [havePlainValues, Bool.and_eq_true] at plain
      obtain ⟨first, others⟩ := plain
      simp only [writeMembers, List.length_cons, List.length_append, List.cons_append]
        at enough read
      have long := @writeMembers_pos members
      obtain ⟨h, rfl⟩ : ∃ h, fuel = h + 2 := ⟨fuel - 2, by omega⟩
      have onward : value? (h + 1) depth
          (bytewise k.write ++ (bytewise (writeMembers members) ++ rest)) =
            some (k, bytewise (writeMembers members) ++ rest) :=
        value?_write k first ends_writeMembers (by omega)
      have all := members?_writeMembers members other others (by omega) onward
      rw [bytewise_cons_ascii (by decide), List.cons_append, bytewise_member] at read
      exact members?_onward read all

end

/-- A value that is written is read again. -/
theorem scan?_render {j : Json} (plain : j.isPlain depthLimit = true) :
    scan? (Utf8.encode j.render) = some j := by
  have bytes : (Utf8.encode j.render).map (fun b => Char.ofNat b.toNat) = bytewise j.write := by
    rw [Utf8.encode, render, String.toList_ofList]
    rfl
  have long : ∀ text : List Char, text.length ≤ (bytewise text).length := fun text => by
    induction text with
    | nil => exact Nat.le_refl 0
    | cons c text ih =>
        have single : 1 ≤ (bytewise [c]).length := by
          rw [bytewise, List.flatMap_singleton, List.length_map]
          exact String.length_utf8EncodeChar c ▸ Char.utf8Size_pos c
        rw [bytewise_cons, List.length_append, List.length_cons]
        omega
  have enough : 2 * j.write.length ≤ 2 * (bytewise j.write).length + 1 + 2 := by
    have := long j.write
    omega
  have read : value? (2 * (bytewise j.write).length + 2) depthLimit (bytewise j.write ++ []) =
      some (j, []) := value?_write j plain trivial enough
  rw [List.append_nil] at read
  rw [scan?, bytes]
  simp only [Option.bind_eq_bind, read, Option.bind_some]
  rfl

end Json
end Vestibule
