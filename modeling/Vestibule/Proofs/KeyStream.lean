import Mathlib.Data.List.TakeWhile
import Vestibule.Password.Matcher
import Vestibule.Proofs.Secret

/-! What bcrypt sees of a password. It acts through its key stream alone, and a stored text is
checked against the stream of what is presented. Without a zero byte in it the stream tells the
first 72 bytes of a password, and nothing of the rest. -/

namespace Vestibule

namespace Utf8

variable {p q : String}

theorem toByteArray_encode : (encode p).toByteArray = p.toByteArray :=
  String.utf8Encode_toList

theorem encode_inj : encode p = encode q ↔ p = q := by
  refine ⟨fun same => ?_, fun same => same ▸ rfl⟩
  rw [← String.toByteArray_inj, ← toByteArray_encode, ← toByteArray_encode, same]

/-- The bytes of a text begin with those of another where the text does. -/
theorem encode_isPrefix : encode p <+: encode q ↔ p.toList <+: q.toList := by
  constructor
  · rintro ⟨more, whole⟩
    refine List.isPrefix_of_utf8Encode_append_eq_utf8Encode more.toByteArray ?_
    rw [List.utf8Encode, List.utf8Encode, ← List.toByteArray_append]
    exact congrArg List.toByteArray whole
  · rintro ⟨more, whole⟩
    rw [encode, encode, ← whole, List.flatMap_append]
    exact List.prefix_append _ _

/-- The bytes of a character other than the zero character are not zero. -/
theorem zero_mem_utf8EncodeChar {c : Char} : 0 ∈ String.utf8EncodeChar c ↔ c = '\x00' := by
  constructor
  · intro zero
    have small : c.val.toNat = 0 := by
      unfold String.utf8EncodeChar at zero
      dsimp only at zero
      repeat' split at zero
      all_goals
        simp only [List.mem_cons, List.not_mem_nil, or_false, ← UInt8.toNat_inj,
          UInt8.toNat_ofNat', UInt8.toNat_zero] at zero
        omega
    exact Char.ext (UInt32.toNat_inj.mp small)
  · rintro rfl
    decide

theorem zero_mem_encode : 0 ∈ encode p ↔ '\x00' ∈ p.toList := by
  simp only [encode, List.mem_flatMap, zero_mem_utf8EncodeChar, exists_eq_right]

end Utf8

namespace Base64

variable {a : Alphabet} {bytes : List UInt8}

theorem length_encode : (encode a bytes).length = (4 * bytes.length + 2) / 3 := by
  fun_induction encode a bytes with
  | case1 | case2 | case3 => simp
  | case4 x y z rest n ih =>
      simp only [List.length_cons, ih]
      omega

/-- A text is written with the letters of its alphabet. -/
theorem mem_letters_of_mem_encode {c : Char} (width : a.letters.length = 64)
    (member : c ∈ encode a bytes) : c ∈ a.letters := by
  have listed {n : Nat} (small : n < 64) : a.letter n ∈ a.letters := by
    rw [Alphabet.letter, List.getD_eq_getElem?_getD, List.getElem?_eq_getElem (width ▸ small)]
    exact List.getElem_mem _
  fun_induction encode a bytes with
  | case1 => cases member
  | case2 x n =>
      have := x.toNat_lt
      simp only [List.mem_cons, List.not_mem_nil, or_false] at member
      rcases member with rfl | rfl <;> exact listed (by omega)
  | case3 x y n =>
      have := x.toNat_lt
      have := y.toNat_lt
      simp only [List.mem_cons, List.not_mem_nil, or_false] at member
      rcases member with rfl | rfl | rfl <;> exact listed (by omega)
  | case4 x y z rest n ih =>
      have := x.toNat_lt
      have := y.toNat_lt
      have := z.toNat_lt
      simp only [List.mem_cons] at member
      rcases member with rfl | rfl | rfl | rfl | later
      · exact listed (by omega)
      · exact listed (by omega)
      · exact listed (by omega)
      · exact listed (by omega)
      · exact ih later

end Base64

namespace Bcrypt

/-- The key stream of a text. -/
def stream (password : String) : List UInt8 := keyStream (Utf8.encode password)

section

variable {p q : List UInt8}

theorem length_keyStream : (keyStream p).length = 72 := by
  simp [keyStream]

/-- The stream begins with the password and its zero byte, as far as they fit. -/
theorem key_isPrefix_keyStream : (p ++ [0]).take 72 <+: keyStream p := by
  unfold keyStream
  dsimp only
  have fits : ((p ++ [0]).take 72).length ≤ 72 := List.length_take_le ..
  generalize (p ++ [0]).take 72 = key at fits
  rw [List.prefix_iff_eq_take]
  refine List.ext_getElem (by simp [fits]) fun i inside inside' => ?_
  simp [Nat.mod_eq_of_lt inside, List.getElem?_eq_getElem inside]

/-- Up to its first zero byte, the stream of a password without one is the password, as far as it
fits. -/
theorem takeWhile_keyStream (free : 0 ∉ p) : (keyStream p).takeWhile (· ≠ 0) = p.take 72 := by
  have nonzero : ∀ b ∈ p, decide (b ≠ 0) = true := by
    intro b member
    exact decide_eq_true fun zero => free (zero ▸ member)
  obtain ⟨more, whole⟩ := @key_isPrefix_keyStream p
  -- Either the zero byte that ends the key is in the stream, or the password fills the stream.
  by_cases short : p.length < 72
  · rw [List.take_of_length_le (by simp; omega), List.append_assoc] at whole
    rw [← whole, List.takeWhile_append_of_pos nonzero, List.take_of_length_le (by omega)]
    simp
  · have long : 72 ≤ p.length := by omega
    rw [List.take_append_of_le_length long] at whole
    have none : more = [] := by
      have sizes := congrArg List.length whole
      rw [List.length_append, List.length_take, length_keyStream] at sizes
      exact List.length_eq_zero_iff.mp (by omega)
    rw [← whole, none, List.append_nil]
    exact List.takeWhile_eq_self_iff.mpr fun b member => nonzero b (List.mem_of_mem_take member)

/-- Of a password without a zero byte the stream tells the first 72 bytes. -/
theorem keyStream_eq_iff (free : 0 ∉ p) (free' : 0 ∉ q) :
    keyStream q = keyStream p ↔ q.take 72 = p.take 72 := by
  constructor
  · intro same
    rw [← takeWhile_keyStream free, ← takeWhile_keyStream free', same]
  · intro same
    have keys : (q ++ [0]).take 72 = (p ++ [0]).take 72 := by
      rw [List.take_append, List.take_append, same]
      have sizes := congrArg List.length same
      rw [List.length_take, List.length_take] at sizes
      rw [show 72 - q.length = 72 - p.length by omega]
    rw [keyStream, keyStream, keys]

end

/-- Without a zero character, another text has the stream of a password of at most 72 bytes only
where this has exactly 72 and the other goes on from there. -/
theorem stream_eq_iff {p q : String} (short : (Utf8.encode p).length ≤ 72)
    (free : '\x00' ∉ p.toList) (free' : '\x00' ∉ q.toList) :
    stream q = stream p ↔ q = p ∨ (Utf8.encode p).length = 72 ∧ p.toList <+: q.toList := by
  rw [stream, stream, keyStream_eq_iff (mt Utf8.zero_mem_encode.mp free)
    (mt Utf8.zero_mem_encode.mp free'), List.take_of_length_le short, ← Utf8.encode_isPrefix,
    ← Utf8.encode_inj]
  constructor
  · intro cut
    by_cases whole : (Utf8.encode q).length ≤ 72
    · rw [List.take_of_length_le whole] at cut
      exact .inl cut
    · have full : (Utf8.encode p).length = 72 := by
        rw [← cut, List.length_take]
        omega
      exact .inr ⟨full, cut ▸ List.take_prefix _ _⟩
  · rintro (same | ⟨full, begins⟩)
    · rw [same, List.take_of_length_le short]
    · rw [← full]
      exact (List.prefix_iff_eq_take.mp begins).symm

/-! The stored text. -/

theorem length_digest {cost : Nat} {salt s : List UInt8} : (digest cost salt s).length = 23 := by
  simp [digest, plainBlocks, Words.toBytes32]

/-- A cost that is written is read again. -/
theorem readUnsigned_twoDigits {cost : Nat} (allowed : costInRange cost = true) :
    Integer.readUnsigned 32 (twoDigits cost) = some cost := by
  have read : ∀ n < 32, costInRange n = true → Integer.readUnsigned 32 (twoDigits n) = some n := by
    decide
  simp only [costInRange, Bool.and_eq_true, decide_eq_true_eq] at allowed
  exact read cost (by omega) (by simp [costInRange, allowed])

theorem separator_not_mem_twoDigits {cost : Nat} (allowed : costInRange cost = true) :
    '$' ∉ twoDigits cost := by
  have apart : ∀ n < 32, '$' ∉ twoDigits n := by
    decide
  simp only [costInRange, Bool.and_eq_true, decide_eq_true_eq] at allowed
  exact apart cost (by omega)

/-- Every letter takes one byte. -/
theorem length_encode_ofList {letters : List Char}
    (plain : ∀ c ∈ letters, c ∈ Base64.Alphabet.crypt.letters) :
    (Utf8.encode (String.ofList letters)).length = letters.length := by
  have single : ∀ c ∈ Base64.Alphabet.crypt.letters, (String.utf8EncodeChar c).length = 1 := by
    have all : Base64.Alphabet.crypt.letters.all
        (fun c => (String.utf8EncodeChar c).length == 1) = true := by decide
    simpa only [List.all_eq_true, beq_iff_eq] using all
  rw [Utf8.encode, String.toList_ofList]
  induction letters with
  | nil => rfl
  | cons c letters ih =>
      rw [List.flatMap_cons, List.length_append, single c (plain c List.mem_cons_self),
        ih fun d member => plain d (List.mem_cons_of_mem _ member), List.length_cons]
      omega

/-- The parts that are written between the separators are the pieces that are read. -/
theorem pieces_text {cost : List Char} {rest : List Char} (costly : cost ≠ []) (more : rest ≠ [])
    (apart : '$' ∉ cost) (apart' : '$' ∉ rest) :
    pieces ("$2b$".toList ++ cost ++ '$' :: rest) = [['2', 'b'], cost, rest] := by
  have whole : "$2b$".toList ++ cost ++ '$' :: rest =
      ['$'].intercalate [[], ['2', 'b'], cost, rest] := by
    simp
  rw [pieces, whole, List.splitOn_intercalate '$' (by simp [apart, apart']) (by simp)]
  simp [costly, more]

/-- A text that was written is read again. -/
theorem read_text {cost : Nat} {salt sum : List UInt8} (allowed : costInRange cost = true)
    (salted : salt.length = 16) (summed : sum.length = 23) :
    Parts.read (String.ofList ("$2b$".toList ++ twoDigits cost ++ '$' ::
      Base64.encode .crypt salt ++ Base64.encode .crypt sum)) = .ok ⟨cost, salt, sum⟩ := by
  have decoded (bytes : List UInt8) :
      Base64.decode? .crypt (Base64.encode .crypt bytes) = some bytes :=
    Base64.decode?_encode rfl (by decide) bytes
  have saltLetters : (Base64.encode .crypt salt).length = 22 := by
    rw [Base64.length_encode, salted]
  have sumLetters : (Base64.encode .crypt sum).length = 31 := by
    rw [Base64.length_encode, summed]
  have plain : ∀ c ∈ Base64.encode .crypt salt ++ Base64.encode .crypt sum,
      c ∈ Base64.Alphabet.crypt.letters := by
    intro c member
    rcases List.mem_append.mp member with member | member <;>
      exact Base64.mem_letters_of_mem_encode rfl member
  have letters : (Base64.encode .crypt salt ++ Base64.encode .crypt sum).length = 53 := by
    rw [List.length_append, saltLetters, sumLetters]
  have bytes : (Utf8.encode (String.ofList
      (Base64.encode .crypt salt ++ Base64.encode .crypt sum))).length = 53 := by
    rw [length_encode_ofList plain, letters]
  have separated : '$' ∉ Base64.Alphabet.crypt.letters := by decide
  have costly : twoDigits cost ≠ [] := by simp [twoDigits]
  have split := pieces_text costly
    (List.ne_nil_of_length_pos (by omega)) (separator_not_mem_twoDigits allowed)
    fun member => separated (plain _ member)
  have known : versions.contains (String.ofList ['2', 'b']) = true := by decide
  rw [Parts.read, String.toList_ofList, List.append_assoc, List.cons_append, split]
  simp only [known, readUnsigned_twoDigits allowed, bytes, ne_eq, not_true_eq_false, if_false]
  rw [List.take_left' saltLetters, List.drop_left' saltLetters, decoded, decoded]
  simp [allowed]

/-- A check of a stored text compares digests of streams under the salt that it was stored with. -/
theorem verify_hash {cost : Nat} {salt : List UInt8} {p q text : String}
    (salted : salt.length = 16) (hashed : hash cost salt p = .ok text) :
    verify q text = .ok (digest cost salt (stream q) == digest cost salt (stream p)) := by
  unfold hash at hashed
  dsimp only at hashed
  split at hashed
  · rename_i allowed
    cases hashed
    rw [verify, read_text allowed salted length_digest]
    rfl
  · cases hashed

/-- The digest tells the streams of these texts apart. -/
def Separates (digest : Nat → List UInt8 → List UInt8 → List UInt8) (texts : String → Prop) :
    Prop :=
  ∀ cost salt p q, texts p → texts q →
    digest cost salt (stream q) = digest cost salt (stream p) → stream q = stream p

end Bcrypt

namespace PasswordScheme

/-- A scheme that compares digests of key streams, and whose hashing does not fail on some texts
only. -/
structure Keyed (k : PasswordScheme) (digest : Nat → List UInt8 → List UInt8 → List UInt8) :
    Prop where
  hashes : ∀ {cost salt p stored}, k.hash cost salt p = .ok stored →
    ∀ salt' q, ∃ stored', k.hash cost salt' q = .ok stored'
  verifies : ∀ {cost salt p stored}, salt.length = 16 → k.hash cost salt p = .ok stored →
    ∀ q, k.verify q stored =
      .ok (digest cost salt (Bcrypt.stream q) == digest cost salt (Bcrypt.stream p))

theorem keyed_bcrypt : bcrypt.Keyed Bcrypt.digest := by
  refine ⟨fun {cost salt p stored} hashed salt' q => ?_, fun salted hashed q =>
    Bcrypt.verify_hash salted hashed⟩
  have allowed : Bcrypt.costInRange cost = true := by
    by_contra refused
    simp [bcrypt, Bcrypt.hash, refused] at hashed
  exact ⟨_, if_pos allowed⟩

end PasswordScheme

end Vestibule
