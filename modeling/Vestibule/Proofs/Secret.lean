import Vestibule.Store.Transaction

/-! Tokens as texts. The token of a secret is accepted, and reading is strict, so a text that is
accepted is the token of one secret. -/

namespace Vestibule

namespace Base64

variable {a : Alphabet}

theorem letter_of_value? {c : Char} {n : Nat} (width : a.letters.length = 64)
    (read : a.value? c = some n) : n < 64 ∧ c = a.letter n := by
  obtain ⟨bound, same, _⟩ := List.idxOf?_eq_some_iff.mp read
  refine ⟨width ▸ bound, ?_⟩
  rw [Alphabet.letter, List.getD_eq_getElem?_getD, List.getElem?_eq_getElem bound,
    Option.getD_some, same]

/-- A text that is read is the one that would be written. -/
theorem encode_of_decode? {text : List Char} {bytes : List UInt8} (width : a.letters.length = 64)
    (read : decode? a text = some bytes) : encode a bytes = text := by
  fun_induction decode? a text generalizing bytes with
  | case1 =>
      cases read
      rfl
  | case2 => cases read
  | case3 p q =>
      simp only [Option.bind_eq_bind, Option.bind_eq_some_iff] at read
      obtain ⟨i, first, j, second, read⟩ := read
      obtain ⟨small, rfl⟩ := letter_of_value? width first
      obtain ⟨small', rfl⟩ := letter_of_value? width second
      split at read
      · cases read
        simp only [encode, UInt8.toNat_ofNat', List.cons.injEq, and_true]
        constructor <;> congr 1 <;> omega
      · cases read
  | case4 p q r =>
      simp only [Option.bind_eq_bind, Option.bind_eq_some_iff] at read
      obtain ⟨i, first, j, second, k, third, read⟩ := read
      obtain ⟨small, rfl⟩ := letter_of_value? width first
      obtain ⟨small', rfl⟩ := letter_of_value? width second
      obtain ⟨little, rfl⟩ := letter_of_value? width third
      split at read
      · cases read
        simp only [encode, UInt8.toNat_ofNat', List.cons.injEq, and_true]
        refine ⟨?_, ?_, ?_⟩ <;> congr 1 <;> omega
      · cases read
  | case5 p q r s rest ih =>
      simp only [Option.bind_eq_bind, Option.bind_eq_some_iff, Option.pure_def,
        Option.some.injEq] at read
      obtain ⟨i, first, j, second, k, third, l, fourth, tail, onward, rfl⟩ := read
      obtain ⟨small, rfl⟩ := letter_of_value? width first
      obtain ⟨small', rfl⟩ := letter_of_value? width second
      obtain ⟨little, rfl⟩ := letter_of_value? width third
      obtain ⟨little', rfl⟩ := letter_of_value? width fourth
      simp only [encode, UInt8.toNat_ofNat', List.cons.injEq]
      refine ⟨?_, ?_, ?_, ?_, ih onward⟩ <;> congr 1 <;> omega

theorem value?_letter {n : Nat} (width : a.letters.length = 64) (distinct : a.letters.Nodup)
    (small : n < 64) : a.value? (a.letter n) = some n := by
  have bound : n < a.letters.length := width ▸ small
  have here : a.letter n = a.letters[n] := by
    rw [Alphabet.letter, List.getD_eq_getElem?_getD, List.getElem?_eq_getElem bound,
      Option.getD_some]
  refine List.idxOf?_eq_some_iff.mpr ⟨bound, here.symm, fun j before same => ?_⟩
  exact List.pairwise_iff_getElem.mp distinct j n (by omega) bound before (same.trans here)

theorem ofNat_eq {n : Nat} {x : UInt8} (same : n % 256 = x.toNat) : UInt8.ofNat n = x := by
  apply UInt8.toNat_inj.mp
  rw [UInt8.toNat_ofNat', same]

/-- Bytes that are written are read again. -/
theorem decode?_encode (width : a.letters.length = 64) (distinct : a.letters.Nodup)
    (bytes : List UInt8) : decode? a (encode a bytes) = some bytes := by
  have read {n : Nat} (small : n < 64) : a.value? (a.letter n) = some n :=
    value?_letter width distinct small
  fun_induction encode a bytes with
  | case1 => rfl
  | case2 x n =>
      have := x.toNat_lt
      rw [decode?, read (by omega), read (by omega)]
      simp only [Option.bind_eq_bind, Option.bind_some]
      rw [if_pos (by omega), ofNat_eq (x := x) (by omega)]
  | case3 x y n =>
      have := x.toNat_lt
      have := y.toNat_lt
      rw [decode?, read (by omega), read (by omega), read (by omega)]
      simp only [Option.bind_eq_bind, Option.bind_some]
      rw [if_pos (by omega), ofNat_eq (x := x) (by omega), ofNat_eq (x := y) (by omega)]
  | case4 x y z rest n ih =>
      have := x.toNat_lt
      have := y.toNat_lt
      have := z.toNat_lt
      rw [decode?, read (by omega), read (by omega), read (by omega), read (by omega), ih]
      simp only [Option.bind_eq_bind, Option.bind_some, Option.pure_def]
      rw [ofNat_eq (x := x) (by omega), ofNat_eq (x := y) (by omega),
        ofNat_eq (x := z) (by omega)]
end Base64

theorem Text.eq_of_after? {lead text rest : List Char} (found : Text.after? lead text = some rest) :
    text = lead ++ rest := by
  fun_induction Text.after? lead text with
  | case1 =>
      cases found
      rfl
  | case2 => cases found
  | case3 _ lead text ih => rw [ih found, List.cons_append]
  | case4 => cases found

theorem Text.after?_append {lead text : List Char} :
    Text.after? lead (lead ++ text) = some text := by
  induction lead with
  | nil => simp [Text.after?]
  | cons c lead ih => simpa [Text.after?] using ih

/-- A text that is accepted is the token of a secret, whose digest is the answer. -/
theorem SecretTokenKind.render_of_digest? {k : SecretTokenKind} {text : String}
    {digest : List UInt8} (read : k.digest? text = some digest) :
    ∃ secret, secret.length = secretBytes ∧ text = k.render secret ∧
      digest = Sha256.digest secret := by
  simp only [SecretTokenKind.digest?, Option.bind_eq_bind, Option.bind_eq_some_iff] at read
  obtain ⟨body, tagged, secret, decoded, read⟩ := read
  split at read
  · rename_i size
    cases read
    refine ⟨secret, size, ?_, rfl⟩
    rw [SecretTokenKind.render, Base64.encode_of_decode? rfl decoded, ← Text.eq_of_after? tagged,
      String.ofList_toList]
  · cases read

/-- The token of a secret is accepted. -/
theorem Secret.digest?_token {s : Secret} {k : SecretTokenKind} :
    k.digest? (s.token k) = some s.digest := by
  have decoded : Base64.decode? .url (Base64.encode .url s.bytes) = some s.bytes :=
    Base64.decode?_encode rfl (by decide) s.bytes
  rw [SecretTokenKind.digest?, Secret.token, SecretTokenKind.render, String.toList_ofList,
    Text.after?_append]
  simp only [Option.bind_eq_bind, Option.bind_some, decoded, if_pos s.length_bytes, Secret.digest]

/-- A text with the digest of a secret is its token, or SHA-256 collides. -/
theorem Secret.token_of_digest? {s : Secret} {k : SecretTokenKind} {text : String}
    (read : k.digest? text = some s.digest) :
    text = s.token k ∨ ∃ other, other ≠ s.bytes ∧ text = k.render other ∧
      Sha256.digest other = s.digest := by
  obtain ⟨secret, _, rfl, same⟩ := SecretTokenKind.render_of_digest? read
  by_cases own : secret = s.bytes
  · subst own
    exact .inl rfl
  · exact .inr ⟨secret, own, rfl, same.symm⟩

end Vestibule
