import Vestibule.Proofs.KeyStream
import Vestibule.Store.Transaction

/-! Which texts are tokens. A token is the tag of its kind and the letters of 32 bytes: 42 of them,
and one more whose two lowest bits are zero, since 32 bytes leave them unused. Each such text stands
for bytes of its own, and no other text is read. -/

namespace Vestibule

namespace Base64

variable {a : Alphabet} {bytes bytes' : List UInt8} {text : List Char}

/-- Reading is strict: a text is read as the bytes that it is written for. -/
theorem decode?_eq_some_iff (width : a.letters.length = 64) (distinct : a.letters.Nodup) :
    decode? a text = some bytes ↔ encode a bytes = text :=
  ⟨encode_of_decode? width, fun same => same ▸ decode?_encode width distinct bytes⟩

theorem encode_inj (width : a.letters.length = 64) (distinct : a.letters.Nodup) :
    encode a bytes = encode a bytes' ↔ bytes = bytes' := by
  refine ⟨fun same => ?_, fun same => same ▸ rfl⟩
  have read := (decode?_eq_some_iff width distinct).mpr same
  rw [decode?_encode width distinct bytes'] at read
  exact (Option.some.inj read).symm

theorem exists_value? {c : Char} (listed : c ∈ a.letters) : ∃ n, a.value? c = some n :=
  Option.isSome_iff_exists.mp (List.isSome_idxOf?.mpr listed)

/-- Two bytes at the end leave two bits of the last letter unused, and these are zero. -/
theorem encode_closes (rest : bytes.length % 3 = 2) :
    ∃ n, (encode a bytes).getLast? = some (a.letter n) ∧ n < 64 ∧ n % 4 = 0 := by
  fun_induction encode a bytes with
  | case1 | case2 => simp at rest
  | case3 x y n => exact ⟨n % 64, rfl, Nat.mod_lt _ (by decide), by omega⟩
  | case4 x y z others n ih =>
      obtain ⟨m, last, small, closed⟩ := ih (by simp only [List.length_cons] at rest; omega)
      refine ⟨m, ?_, small, closed⟩
      simp only [List.getLast?_cons, last, Option.getD_some]

/-- Letters are read where three are left over in the end and the last of these has no bits that are
unused. -/
theorem exists_decode? {n : Nat} (listed : ∀ c ∈ text, c ∈ a.letters)
    (rest : text.length % 4 = 3) (closing : text.getLast?.bind a.value? = some n)
    (closed : n % 4 = 0) : ∃ bytes, decode? a text = some bytes := by
  fun_induction decode? a text with
  | case1 | case2 | case3 => simp at rest
  | case4 p q r =>
      obtain ⟨i, first⟩ := exists_value? (listed p (by simp))
      obtain ⟨j, second⟩ := exists_value? (listed q (by simp))
      have third : a.value? r = some n := closing
      simp only [first, second, third, Option.bind_eq_bind, Option.bind_some]
      rw [if_pos (by omega)]
      exact ⟨_, rfl⟩
  | case5 p q r s others ih =>
      obtain ⟨i, first⟩ := exists_value? (listed p (by simp))
      obtain ⟨j, second⟩ := exists_value? (listed q (by simp))
      obtain ⟨k, third⟩ := exists_value? (listed r (by simp))
      obtain ⟨l, fourth⟩ := exists_value? (listed s (by simp))
      have more : others ≠ [] := by
        rintro rfl
        simp at rest
      obtain ⟨bytes, onward⟩ := ih (fun c member => listed c (by simp [member]))
        (by simp only [List.length_cons] at rest; omega)
        (by simpa [List.getLast?_cons, List.getLast?_eq_some_getLast more] using closing)
      simp only [first, second, third, fourth, onward, Option.bind_eq_bind, Option.bind_some]
      exact ⟨_, rfl⟩

end Base64

namespace SecretTokenKind

variable {k k' : SecretTokenKind} {secret secret' digest : List UInt8} {text : String}
  {body : List Char}

/-- The letters whose two lowest bits are zero. -/
def closingLetters : List Char := "AEIMQUYcgkosw048".toList

/-- What follows the tag of a token. -/
structure IsBody (body : List Char) : Prop where
  length : body.length = 43
  letters : ∀ c ∈ body, c ∈ Base64.Alphabet.url.letters
  closing : ∃ c ∈ closingLetters, body.getLast? = some c

theorem value?_closing {c : Char} (closing : c ∈ closingLetters) :
    ∃ n, Base64.Alphabet.url.value? c = some n ∧ n % 4 = 0 := by
  have each : closingLetters.all
      (fun c => (Base64.Alphabet.url.value? c).any (· % 4 = 0)) = true := by decide
  simpa using (Option.any_eq_true ..).mp (List.all_eq_true.mp each c closing)

theorem letter_closing {n : Nat} (small : n < 64) (closed : n % 4 = 0) :
    Base64.Alphabet.url.letter n ∈ closingLetters := by
  have each : ∀ n < 64, n % 4 = 0 → Base64.Alphabet.url.letter n ∈ closingLetters := by
    decide +kernel
  exact each n small closed

/-- The letters of 32 bytes are the bodies of tokens. -/
theorem isBody_iff :
    IsBody body ↔ ∃ secret, secret.length = secretBytes ∧ body = Base64.encode .url secret := by
  constructor
  · rintro ⟨size, letters, c, closing, last⟩
    obtain ⟨n, value, closed⟩ := value?_closing closing
    obtain ⟨secret, read⟩ := Base64.exists_decode? letters (by omega)
      (by rw [last]; exact value) closed
    have written := (Base64.decode?_eq_some_iff rfl (by decide)).mp read
    refine ⟨secret, ?_, written.symm⟩
    have sizes : (4 * secret.length + 2) / 3 = 43 := by
      rw [← size, ← written, Base64.length_encode]
    change secret.length = 32
    omega
  · rintro ⟨secret, size, rfl⟩
    have size : secret.length = 32 := size
    have rest : secret.length % 3 = 2 := by omega
    obtain ⟨n, last, small, closed⟩ := Base64.encode_closes (a := .url) rest
    exact ⟨by rw [Base64.length_encode]; omega,
      fun c => Base64.mem_letters_of_mem_encode rfl, _, letter_closing small closed, last⟩

theorem toList_render : (k.render secret).toList = k.tag.toList ++ Base64.encode .url secret :=
  String.toList_ofList

/-- The tokens of a kind are the texts of its tag and a body. -/
theorem render_iff : (∃ secret, secret.length = secretBytes ∧ text = k.render secret) ↔
    ∃ body, text.toList = k.tag.toList ++ body ∧ IsBody body := by
  constructor
  · rintro ⟨secret, size, rfl⟩
    exact ⟨_, toList_render, isBody_iff.mpr ⟨secret, size, rfl⟩⟩
  · rintro ⟨body, whole, isBody⟩
    obtain ⟨secret, size, rfl⟩ := isBody_iff.mp isBody
    exact ⟨secret, size, String.toList_inj.mp (whole.trans toList_render.symm)⟩

/-- A token tells its secret. -/
theorem render_inj : k.render secret = k.render secret' ↔ secret = secret' := by
  rw [← String.toList_inj, toList_render, toList_render, List.append_cancel_left_eq,
    Base64.encode_inj rfl (by decide)]

/-- A token tells its kind, by its first letter. -/
theorem kind_of_render (same : k.render secret = k'.render secret') : k = k' := by
  have first : k.tag.toList.head? = k'.tag.toList.head? := by
    have texts := congrArg (fun t => t.toList.head?) same
    simp only [toList_render, List.head?_append] at texts
    cases k <;> cases k' <;> exact texts
  cases k <;> cases k' <;> first | rfl | exact absurd first (by decide)

theorem digest?_eq_some_iff : k.digest? text = some digest ↔
    ∃ secret, secret.length = secretBytes ∧ text = k.render secret ∧
      digest = Sha256.digest secret := by
  refine ⟨render_of_digest?, ?_⟩
  rintro ⟨secret, size, rfl, rfl⟩
  exact Secret.digest?_token (s := ⟨secret, size⟩)

theorem parse_eq_ok : k.parse text = .ok digest ↔
    ∃ secret, secret.length = secretBytes ∧ text = k.render secret ∧
      digest = Sha256.digest secret := by
  rw [← digest?_eq_some_iff, parse]
  cases k.digest? text <;> simp

theorem parse_eq_malformed (none : ¬ ∃ body, text.toList = k.tag.toList ++ body ∧ IsBody body) :
    k.parse text = .error (.invalidArgument (.malformedToken k)) := by
  have unread : k.digest? text = .none := by
    by_contra read
    obtain ⟨digest, read⟩ := Option.ne_none_iff_exists'.mp read
    obtain ⟨secret, size, whole, _⟩ := digest?_eq_some_iff.mp read
    exact none (render_iff.mp ⟨secret, size, whole⟩)
  rw [parse, unread]

/-- What a request needs of a token it is given is what reading the token answers. -/
theorem need_digest? : Transaction.need (k.digest? text) (.invalidArgument (.malformedToken k)) =
    Transaction.ofExcept (k.parse text) := by
  rw [parse]
  cases k.digest? text <;> rfl

/-- Ways to misspell a token. -/
inductive Misspelling (k : SecretTokenKind) (token : List Char) : List Char → Prop where
  /-- With characters too many, such as padding or blanks, at any place. -/
  | longer {front more back : List Char} (whole : token = front ++ back) (some : more ≠ []) :
      Misspelling k token (front ++ more ++ back)
  /-- With characters missing at any place. -/
  | shorter {front gone back : List Char} (whole : token = front ++ gone ++ back)
      (some : gone ≠ []) : Misspelling k token (front ++ back)
  /-- With characters behind the tag that are no letters, such as `+` and `/`. -/
  | foreign {body : List Char} {c : Char} (listed : c ∈ body)
      (foreign : c ∉ Base64.Alphabet.url.letters) : Misspelling k token (k.tag.toList ++ body)
  /-- With a last letter whose unused bits are not zero. -/
  | trailing {front : List Char} {c d : Char} {n : Nat} (whole : token = front ++ [c])
      (value : Base64.Alphabet.url.value? d = some n) (bits : n % 4 ≠ 0) :
      Misspelling k token (front ++ [d])
  /-- With a tag in other case. -/
  | recased {lead body : List Char} (whole : token = k.tag.toList ++ body)
      (same : Text.eqIgnoringCase lead k.tag.toList = true) (other : lead ≠ k.tag.toList) :
      Misspelling k token (lead ++ body)

/-- A token that is misspelt is no token of its kind. -/
theorem Misspelling.not_token {token text : List Char} (misspelt : Misspelling k token text)
    (proper : ∃ body, token = k.tag.toList ++ body ∧ IsBody body) :
    ¬ ∃ body, text = k.tag.toList ++ body ∧ IsBody body := by
  obtain ⟨body, rfl, isBody⟩ := proper
  rintro ⟨body', whole', isBody'⟩
  have size := isBody.length
  have size' := isBody'.length
  have sizes := congrArg List.length whole'
  cases misspelt with
  | longer whole some =>
      have := congrArg List.length whole
      have := List.length_pos_iff.mpr some
      simp only [List.length_append] at *
      omega
  | shorter whole some =>
      have := congrArg List.length whole
      have := List.length_pos_iff.mpr some
      simp only [List.length_append] at *
      omega
  | foreign listed foreign =>
      cases List.append_cancel_left whole'
      exact foreign (isBody'.letters _ listed)
  | @trailing front c d n whole value bits =>
      obtain ⟨e, closing, last⟩ := isBody'.closing
      have ends := congrArg List.getLast? whole'
      rw [List.getLast?_concat, List.getLast?_append, last, Option.some_or] at ends
      cases ends
      obtain ⟨m, value', closed⟩ := value?_closing closing
      rw [value] at value'
      cases value'
      exact bits closed
  | @recased lead rest whole same other =>
      cases List.append_cancel_left whole
      have long : lead.length = k.tag.toList.length := by
        simp only [List.length_append] at sizes
        omega
      exact other (List.append_inj_left whole' long)

end SecretTokenKind

/-- The texts that are read as tokens of a kind are its tag and the letters of 32 bytes, whose
digest is the answer; for a token that was made it is the one that was stored. Tokens are as
different as their bytes, and none is read as one of two kinds. Every other text is the caller's
fault, such as a token that is misspelt. -/
theorem SecretTokenKind.token_grammar (k : SecretTokenKind) (text : String) :
    (∀ digest, k.parse text = .ok digest ↔
      ∃! secret, secret.length = secretBytes ∧ text = k.render secret ∧
        digest = Sha256.digest secret) ∧
    ((¬ ∃ secret, secret.length = secretBytes ∧ text = k.render secret) →
      k.parse text = .error (.invalidArgument (.malformedToken k))) ∧
    (∀ s : Secret, k.parse (s.token k) = .ok s.digest) ∧
    (∀ other secret secret', text = k.render secret → other = k.render secret' →
      (text = other ↔ secret = secret')) ∧
    (∀ k' digest digest', k.parse text = .ok digest → k'.parse text = .ok digest' → k = k') ∧
    (∀ digest other, k.parse text = .ok digest → Misspelling k text.toList other →
      k.parse (String.ofList other) = .error (.invalidArgument (.malformedToken k))) := by
  refine ⟨fun digest => ⟨fun read => ?_, fun given => parse_eq_ok.mpr given.exists⟩,
    fun none => ?_, fun s => ?_, fun other secret secret' own own' => ?_,
    fun k' digest digest' read read' => ?_, fun digest other read misspelt => ?_⟩
  · obtain ⟨secret, size, whole, stored⟩ := parse_eq_ok.mp read
    exact ⟨secret, ⟨size, whole, stored⟩, fun other ⟨_, whole', _⟩ =>
      render_inj.mp (whole'.symm.trans whole)⟩
  · exact parse_eq_malformed fun proper => none (render_iff.mpr proper)
  · exact parse_eq_ok.mpr ⟨s.bytes, s.length_bytes, rfl, rfl⟩
  · rw [own, own', render_inj]
  · obtain ⟨secret, _, rfl, _⟩ := parse_eq_ok.mp read
    obtain ⟨secret', _, same, _⟩ := parse_eq_ok.mp read'
    exact kind_of_render same
  · obtain ⟨secret, size, whole, _⟩ := parse_eq_ok.mp read
    refine parse_eq_malformed ?_
    rw [String.toList_ofList]
    exact misspelt.not_token (render_iff.mp ⟨secret, size, whole⟩)

theorem SecretTokenKind.token_grammar_of_padded :
    sessionRefreshToken.parse ((Secret.ofNat 5).token .sessionRefreshToken) =
      .ok (Secret.ofNat 5).digest ∧
    (∀ digest, oauthState.parse ((Secret.ofNat 5).token .sessionRefreshToken) ≠ .ok digest) ∧
    sessionRefreshToken.parse
        (String.ofList (((Secret.ofNat 5).token .sessionRefreshToken).toList ++ ['='])) =
      .error (.invalidArgument (.malformedToken .sessionRefreshToken)) := by
  obtain ⟨-, -, made, -, kinds, misspelt⟩ :=
    token_grammar .sessionRefreshToken ((Secret.ofNat 5).token .sessionRefreshToken)
  have read := made (.ofNat 5)
  refine ⟨read, fun digest other => ?_, misspelt _ _ read ?_⟩
  · cases kinds _ _ _ read other
  · generalize ((Secret.ofNat 5).token .sessionRefreshToken).toList = token
    have padded : Misspelling .sessionRefreshToken token (token ++ ['='] ++ []) :=
      .longer (List.append_nil token).symm (by decide)
    rwa [List.append_nil] at padded

end Vestibule
