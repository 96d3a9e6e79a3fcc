import Vestibule.Proofs.JsonText
import Vestibule.Token.Jwt

/-! Access tokens as texts. What an issuer signs is read again, and whether a token is taken depends
on its signature and on its claims alone. -/

namespace Vestibule

theorem Json.int64?_toInt {n : Int64} : Json.int64? (.int n.toInt) = some n := by
  have low := n.le_toInt
  have high := n.toInt_lt
  rw [int64?, int, intIn?, if_pos ⟨low, by omega⟩]
  simp

theorem Json.strings?_array {texts : List String} :
    Json.strings? (.array (texts.map .string)) = some texts := by
  rw [strings?, listOf?, array?, Option.bind_some]
  induction texts with
  | nil => rfl
  | cons s texts ih =>
      rw [List.map_cons, List.mapM_cons, ih]
      rfl

theorem PrimaryAuthFactor.ofJson?_toJson {f : PrimaryAuthFactor} : ofJson? f.toJson = some f := by
  cases f <;> rfl

namespace AccessClaims

variable {c : AccessClaims}

/-- Claims are read from what is written of them; an audience that was left out is empty. -/
theorem ofJson?_toJson : ofJson? c.toJson = some c := by
  have read : ofJson? c.toJson = (do
      let audience ← Json.strings? (.array (c.audience.map .string))
      let expires ← Json.int64? (.int c.expires.toInt)
      let issued ← Json.int64? (.int c.issued.toInt)
      let notBefore ← Json.int64? (.int c.notBefore.toInt)
      let primaryAuthFactor ← PrimaryAuthFactor.ofJson? c.primaryAuthFactor.toJson
      return { c with audience, expires, issued, notBefore, primaryAuthFactor }) := by
    obtain ⟨subject, issuer, audience, expires, issued, notBefore, tokenId, session, organization,
      email, factor⟩ := c
    cases audience <;> rfl
  rw [read, Json.strings?_array, Json.int64?_toInt, Json.int64?_toInt, Json.int64?_toInt,
    PrimaryAuthFactor.ofJson?_toJson]
  rfl

/-- An audience is named where there is one. -/
theorem isSome_member?_aud : (c.toJson.member? "aud").isSome = !c.audience.isEmpty := by
  obtain ⟨subject, issuer, audience, expires, issued, notBefore, tokenId, session, organization,
    email, factor⟩ := c
  cases audience <;> rfl

/-- Claims that name no audience have none. -/
theorem audience_of_unnamed {j : Json} (object : j.object?.isSome = true)
    (read : ofJson? j = some c) (unnamed : j.member? "aud" = none) : c.audience = [] := by
  obtain ⟨r, row, read⟩ := Option.bind_eq_some_iff.mp read
  have silent : r.defaulted "aud" [] Json.strings? = some [] := by
    cases j with
    | object members =>
        rw [Row.ofJson?] at row
        split at row
        · cases row
          have missing : members.lookup "aud" = none := unnamed
          simp only [Row.defaulted, missing]
        · cases row
    | null | bool | number | string | array | unreadable => cases object
  simp only [silent, Option.bind_eq_bind, Option.bind_some, Option.bind_eq_some_iff,
    Option.pure_def, Option.some.injEq] at read
  obtain ⟨_, _, _, _, _, _, _, _, _, _, _, _, _, _, _, _, _, _, _, _, rfl⟩ := read
  rfl

theorem isPlain_toJson : c.toJson.isPlain Json.depthLimit = true := by
  have fits (n : Int64) :
      -9223372036854775808 ≤ n.toInt ∧ n.toInt < 18446744073709551616 := by
    have low := n.le_toInt
    have high := n.toInt_lt
    omega
  have texts (names : List String) : Json.arePlain 126 (names.map .string) = true := by
    induction names with
    | nil => rfl
    | cons s names ih => simp [Json.arePlain, Json.isPlain, ih]
  cases given : c.audience <;>
    simp [toJson, members, given, Json.isPlain, Json.havePlainValues, Json.depthLimit, Json.int,
      fits, texts, PrimaryAuthFactor.toJson, Json.arePlain]

end AccessClaims

theorem JwtAlgorithm.sign?_of_hash? {a : JwtAlgorithm} {h : HashFunction} {k : JwtKeys}
    {message : List UInt8} (shared : a.hash? = some h) :
    a.sign? k message = some (h.hmac k.signing message) := by
  cases a <;> cases shared <;> rfl

namespace TokenIssuer

variable {t : TokenIssuer} {token : String} {now : Instant} {c c' : AccessClaims} {body : Json}

theorem splitLast?_append {text last : List Char} (free : '.' ∉ last) :
    splitLast? (text ++ '.' :: last) = some (text, last) := by
  have apart : ∀ c ∈ last.reverse, decide (c ≠ '.') = true := fun c member =>
    decide_eq_true fun same => free (same ▸ List.mem_reverse.mp member)
  have found : ((text ++ '.' :: last).reverse.takeWhile (· ≠ '.')).reverse = last := by
    rw [List.reverse_append, List.reverse_cons, List.append_assoc,
      List.takeWhile_append_of_pos apart]
    simp
  unfold splitLast?
  dsimp only
  rw [found, if_neg (by rw [List.length_append, List.length_cons]; omega), List.length_append,
    List.length_cons, show text.length + (last.length + 1) - last.length - 1 = text.length by omega,
    List.take_left]

theorem point_not_mem_encode {bytes : List UInt8} : '.' ∉ Base64.encode .url bytes :=
  fun member => absurd (Base64.mem_letters_of_mem_encode rfl member) (by decide)

theorem decodePart?_encodePart {j : Json} (plain : j.isPlain Json.depthLimit = true) :
    decodePart? (encodePart j) = some j := by
  rw [decodePart?, encodePart, Base64.decode?_encode rfl (by decide)]
  exact Json.scan?_render plain

theorem headerAlgorithm?_header : headerAlgorithm? t.header = some t.config.algorithm.name := by
  unfold header
  cases t.config.algorithm <;> rfl

theorem isPlain_header : t.header.isPlain Json.depthLimit = true := rfl

/-- The token names the algorithm of the issuer, whose key confirms its signature, and `body` is
what stands under it. -/
def Confirms (t : TokenIssuer) (token : String) (body : Json) : Prop :=
  ∃ message signature head payload, splitLast? token.toList = some (message, signature) ∧
    splitLast? message = some (head, payload) ∧
    (decodePart? head).bind headerAlgorithm? = some t.config.algorithm.name ∧
    t.config.algorithm.check? t.keys (Utf8.encode (String.ofList message)) signature = some true ∧
    decodePart? payload = some body

/-- What the claims under a signature are held to; `named` tells whether they name an audience at
all. -/
structure Admits (t : TokenIssuer) (now : Instant) (named : Bool) (c : AccessClaims) : Prop where
  expires : (earliestExpiry now).toNat ≤ c.expires.toInt
  issuer : c.issuer = t.config.issuer
  audience : t.config.audience = [] ∨ named = false ∨ ∃ a ∈ c.audience, a ∈ t.config.audience

/-- A check that went on found what it needed. -/
theorem of_need_eq_ok {α β : Type} {x : Option α} {e : RequestError}
    {f : α → Except RequestError β} {b : β}
    (succeeded : ((match x with
      | some a => .ok a
      | none => .error e : Except RequestError α) >>= f) = .ok b) :
    ∃ a, x = some a ∧ f a = .ok b := by
  cases x with
  | none => cases succeeded
  | some a => exact ⟨a, rfl, succeeded⟩

/-- A check that went on found nothing wrong. -/
theorem of_guard_eq_ok {α : Type} {p : Prop} [Decidable p] {e : RequestError}
    {f : Unit → Except RequestError α} {a : α}
    (succeeded : (if p then Except.error e >>= f else f ()) = .ok a) : ¬ p ∧ f () = .ok a := by
  split at succeeded
  · cases succeeded
  · exact ⟨‹_›, succeeded⟩

theorem heard_iff {named : Bool} :
    ¬ (¬ t.config.audience.isEmpty = true ∧ named = true ∧
        ¬ c.audience.any t.config.audience.contains = true) ↔
      t.config.audience = [] ∨ named = false ∨ ∃ a ∈ c.audience, a ∈ t.config.audience := by
  cases named <;> simp [List.isEmpty_iff, imp_iff_not_or]

/-- A token is taken for its claims where its signature is confirmed and its claims are admitted. -/
theorem validate_eq_ok :
    t.validate now token = .ok c ↔ ∃ body, t.Confirms token body ∧ body.object?.isSome = true ∧
      AccessClaims.ofJson? body = some c ∧ t.Admits now (body.member? "aud").isSome c := by
  constructor
  · intro accepted
    unfold validate at accepted
    obtain ⟨⟨message, signature⟩, split, accepted⟩ := of_need_eq_ok accepted
    obtain ⟨⟨head, payload⟩, split', accepted⟩ := of_need_eq_ok accepted
    obtain ⟨algorithm, known, accepted⟩ := of_need_eq_ok accepted
    obtain ⟨same, accepted⟩ := of_guard_eq_ok accepted
    obtain ⟨genuine, checked, accepted⟩ := of_need_eq_ok accepted
    obtain ⟨confirmed, accepted⟩ := of_guard_eq_ok accepted
    obtain ⟨body, decoded, accepted⟩ := of_need_eq_ok accepted
    obtain ⟨members, object, accepted⟩ := of_need_eq_ok accepted
    obtain ⟨claims, read, accepted⟩ := of_need_eq_ok accepted
    obtain ⟨_, accepted⟩ := of_guard_eq_ok accepted
    obtain ⟨timely, accepted⟩ := of_guard_eq_ok accepted
    obtain ⟨issuer, accepted⟩ := of_guard_eq_ok accepted
    obtain ⟨audience, accepted⟩ := of_guard_eq_ok accepted
    cases accepted
    rw [ne_eq, not_not] at same issuer
    rw [not_not] at confirmed
    subst same confirmed
    refine ⟨body, ⟨message, signature, head, payload, split, split', known, checked, decoded⟩,
      by rw [object]; rfl, read, Int.not_lt.mp timely, issuer, heard_iff.mp audience⟩
  · rintro ⟨body, ⟨message, signature, head, payload, split, split', known, genuine, decoded⟩,
      object, read, expires, issuer, audience⟩
    obtain ⟨members, object⟩ := Option.isSome_iff_exists.mp object
    have given : ¬ c.expires < 0 := by
      rw [Int64.lt_iff_toInt_lt, Int64.toInt_zero]
      omega
    have timely : ¬ c.expires.toInt < (earliestExpiry now).toNat := Int.not_lt.mpr expires
    simp only [validate, bind, Except.bind, split, split', known, genuine, decoded, read, object,
      ne_eq, not_true, if_false, if_neg given, if_neg timely, issuer,
      if_neg (heard_iff.mpr audience)]
    rfl

/-- What is signed: the header and the claims. -/
def message (t : TokenIssuer) (c : AccessClaims) : List Char :=
  encodePart t.header ++ '.' :: encodePart c.toJson

theorem encode_eq_ok :
    t.encode c = .ok token ↔ ∃ signature,
      t.config.algorithm.sign? t.keys (Utf8.encode (String.ofList (t.message c))) =
        some signature ∧
      token = String.ofList (t.message c ++ '.' :: Base64.encode .url signature) := by
  have message : encodePart t.header ++ '.' :: encodePart c.toJson = t.message c := rfl
  rw [encode, message]
  cases t.config.algorithm.sign? t.keys (Utf8.encode (String.ofList (t.message c))) with
  | none => simp
  | some signature => simp only [Except.ok.injEq, Option.some.injEq, exists_eq_left', eq_comm]

theorem splitLast?_message :
    splitLast? (t.message c) = some (encodePart t.header, encodePart c.toJson) :=
  splitLast?_append point_not_mem_encode

/-- The body of a token that was signed is the claims, whatever it was signed with. -/
theorem Confirms.of_encode (signed : t.encode c = .ok token) (confirms : t.Confirms token body) :
    body = c.toJson := by
  obtain ⟨signature, -, rfl⟩ := encode_eq_ok.mp signed
  obtain ⟨_, _, _, _, split, split', -, -, decoded⟩ := confirms
  rw [String.toList_ofList, splitLast?_append point_not_mem_encode] at split
  obtain ⟨rfl, rfl⟩ := Prod.mk.inj (Option.some.inj split)
  rw [splitLast?_message] at split'
  obtain ⟨rfl, rfl⟩ := Prod.mk.inj (Option.some.inj split')
  rw [decodePart?_encodePart AccessClaims.isPlain_toJson] at decoded
  exact (Option.some.inj decoded).symm

/-- What an issuer signs with a shared secret, it confirms. -/
theorem encode_confirms {h : HashFunction} (shared : t.config.algorithm.hash? = some h)
    (same : t.keys.checking = t.keys.signing) (signed : t.encode c = .ok token) :
    t.Confirms token c.toJson := by
  obtain ⟨signature, sealed, rfl⟩ := encode_eq_ok.mp signed
  refine ⟨t.message c, Base64.encode .url signature, encodePart t.header, encodePart c.toJson, ?_,
    splitLast?_message, ?_, ?_, decodePart?_encodePart AccessClaims.isPlain_toJson⟩
  · rw [String.toList_ofList, splitLast?_append point_not_mem_encode]
  · rw [decodePart?_encodePart isPlain_header]
    exact headerAlgorithm?_header
  · rw [JwtAlgorithm.sign?_of_hash? shared] at sealed
    cases sealed
    rw [JwtAlgorithm.check?, shared, same]
    simp

/-- A shared secret signs whatever is claimed. -/
theorem encode_shared {h : HashFunction} (shared : t.config.algorithm.hash? = some h) :
    ∃ token, t.encode c = .ok token :=
  ⟨_, encode_eq_ok.mpr ⟨_, JwtAlgorithm.sign?_of_hash? shared, rfl⟩⟩

/-- A token that was signed is never taken for other claims than those. -/
theorem validate_signed (signed : t.encode c = .ok token)
    (accepted : t.validate now token = .ok c') :
    c' = c ∧ t.Admits now (!c.audience.isEmpty) c := by
  obtain ⟨body, confirms, -, read, admits⟩ := validate_eq_ok.mp accepted
  cases confirms.of_encode signed
  rw [AccessClaims.ofJson?_toJson] at read
  cases read
  rw [AccessClaims.isSome_member?_aud] at admits
  exact ⟨rfl, admits⟩

/-- A token signed with a shared secret is taken where its claims are admitted. -/
theorem validate_shared {h : HashFunction} (shared : t.config.algorithm.hash? = some h)
    (same : t.keys.checking = t.keys.signing) (signed : t.encode c = .ok token) :
    t.validate now token = .ok c ↔ t.Admits now (!c.audience.isEmpty) c := by
  refine ⟨fun accepted => (validate_signed signed accepted).2, fun admits => ?_⟩
  rw [← AccessClaims.isSome_member?_aud] at admits
  exact validate_eq_ok.mpr ⟨c.toJson, encode_confirms shared same signed, rfl,
    AccessClaims.ofJson?_toJson, admits⟩

/-- An expiry is taken until a minute after it, but never in the first minute of 1970. -/
theorem earliestExpiry_le_iff {n : Int64} :
    (earliestExpiry now).toNat ≤ n.toInt ↔ 60 ≤ now.seconds ∧ now.seconds ≤ n.toInt + 60 := by
  obtain ⟨-, late, -⟩ := now.valid
  have high := n.toInt_lt
  rw [earliestExpiry, UInt64.toNat_sub, UInt64.toNat_ofNat', show leewaySeconds.toNat = 60 from rfl]
  omega

end TokenIssuer
end Vestibule
