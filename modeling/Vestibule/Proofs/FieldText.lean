import Mathlib.Data.List.Lattice
import Vestibule.Proofs.AccessToken
import Vestibule.Proofs.IdText
import Vestibule.Proofs.InstantText
import Vestibule.Tenant.Project

/-! Fields as texts. What is written of an identifier, an instant or another value of a field is
read again, and a row is read field by field. -/

namespace Vestibule

variable {α : Type}

namespace Uuid

/-- The groups of digits between the hyphens are those that are read. -/
theorem readHyphenated?_groups {a b c d e : List Char} (first : a.length = 8)
    (second : b.length = 4) (third : c.length = 4) (fourth : d.length = 4)
    (fifth : e.length = 12) :
    readHyphenated? (a ++ '-' :: b ++ '-' :: c ++ '-' :: d ++ '-' :: e) =
      readSimple? (a ++ b ++ c ++ d ++ e) := by
  have long : (a ++ '-' :: b ++ '-' :: c ++ '-' :: d ++ '-' :: e).length = 36 := by
    simp [first, second, third, fourth, fifth]
  have apart : [8, 13, 18, 23].all
      (fun i => (a ++ '-' :: b ++ '-' :: c ++ '-' :: d ++ '-' :: e)[i]? == some '-') = true := by
    simp [List.getElem?_append, first, second, third, fourth]
  rw [readHyphenated?, if_pos ⟨long, apart⟩]
  congr 1
  simp [List.drop_append, first, second, third, fourth, List.drop_of_length_le]

theorem length_simple {id : Uuid} : id.simple.length = 32 := Hex.length_ofNat 32 id.toNat

theorem read?_hyphenated {id : Uuid} : read? id.hyphenated = some id := by
  have size := @length_simple id
  have long : id.hyphenated.length = 36 := by
    simp [hyphenated, size]
  have cut (n : Nat) : (id.simple.drop n).take 4 ++ id.simple.drop (n + 4) = id.simple.drop n := by
    rw [← List.drop_drop, List.take_append_drop]
  have digits : id.simple.take 8 ++ (id.simple.drop 8).take 4 ++ (id.simple.drop 12).take 4 ++
      (id.simple.drop 16).take 4 ++ id.simple.drop 20 = id.simple := by
    rw [List.append_assoc, cut 16, List.append_assoc, cut 12, List.append_assoc, cut 8,
      List.take_append_drop]
  have hyphens : read? id.hyphenated = readHyphenated? id.hyphenated := by
    rw [read?, long]
    rfl
  rw [hyphens, hyphenated, readHyphenated?_groups (by simp [size]) (by simp [size])
    (by simp [size]) (by simp [size]) (by simp [size]), digits, readSimple?_simple]

end Uuid

namespace Json

mutual

/-- The names of the members of a value, at any depth. -/
def names : Json → List String
  | .array items => itemNames items
  | .object members => memberNames members
  | _ => []

def itemNames : List Json → List String
  | [] => []
  | j :: items => names j ++ itemNames items

def memberNames : List (String × Json) → List String
  | [] => []
  | (name, j) :: members => name :: names j ++ memberNames members

end

end Json

/-- The names of the fields that hold secrets. -/
def Record.secretNames : List String :=
  ["password_bcrypt", "new_user_password_bcrypt", "refresh_token_sha256"]

namespace Json

variable {encode : α → Json} {decode : Json → Option α}

/-- A value whose text gives it back inside a record, and that names no secret. -/
structure Shown (j : Json) : Prop where
  plain : ∀ depth, j.isPlain (depth + 4) = true
  discreet : j.names.Disjoint Record.secretNames

/-- How the values of a field are written and read: each is read again, and none is null. -/
structure Codec (encode : α → Json) (decode : Json → Option α) : Prop where
  reads : ∀ a, decode (encode a) = some a
  absent : decode .null = none

@[simp]
theorem shown_ofOption (shown : ∀ a, (encode a).Shown) {value : Option α} :
    (ofOption encode value).Shown := by
  cases value with
  | none => exact ⟨fun _ => rfl, List.disjoint_nil_left _⟩
  | some a => exact shown a

@[simp]
theorem optionOf?_ofOption (codec : Codec encode decode) {value : Option α} :
    optionOf? decode (ofOption encode value) = some value := by
  cases value with
  | none => rfl
  | some a =>
      have read := codec.reads a
      rw [ofOption]
      cases written : encode a with
      | null =>
          rw [written, codec.absent] at read
          cases read
      | bool | number | string | array | object | unreadable =>
          rw [written] at read
          simp [optionOf?, read]

@[simp]
theorem shown_bool {b : Bool} : (bool b).Shown := ⟨fun _ => rfl, List.disjoint_nil_left _⟩

@[simp]
theorem bool?_bool {b : Bool} : bool? (bool b) = some b := rfl

@[simp]
theorem shown_string {s : String} : (string s).Shown := ⟨fun _ => rfl, List.disjoint_nil_left _⟩

@[simp]
theorem string?_string {s : String} : string? (string s) = some s := rfl

@[simp]
theorem string_codec : Codec string string? := ⟨fun _ => string?_string, rfl⟩

@[simp]
theorem shown_ofUuid {id : Uuid} : (ofUuid id).Shown := shown_string

@[simp]
theorem uuid?_ofUuid {id : Uuid} : uuid? (ofUuid id) = some id := by
  rw [uuid?, ofUuid, text, string?_string, Option.bind_some, String.toList_ofList,
    Uuid.read?_hyphenated]

@[simp]
theorem uuid_codec : Codec ofUuid uuid? := ⟨fun _ => uuid?_ofUuid, rfl⟩

@[simp]
theorem shown_ofInstant {t : Instant} : (ofInstant t).Shown := shown_string

@[simp]
theorem instant?_ofInstant {t : Instant} : instant? (ofInstant t) = some t := by
  rw [instant?, ofInstant, text, string?_string, Option.bind_some, String.toList_ofList,
    Rfc3339.read?_write]

@[simp]
theorem instant_codec : Codec ofInstant instant? := ⟨fun _ => instant?_ofInstant, rfl⟩

theorem shown_int {n : Int} (fits : -9223372036854775808 ≤ n ∧ n < 18446744073709551616) :
    (int n).Shown :=
  ⟨fun _ => decide_eq_true fits, List.disjoint_nil_left _⟩

@[simp]
theorem shown_int64 {n : Int64} : (int n.toInt).Shown := by
  have low := n.le_toInt
  have high := n.toInt_lt
  exact shown_int (by omega)

@[simp]
theorem int64_codec : Codec (fun n : Int64 => int n.toInt) int64? := ⟨fun _ => int64?_toInt, rfl⟩

@[simp]
theorem shown_int32 {n : Int32} : (int n.toInt).Shown := by
  have low := n.le_toInt
  have high := n.toInt_lt
  exact shown_int (by omega)

@[simp]
theorem int32?_toInt {n : Int32} : int32? (int n.toInt) = some n := by
  have low := n.le_toInt
  have high := n.toInt_lt
  rw [int32?, int, intIn?, if_pos ⟨low, by omega⟩]
  simp

/-- A list of values without members is plain two levels deep. -/
theorem isPlain_list (plain : ∀ a depth, (encode a).isPlain depth = true) {list : List α}
    {depth : Nat} : (array (list.map encode)).isPlain (depth + 2) = true := by
  have items (depth : Nat) : arePlain depth (list.map encode) = true := by
    induction list with
    | nil => rfl
    | cons a list ih => rw [List.map_cons, arePlain, plain, ih, Bool.and_self]
  simp [isPlain, items]

theorem shown_list (plain : ∀ a depth, (encode a).isPlain depth = true)
    (silent : ∀ a, (encode a).names = []) {list : List α} :
    (array (list.map encode)).Shown := by
  have items : itemNames (list.map encode) = [] := by
    induction list with
    | nil => rfl
    | cons a list ih => rw [List.map_cons, itemNames, silent, ih, List.append_nil]
  refine ⟨fun _ => isPlain_list plain, ?_⟩
  rw [names, items]
  exact List.disjoint_nil_left _

@[simp]
theorem shown_strings {texts : List String} : (array (texts.map string)).Shown :=
  shown_list (fun _ _ => by rw [isPlain]) fun _ => rfl

theorem isPlain_byte {b : UInt8} {depth : Nat} : (int b.toNat).isPlain depth = true := by
  have small := b.toNat_lt
  simp only [int, isPlain, decide_eq_true_eq]
  omega

@[simp]
theorem shown_ofBytes {bytes : List UInt8} : (ofBytes bytes).Shown :=
  shown_list (fun _ _ => isPlain_byte) fun _ => rfl

theorem byte?_toNat {b : UInt8} : byte? (int b.toNat) = some b := by
  have small := b.toNat_lt
  simp only [byte?, int, intIn?]
  rw [if_pos (by omega)]
  simp

@[simp]
theorem bytes?_ofBytes {bytes : List UInt8} : bytes? (ofBytes bytes) = some bytes := by
  rw [bytes?, listOf?, ofBytes, array?, Option.bind_some]
  induction bytes with
  | nil => rfl
  | cons b bytes ih =>
      rw [List.map_cons, List.mapM_cons, ih, byte?_toNat]
      rfl

@[simp]
theorem bytes_codec : Codec ofBytes bytes? := ⟨fun _ => bytes?_ofBytes, rfl⟩

end Json

namespace Row

variable {name other : String} {j : Json} {members : List (String × Json)}
  {decode : Json → Option α} {default : α}

/-- The row of an object with these members. -/
def ofMembers (members : List (String × Json)) : Row :=
  ⟨fun name => match members.lookup name with
    | some j => .given j
    | none => .missing⟩

theorem ofJson?_object {fields : List String} (distinct : (members.map (·.1)).Nodup) :
    ofJson? fields (.object members) = some (ofMembers members) := by
  refine if_pos (List.all_eq_true.mpr fun name _ => decide_eq_true ?_)
  have once := List.nodup_iff_count.mp distinct name
  rw [List.count, List.countP_map, List.countP_eq_length_filter] at once
  exact once

/-- What is read of an object is read of the row of its members. -/
theorem ofJson?_object_bind {fields : List String} {read : Row → Option α}
    (distinct : (members.map (·.1)).Nodup) :
    (ofJson? fields (.object members) >>= read) = read (ofMembers members) := by
  rw [ofJson?_object distinct]
  rfl

@[simp]
theorem required_nil : (ofMembers []).required name decode = none := rfl

@[simp]
theorem optional_nil : (ofMembers []).optional name decode = some none := rfl

theorem slot_cons_self : (ofMembers ((name, j) :: members)).slot name = .given j := by
  simp [ofMembers]

theorem slot_cons_of_ne (apart : name ≠ other) :
    (ofMembers ((other, j) :: members)).slot name = (ofMembers members).slot name := by
  simp [ofMembers, List.lookup_cons, beq_false_of_ne apart]

@[simp]
theorem required_cons_self :
    (ofMembers ((name, j) :: members)).required name decode = decode j := by
  rw [required, slot_cons_self]

@[simp]
theorem required_cons_of_ne (apart : name ≠ other) :
    (ofMembers ((other, j) :: members)).required name decode =
      (ofMembers members).required name decode := by
  rw [required, slot_cons_of_ne apart, required]

@[simp]
theorem optional_cons_self : (ofMembers ((name, j) :: members)).optional name decode =
    Json.optionOf? decode j := by
  rw [optional, slot_cons_self]

@[simp]
theorem optional_cons_of_ne (apart : name ≠ other) :
    (ofMembers ((other, j) :: members)).optional name decode =
      (ofMembers members).optional name decode := by
  rw [optional, slot_cons_of_ne apart, optional]

@[simp]
theorem defaulted_cons_self : (ofMembers ((name, j) :: members)).defaulted name default decode =
    decode j := by
  rw [defaulted, slot_cons_self]

@[simp]
theorem defaulted_cons_of_ne (apart : name ≠ other) :
    (ofMembers ((other, j) :: members)).defaulted name default decode =
      (ofMembers members).defaulted name default decode := by
  rw [defaulted, slot_cons_of_ne apart, defaulted]

end Row

@[simp]
theorem PrimaryAuthFactor.shown_toJson {f : PrimaryAuthFactor} : f.toJson.Shown := Json.shown_string

@[simp]
theorem PrimaryAuthFactor.codec : Json.Codec toJson ofJson? := ⟨fun _ => ofJson?_toJson, rfl⟩

@[simp]
theorem OAuthProvider.shown_toJson {p : OAuthProvider} : p.toJson.Shown := Json.shown_string

@[simp]
theorem OAuthProvider.codec : Json.Codec toJson ofJson? := ⟨fun p => by cases p <;> rfl, rfl⟩

@[simp]
theorem LoginMethods.shown_toJson {ms : LoginMethods} : ms.toJson.Shown := by
  refine ⟨fun _ => rfl, ?_⟩
  simp [toJson, LoginMethod.all, LoginMethod.name, Json.names, Json.memberNames,
    Record.secretNames]

@[simp]
theorem LoginMethods.ofJson?_toJson {ms : LoginMethods} : ofJson? ms.toJson = some ms := by
  have distinct : (LoginMethod.all.map LoginMethod.name).Nodup := by decide
  rw [ofJson?, toJson, Row.ofJson?_object (by rw [List.map_map]; exact distinct)]
  simp [LoginMethod.all, LoginMethod.name, Row.flag, set, allows]

namespace OAuthTarget

variable {target : OAuthTarget}

@[simp]
theorem shown_toJson : target.toJson.Shown := by
  refine ⟨fun _ => by cases target <;> rfl, ?_⟩
  cases target <;>
    simp [toJson, Json.ofTagged, Json.names, Json.memberNames, Record.secretNames,
      OAuthProvider.toJson, Json.ofUuid, Json.text]

/-- The tag of a target tells its case, and the other member its field. -/
theorem ofJson?_toJson : ofJson? target.toJson = some target := by
  cases target with
  | provider p => cases p <;> rfl
  | oidcConnection id =>
      have tagged : (toJson (.oidcConnection id)).tagged? =
          some ("oidc_connection", .object [("connection_id", .ofUuid id)]) := by
        simp [toJson, Json.ofTagged, Json.tagged?, Json.readable?, Json.isReadable,
          Json.haveReadableValues, Json.ofUuid, Json.text]
      rw [ofJson?, tagged, Option.bind_some]
      simp [ofTagged?, Row.ofJson?_object]

@[simp]
theorem codec : Json.Codec toJson ofJson? := ⟨fun _ => ofJson?_toJson, rfl⟩

end OAuthTarget

namespace OAuthClientCredentials

variable {c : OAuthClientCredentials}

@[simp]
theorem shown_toJson : c.toJson.Shown := by
  have plain (depth : Nat) : (Json.ofBytes c.secretCiphertext).isPlain (depth + 3) = true :=
    Json.isPlain_list fun _ _ => Json.isPlain_byte
  have discreet := (@Json.shown_ofBytes c.secretCiphertext).discreet
  constructor
  · simp [toJson, Json.isPlain, Json.havePlainValues, plain]
  · simpa [toJson, Json.names, Json.memberNames, Record.secretNames] using discreet

theorem ofJson?_toJson : ofJson? c.toJson = some c := by
  rw [ofJson?, toJson, Row.ofJson?_object (by simp)]
  simp

@[simp]
theorem codec : Json.Codec toJson ofJson? := ⟨fun _ => ofJson?_toJson, rfl⟩

end OAuthClientCredentials

end Vestibule
