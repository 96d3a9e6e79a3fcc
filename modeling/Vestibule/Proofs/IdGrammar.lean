import Mathlib.Data.List.Induction
import Mathlib.Data.Nat.Digits.Defs
import Mathlib.Tactic.IntervalCases
import Vestibule.Proofs.IdText

/-! Which texts are identifiers. An identifier is the tag of its kind and 32 hexadecimal digits in
either case, so no text is one of two kinds, and writing it again only lowers the digits. -/

namespace Vestibule

namespace Hex

/-- The digits in their order, and again for those that have a second case. -/
def digits : List Char := "0123456789abcdefABCDEF".toList

/-- The place of a digit among the sixteen in lower case. -/
def weight (c : Char) : Nat := "0123456789abcdef".toList.idxOf (Text.toAsciiLower c)

/-- Digits of the number `n`, the most significant one first. -/
structure Denotes (text : List Char) (n : Nat) : Prop where
  digits : ∀ c ∈ text, c ∈ Hex.digits
  value : Nat.ofDigits 16 (text.reverse.map weight) = n

variable {c : Char} {text : List Char} {n : Nat}

theorem mem_digits_of_value? (read : value? c = some n) : c ∈ digits := by
  have same := Char.ofNat_toNat c
  unfold value? at read
  split at read
  · rename_i range
    obtain ⟨low, high⟩ : 48 ≤ c.toNat ∧ c.toNat ≤ 57 := range
    rw [← same]
    interval_cases c.toNat <;> decide
  · split at read
    · rename_i range
      obtain ⟨low, high⟩ : 97 ≤ c.toNat ∧ c.toNat ≤ 102 := range
      rw [← same]
      interval_cases c.toNat <;> decide
    · split at read
      · rename_i range
        obtain ⟨low, high⟩ : 65 ≤ c.toNat ∧ c.toNat ≤ 70 := range
        rw [← same]
        interval_cases c.toNat <;> decide
      · cases read

theorem digit_facts (listed : c ∈ digits) :
    value? c = some (weight c) ∧ weight c < 16 ∧ digit (weight c) = Text.toAsciiLower c := by
  have each : digits.all (fun c => value? c = some (weight c) ∧ weight c < 16 ∧
      digit (weight c) = Text.toAsciiLower c) = true := by decide
  exact of_decide_eq_true (List.all_eq_true.mp each c listed)

theorem value?_eq_some_iff : value? c = some n ↔ c ∈ digits ∧ weight c = n := by
  constructor
  · intro read
    have listed := mem_digits_of_value? read
    rw [(digit_facts listed).1] at read
    exact ⟨listed, Option.some.inj read⟩
  · rintro ⟨listed, rfl⟩
    exact (digit_facts listed).1

theorem toNat?_eq_some_iff : toNat? text = some n ↔ Denotes text n := by
  induction text using List.reverseRecOn generalizing n with
  | nil =>
      refine ⟨fun read => ?_, fun denotes => denotes.value ▸ rfl⟩
      cases read
      exact ⟨by simp, rfl⟩
  | append_singleton text c ih =>
      have unfolded : Nat.ofDigits 16 ((text ++ [c]).reverse.map weight) =
          weight c + 16 * Nat.ofDigits 16 (text.reverse.map weight) := by
        simp [Nat.ofDigits_cons]
      simp only [toNat?_concat, Option.bind_eq_some_iff, Option.map_eq_some_iff, ih,
        value?_eq_some_iff]
      constructor
      · rintro ⟨m, ⟨front, value⟩, w, ⟨listed, rfl⟩, rfl⟩
        refine ⟨fun d member => ?_, ?_⟩
        · rcases List.mem_append.mp member with before | last
          · exact front d before
          · cases List.mem_singleton.mp last
            exact listed
        · rw [unfolded, value]
          omega
      · rintro ⟨all, value⟩
        rw [unfolded] at value
        exact ⟨_, ⟨fun d member => all d (List.mem_append_left _ member), rfl⟩, _,
          ⟨all c (by simp), rfl⟩, by omega⟩

/-- A number of as many digits as a text has is written as the text in lower case. -/
theorem ofNat_of_denotes (denotes : Denotes text n) :
    ofNat text.length n = text.map Text.toAsciiLower := by
  induction text using List.reverseRecOn generalizing n with
  | nil => rfl
  | append_singleton text c ih =>
      have read := toNat?_eq_some_iff.mpr denotes
      simp only [toNat?_concat, Option.bind_eq_some_iff, Option.map_eq_some_iff,
        value?_eq_some_iff] at read
      obtain ⟨m, front, w, ⟨listed, rfl⟩, rfl⟩ := read
      obtain ⟨-, small, lower⟩ := digit_facts listed
      rw [List.length_append, List.length_singleton, ofNat,
        show (m * 16 + weight c) / 16 = m by omega,
        show (m * 16 + weight c) % 16 = weight c by omega, ih (toNat?_eq_some_iff.mp front), lower,
        List.map_append, List.map_singleton]

theorem Denotes.lt (denotes : Denotes text n) : n < 16 ^ text.length := by
  have bound := Nat.ofDigits_lt_base_pow_length (b := 16) (l := text.reverse.map weight)
    (by decide) fun w member => by
      obtain ⟨c, listed, rfl⟩ := List.mem_map.mp member
      exact (digit_facts (denotes.digits c (List.mem_reverse.mp listed))).2.1
  rwa [denotes.value, List.length_map, List.length_reverse] at bound

end Hex

namespace Text

variable {lead text rest : List Char}

theorem after?_eq_some_iff : after? lead text = some rest ↔ text = lead ++ rest :=
  ⟨eq_of_after?, fun whole => whole ▸ after?_append⟩

theorem after?_eq_none_iff : after? lead text = none ↔ ¬ lead <+: text := by
  rw [Option.eq_none_iff_forall_ne_some]
  simp only [ne_eq, after?_eq_some_iff, List.IsPrefix, not_exists, eq_comm (a := lead ++ _)]

end Text

namespace Uuid

variable {text : List Char} {id : Uuid}

theorem readSimple?_eq_some_iff :
    readSimple? text = some id ↔ text.length = 32 ∧ Hex.Denotes text id.toNat := by
  constructor
  · intro read
    rw [readSimple?] at read
    split at read
    · rename_i size
      obtain ⟨n, denotes, rfl⟩ := Option.map_eq_some_iff.mp read
      have denotes := Hex.toNat?_eq_some_iff.mp denotes
      have small := denotes.lt
      rw [size] at small
      refine ⟨size, ?_⟩
      rwa [show (ofNat n).toNat = n from Nat.mod_eq_of_lt small]
    · cases read
  · rintro ⟨size, denotes⟩
    rw [readSimple?, if_pos size, Hex.toNat?_eq_some_iff.mpr denotes]
    simp [ofNat, toNat]

theorem simple_of_denotes (size : text.length = 32) (denotes : Hex.Denotes text id.toNat) :
    id.simple = text.map Text.toAsciiLower := by
  rw [simple, ← size]
  exact Hex.ofNat_of_denotes denotes

end Uuid

namespace EntityKind

variable {f g : EntityKind} {id id' : Uuid} {text : String} {e : IdError}

/-- A text of the kind, and the identifier that its digits denote. -/
theorem parseId_eq_ok_iff : f.parseId text = .ok id ↔ ∃ digits,
    text.toList = f.tag.toList ++ digits ∧ digits.length = 32 ∧ Hex.Denotes digits id.toNat := by
  simp only [← Text.after?_eq_some_iff, ← Uuid.readSimple?_eq_some_iff, parseId]
  cases Text.after? f.tag.toList text.toList with
  | none => simp
  | some body => cases read : Uuid.readSimple? body <;> simp [read]

theorem parseId_eq_wrongTag_iff :
    f.parseId text = .error (.wrongTag f) ↔ ¬ f.tag.toList <+: text.toList := by
  rw [← Text.after?_eq_none_iff, parseId]
  cases Text.after? f.tag.toList text.toList with
  | none => simp
  | some body => cases read : Uuid.readSimple? body <;> simp [read]

theorem parseId_eq_error (failed : f.parseId text = .error e) :
    e = .wrongTag f ∨ e = .malformed f := by
  unfold parseId at failed
  split at failed
  · exact .inl (Except.error.inj failed).symm
  · split at failed
    · cases failed
    · exact .inr (Except.error.inj failed).symm

/-- No tag begins like another one. -/
theorem eq_of_tags (same : f.tag.toList.take 2 = g.tag.toList.take 2) : f = g := by
  cases f <;> cases g <;> first | rfl | exact absurd same (by decide)

/-- A text tells the kind that it is an identifier of. -/
theorem kind_of_parseId (read : f.parseId text = .ok id) (read' : g.parseId text = .ok id') :
    f = g := by
  obtain ⟨digits, whole, -⟩ := parseId_eq_ok_iff.mp read
  obtain ⟨digits', whole', -⟩ := parseId_eq_ok_iff.mp read'
  have start (k : EntityKind) (digits : List Char) :
      (k.tag.toList ++ digits).take 2 = k.tag.toList.take 2 :=
    List.take_append_of_le_length (by cases k <;> decide)
  apply eq_of_tags
  rw [← start f digits, ← whole, whole', start g]

end EntityKind

/-- What is written of an identifier is read again, and a text is read as the identifier that its 32
digits behind the tag denote, in either case; written again they are in lower case. A text without
the tag is of the wrong kind, one that has it and is not read is malformed, and none is an
identifier of two kinds. -/
theorem EntityKind.id_codec (f : EntityKind) (text : String) :
    (∀ id, f.parseId (f.formatId id) = .ok id) ∧
    (∀ id, f.parseId text = .ok id ↔ ∃ digits, text.toList = f.tag.toList ++ digits ∧
      digits.length = 32 ∧ Hex.Denotes digits id.toNat) ∧
    (∀ id digits, f.parseId text = .ok id → text.toList = f.tag.toList ++ digits →
      f.formatId id = String.ofList (f.tag.toList ++ digits.map Text.toAsciiLower)) ∧
    (f.parseId text = .error (.wrongTag f) ↔ ¬ f.tag.toList <+: text.toList) ∧
    (f.parseId text = .error (.malformed f) ↔
      f.tag.toList <+: text.toList ∧ ∀ id, f.parseId text ≠ .ok id) ∧
    ∀ g id id', f.parseId text = .ok id → g.parseId text = .ok id' → f = g := by
  refine ⟨fun id => parseId_formatId, fun id => parseId_eq_ok_iff, fun id digits read whole => ?_,
    parseId_eq_wrongTag_iff, ?_, fun g id id' read read' => kind_of_parseId read read'⟩
  · obtain ⟨digits', whole', size, denotes⟩ := parseId_eq_ok_iff.mp read
    cases List.append_cancel_left (whole'.symm.trans whole)
    rw [formatId, Uuid.simple_of_denotes size denotes]
  · constructor
    · intro malformed
      refine ⟨?_, fun id read => by simp [malformed] at read⟩
      by_contra untagged
      simp [parseId_eq_wrongTag_iff.mpr untagged] at malformed
    · rintro ⟨tagged, unread⟩
      cases read : f.parseId text with
      | ok id => exact absurd read (unread id)
      | error e =>
          rcases parseId_eq_error read with rfl | rfl
          · exact absurd tagged (parseId_eq_wrongTag_iff.mp read)
          · rfl

theorem EntityKind.id_codec_of_session :
    session.parseId "session_0190F2A4c3d87c1e9f4b2a6d5e8c7b10" =
      .ok (.ofNat 0x0190f2a4c3d87c1e9f4b2a6d5e8c7b10) ∧
    session.formatId (.ofNat 0x0190f2a4c3d87c1e9f4b2a6d5e8c7b10) =
      "session_0190f2a4c3d87c1e9f4b2a6d5e8c7b10" ∧
    intermediateSession.parseId "session_0190F2A4c3d87c1e9f4b2a6d5e8c7b10" =
      .error (.wrongTag .intermediateSession) ∧
    ∀ (g : EntityKind) (id : Uuid),
      g.parseId "session_0190F2A4c3d87c1e9f4b2a6d5e8c7b10" = .ok id → g = .session := by
  obtain ⟨-, exact', lowered, -, -, kinds⟩ :=
    id_codec .session "session_0190F2A4c3d87c1e9f4b2a6d5e8c7b10"
  have digits : "0190F2A4c3d87c1e9f4b2a6d5e8c7b10".toList.all (· ∈ Hex.digits) = true := by decide
  have read := (exact' (.ofNat 0x0190f2a4c3d87c1e9f4b2a6d5e8c7b10)).mpr
    ⟨"0190F2A4c3d87c1e9f4b2a6d5e8c7b10".toList, by decide, by decide,
      fun c listed => of_decide_eq_true (List.all_eq_true.mp digits c listed), by decide⟩
  refine ⟨read, ?_, ?_, fun g id read' => (kinds _ _ _ read read').symm⟩
  · rw [lowered _ "0190F2A4c3d87c1e9f4b2a6d5e8c7b10".toList read (by decide)]
    decide
  · exact (id_codec .intermediateSession _).2.2.2.1.mpr (by decide)

end Vestibule
