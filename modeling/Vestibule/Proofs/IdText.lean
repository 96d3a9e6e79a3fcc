import Mathlib.Algebra.Group.Nat.Defs
import Vestibule.Id.Entity
import Vestibule.Proofs.Secret

/-! Identifiers as texts. What is written of an identifier, under the tag of its kind, is read
again. -/

namespace Vestibule

namespace Hex

theorem value?_digit {d : Nat} (small : d < 16) : value? (digit d) = some d := by
  have read : ∀ d < 16, value? (digit d) = some d := by decide
  exact read d small

theorem ascii_of_mem_ofNat {width n : Nat} {c : Char} (member : c ∈ ofNat width n) :
    c.toNat < 128 := by
  have ascii : ∀ d < 16, (digit d).toNat < 128 := by decide
  induction width generalizing n with
  | zero => cases member
  | succ width ih =>
      rcases List.mem_append.mp member with member | member
      · exact ih member
      · cases List.mem_singleton.mp member
        exact ascii _ (Nat.mod_lt _ (by decide))

theorem toNat?_concat {text : List Char} {c : Char} :
    toNat? (text ++ [c]) = (toNat? text).bind fun n => (value? c).map (n * 16 + ·) := by
  simp [toNat?, List.foldlM_append, bind]

/-- The digits of a fixed width denote the number, as far as it fits them. -/
theorem toNat?_ofNat {width n : Nat} : toNat? (ofNat width n) = some (n % 16 ^ width) := by
  induction width generalizing n with
  | zero => simp [ofNat, toNat?, Nat.mod_one]
  | succ width ih =>
      rw [ofNat, toNat?_concat, ih, value?_digit (Nat.mod_lt _ (by decide))]
      simp only [Option.bind_some, Option.map_some, Option.some.injEq]
      rw [Nat.pow_succ, Nat.mul_comm (16 ^ width) 16, Nat.mod_mul]
      omega

end Hex

theorem Uuid.readSimple?_simple {id : Uuid} : readSimple? id.simple = some id := by
  have small : id.toNat < 16 ^ 32 := id.bits.isLt
  rw [readSimple?, if_pos (by simp [simple, Hex.length_ofNat]), simple, Hex.toNat?_ofNat,
    Nat.mod_eq_of_lt small]
  simp [ofNat, toNat]

/-- An identifier that is written is read again as one of its kind. -/
theorem EntityKind.parseId_formatId {f : EntityKind} {id : Uuid} :
    f.parseId (f.formatId id) = .ok id := by
  simp [parseId, formatId, Text.after?_append, Uuid.readSimple?_simple]

end Vestibule
