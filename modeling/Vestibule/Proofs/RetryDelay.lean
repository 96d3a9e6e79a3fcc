import Vestibule.Provider.Retry

/-! The delays between retried calls. They are computed with doubles, of which the signs and the
order matter here: with a base that is not below zero, and a greatest delay of less than `2 ^ 64`
seconds, every delay is followed by one. -/

namespace Vestibule

namespace Double

open Float.Model UnpackedFloat

/-- Neither a number below zero nor the negative infinity. -/
def IsUnsigned : UnpackedFloat → Prop
  | .infinity sign | .finite sign .. => sign = .positive
  | .notANumber | .zero _ => True

section

variable {x y : UnpackedFloat} {m : Nat} {e : Int} {accuracy : Accuracy} {spec : Format}

theorem isUnsigned_dite {c : Prop} [Decidable c] {yes : c → UnpackedFloat}
    {no : ¬ c → UnpackedFloat} (holds : ∀ h, IsUnsigned (yes h)) (fails : ∀ h, IsUnsigned (no h)) :
    IsUnsigned (if h : c then yes h else no h) := by
  by_cases h : c
  · rw [dif_pos h]
    exact holds h
  · rw [dif_neg h]
    exact fails h

theorem isUnsigned_roundWithAccuracy :
    IsUnsigned (roundWithAccuracy spec .positive m e accuracy) := by
  rw [roundWithAccuracy]
  exact isUnsigned_dite (fun _ => trivial) fun _ => rfl

theorem isUnsigned_normalize {n : Int} (nonneg : 0 ≤ n) :
    IsUnsigned (UnpackedFloat.normalize spec n e .positive) := by
  rw [UnpackedFloat.normalize]
  split
  · rename_i below
    exact absurd (Int.compare_eq_lt.mp below) (by omega)
  · trivial
  · exact isUnsigned_roundWithAccuracy

theorem isUnsigned_mul (left : IsUnsigned x) (right : IsUnsigned y) :
    IsUnsigned (UnpackedFloat.mul spec x y) := by
  cases x <;> cases y <;> cases left <;> cases right <;>
    first | trivial | exact isUnsigned_roundWithAccuracy

theorem isUnsigned_add (left : IsUnsigned x) (right : IsUnsigned y) :
    IsUnsigned (UnpackedFloat.add spec x y) := by
  cases x with
  | notANumber => trivial
  | infinity sign =>
      cases left
      cases y <;> cases right <;> trivial
  | zero sign =>
      cases y with
      | zero sign' => cases sign <;> cases sign' <;> trivial
      | notANumber | infinity | finite => exact right
  | finite sign m e pos =>
      cases left
      cases y with
      | finite sign' m' e' pos' =>
          cases right
          exact isUnsigned_normalize (Int.add_nonneg (Int.natCast_nonneg _) (Int.natCast_nonneg _))
      | notANumber => trivial
      | infinity => exact right
      | zero => rfl

theorem isUnsigned_div_finite {pos : 0 < m} (left : IsUnsigned x) :
    IsUnsigned (UnpackedFloat.div spec x (.finite .positive m e pos)) := by
  cases x <;> cases left <;> first | trivial | exact isUnsigned_roundWithAccuracy

theorem unpackSign_components {sign : Sign} {exponent : BitVec spec.exponentBits}
    {mantissa : BitVec spec.mantissaBitsWithoutImplicit} :
    Sign.ofBitVec (unpackSign (packComponents spec sign exponent mantissa)) = sign := by
  have bit : unpackSign (packComponents spec sign exponent mantissa) = sign.toBitVec := by
    refine BitVec.eq_of_getElem_eq fun i only => ?_
    obtain rfl : i = 0 := by omega
    have above : ¬ spec.mantissaBitsWithoutImplicit + spec.exponentBits <
      spec.mantissaBitsWithoutImplicit := by omega
    change (BitVec.cast _ ((sign.toBitVec ++ exponent ++ mantissa).extractLsb _ _))[0] = _
    simp [BitVec.getLsbD_append, BitVec.getElem_append, above]
  rw [bit]
  cases sign <;> rfl

theorem unpackSign_finite {pos : 0 < m} :
    Sign.ofBitVec (unpackSign (UnpackedFloat.pack spec (.finite .positive m e pos))) =
      .positive := by
  delta UnpackedFloat.pack
  refine iteInduction (motive := fun bits => Sign.ofBitVec (unpackSign bits) = .positive)
    (fun _ => unpackSign_components) fun _ => ?_
  exact iteInduction (motive := fun bits => Sign.ofBitVec (unpackSign bits) = .positive)
    (fun _ => unpackSign_components) fun _ => unpackSign_components

theorem isUnsigned_unpack {bits : BitVec spec.numBits}
    (sign : Sign.ofBitVec (unpackSign bits) = .positive) :
    IsUnsigned (UnpackedFloat.unpack spec bits) := by
  delta UnpackedFloat.unpack
  exact iteInduction (fun _ => iteInduction (fun _ => sign) fun _ => trivial) fun _ =>
    iteInduction (fun _ => isUnsigned_dite (fun _ => trivial) fun _ => sign) fun _ => sign

/-- Packing keeps the sign, that of a zero too. -/
theorem isUnsigned_unpack_pack (unsigned : IsUnsigned x) :
    IsUnsigned (Float.Model.pack x).unpack := by
  change IsUnsigned (UnpackedFloat.unpack Format.binary64 (UnpackedFloat.pack Format.binary64 x))
  cases x with
  | notANumber => exact isUnsigned_unpack unpackSign_components
  | infinity sign =>
      cases unsigned
      exact isUnsigned_unpack unpackSign_components
  | zero sign => cases sign <;> trivial
  | finite sign m e pos =>
      cases unsigned
      exact isUnsigned_unpack unpackSign_finite

end

section

variable {x y z : Float}

theorem le_iff : x ≤ y ↔ (x.toModel.unpack.compare y.toModel.unpack).any (·.isLE) = true := by
  change Float.le x y = true ↔ _
  rw [Float.le, decide_eq_true_eq]
  rfl

theorem lt_iff : x < y ↔ x.toModel.unpack.compare y.toModel.unpack = some .lt := by
  change Float.lt x y = true ↔ _
  rw [Float.lt, decide_eq_true_eq]
  exact beq_iff_eq

theorem unpack_zero : (0 : Float).toModel.unpack = .zero .positive := rfl

/-- What is not below zero is unsigned, and conversely. -/
theorem isUnsigned_of_not_lt (above : ¬ x < 0) : IsUnsigned x.toModel.unpack := by
  rw [lt_iff, unpack_zero] at above
  generalize x.toModel.unpack = u at above
  cases u with
  | notANumber | zero => trivial
  | infinity sign => cases sign with
    | positive => rfl
    | negative => exact absurd rfl above
  | finite sign => cases sign with
    | positive => rfl
    | negative => exact absurd rfl above

theorem le_of_lt (order : x < y) : x ≤ y := by
  rw [lt_iff] at order
  rw [le_iff, order]
  rfl

/-- An unsigned number that is comparable with another is from zero on. -/
theorem zero_le_of_le (unsigned : IsUnsigned x.toModel.unpack) (order : x ≤ y) : 0 ≤ x := by
  rw [le_iff] at order ⊢
  rw [unpack_zero]
  generalize x.toModel.unpack = u at unsigned order
  cases u with
  | notANumber => exact order
  | zero => rfl
  | infinity sign | finite sign =>
      cases unsigned
      rfl

theorem compare_isLE_iff {m m' : Nat} {e e' : Int} :
    ((compare e e').then (compare m m')).isLE = true ↔ e < e' ∨ e = e' ∧ m ≤ m' := by
  simp only [Ordering.isLE_iff_eq_lt_or_eq_eq, Ordering.then_eq_lt, Ordering.then_eq_eq,
    Int.compare_eq_lt, Int.compare_eq_eq, Nat.compare_eq_lt, Nat.compare_eq_eq]
  omega

/-- Below a finite number is all that is not above what is below it. -/
theorem lt_of_le_of_lt {m : Nat} {e : Int} {pos : 0 < m} (unsigned : IsUnsigned x.toModel.unpack)
    (order : x ≤ y) (below : y < z) (finite : z.toModel.unpack = .finite .positive m e pos) :
    x < z := by
  rw [le_iff] at order
  rw [lt_iff, finite] at below ⊢
  generalize x.toModel.unpack = u at unsigned order
  generalize y.toModel.unpack = w at order below
  cases u with
  | notANumber => exact absurd order Bool.noConfusion
  | zero => rfl
  | infinity sign =>
      cases unsigned
      -- only the infinity itself is not below it
      cases w with
      | infinity sign => cases sign <;> first | exact absurd order Bool.noConfusion | cases below
      | notANumber | zero | finite => exact absurd order Bool.noConfusion
  | finite sign m₁ e₁ =>
      cases unsigned
      cases w with
      | notANumber | zero => exact absurd order Bool.noConfusion
      | infinity sign => cases sign <;> first | exact absurd order Bool.noConfusion | cases below
      | finite sign m₂ e₂ => cases sign with
        | negative => exact absurd order Bool.noConfusion
        | positive =>
            replace order := compare_isLE_iff.mp order
            replace below := Option.some.inj below
            refine congrArg some ?_
            rw [Ordering.then_eq_lt, Int.compare_eq_lt, Int.compare_eq_eq, Nat.compare_eq_lt]
              at below ⊢
            omega

theorem isUnsigned_ofScientific {spec : Format} {m : Nat} {e : Int} :
    IsUnsigned (UnpackedFloat.ofScientific spec m e) := by
  rw [UnpackedFloat.ofScientific]
  refine isUnsigned_dite (fun _ => trivial) fun _ => ?_
  refine iteInduction (fun _ => rfl) fun _ => iteInduction (fun _ => trivial) fun _ => ?_
  exact iteInduction (fun _ => isUnsigned_mul rfl rfl) fun _ => isUnsigned_div_finite rfl

theorem isUnsigned_ofNat {n : Nat} : IsUnsigned (Float.ofNat n).toModel.unpack := by
  unfold Float.ofNat OfScientific.ofScientific instOfScientificFloat Float.ofScientific
  simp only []
  split
  · rw [if_neg Bool.false_ne_true]
    have one : IsUnsigned (1 : Float).toModel.unpack := rfl
    exact isUnsigned_unpack_pack (isUnsigned_mul
      (isUnsigned_unpack_pack (isUnsigned_normalize (Int.natCast_nonneg _))) one)
  · exact isUnsigned_unpack_pack isUnsigned_ofScientific

end

end Double

namespace RetryPolicy

variable {p : RetryPolicy} {delay : Span}

theorem isUnsigned_toSeconds : Double.IsUnsigned (toSeconds delay).toModel.unpack :=
  have isUnsigned_fraction := Double.isUnsigned_unpack_pack
    (Double.isUnsigned_div_finite Double.isUnsigned_ofNat)
  Double.isUnsigned_unpack_pack (Double.isUnsigned_add Double.isUnsigned_ofNat isUnsigned_fraction)

theorem isSome_ofSeconds? {s : Float} :
    (ofSeconds? s).isSome ↔ 0 ≤ s ∧ s < 18446744073709551616 := by
  unfold ofSeconds?
  split <;> rename_i within
  · simp only [within, and_self, iff_true]
    split <;> rfl
  · simp [within]

/-- What grows is not below zero, and is cut off at a length of time. -/
theorem isSome_nextDelay? (base : ¬ p.base < 0)
    (most : toSeconds p.maxDelay < 18446744073709551616) : (p.nextDelay? delay).isSome := by
  have finite : ∃ m e pos, (18446744073709551616 : Float).toModel.unpack =
      .finite .positive m e pos := ⟨2 ^ 52, 12, by decide, rfl⟩
  obtain ⟨_, _, _, finite⟩ := finite
  have unsigned : Double.IsUnsigned (toSeconds delay * p.base).toModel.unpack :=
    Double.isUnsigned_unpack_pack (Double.isUnsigned_mul isUnsigned_toSeconds
      (Double.isUnsigned_of_not_lt base))
  rw [nextDelay?, isSome_ofSeconds?]
  split <;> rename_i order
  · exact ⟨Double.zero_le_of_le unsigned order,
      Double.lt_of_le_of_lt unsigned order most finite⟩
  · exact ⟨Double.zero_le_of_le isUnsigned_toSeconds (Double.le_of_lt most), most⟩

end RetryPolicy

end Vestibule
