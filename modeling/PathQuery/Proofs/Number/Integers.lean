import PathQuery.Number.Arithmetic
import PathQuery.Proofs.Number.Order
import PathQuery.Proofs.Number.Rounding

/-! Integers among the numbers. Those of up to 53 bits are exact, as sums of them are if these are
no longer, and what is not above such an integer is not rounded above it.
-/

namespace PathQuery

/-- Integers of up to 53 bits, and the power of two after them, are representable. -/
theorem representable_mul_unitsPerOne {value : Nat} (small : value ≤ 2 ^ 53)
    : Representable (value * unitsPerOne) := by
  have limit : 2 ^ 53 * unitsPerOne < unitsLimit := by decide +kernel
  have below := (Nat.mul_le_mul_right unitsPerOne small).trans_lt limit
  obtain ⟨exponent, power⟩ : ∃ exponent, unitsPerOne = Nat.pow 2 exponent :=
    ⟨1074, by delta unitsPerOne; exact Eq.refl _⟩
  rcases small.lt_or_eq with less | rfl
  · exact ⟨value, exponent, less, by rw [power], below⟩
  · refine ⟨1, 53 + exponent, by decide, ?_, below⟩
    rw [power, Nat.pow_eq, Nat.pow_eq, Nat.one_mul, Nat.pow_add]

namespace Number

variable {x y : Number} {value other units : Int}

/-- The place of an integer. -/
def integerPlace (value : Int) : Places :=
  ((value * unitsPerOne : Int) : WithTop Int)

/-- A number is an integer. -/
def IsInteger (x : Number) (value : Int) : Prop :=
  x.place? = some (integerPlace value)

/-- A number is not above an integer. -/
def UpTo (x : Number) (value : Int) : Prop :=
  ∃ place ∈ x.place?, place ≤ integerPlace value

theorem upTo_negative_infinity (value : Int) : (infinite true).UpTo value :=
  ⟨⊥, rfl, bot_le⟩

theorem finite_upTo_iff {negative : Bool} {magnitude : Magnitude}
    : (finite negative magnitude).UpTo value
      ↔ signedUnits negative magnitude ≤ value * unitsPerOne := by
  constructor
  · rintro ⟨place, same, upTo⟩
    cases same
    exact WithTop.coe_le_coe.mp (WithBot.coe_le_coe.mp upTo)
  · intro upTo
    exact ⟨_, rfl, WithBot.coe_le_coe.mpr (WithTop.coe_le_coe.mpr upTo)⟩

theorem finite_isInteger_iff {negative : Bool} {magnitude : Magnitude}
    : (finite negative magnitude).IsInteger value
      ↔ signedUnits negative magnitude = value * unitsPerOne := by
  rw [IsInteger, place?, integerPlace, Option.some.injEq, WithBot.coe_inj, WithTop.coe_inj]

/-- A quotient that is not above a representable count is a number that is not. -/
theorem exists_ofRatio_le {count numerator denominator : Nat} (representable : Representable count)
    (positive : 0 < denominator) (upTo : numerator ≤ count * denominator) (negative : Bool)
    : ∃ magnitude : Magnitude, ofRatio negative numerator denominator = .finite negative magnitude
      ∧ magnitude.units ≤ count := by
  have below := representable.nearestUnits_le positive upTo
  have limit : nearestUnits numerator denominator < unitsLimit := by
    obtain ⟨-, -, -, -, limit⟩ := representable
    exact below.trans_lt limit
  exact ⟨_, dif_pos limit, below⟩

/-- A quotient that is not below a representable count is a number that is not, or infinite. -/
theorem ofRatio_ge {count numerator denominator : Nat} (representable : Representable count)
    (positive : 0 < denominator) (upTo : count * denominator ≤ numerator) (negative : Bool)
    : ofRatio negative numerator denominator = .infinite negative
      ∨ ∃ magnitude : Magnitude, ofRatio negative numerator denominator = .finite negative magnitude
        ∧ count ≤ magnitude.units := by
  rw [ofRatio]
  split
  case isTrue => exact .inr ⟨_, rfl, representable.le_nearestUnits positive upTo⟩
  case isFalse => exact .inl rfl

/-- A negative count is rounded to no positive number. -/
theorem upTo_ofRatio_of_nonneg (above : 0 ≤ value) (numerator denominator : Nat)
    : (ofRatio true numerator denominator).UpTo value := by
  have product : 0 ≤ value * unitsPerOne := Int.mul_nonneg above (Int.natCast_nonneg _)
  rw [ofRatio]
  split
  case isTrue =>
      rw [finite_upTo_iff, signedUnits, if_pos rfl]
      omega
  case isFalse => exact upTo_negative_infinity value

/-- A sum that is not above an integer is not rounded above it. -/
theorem upTo_ofSum (small : value.natAbs ≤ 2 ^ 53) (upTo : units ≤ value * unitsPerOne)
    (bothNegative : Bool)
    : (ofSum bothNegative units).UpTo value := by
  have one : (0 : Int) < unitsPerOne := by exact_mod_cast unitsPerOne_pos
  have representable := representable_mul_unitsPerOne small
  have whole : (value.natAbs * unitsPerOne : Nat) = |value * unitsPerOne| := by
    rw [Nat.cast_mul, Int.natCast_natAbs, abs_mul, abs_of_pos one]
  rw [ofSum]
  rcases lt_or_ge units 0 with negative | above
  · rw [if_neg negative.ne, decide_eq_true negative]
    rcases lt_or_ge value 0 with below | above
    · rw [abs_of_neg (mul_neg_of_neg_of_pos below one)] at whole
      have least : value.natAbs * unitsPerOne * 1 ≤ units.natAbs := by omega
      rcases ofRatio_ge representable Nat.one_pos least true with same | ⟨magnitude, same, near⟩
      · rw [same]
        exact upTo_negative_infinity value
      · rw [same, finite_upTo_iff, signedUnits, if_pos rfl]
        omega
    · exact upTo_ofRatio_of_nonneg above _ _
  · rw [abs_of_nonneg (above.trans upTo)] at whole
    have most : units.natAbs ≤ value.natAbs * unitsPerOne * 1 := by omega
    have bounded (negative : Bool) : (ofRatio negative units.natAbs 1).UpTo value := by
      obtain ⟨magnitude, same, near⟩ := exists_ofRatio_le representable Nat.one_pos most negative
      rw [same, finite_upTo_iff, signedUnits]
      split <;> omega
    split
    case isTrue none =>
        rw [none] at bounded
        exact bounded bothNegative
    case isFalse => exact bounded _

/-- A sum that is representable is kept. -/
theorem exists_ofSum_eq (representable : Representable units.natAbs) (bothNegative : Bool)
    : ∃ negative magnitude, ofSum bothNegative units = finite negative magnitude
      ∧ signedUnits negative magnitude = units := by
  have kept (negative : Bool)
      : ofRatio negative units.natAbs 1 = finite negative ⟨_, representable⟩ := by
    have rounded := representable.nearestUnits_eq Nat.one_pos
    rw [Nat.mul_one] at rounded
    exact ofRatio_eq_iff.mpr rounded
  rw [ofSum]
  split
  case isTrue none =>
      subst none
      exact ⟨bothNegative, _, kept bothNegative, by rw [signedUnits]; split <;> rfl⟩
  case isFalse =>
      refine ⟨_, _, kept _, ?_⟩
      simp only [signedUnits, decide_eq_true_eq]
      split <;> omega

/-- Rounding keeps integers of up to 53 bits. -/
theorem isInteger_ofSum (small : value.natAbs ≤ 2 ^ 53) (bothNegative : Bool)
    : (ofSum bothNegative (value * unitsPerOne)).IsInteger value := by
  have representable := representable_mul_unitsPerOne small
  rw [← Int.natAbs_natCast unitsPerOne, ← Int.natAbs_mul] at representable
  obtain ⟨negative, magnitude, same, units⟩ := exists_ofSum_eq representable bothNegative
  rw [same, finite_isInteger_iff, units]

theorem ofInt_eq (value : Int) : ofInt value = ofSum false (value * unitsPerOne) := by
  have one : (0 : Int) < unitsPerOne := by exact_mod_cast unitsPerOne_pos
  have whole : (value * unitsPerOne).natAbs = value.natAbs * unitsPerOne := by
    rw [Int.natAbs_mul, Int.natAbs_natCast]
  rw [ofInt, ofSum, ← whole]
  split
  case isTrue none =>
      rw [Int.mul_eq_zero] at none
      rw [none.resolve_right one.ne', Int.zero_mul]
      rfl
  case isFalse =>
      have sign : value * unitsPerOne < 0 ↔ value < 0 := by
        generalize (unitsPerOne : Int) = unit at one
        exact ⟨fun less => neg_of_mul_neg_left less one.le, (mul_neg_of_neg_of_pos · one)⟩
      rw [decide_eq_decide.mpr sign]

theorem isInteger_ofInt (small : value.natAbs ≤ 2 ^ 53) : (ofInt value).IsInteger value := by
  rw [ofInt_eq]
  exact isInteger_ofSum small false

-----------------------------------------------------------------------------------------
-- Calculations
-----------------------------------------------------------------------------------------

theorem IsInteger.exists_finite (isInteger : x.IsInteger value)
    : ∃ negative magnitude, x = finite negative magnitude
      ∧ signedUnits negative magnitude = value * unitsPerOne := by
  cases x with
  | finite negative magnitude =>
      exact ⟨negative, magnitude, rfl, finite_isInteger_iff.mp isInteger⟩
  | nan => cases isInteger
  | infinite negative => cases negative <;> cases isInteger

theorem UpTo.infinite_or_finite (upTo : x.UpTo value)
    : x = infinite true ∨ ∃ negative magnitude, x = finite negative magnitude
      ∧ signedUnits negative magnitude ≤ value * unitsPerOne := by
  cases x with
  | finite negative magnitude => exact .inr ⟨negative, magnitude, rfl, finite_upTo_iff.mp upTo⟩
  | nan =>
      obtain ⟨place, none, -⟩ := upTo
      cases none
  | infinite negative =>
      cases negative with
      | true => exact .inl rfl
      | false =>
          obtain ⟨place, above, upTo⟩ := upTo
          cases above
          exact absurd (WithBot.coe_le_coe.mp upTo) (WithTop.not_top_le_coe _)

theorem IsInteger.upTo (isInteger : x.IsInteger value) : x.UpTo value :=
  ⟨_, isInteger, le_rfl⟩

theorem IsInteger.negate (isInteger : x.IsInteger value) : x.negate.IsInteger (-value) := by
  obtain ⟨negative, magnitude, rfl, units⟩ := isInteger.exists_finite
  rw [Number.negate, finite_isInteger_iff, Int.neg_mul, ← units]
  cases negative <;> simp [signedUnits]

/-- Integers are added exactly if the sum is short enough. -/
theorem IsInteger.add (left : x.IsInteger value) (right : y.IsInteger other)
    (small : (value + other).natAbs ≤ 2 ^ 53)
    : (x.add y).IsInteger (value + other) := by
  obtain ⟨negative, magnitude, rfl, units⟩ := left.exists_finite
  obtain ⟨also, further, rfl, more⟩ := right.exists_finite
  rw [Number.add, units, more, ← Int.add_mul]
  exact isInteger_ofSum small _

/-- A sum is not above what its terms are not above, if that is a short integer. -/
theorem UpTo.add (left : x.UpTo value) (right : y.UpTo other)
    (small : (value + other).natAbs ≤ 2 ^ 53)
    : (x.add y).UpTo (value + other) := by
  rcases left.infinite_or_finite with rfl | ⟨negative, magnitude, rfl, units⟩
  · rcases right.infinite_or_finite with rfl | ⟨also, further, rfl, more⟩ <;>
      exact upTo_negative_infinity _
  · rcases right.infinite_or_finite with rfl | ⟨also, further, rfl, more⟩
    · exact upTo_negative_infinity _
    · refine upTo_ofSum small ?_ _
      rw [Int.add_mul]
      exact Int.add_le_add units more

theorem UpTo.le_of_equals (upTo : x.UpTo value) (isInteger : y.IsInteger other)
    (equal : x.equals y)
    : other ≤ value := by
  have one : (0 : Int) < unitsPerOne := by exact_mod_cast unitsPerOne_pos
  obtain ⟨negative, magnitude, rfl, units⟩ := isInteger.exists_finite
  rcases upTo.infinite_or_finite with rfl | ⟨also, further, rfl, more⟩
  · cases equal
  · rw [equals, beq_iff_eq] at equal
    exact Int.le_of_mul_le_mul_right (by omega) one

theorem IsInteger.equals_iff (left : x.IsInteger value) (right : y.IsInteger other)
    : x.equals y ↔ value = other := by
  have one : (unitsPerOne : Int) ≠ 0 := by exact_mod_cast unitsPerOne_pos.ne'
  obtain ⟨negative, magnitude, rfl, units⟩ := left.exists_finite
  obtain ⟨also, further, rfl, more⟩ := right.exists_finite
  rw [equals, beq_iff_eq, units, more, Int.mul_eq_mul_right_iff one]

-----------------------------------------------------------------------------------------
-- Positions
-----------------------------------------------------------------------------------------

variable {count position size : Nat}

theorem isInteger_ofNat (small : count ≤ 2 ^ 53) : (ofNat count).IsInteger count :=
  isInteger_ofInt (by simpa using small)

/-- A longer count becomes a number that is no smaller than the shorter ones. -/
theorem upTo_negate_ofNat (large : 2 ^ 53 ≤ count)
    : (ofNat count).negate.UpTo (-2 ^ 53) := by
  have representable := representable_mul_unitsPerOne (le_refl (2 ^ 53))
  have least : 2 ^ 53 * unitsPerOne * 1 ≤ count * unitsPerOne := by
    rw [Nat.mul_one]
    exact Nat.mul_le_mul_right _ large
  have same : ofNat count = ofRatio false (count * unitsPerOne) 1 := rfl
  rw [same]
  rcases ofRatio_ge representable Nat.one_pos least false with infinity | ⟨magnitude, finite, above⟩
  · rw [infinity]
    exact upTo_negative_infinity _
  · rw [finite, negate, finite_upTo_iff, Bool.not_false, signedUnits, if_pos rfl, Int.neg_mul]
    exact Int.neg_le_neg (by exact_mod_cast above)

theorem equals_negate (x y : Number) : x.negate.equals y.negate = x.equals y := by
  rcases x with _ | (_ | _) | ⟨_ | _, a⟩ <;> rcases y with _ | (_ | _) | ⟨_ | _, b⟩ <;>
    simp [negate, equals, signedUnits, neg_eq_iff_eq_neg]

/-- A count equals a position if it is the same. -/
theorem ofNat_equals_iff (small : position < 2 ^ 53)
    : (ofNat count).equals (ofNat position) ↔ count = position := by
  have isInteger := isInteger_ofNat small.le
  rcases Nat.lt_or_ge count (2 ^ 53) with short | large
  · rw [(isInteger_ofNat short.le).equals_iff isInteger, Nat.cast_inj]
  · refine iff_of_false (fun equal => ?_) (by omega)
    rw [← equals_negate] at equal
    have below := (upTo_negate_ofNat large).le_of_equals isInteger.negate equal
    omega

/-- Positions counted from the last one. -/
theorem fromLast_equals_iff (small : size < 2 ^ 53) (upTo : position ≤ size) (some : 0 < position)
    : (((ofNat size).subtract (ofNat count)).add (ofNat 1)).equals (ofNat position)
      ↔ position + count = size + 1 := by
  have isSize := isInteger_ofNat small.le
  have isPosition := isInteger_ofNat (upTo.trans small.le)
  have isOne : (ofNat 1).IsInteger (1 : Nat) := isInteger_ofNat (by decide)
  rcases Nat.lt_or_ge count (2 ^ 53) with short | large
  · have isResult := (isSize.add (isInteger_ofNat short.le).negate (by omega)).add isOne (by omega)
    rw [subtract, isResult.equals_iff isPosition]
    omega
  · refine iff_of_false (fun equal => ?_) (by omega)
    have bounded := (isSize.upTo.add (upTo_negate_ofNat large) (by omega)).add isOne.upTo (by omega)
    have below := bounded.le_of_equals isPosition equal
    omega

end Number

end PathQuery
