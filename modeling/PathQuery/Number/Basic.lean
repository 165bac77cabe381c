/-! Floating-point numbers of 64 bits. Every finite one is a whole count of units of 2^-1074, so
arithmetic is done on integers and rounded once; a count is representable when it has at most
53 significant binary digits.
-/

namespace PathQuery

/-- The number of units that make one. -/
def unitsPerOne : Nat :=
  Nat.pow 2 1074

/-- The count of units at which the finite numbers end. -/
def unitsLimit : Nat :=
  Nat.pow 2 2098

/-- A count is representable when it is an integer of at most 53 bits times a power of two,
below the limit.
-/
def Representable (units : Nat) : Prop :=
  ∃ significand exponent, significand < Nat.pow 2 53 ∧ units = significand * Nat.pow 2 exponent
    ∧ units < unitsLimit

/-- The absolute value of a finite number. -/
structure Magnitude where
  units : Nat
  representable : Representable units
deriving DecidableEq

/-- A number is no number at all, an infinity or a finite one; zero has a sign. -/
inductive Number where
  | nan
  | infinite (negative : Bool)
  | finite (negative : Bool) (magnitude : Magnitude)
deriving DecidableEq

/-- The distance between neighbouring magnitudes at a count of units. -/
def spacing (units : Nat) : Nat :=
  Nat.pow 2 (units.log2 - 52)

/-- The integer nearest to a quotient, the even one when two are equally near. -/
def roundHalfEven (numerator denominator : Nat) : Nat :=
  let quotient := numerator / denominator
  let remainder := numerator % denominator
  if 2 * remainder < denominator then quotient
  else if denominator < 2 * remainder then quotient + 1
  else quotient + quotient % 2

/-- The count nearest to a quotient among those with at most 53 significant bits. -/
def nearestUnits (numerator denominator : Nat) : Nat :=
  let step := spacing (numerator / denominator)
  roundHalfEven numerator (denominator * step) * step

/-- Rounding to an integer goes up by one at most. -/
theorem roundHalfEven_le (numerator denominator : Nat)
    : roundHalfEven numerator denominator ≤ numerator / denominator + 1 := by
  simp only [roundHalfEven]
  split
  · exact Nat.le_succ _
  · split
    · exact Nat.le_refl _
    · exact Nat.add_le_add_left (Nat.le_of_lt_succ (Nat.mod_lt _ (by decide))) _

/-- The significand of a rounded count has 53 bits, or is the power of two after them.
Witness: the quotient by the spacing keeps the leading 53 bits of the count.
-/
theorem roundHalfEven_spacing_le (numerator denominator : Nat)
    : roundHalfEven numerator (denominator * spacing (numerator / denominator))
      ≤ Nat.pow 2 53 := by
  refine Nat.le_trans (roundHalfEven_le _ _) ?_
  rw [← Nat.div_div_eq_div_mul]
  generalize numerator / denominator = units
  refine Nat.succ_le_of_lt (Nat.div_lt_of_lt_mul ?_)
  rw [spacing, Nat.pow_eq, Nat.pow_eq, ← Nat.pow_add]
  by_cases zero : units = 0
  · subst zero
    exact Nat.pow_pos (by decide)
  · exact (Nat.log2_lt zero).mp (by omega)

/-- A count below the limit that was rounded is representable. The power of two that rounding
up may end in has one significant bit.
-/
theorem representable_nearestUnits {numerator denominator : Nat}
    (h : nearestUnits numerator denominator < unitsLimit)
    : Representable (nearestUnits numerator denominator) := by
  have bound := roundHalfEven_spacing_le numerator denominator
  simp only [nearestUnits] at h ⊢
  generalize roundHalfEven numerator (denominator * spacing (numerator / denominator))
    = significand at bound h ⊢
  rw [spacing, Nat.pow_eq] at h ⊢
  generalize (numerator / denominator).log2 - 52 = exponent at h ⊢
  rw [Nat.pow_eq] at bound
  by_cases full : significand = 2 ^ 53
  · refine ⟨2 ^ 52, exponent + 1, by decide, ?_, h⟩
    rw [full, Nat.pow_eq, Nat.pow_succ' (n := exponent), ← Nat.mul_assoc, ← Nat.pow_succ]
  · exact ⟨significand, exponent, Nat.lt_of_le_of_ne bound full, rfl, h⟩

namespace Number

/-- The number nearest to a quotient of units, an infinity where the finite numbers end. -/
def ofRatio (negative : Bool) (numerator denominator : Nat) : Number :=
  if h : nearestUnits numerator denominator < unitsLimit then
    .finite negative ⟨_, representable_nearestUnits h⟩
  else
    .infinite negative

/-- The number nearest to an integer. -/
def ofInt (value : Int) : Number :=
  ofRatio (value < 0) (value.natAbs * unitsPerOne) 1

/-- The number of a natural count, such as a position or a size. -/
def ofNat (value : Nat) : Number :=
  ofInt value

/-- The zero with a sign. -/
def zero (negative : Bool) : Number :=
  ofRatio negative 0 1

/-- Whether a number is finite. -/
def isFinite : Number → Bool
  | .finite .. => true
  | _ => false

/-- Whether a number is none. -/
def isNaN : Number → Bool
  | .nan => true
  | _ => false

/-- A magnitude with its sign, as a count of units. The sign of zero is lost. -/
def signedUnits (negative : Bool) (magnitude : Magnitude) : Int :=
  if negative then -(magnitude.units : Int) else magnitude.units

/-- Equality of values: the zeros are equal, and what is no number equals nothing. -/
def equals : Number → Number → Bool
  | .infinite left, .infinite right => left == right
  | .finite left a, .finite right b => signedUnits left a == signedUnits right b
  | _, _ => false

/-- The strict order of values; what is no number is not comparable. -/
def less : Number → Number → Bool
  | .infinite left, .infinite right => left && !right
  | .infinite left, .finite .. => left
  | .finite .., .infinite right => !right
  | .finite left a, .finite right b => signedUnits left a < signedUnits right b
  | _, _ => false

/-- The order of values with equality. -/
def atMost (left right : Number) : Bool :=
  left.less right || left.equals right

end Number

end PathQuery
