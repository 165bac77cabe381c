import Mathlib
import PathQuery.Proofs.Number.IntegerRounding

/-! Positions compared with numbers. A sum of integers is rounded, but never to the other side of a
position below 2^53. The positions from a number on and those below one are connected, rounded
as they are for the comparison.
-/

namespace PathQuery.Number

variable {x y : Number} {position : Nat} {value other : Int}

-----------------------------------------------------------------------------------------
-- Exact sums
-----------------------------------------------------------------------------------------

/-- The place of the exact sum of two numbers. Opposite infinities have none. -/
def sumPlace? (x y : Number) : Option Places :=
  match x.place?, y.place? with
  | some place, some other =>
      if place = ⊥ ∧ other = ⊤ ∨ place = ⊤ ∧ other = ⊥ then none else some (place + other)
  | _, _ => none

/-- A number is above an integer. -/
def Above (x : Number) (value : Int) : Prop :=
  ∃ place ∈ x.place?, integerPlace value < place

/-- The exact sum of two numbers is above an integer. -/
def SumAbove (x y : Number) (value : Int) : Prop :=
  ∃ place ∈ sumPlace? x y, integerPlace value < place

/-- If a number is finite, it is an integer. -/
def IsWhole (x : Number) : Prop :=
  x.isFinite → ∃ value, x.IsInteger value

theorem isWhole_round (x : Number) : x.round.IsWhole := by
  intro finite
  cases x with
  | nan | infinite => cases finite
  | finite negative magnitude =>
      obtain ⟨rounded, rounds, whole⟩ := exists_round_eq negative magnitude
      obtain ⟨value, same⟩ : ∃ value : Int, exact negative rounded = value := by
        split at whole
        · exact ⟨1, by rw [whole, Int.cast_one]⟩
        · exact ⟨_, whole⟩
      rw [rounds]
      exact ⟨value, finite_isInteger_iff.mpr (exact_eq_iff.mp same)⟩

theorem integerPlace_lt_iff : integerPlace value < integerPlace other ↔ value < other := by
  have one : (0 : Int) < unitsPerOne := by exact_mod_cast unitsPerOne_pos
  rw [integerPlace, integerPlace, WithBot.coe_lt_coe, WithTop.coe_lt_coe]
  exact mul_lt_mul_iff_left₀ one

theorem sumPlace?_of_isInteger (left : x.IsInteger value) (right : y.IsInteger other)
    : sumPlace? x y = some (integerPlace (value + other)) := by
  have finite (value : Int) : integerPlace value ≠ ⊥ := WithBot.coe_ne_bot
  rw [sumPlace?, left, right]
  dsimp only
  rw [if_neg (by simp [finite]), integerPlace, integerPlace, integerPlace, Int.add_mul]
  rfl

/-- Sums with infinities are exact. -/
theorem place?_add (infinite : ¬ (x.isFinite ∧ y.isFinite)) : (x.add y).place? = sumPlace? x y := by
  rcases x with _ | (_ | _) | _ <;> rcases y with _ | (_ | _) | _ <;>
    simp_all [isFinite, add, sumPlace?, place?] <;> rfl

theorem negate_ofRatio (negative : Bool) (numerator denominator : Nat)
    : (ofRatio negative numerator denominator).negate
      = ofRatio (!negative) numerator denominator := by
  rw [ofRatio, ofRatio]
  split <;> rfl

theorem negate_ofSum (bothNegative : Bool) (units : Int)
    : (ofSum bothNegative units).negate = ofSum (!bothNegative) (-units) := by
  rw [ofSum, ofSum, Int.natAbs_neg]
  by_cases none : units = 0
  · rw [if_pos none, if_pos (by omega)]
    exact negate_ofRatio ..
  · rw [if_neg none, if_neg (by omega), negate_ofRatio, ← decide_not]
    congr 2
    exact propext (by omega)

/-- A number is above an integer if its opposite is not above the opposite of the next integer. -/
theorem Above.of_negate (upTo : x.negate.UpTo (-(value + 1))) : x.Above value := by
  have one : (0 : Int) < unitsPerOne := by exact_mod_cast unitsPerOne_pos
  rcases x with _ | (_ | _) | ⟨negative, magnitude⟩
  · obtain ⟨_, none, -⟩ := upTo
    cases none
  · exact ⟨_, rfl, WithBot.coe_lt_coe.mpr (WithTop.coe_lt_top _)⟩
  · rcases upTo.infinite_or_finite with same | ⟨_, _, same, -⟩ <;> cases same
  · have opposite : signedUnits (!negative) magnitude = -signedUnits negative magnitude := by
      cases negative <;> simp [signedUnits]
    rw [negate, finite_upTo_iff, opposite, Int.neg_mul, Int.add_mul, Int.one_mul] at upTo
    exact ⟨_, rfl, WithBot.coe_lt_coe.mpr (WithTop.coe_lt_coe.mpr (by omega))⟩

/-- An integer is not rounded to the other side of a position, as the integer after the position is
kept.
-/
theorem above_ofSum_iff (short : position < 2 ^ 53) (bothNegative : Bool)
    : (ofSum bothNegative (value * unitsPerOne)).Above position ↔ position < value := by
  have one : (0 : Int) ≤ unitsPerOne := Int.natCast_nonneg _
  constructor
  · contrapose!
    intro upTo
    obtain ⟨place, here, below⟩ : (ofSum bothNegative (value * unitsPerOne)).UpTo position :=
      upTo_ofSum (by omega) (Int.mul_le_mul_of_nonneg_right upTo one) bothNegative
    rintro ⟨other, also, above⟩
    cases Option.mem_unique here also
    exact above.not_ge below
  · intro less
    have next : -(value * unitsPerOne) ≤ -(position + 1 : Int) * unitsPerOne := by
      rw [Int.neg_mul]
      exact Int.neg_le_neg (Int.mul_le_mul_of_nonneg_right less one)
    have negated := upTo_ofSum (by omega) next (!bothNegative)
    rw [← negate_ofSum] at negated
    exact .of_negate negated

/-- Positions are below the sum of two integers if they are below the exact one. -/
theorem above_add_iff (short : position < 2 ^ 53) (left : x.IsWhole) (right : y.IsWhole)
    : (x.add y).Above position ↔ SumAbove x y position := by
  by_cases finite : x.isFinite ∧ y.isFinite
  · obtain ⟨value, left⟩ := left finite.1
    obtain ⟨other, right⟩ := right finite.2
    rw [SumAbove, sumPlace?_of_isInteger left right]
    obtain ⟨negative, magnitude, rfl, units⟩ := left.exists_finite
    obtain ⟨also, further, rfl, more⟩ := right.exists_finite
    rw [add, units, more, ← Int.add_mul, above_ofSum_iff short]
    simp [integerPlace_lt_iff]
  · rw [Above, SumAbove, place?_add finite]

/-- From 2^53 on a position may be below an exact sum and not below the rounded one. -/
example : (ofNat (2 ^ 53)).less ((ofNat (2 ^ 53)).add (ofNat 1)) = false := by
  decide +kernel

-----------------------------------------------------------------------------------------
-- Positions in order
-----------------------------------------------------------------------------------------

/-- Rounding keeps the order: of two counts that are rounded across each other, the smaller one
would be closer to where the greater one is rounded to.
-/
theorem nearestUnits_mono {count further : Nat} (upTo : count ≤ further)
    (finite : nearestUnits further 1 < unitsLimit)
    : nearestUnits count 1 ≤ nearestUnits further 1 := by
  rcases upTo.eq_or_lt with rfl | less
  · exact le_rfl
  have representable := representable_nearestUnits finite
  have also : Representable (nearestUnits count 1) :=
    representable_nearestUnits (nearestUnits_lt_unitsLimit_iff.mpr
      (upTo.trans_lt (nearestUnits_lt_unitsLimit_iff.mp finite)))
  have near := (isClosest_nearestUnits further).near _ also
  have nearer := (isClosest_nearestUnits count).near _ representable
  by_contra! across
  have below : nearestUnits further 1 < count := by
    by_contra! above
    exact across.not_ge (representable.nearestUnits_le Nat.one_pos (by omega))
  have above : further < nearestUnits count 1 := by
    by_contra! below
    exact across.not_ge (also.le_nearestUnits Nat.one_pos (by omega))
  generalize nearestUnits further 1 = low, nearestUnits count 1 = high at *
  rw [abs_of_pos (by omega), abs_of_neg (by omega)] at near
  rw [abs_of_neg (by omega), abs_of_pos (by omega)] at nearer
  omega

theorem placed_ofNat {count further : Nat} (upTo : count ≤ further)
    : Placed (· ≤ ·) (ofNat count) (ofNat further) := by
  have same (count : Nat) : ofNat count = ofRatio false (count * unitsPerOne) 1 := rfl
  have more := Nat.mul_le_mul_right unitsPerOne upTo
  rw [same, same]
  by_cases finite : nearestUnits (further * unitsPerOne) 1 < unitsLimit
  · have kept := nearestUnits_mono more finite
    rw [ofRatio, ofRatio, dif_pos finite, dif_pos (kept.trans_lt finite)]
    exact ⟨_, rfl, _, rfl,
      WithBot.coe_le_coe.mpr (WithTop.coe_le_coe.mpr (Int.ofNat_le.mpr kept))⟩
  · have last : ofRatio false (further * unitsPerOne) 1 = infinite false := dif_neg finite
    obtain ⟨place, here⟩ : ∃ place, place ∈ (ofRatio false (count * unitsPerOne) 1).place? := by
      rw [ofRatio]
      split <;> exact ⟨_, rfl⟩
    exact ⟨place, here, ⊤, by rw [last]; rfl, le_top⟩

theorem isUpperSet_atMost (x : Number)
    : IsUpperSet {position : Nat | x.atMost (ofNat position)} := by
  intro position further upTo
  simp only [Set.mem_ofPred_eq, atMost_iff]
  rintro ⟨place, here, middle, there, before⟩
  obtain ⟨_, also, last, beyond, after⟩ := placed_ofNat upTo
  cases Option.mem_unique there also
  exact ⟨place, here, last, beyond, before.trans after⟩

theorem isLowerSet_less (x : Number)
    : IsLowerSet {position : Nat | (ofNat position).less x} := by
  intro further position upTo
  simp only [Set.mem_ofPred_eq, less_iff]
  rintro ⟨middle, there, last, beyond, after⟩
  obtain ⟨place, here, _, also, before⟩ := placed_ofNat upTo
  cases Option.mem_unique there also
  exact ⟨place, here, last, beyond, before.trans_lt after⟩

theorem atMost_ofNat_iff (short : position < 2 ^ 53)
    : x.atMost (ofNat position) ↔ x.UpTo position := by
  have isInteger := isInteger_ofNat short.le
  rw [IsInteger] at isInteger
  simp [atMost_iff, Placed, isInteger, UpTo]

theorem ofNat_less_iff (short : position < 2 ^ 53)
    : (ofNat position).less x ↔ x.Above position := by
  have isInteger := isInteger_ofNat short.le
  rw [IsInteger] at isInteger
  simp [less_iff, Placed, isInteger, Above]

end PathQuery.Number
