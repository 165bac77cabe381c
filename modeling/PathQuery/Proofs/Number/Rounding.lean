import Mathlib.Tactic.Linarith
import Mathlib.Tactic.Ring
import PathQuery.Number.Basic

/-! What rounding gives. A quotient of units is rounded to the count in whose interval it lies, and
that interval ends half way to the neighbouring counts. Counts that are representable are kept, and
what is not below one of them is not rounded below it.
-/

namespace PathQuery

variable {numerator denominator units : Nat}

-----------------------------------------------------------------------------------------
-- Integers
-----------------------------------------------------------------------------------------

/-- An integer is nearest to a quotient, and even if another one is equally near. -/
structure IsNearest (numerator denominator nearest : Nat) : Prop where
  low : 2 * nearest * denominator ≤ 2 * numerator + denominator
  high : 2 * numerator ≤ 2 * nearest * denominator + denominator
  odd : nearest % 2 = 1 →
    2 * nearest * denominator < 2 * numerator + denominator
      ∧ 2 * numerator < 2 * nearest * denominator + denominator

/-- Of two integers that are nearest both would be a tie, but then one is odd. -/
theorem IsNearest.le {nearest other : Nat} (positive : 0 < denominator)
    (isNearest : IsNearest numerator denominator nearest)
    (also : IsNearest numerator denominator other)
    : nearest ≤ other := by
  by_contra! less
  have next : nearest = other + 1 := by
    refine Nat.le_antisymm (Nat.le_of_lt_succ ?_) less
    refine Nat.lt_of_mul_lt_mul_right (a := denominator) ?_
    linarith [isNearest.low, also.high]
  subst next
  have low := isNearest.low
  rcases Nat.mod_two_eq_zero_or_one other with even | odd
  · linarith [(isNearest.odd (by omega)).1, also.high]
  · linarith [(also.odd odd).2]

theorem isNearest_roundHalfEven (positive : 0 < denominator)
    : IsNearest numerator denominator (roundHalfEven numerator denominator) := by
  have whole := Nat.div_add_mod numerator denominator
  have rest := Nat.mod_lt numerator positive
  simp only [roundHalfEven]
  generalize numerator / denominator = quotient at whole ⊢
  generalize numerator % denominator = remainder at whole rest ⊢
  subst whole
  split
  · exact ⟨by linarith, by linarith, fun _ => ⟨by linarith, by linarith⟩⟩
  split
  · exact ⟨by linarith, by linarith, fun _ => ⟨by linarith, by linarith⟩⟩
  · have half : denominator = 2 * remainder := by omega
    rcases Nat.mod_two_eq_zero_or_one quotient with even | odd
    · rw [even, Nat.add_zero]
      exact ⟨by linarith, by linarith, by omega⟩
    · rw [odd]
      exact ⟨by linarith, by linarith, by omega⟩

/-- Rounding gives the nearest integer and no other one. -/
theorem roundHalfEven_eq_iff (positive : 0 < denominator) (nearest : Nat)
    : roundHalfEven numerator denominator = nearest
      ↔ IsNearest numerator denominator nearest := by
  constructor
  · rintro rfl
    exact isNearest_roundHalfEven positive
  · intro isNearest
    exact ((isNearest_roundHalfEven positive).le positive isNearest).antisymm
      (isNearest.le positive (isNearest_roundHalfEven positive))

-----------------------------------------------------------------------------------------
-- Binades
-----------------------------------------------------------------------------------------

/-- The neighbours of a count are a power of two away that leaves it 53 bits, or one unit. -/
theorem spacing_eq {exponent : Nat} (lower : exponent = 0 ∨ 2 ^ 52 * 2 ^ exponent ≤ units)
    (upper : units < 2 ^ 53 * 2 ^ exponent)
    : spacing units = 2 ^ exponent := by
  have bits : units.log2 - 52 = exponent := by
    rcases lower with rfl | lower
    · by_cases zero : units = 0
      · rw [zero, Nat.log2_zero]
      · rw [Nat.pow_zero, Nat.mul_one] at upper
        have small := (Nat.log2_lt zero).mpr upper
        omega
    · have some : units ≠ 0 := by
        have : 0 < 2 ^ 52 * 2 ^ exponent := by positivity
        omega
      rw [← Nat.pow_add] at lower upper
      rw [(Nat.log2_eq_iff some).mpr ⟨lower, by rwa [Nat.add_right_comm]⟩]
      omega
  rw [spacing, Nat.pow_eq, bits]

theorem exists_spacing (units : Nat)
    : ∃ exponent, spacing units = 2 ^ exponent
      ∧ (exponent = 0 ∨ 2 ^ 52 * 2 ^ exponent ≤ units) ∧ units < 2 ^ 53 * 2 ^ exponent := by
  refine ⟨units.log2 - 52, by rw [spacing, Nat.pow_eq], ?_⟩
  by_cases zero : units = 0
  · subst zero
    exact ⟨.inl (by simp), by positivity⟩
  · have lower := Nat.log2_self_le zero
    have upper := Nat.lt_log2_self (n := units)
    rw [← Nat.pow_add, ← Nat.pow_add]
    refine ⟨?_, upper.trans_le (Nat.pow_le_pow_right (by decide) (by omega))⟩
    by_cases small : units.log2 ≤ 52
    · exact .inl (by omega)
    · exact .inr (by rwa [Nat.add_sub_cancel' (by omega)])

/-- A quotient lies in the binade of an exponent: it takes 53 bits to count it in steps of that
power of two, or fewer where a step is one unit.
-/
structure InBinade (numerator denominator exponent : Nat) : Prop where
  lower : exponent = 0 ∨ 2 ^ 52 * (denominator * 2 ^ exponent) ≤ numerator
  upper : numerator < 2 ^ 53 * (denominator * 2 ^ exponent)

theorem exists_inBinade (numerator : Nat) (positive : 0 < denominator)
    : ∃ exponent, InBinade numerator denominator exponent := by
  obtain ⟨exponent, -, lower, upper⟩ := exists_spacing (numerator / denominator)
  refine ⟨exponent, lower.imp_right fun lower => ?_, ?_⟩
  · have lower := (Nat.le_div_iff_mul_le positive).mp lower
    linarith
  · have upper := (Nat.div_lt_iff_lt_mul positive).mp upper
    linarith

/-- In a binade, rounding is to the nearest number of steps. -/
theorem InBinade.nearestUnits_eq {exponent nearest : Nat} (positive : 0 < denominator)
    (inside : InBinade numerator denominator exponent)
    (isNearest : IsNearest numerator (denominator * 2 ^ exponent) nearest)
    : nearestUnits numerator denominator = nearest * 2 ^ exponent := by
  have step : spacing (numerator / denominator) = 2 ^ exponent := by
    refine spacing_eq (inside.lower.imp_right fun lower => ?_) ?_
    · rw [Nat.le_div_iff_mul_le positive]
      linarith
    · rw [Nat.div_lt_iff_lt_mul positive]
      linarith [inside.upper]
  simp only [nearestUnits, step]
  rw [(roundHalfEven_eq_iff (by positivity) nearest).mpr isNearest]

-----------------------------------------------------------------------------------------
-- Representable counts
-----------------------------------------------------------------------------------------

/-- A significand of 53 bits, or of fewer where the step is one unit. -/
structure IsNormal (significand exponent : Nat) : Prop where
  lower : exponent = 0 ∨ 2 ^ 52 ≤ significand
  upper : significand < 2 ^ 53

namespace IsNormal

variable {significand exponent other further : Nat}

theorem spacing_eq (normal : IsNormal significand exponent)
    : spacing (significand * 2 ^ exponent) = 2 ^ exponent :=
  PathQuery.spacing_eq (normal.lower.imp_right fun lower => Nat.mul_le_mul_right _ lower)
    (Nat.mul_lt_mul_of_pos_right normal.upper (by positivity))

/-- A count has one normal significand and exponent. -/
theorem unique (normal : IsNormal significand exponent) (also : IsNormal other further)
    (same : significand * 2 ^ exponent = other * 2 ^ further)
    : significand = other ∧ exponent = further := by
  have steps := normal.spacing_eq
  rw [same, also.spacing_eq] at steps
  obtain rfl := Nat.pow_right_injective (le_refl 2) steps
  exact ⟨Nat.eq_of_mul_eq_mul_right (by positivity) same, rfl⟩

end IsNormal

theorem Representable.exists_isNormal (representable : Representable units)
    : ∃ significand exponent, IsNormal significand exponent
      ∧ units = significand * 2 ^ exponent := by
  obtain ⟨significand, shift, small, same, -⟩ := representable
  rw [Nat.pow_eq] at small same
  obtain ⟨exponent, -, lower, upper⟩ := exists_spacing units
  rcases lower with rfl | lower
  · exact ⟨units, 0, ⟨.inl rfl, by simpa using upper⟩, by simp⟩
  -- the leading bit of the count is at least as high as the power of two that divides it
  have upTo : exponent ≤ shift := by
    have powers : 2 ^ 52 * 2 ^ exponent < 2 ^ 53 * 2 ^ shift :=
      lower.trans_lt (same ▸ Nat.mul_lt_mul_of_pos_right small (by positivity))
    rw [← Nat.pow_add, ← Nat.pow_add] at powers
    have := (Nat.pow_lt_pow_iff_right (by decide)).mp powers
    omega
  have split : units = significand * 2 ^ (shift - exponent) * 2 ^ exponent := by
    rw [same, Nat.mul_assoc, ← Nat.pow_add, Nat.sub_add_cancel upTo]
  rw [split] at lower upper
  exact ⟨_, exponent, ⟨.inr (Nat.le_of_mul_le_mul_right lower (by positivity)),
    Nat.lt_of_mul_lt_mul_right upper⟩, split⟩

/-- In a binade, the nearest number of steps is a normal significand, or the power of two after the
last one.
-/
theorem InBinade.isNormal_or_eq {exponent nearest : Nat}
    (inside : InBinade numerator denominator exponent)
    (isNearest : IsNearest numerator (denominator * 2 ^ exponent) nearest)
    : IsNormal nearest exponent ∨ nearest = 2 ^ 53 := by
  have upper := inside.upper
  have lower := inside.lower
  have low := isNearest.low
  have high := isNearest.high
  generalize denominator * 2 ^ exponent = step at lower upper low high
  have upTo : nearest < 2 ^ 53 + 1 := by
    refine Nat.lt_of_mul_lt_mul_right (a := step) ?_
    linarith
  rcases Nat.lt_or_eq_of_le (Nat.le_of_lt_succ upTo) with less | full
  · refine .inl ⟨lower.imp_right fun lower => ?_, less⟩
    refine Nat.le_of_lt_succ (Nat.lt_of_mul_lt_mul_right (a := step) ?_)
    rw [Nat.succ_eq_add_one]
    linarith
  · exact .inr full

/-- A quotient is rounded to a normal count if it lies within half a step of it; below the first
count of a binade, where the steps are shorter, within a quarter. The ends belong to the counts
with even significands. All is counted in quarters of a unit.
-/
theorem nearestUnits_eq_iff {significand exponent : Nat} (positive : 0 < denominator)
    (normal : IsNormal significand exponent)
    : nearestUnits numerator denominator = significand * 2 ^ exponent
      ↔ 4 * (significand * (denominator * 2 ^ exponent))
          ≤ 4 * numerator
            + (if significand = 2 ^ 52 ∧ 0 < exponent then 1 else 2) * (denominator * 2 ^ exponent)
        ∧ 4 * numerator ≤ (4 * significand + 2) * (denominator * 2 ^ exponent)
        ∧ (significand % 2 = 1 →
          4 * (significand * (denominator * 2 ^ exponent))
              < 4 * numerator + 2 * (denominator * 2 ^ exponent)
            ∧ 4 * numerator < (4 * significand + 2) * (denominator * 2 ^ exponent)) := by
  constructor
  · intro same
    obtain ⟨binade, inside⟩ := exists_inBinade numerator positive
    obtain ⟨nearest, isNearest⟩ : ∃ nearest, IsNearest numerator (denominator * 2 ^ binade) nearest :=
      ⟨_, isNearest_roundHalfEven (by positivity)⟩
    rw [inside.nearestUnits_eq positive isNearest] at same
    have low := isNearest.low
    have high := isNearest.high
    rcases inside.isNormal_or_eq isNearest with also | rfl
    · obtain ⟨rfl, rfl⟩ := also.unique normal same
      refine ⟨?_, by linarith, fun odd => ?_⟩
      · split
        case isTrue first =>
            rw [first.1]
            linarith [inside.lower.resolve_left first.2.ne']
        case isFalse => linarith
      · have strict := isNearest.odd odd
        exact ⟨by linarith [strict.1], by linarith [strict.2]⟩
    · have first : IsNormal (2 ^ 52) (binade + 1) := ⟨.inr le_rfl, by norm_num⟩
      have double : denominator * 2 ^ (binade + 1) = 2 * (denominator * 2 ^ binade) := by ring
      obtain ⟨rfl, rfl⟩ := first.unique normal (by rw [← same]; ring)
      rw [double, if_pos ⟨rfl, Nat.succ_pos _⟩]
      exact ⟨by linarith, by linarith [inside.upper], fun odd => by simp at odd⟩
  · rintro ⟨low, high, odd⟩
    by_cases short : (significand = 2 ^ 52 ∧ 0 < exponent)
        ∧ numerator < significand * (denominator * 2 ^ exponent)
    · obtain ⟨⟨rfl, some⟩, less⟩ := short
      obtain ⟨binade, rfl⟩ := Nat.exists_eq_succ_of_ne_zero some.ne'
      have double : denominator * 2 ^ (binade + 1) = 2 * (denominator * 2 ^ binade) := by ring
      rw [Nat.succ_eq_add_one, double] at low less
      rw [if_pos ⟨rfl, Nat.succ_pos _⟩] at low
      have inside : InBinade numerator denominator binade := ⟨.inr (by linarith), by linarith⟩
      have full : IsNearest numerator (denominator * 2 ^ binade) (2 ^ 53) :=
        ⟨by linarith, by linarith, fun odd => by simp at odd⟩
      rw [inside.nearestUnits_eq positive full, Nat.succ_eq_add_one]
      ring
    · have step : 0 < denominator * 2 ^ exponent := by positivity
      refine InBinade.nearestUnits_eq positive
        ⟨(Nat.eq_zero_or_pos exponent).imp_right fun some => ?_, ?_⟩
        ⟨?_, by linarith, fun isOdd => ⟨by linarith [(odd isOdd).1], by linarith [(odd isOdd).2]⟩⟩
      · rcases Nat.lt_or_eq_of_le (normal.lower.resolve_left some.ne') with more | first
        · have above := Nat.mul_le_mul_right (denominator * 2 ^ exponent) (Nat.succ_le_of_lt more)
          rw [Nat.succ_eq_add_one] at above
          split at low <;> linarith
        · rw [first]
          exact not_lt.mp fun less => short ⟨⟨first.symm, some⟩, less⟩
      · have upper := Nat.mul_le_mul_right (denominator * 2 ^ exponent)
          (Nat.succ_le_of_lt normal.upper)
        rw [Nat.succ_eq_add_one] at upper
        linarith
      · split at low <;> linarith

/-- In a binade, a representable count is a number of steps or below all of it. -/
theorem Representable.dvd_or_lt (representable : Representable units) (exponent : Nat)
    : 2 ^ exponent ∣ units ∨ 0 < exponent ∧ units < 2 ^ 52 * 2 ^ exponent := by
  obtain ⟨significand, finer, normal, rfl⟩ := representable.exists_isNormal
  rcases Nat.lt_or_ge finer exponent with less | upTo
  · refine .inr ⟨by omega, ?_⟩
    calc significand * 2 ^ finer
      _ < 2 ^ 53 * 2 ^ finer := Nat.mul_lt_mul_of_pos_right normal.upper (by positivity)
      _ = 2 ^ 52 * 2 ^ (finer + 1) := by ring
      _ ≤ 2 ^ 52 * 2 ^ exponent := Nat.mul_le_mul_left _ (Nat.pow_le_pow_right (by decide) less)
  · exact .inl ((pow_dvd_pow 2 upTo).mul_left significand)

/-- What is not below a representable count is not rounded below it. -/
theorem Representable.le_nearestUnits (representable : Representable units)
    (positive : 0 < denominator) (upTo : units * denominator ≤ numerator)
    : units ≤ nearestUnits numerator denominator := by
  obtain ⟨exponent, inside⟩ := exists_inBinade numerator positive
  have isNearest : IsNearest numerator (denominator * 2 ^ exponent) _ :=
    isNearest_roundHalfEven (by positivity)
  rw [inside.nearestUnits_eq positive isNearest]
  have high := isNearest.high
  generalize roundHalfEven numerator (denominator * 2 ^ exponent) = nearest at high
  suffices steps : ∀ count, count * 2 ^ exponent * denominator ≤ numerator → count ≤ nearest by
    rcases representable.dvd_or_lt exponent with ⟨count, rfl⟩ | ⟨some, below⟩
    · rw [Nat.mul_comm (2 ^ exponent)] at upTo ⊢
      exact Nat.mul_le_mul_right _ (steps count upTo)
    · refine below.le.trans (Nat.mul_le_mul_right _ (steps _ ?_))
      linarith [inside.lower.resolve_left some.ne']
  intro count upTo
  refine Nat.le_of_lt_succ (Nat.lt_of_mul_lt_mul_right (a := denominator * 2 ^ exponent) ?_)
  have step : 0 < denominator * 2 ^ exponent := by positivity
  rw [Nat.succ_eq_add_one]
  linarith

/-- What is not above a representable count is not rounded above it. -/
theorem Representable.nearestUnits_le (representable : Representable units)
    (positive : 0 < denominator) (upTo : numerator ≤ units * denominator)
    : nearestUnits numerator denominator ≤ units := by
  obtain ⟨exponent, inside⟩ := exists_inBinade numerator positive
  have isNearest : IsNearest numerator (denominator * 2 ^ exponent) _ :=
    isNearest_roundHalfEven (by positivity)
  rw [inside.nearestUnits_eq positive isNearest]
  have low := isNearest.low
  generalize roundHalfEven numerator (denominator * 2 ^ exponent) = nearest at low
  have step : 0 < denominator * 2 ^ exponent := by positivity
  rcases representable.dvd_or_lt exponent with ⟨count, rfl⟩ | ⟨some, below⟩
  · rw [Nat.mul_comm (2 ^ exponent)] at upTo ⊢
    refine Nat.mul_le_mul_right _
      (Nat.le_of_lt_succ (Nat.lt_of_mul_lt_mul_right (a := denominator * 2 ^ exponent) ?_))
    rw [Nat.succ_eq_add_one]
    linarith
  · have less := Nat.mul_lt_mul_of_pos_right below positive
    linarith [inside.lower.resolve_left some.ne']

/-- A representable count is kept. -/
theorem Representable.nearestUnits_eq (representable : Representable units)
    (positive : 0 < denominator)
    : nearestUnits (units * denominator) denominator = units :=
  (representable.nearestUnits_le positive le_rfl).antisymm
    (representable.le_nearestUnits positive le_rfl)

-----------------------------------------------------------------------------------------
-- Finite numbers
-----------------------------------------------------------------------------------------

theorem unitsPerOne_pos : 0 < unitsPerOne := by
  decide +kernel

/-- A quotient is a finite number if its rounded count is that of the number. -/
theorem Number.ofRatio_eq_iff {negative : Bool} {numerator denominator : Nat}
    {magnitude : Magnitude}
    : ofRatio negative numerator denominator = .finite negative magnitude
      ↔ nearestUnits numerator denominator = magnitude.units := by
  obtain ⟨units, representable⟩ := magnitude
  have limit : units < unitsLimit := by
    obtain ⟨-, -, -, -, limit⟩ := representable
    exact limit
  rw [ofRatio]
  split
  case isTrue => simp
  case isFalse above => simpa using fun same => above (same.trans_lt limit)

end PathQuery
