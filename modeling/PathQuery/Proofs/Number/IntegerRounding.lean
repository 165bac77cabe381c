import Mathlib
import PathQuery.Proofs.Number.Integers

/-! Rounding to integers by way of a sum. Sums are rounded to the closest number, so what rounding
computes is the floor of a rounded sum; that it is the floor of the exact one holds for all numbers
but the greatest one below a half, whose sum with a half is rounded up to one.
-/

namespace PathQuery

-----------------------------------------------------------------------------------------
-- The closest representable count
-----------------------------------------------------------------------------------------

/-- A count is a representable one that is closest to another count. If there are two, it has the
even significand.
-/
structure IsClosest (units closest : Nat) : Prop where
  near : ∀ other, Representable other → |(units - closest : Int)| ≤ |(units - other : Int)|
  even : ∀ other, Representable other → |(units - other : Int)| = |(units - closest : Int)| →
    other = closest ∨ ∃ significand exponent, IsNormal significand exponent
      ∧ closest = significand * 2 ^ exponent ∧ Even significand

section
variable {units step nearest exponent : Nat}

/-- The nearest number of steps is at most half a step away, by less than that if it is odd. -/
theorem IsNearest.distance_le (isNearest : IsNearest units step nearest)
    : 2 * |(units - (nearest * step : Nat) : Int)| ≤ step := by
  have low := isNearest.low
  have high := isNearest.high
  rw [Nat.mul_assoc] at low high
  generalize nearest * step = closest at low high ⊢
  rcases abs_cases (units - closest : Int) with ⟨distance, -⟩ | ⟨distance, -⟩ <;> omega

theorem IsNearest.even_of_abs_eq (isNearest : IsNearest units step nearest)
    (tie : 2 * |(units - (nearest * step : Nat) : Int)| = step)
    : Even nearest := by
  rw [Nat.even_iff]
  by_contra odd
  have strict := isNearest.odd (by omega)
  rw [Nat.mul_assoc] at strict
  generalize nearest * step = closest at strict tie
  rcases abs_cases (units - closest : Int) with ⟨distance, -⟩ | ⟨distance, -⟩ <;> omega

/-- Other numbers of steps are at least half a step away. -/
theorem IsNearest.le_distance {count : Nat} (isNearest : IsNearest units step nearest)
    (differs : count ≠ nearest)
    : step ≤ 2 * |(units - (count * step : Nat) : Int)| := by
  have bound := isNearest.distance_le
  have apart : (step : Int) ≤ |((count * step : Nat) - (nearest * step : Nat) : Int)| := by
    rw [Nat.cast_mul, Nat.cast_mul, ← Int.sub_mul, abs_mul, Nat.abs_cast]
    refine le_mul_of_one_le_left (by positivity) (Int.one_le_abs ?_)
    omega
  have triangle := abs_sub_le ((count * step : Nat) : Int) units (nearest * step : Nat)
  rw [abs_sub_comm _ (units : Int)] at triangle
  omega

/-- Rounding gives the closest representable count: representable counts that are no numbers of
steps are below the whole binade.
-/
theorem InBinade.isClosest (inside : InBinade units 1 exponent)
    (isNearest : IsNearest units (2 ^ exponent) nearest)
    : IsClosest units (nearest * 2 ^ exponent) := by
  have bound := isNearest.distance_le
  have below {other : Nat} (less : other < 2 ^ 52 * 2 ^ exponent) (some : 0 < exponent)
      : |(units - (nearest * 2 ^ exponent : Nat) : Int)| < |(units - other : Int)| := by
    have lower := inside.lower.resolve_left some.ne'
    rw [Nat.one_mul] at lower
    have first : |(units - (nearest * 2 ^ exponent : Nat) : Int)|
        ≤ |(units - (2 ^ 52 * 2 ^ exponent : Nat) : Int)| := by
      by_cases same : 2 ^ 52 = nearest
      · rw [same]
      · have far := isNearest.le_distance same
        omega
    rw [abs_of_nonneg (a := (units - (2 ^ 52 * 2 ^ exponent : Nat) : Int)) (by omega)] at first
    rw [abs_of_nonneg (a := (units - other : Int)) (by omega)]
    omega
  constructor
  · intro other representable
    rcases representable.dvd_or_lt exponent with ⟨count, rfl⟩ | ⟨some, less⟩
    · rw [Nat.mul_comm (2 ^ exponent)]
      by_cases same : count = nearest
      · rw [same]
      · have far := isNearest.le_distance same
        omega
    · exact (below less some).le
  · intro other representable tie
    rcases representable.dvd_or_lt exponent with ⟨count, rfl⟩ | ⟨some, less⟩
    · rw [Nat.mul_comm (2 ^ exponent)] at tie ⊢
      by_cases same : count = nearest
      · exact .inl (by rw [same])
      · have far := isNearest.le_distance same
        have even := isNearest.even_of_abs_eq (by omega)
        rcases inside.isNormal_or_eq (by rwa [Nat.one_mul]) with normal | rfl
        · exact .inr ⟨nearest, exponent, normal, rfl, even⟩
        · exact .inr ⟨2 ^ 52, exponent + 1, ⟨.inr le_rfl, by norm_num⟩, by ring, by decide⟩
    · exact absurd tie (below less some).ne'

theorem isClosest_nearestUnits (units : Nat) : IsClosest units (nearestUnits units 1) := by
  obtain ⟨exponent, inside⟩ := exists_inBinade units Nat.one_pos
  have isNearest : IsNearest units (2 ^ exponent) _ := isNearest_roundHalfEven (by positivity)
  rw [inside.nearestUnits_eq Nat.one_pos (by rwa [Nat.one_mul])]
  exact inside.isClosest isNearest

/-- What is not below half a step before a power of two is rounded to that power at least. -/
theorem nearestUnits_lt_iff
    : nearestUnits units 1 < 2 ^ 53 * 2 ^ (exponent + 1)
      ↔ units + 2 ^ exponent < 2 ^ 53 * 2 ^ (exponent + 1) := by
  obtain ⟨binade, inside⟩ := exists_inBinade units Nat.one_pos
  have isNearest : IsNearest units (2 ^ binade) _ := isNearest_roundHalfEven (by positivity)
  rw [inside.nearestUnits_eq Nat.one_pos (by rwa [Nat.one_mul])]
  generalize roundHalfEven units (2 ^ binade) = nearest at isNearest ⊢
  have lower := inside.lower
  have upper := inside.upper
  have low := isNearest.low
  have high := isNearest.high
  have half : 2 ^ (exponent + 1) = 2 * 2 ^ exponent := by ring
  have positive : 0 < 2 ^ exponent := by positivity
  rw [Nat.one_mul] at lower upper
  rcases lt_trichotomy binade (exponent + 1) with finer | rfl | coarser
  · -- the whole binade is below
    have steps : 2 ^ binade ≤ 2 ^ exponent := Nat.pow_le_pow_right (by decide) (by omega)
    rw [half]
    constructor <;> intro _ <;> linarith
  · -- the tie below the limit is rounded up, as the last number of steps is odd
    have odd := isNearest.odd
    rw [half] at low high odd ⊢
    constructor
    · intro less
      have few := Nat.lt_of_mul_lt_mul_right less
      by_cases last : nearest = 2 ^ 53 - 1
      · subst last
        norm_num at odd
        linarith
      · have fewer : nearest + 2 ≤ 2 ^ 53 := by omega
        linarith [Nat.mul_le_mul_right (2 * 2 ^ exponent) fewer]
    · intro less
      refine Nat.mul_lt_mul_of_pos_right ?_ (by positivity)
      refine Nat.lt_of_mul_lt_mul_right (a := 2 * 2 ^ exponent) ?_
      linarith
  · have steps : 2 * 2 ^ (exponent + 1) ≤ 2 ^ binade := by
      rw [← Nat.pow_succ']
      exact Nat.pow_le_pow_right (by decide) (by omega)
    have lower := lower.resolve_left (by omega)
    have many : 2 ^ 52 ≤ nearest := by
      rcases inside.isNormal_or_eq (by rwa [Nat.one_mul]) with normal | rfl
      · exact normal.lower.resolve_left (by omega)
      · norm_num
    have above := Nat.mul_le_mul many steps
    rw [half] at steps above ⊢
    refine iff_of_false (fun less => ?_) (fun less => ?_) <;> linarith

end

-----------------------------------------------------------------------------------------
-- The sum with a half
-----------------------------------------------------------------------------------------

section
variable {units exponent : Nat}

theorem Magnitude.eq_of_units_eq {left right : Magnitude} (same : left.units = right.units)
    : left = right := by
  cases left
  cases right
  cases same
  rfl

/-- The count of units of one half. -/
@[irreducible]
def halfUnits : Nat :=
  Nat.pow 2 1073

theorem two_mul_halfUnits : 2 * halfUnits = unitsPerOne := by
  decide +kernel

theorem lt_unitsLimit (small : units ≤ 2 ^ 53 * unitsPerOne) : units < unitsLimit :=
  small.trans_lt (by decide +kernel)

/-- Up to 2^53 steps of a power of two are representable. -/
theorem representable_of_dvd (steps : 2 ^ exponent ∣ units) (fits : units ≤ 2 ^ 53 * 2 ^ exponent)
    (limit : units < unitsLimit)
    : Representable units := by
  obtain ⟨count, rfl⟩ := steps
  rw [Nat.mul_comm] at fits
  rcases (Nat.le_of_mul_le_mul_right fits (by positivity)).lt_or_eq with less | rfl
  · exact ⟨count, exponent, less, Nat.mul_comm .., limit⟩
  · exact ⟨1, 53 + exponent, by decide, by rw [Nat.pow_eq]; ring, limit⟩

theorem representable_halfUnits : Representable halfUnits :=
  ⟨1, 1073, by decide, by decide +kernel, by decide +kernel⟩

/-- The greatest magnitude below one half. -/
@[irreducible]
def belowHalf : Magnitude :=
  ⟨(2 ^ 53 - 1) * Nat.pow 2 1020, 2 ^ 53 - 1, 1020, by decide, rfl, by decide +kernel⟩

/-- Below one half the sum with a half is rounded to less than one, if it is not the one next to
one half.
-/
theorem nearestUnits_add_half_lt (representable : Representable units) (below : units < halfUnits)
    (differs : units ≠ belowHalf.units)
    : nearestUnits (units + halfUnits) 1 < unitsPerOne := by
  obtain ⟨exponent, half, least⟩ : ∃ exponent, halfUnits = 2 ^ 53 * 2 ^ exponent
      ∧ belowHalf.units = (2 ^ 53 - 1) * 2 ^ exponent :=
    ⟨1020, by decide +kernel, by decide +kernel⟩
  have one : unitsPerOne = 2 ^ 53 * 2 ^ (exponent + 1) := by
    rw [← two_mul_halfUnits, half]
    ring
  have positive : 0 < 2 ^ exponent := by positivity
  rw [one, nearestUnits_lt_iff, ← one, ← two_mul_halfUnits]
  suffices units + 2 ^ exponent < halfUnits by omega
  rw [half] at below ⊢
  rcases representable.dvd_or_lt exponent with ⟨count, rfl⟩ | ⟨-, less⟩
  · rw [Nat.mul_comm] at below differs ⊢
    have fewer := Nat.lt_of_mul_lt_mul_right below
    have fewer : count + 2 ≤ 2 ^ 53 := by
      rw [least] at differs
      have : count ≠ 2 ^ 53 - 1 := fun same => differs (by rw [same])
      omega
    linarith [Nat.mul_le_mul_right (2 ^ exponent) fewer]
  · linarith

/-- The quotients of two counts are equal between a multiple and one half after it. -/
theorem div_unitsPerOne_eq {power other : Nat} (dvd : unitsPerOne ∣ power) (low : power ≤ units)
    (high : units ≤ power + halfUnits) (least : power ≤ other) (most : other ≤ power + halfUnits)
    : units / unitsPerOne = other / unitsPerOne := by
  obtain ⟨count, same⟩ := dvd
  rw [Nat.mul_comm] at same
  have one := two_mul_halfUnits
  have positive := unitsPerOne_pos
  have quotient {between : Nat} (low : power ≤ between) (high : between ≤ power + halfUnits)
      : between / unitsPerOne = count := by
    refine Nat.div_eq_of_lt_le (by omega) ?_
    rw [Nat.succ_mul]
    omega
  rw [quotient low high, quotient least most]

theorem exists_halfUnits_eq : ∃ low, halfUnits = 2 ^ (53 + low) ∧ unitsPerOne = 2 ^ (54 + low) :=
  ⟨1020, by decide +kernel, by decide +kernel⟩

/-- Below 2^52 the steps of a number divide one half. -/
theorem exists_steps (representable : Representable units) (small : units < 2 ^ 52 * unitsPerOne)
    : ∃ exponent, 2 ^ exponent ∣ units ∧ 2 ^ exponent ∣ halfUnits
      ∧ units + 2 ^ exponent ≤ 2 ^ 53 * 2 ^ exponent := by
  obtain ⟨low, half, one⟩ := exists_halfUnits_eq
  obtain ⟨significand, exponent, normal, rfl⟩ := representable.exists_isNormal
  refine ⟨exponent, dvd_mul_left .., ?_, ?_⟩
  · rw [half]
    refine pow_dvd_pow 2 ?_
    by_contra! past
    have lower := Nat.mul_le_mul (normal.lower.resolve_left (by omega))
      (Nat.pow_le_pow_right (show 0 < 2 by decide) (show 54 + low ≤ exponent by omega))
    rw [← one] at lower
    omega
  · rw [← Nat.succ_mul]
    exact Nat.mul_le_mul_right _ (Nat.succ_le_of_lt normal.upper)

theorem lt_unitsLimit_of_le {count : Nat} (bounded : count ≤ 2 ^ 53 * halfUnits)
    : count < unitsLimit := by
  have one := two_mul_halfUnits
  exact lt_unitsLimit (by omega)

/-- A power of two above one half and below 2^52 is representable, also together with one half. -/
theorem representable_power_add_half {low exponent : Nat} (half : halfUnits = 2 ^ (53 + low))
    (after : low < exponent) (before : exponent < 53 + low)
    : Representable (2 ^ 53 * 2 ^ exponent) ∧ Representable (2 ^ 53 * 2 ^ exponent + halfUnits) := by
  have room : 2 ^ 53 * 2 ^ exponent ≤ 2 ^ 52 * 2 ^ (53 + low) := by
    rw [← pow_add, ← pow_add]
    exact Nat.pow_le_pow_right (by decide) (by omega)
  have positive : 0 < 2 ^ (53 + low) := by positivity
  constructor
  · refine representable_of_dvd (dvd_mul_left ..) le_rfl (lt_unitsLimit_of_le ?_)
    rw [half]
    linarith
  · have within : 2 ^ 53 * 2 ^ exponent + halfUnits ≤ 2 ^ 53 * 2 ^ (53 + low) := by
      rw [half]
      linarith
    have steps : 2 ^ (53 + low) ∣ 2 ^ 53 * 2 ^ exponent := by
      rw [← pow_add]
      exact pow_dvd_pow 2 (by omega)
    have also : 2 ^ (53 + low) ∣ halfUnits := by rw [half]
    refine representable_of_dvd (dvd_add steps also) within (lt_unitsLimit_of_le ?_)
    rwa [half] at within ⊢

/-- From one half on the sum with a half is exact, or it is rounded between a power of two and
one half after it: cutting off the fraction gives the same for both.
-/
theorem nearestUnits_add_half_div (representable : Representable units) (above : halfUnits ≤ units)
    (small : units < 2 ^ 52 * unitsPerOne)
    : nearestUnits (units + halfUnits) 1 / unitsPerOne = (units + halfUnits) / unitsPerOne := by
  obtain ⟨low, half, one⟩ := exists_halfUnits_eq
  obtain ⟨exponent, steps, halfSteps, upper⟩ := exists_steps representable small
  have upTo : exponent ≤ 53 + low := by
    rw [half] at halfSteps
    exact (Nat.pow_dvd_pow_iff_le_right (by decide)).mp halfSteps
  by_cases fits : units + halfUnits ≤ 2 ^ 53 * 2 ^ exponent
  · have bounded : units + halfUnits ≤ 2 ^ 53 * halfUnits := by
      rw [half] at fits ⊢
      exact fits.trans (Nat.mul_le_mul_left _ (Nat.pow_le_pow_right (by decide) upTo))
    have representable :=
      representable_of_dvd (dvd_add steps halfSteps) fits (lt_unitsLimit_of_le bounded)
    have exact := representable.nearestUnits_eq Nat.one_pos
    rw [Nat.mul_one] at exact
    rw [exact]
  · have before : exponent < 53 + low := by
      refine lt_of_le_of_ne upTo fun last => fits ?_
      rw [half, ← last]
      exact upper
    have after : low < exponent := by
      have powers : 2 ^ (53 + low) < 2 ^ (53 + exponent) := by
        rw [← half, pow_add 2 53 exponent]
        have : 0 < 2 ^ exponent := by positivity
        omega
      have := (Nat.pow_lt_pow_iff_right (by decide)).mp powers
      omega
    obtain ⟨power, next⟩ := representable_power_add_half half after before
    have crossed : 2 ^ 53 * 2 ^ exponent ≤ units + halfUnits := by omega
    have bounded : units + halfUnits ≤ 2 ^ 53 * 2 ^ exponent + halfUnits := by omega
    have least := power.le_nearestUnits Nat.one_pos ((Nat.mul_one _).trans_le crossed)
    have most := next.nearestUnits_le Nat.one_pos (bounded.trans_eq (Nat.mul_one _).symm)
    have whole : unitsPerOne ∣ 2 ^ 53 * 2 ^ exponent := by
      rw [one, ← pow_add]
      exact pow_dvd_pow 2 (by omega)
    exact div_unitsPerOne_eq whole least most crossed bounded

end

namespace Number

variable {negative : Bool} {magnitude rounded : Magnitude} {units value : Int}

-----------------------------------------------------------------------------------------
-- Sums
-----------------------------------------------------------------------------------------

/-- The count from which on there is no closest number, half a step below the limit. -/
def overflow : Nat :=
  unitsLimit - Nat.pow 2 2044

theorem nearestUnits_lt_unitsLimit_iff {count : Nat}
    : nearestUnits count 1 < unitsLimit ↔ count < overflow := by
  obtain ⟨top, limit, below⟩ : ∃ top, unitsLimit = 2 ^ 53 * 2 ^ (top + 1)
      ∧ overflow + 2 ^ top = unitsLimit := ⟨2044, by decide +kernel, by decide +kernel⟩
  generalize unitsLimit = limitUnits, overflow = first at limit below ⊢
  rw [limit, nearestUnits_lt_iff]
  omega

/-- What an exact count of units is rounded to: the closest number, or an infinity where there is
none. The sign is that of the count, but for zero.
-/
inductive RoundedFrom (units : Int) : Number → Prop
  | finite {negative : Bool} {magnitude : Magnitude} (below : units.natAbs < overflow)
    (closest : IsClosest units.natAbs magnitude.units)
    (sign : units = 0 ∨ (negative ↔ units < 0))
    : RoundedFrom units (.finite negative magnitude)
  | infinite {negative : Bool} (above : overflow ≤ units.natAbs) (sign : negative ↔ units < 0)
    : RoundedFrom units (.infinite negative)

theorem roundedFrom_ofRatio (sign : units = 0 ∨ (negative ↔ units < 0))
    : RoundedFrom units (ofRatio negative units.natAbs 1) := by
  rw [ofRatio]
  split
  case isTrue below =>
      exact .finite (nearestUnits_lt_unitsLimit_iff.mp below) (isClosest_nearestUnits _) sign
  case isFalse above =>
      rw [nearestUnits_lt_unitsLimit_iff, Nat.not_lt] at above
      refine .infinite above (sign.resolve_left fun none => ?_)
      rw [none] at above
      exact absurd above (by decide +kernel)

/-- A sum is rounded to the closest number. -/
theorem roundedFrom_ofSum (bothNegative : Bool) (units : Int)
    : RoundedFrom units (ofSum bothNegative units) := by
  rw [ofSum]
  split
  case isTrue none =>
      subst none
      exact roundedFrom_ofRatio (.inl rfl)
  case isFalse => exact roundedFrom_ofRatio (.inr decide_eq_true_iff)

-----------------------------------------------------------------------------------------
-- Cutting off
-----------------------------------------------------------------------------------------

/-- The rational number that a finite number is. -/
def exact (negative : Bool) (magnitude : Magnitude) : ℚ :=
  signedUnits negative magnitude / unitsPerOne

theorem exact_eq_iff
    : exact negative magnitude = value ↔ signedUnits negative magnitude = value * unitsPerOne := by
  have positive : (unitsPerOne : ℚ) ≠ 0 := by exact_mod_cast unitsPerOne_pos.ne'
  rw [exact, div_eq_iff positive]
  exact_mod_cast Iff.rfl

/-- The floor of a number and one half, in units. -/
theorem floor_exact_add_half_iff
    : ⌊exact negative magnitude + 1 / 2⌋ = value
      ↔ 2 * (value * unitsPerOne) ≤ 2 * signedUnits negative magnitude + unitsPerOne
        ∧ 2 * signedUnits negative magnitude < 2 * (value * unitsPerOne) + unitsPerOne := by
  have positive : (0 : ℚ) < unitsPerOne := by exact_mod_cast unitsPerOne_pos
  rw [Int.floor_eq_iff, exact]
  generalize signedUnits negative magnitude = units
  have low : (value : ℚ) ≤ units / unitsPerOne + 1 / 2
      ↔ (2 * (value * unitsPerOne) : ℚ) ≤ 2 * units + unitsPerOne := by
    rw [← sub_le_iff_le_add, le_div_iff₀ positive]
    constructor <;> intro _ <;> linarith
  have high : (units / unitsPerOne + 1 / 2 : ℚ) < value + 1
      ↔ (2 * units : ℚ) < 2 * (value * unitsPerOne) + unitsPerOne := by
    rw [← lt_sub_iff_add_lt, div_lt_iff₀ positive]
    constructor <;> intro _ <;> linarith
  rw [low, high]
  exact_mod_cast Iff.rfl

theorem half_eq : half = finite false ⟨halfUnits, representable_halfUnits⟩ := by
  have kept := representable_halfUnits.nearestUnits_eq Nat.two_pos
  rw [Nat.mul_comm, two_mul_halfUnits] at kept
  exact ofRatio_eq_iff.mpr kept

theorem floorUnits_bounds (units : Int)
    : floorUnits units * unitsPerOne ≤ units
      ∧ units < floorUnits units * unitsPerOne + unitsPerOne := by
  have positive : (0 : Int) < unitsPerOne := by exact_mod_cast unitsPerOne_pos
  have high : units < (floorUnits units + 1) * unitsPerOne :=
    Int.lt_ediv_add_one_mul_self _ positive
  rw [Int.add_mul, Int.one_mul] at high
  exact ⟨Int.ediv_mul_le _ positive.ne', high⟩

/-- The floor of a count of units is exact if it has up to 53 bits, and its sign is that of the
count.
-/
theorem exists_ofInt_floorUnits_eq (small : units.natAbs ≤ 2 ^ 53 * unitsPerOne)
    : ∃ rounded, ofInt (floorUnits units) = finite (units < 0) rounded
      ∧ signedUnits (units < 0) rounded = floorUnits units * unitsPerOne := by
  have positive : (0 : Int) < unitsPerOne := by exact_mod_cast unitsPerOne_pos
  obtain ⟨low, high⟩ := floorUnits_bounds units
  generalize floorUnits units = value at low high ⊢
  have sign : units < 0 ↔ value < 0 := by
    constructor <;> intro below
    · exact neg_of_mul_neg_left (low.trans_lt below) positive.le
    · have next := mul_nonpos_of_nonpos_of_nonneg (Int.add_one_le_of_lt below) positive.le
      rw [Int.add_mul, Int.one_mul] at next
      omega
  have bits : value.natAbs ≤ 2 ^ 53 := by
    have above : -2 ^ 53 < value + 1 := by
      refine Int.lt_of_mul_lt_mul_right (a := (unitsPerOne : Int)) ?_ positive.le
      rw [Int.add_mul, Int.one_mul]
      omega
    have below : value ≤ 2 ^ 53 := by
      refine Int.le_of_mul_le_mul_right (a := (unitsPerOne : Int)) ?_ positive
      omega
    omega
  have representable := representable_mul_unitsPerOne bits
  have kept := representable.nearestUnits_eq Nat.one_pos
  rw [Nat.mul_one] at kept
  rw [decide_eq_decide.mpr sign]
  refine ⟨⟨_, representable⟩, ofRatio_eq_iff.mpr kept, ?_⟩
  simp only [signedUnits, decide_eq_true_eq, Nat.cast_mul, Int.natCast_natAbs]
  split
  case isTrue below => rw [abs_of_neg below, Int.neg_mul, neg_neg]
  case isFalse above => rw [abs_of_nonneg (not_lt.mp above)]

/-- What is above one half in absolute value is added to one half without rounding if it is
negative, and cut off after that.
-/
theorem exists_floor_of_negative (large : unitsPerOne < 2 * magnitude.units)
    (small : magnitude.units < 2 ^ 52 * unitsPerOne)
    : ∃ rounded, ((finite true magnitude).add half).floor = finite true rounded
      ∧ exact true rounded = ⌊exact true magnitude + 1 / 2⌋ := by
  have one := two_mul_halfUnits
  obtain ⟨exponent, steps, halfSteps, upper⟩ := exists_steps magnitude.representable small
  have difference : Representable (-(magnitude.units - halfUnits : Nat) : Int).natAbs := by
    rw [Int.natAbs_neg, Int.natAbs_natCast]
    exact representable_of_dvd (Nat.dvd_sub steps halfSteps) (by omega) (lt_unitsLimit (by omega))
  obtain ⟨negative, between, sum, kept⟩ := exists_ofSum_eq difference false
  have floor : ((finite true magnitude).add half).floor
      = ofInt (floorUnits (-(magnitude.units - halfUnits : Nat) : Int)) := by
    have same : signedUnits true magnitude + signedUnits false ⟨halfUnits, representable_halfUnits⟩
        = -(magnitude.units - halfUnits : Nat) := by
      simp only [signedUnits, if_true, Bool.false_eq_true, if_false]
      omega
    rw [half_eq, add, same, Bool.and_false, sum, Number.floor, kept]
  have short : (-(magnitude.units - halfUnits : Nat) : Int).natAbs ≤ 2 ^ 53 * unitsPerOne := by
    omega
  obtain ⟨rounded, cut, whole⟩ := exists_ofInt_floorUnits_eq short
  have bounds := floorUnits_bounds (-(magnitude.units - halfUnits : Nat) : Int)
  have sign : decide ((-(magnitude.units - halfUnits : Nat) : Int) < 0) = true := by
    rw [decide_eq_true_iff]
    omega
  rw [sign] at cut whole
  refine ⟨rounded, floor.trans cut, ?_⟩
  rw [exact_eq_iff.mpr whole, Int.cast_inj, eq_comm, floor_exact_add_half_iff]
  generalize floorUnits (-(magnitude.units - halfUnits : Nat) : Int) = value at bounds ⊢
  simp only [signedUnits, if_true]
  omega

/-- The sum of a positive number and one half is cut off after it was rounded. -/
theorem exists_floor_of_positive (small : magnitude.units < 2 ^ 52 * unitsPerOne)
    : ∃ rounded, ((finite false magnitude).add half).floor = finite false rounded
      ∧ exact false rounded
        = (nearestUnits (magnitude.units + halfUnits) 1 / unitsPerOne : Nat) := by
  have one := two_mul_halfUnits
  have positive := unitsPerOne_pos
  have most : nearestUnits (magnitude.units + halfUnits) 1 ≤ 2 ^ 53 * unitsPerOne :=
    (representable_mul_unitsPerOne le_rfl).nearestUnits_le Nat.one_pos (by omega)
  have sum : (finite false magnitude).add half
      = finite false ⟨_, representable_nearestUnits (lt_unitsLimit most)⟩ := by
    have same : signedUnits false magnitude + signedUnits false ⟨halfUnits, representable_halfUnits⟩
        = (magnitude.units + halfUnits : Nat) := by
      simp [signedUnits]
    have some : ((magnitude.units + halfUnits : Nat) : Int) ≠ 0 := by omega
    have sign : decide (((magnitude.units + halfUnits : Nat) : Int) < 0) = false :=
      decide_eq_false (by omega)
    rw [half_eq, add, same, ofSum, if_neg some, sign, Int.natAbs_natCast]
    exact ofRatio_eq_iff.mpr rfl
  have short : (nearestUnits (magnitude.units + halfUnits) 1 : Int).natAbs ≤ 2 ^ 53 * unitsPerOne := by
    rwa [Int.natAbs_natCast]
  obtain ⟨rounded, cut, whole⟩ := exists_ofInt_floorUnits_eq short
  have sign : decide ((nearestUnits (magnitude.units + halfUnits) 1 : Int) < 0) = false :=
    decide_eq_false (by omega)
  rw [sign] at cut whole
  refine ⟨rounded, ?_, ?_⟩
  · rw [sum, Number.floor]
    exact cut
  · rw [exact_eq_iff.mpr whole, floorUnits, ← Int.natCast_ediv, Int.cast_natCast]

-----------------------------------------------------------------------------------------
-- Rounding
-----------------------------------------------------------------------------------------

/-- From 2^52 on numbers are integers. -/
theorem exact_of_large (large : 2 ^ 52 * unitsPerOne ≤ magnitude.units) (negative : Bool)
    : exact negative magnitude = ⌊exact negative magnitude + 1 / 2⌋ := by
  obtain ⟨low, -, one⟩ := exists_halfUnits_eq
  obtain ⟨count, same⟩ : 2 ^ (54 + low) ∣ magnitude.units := by
    refine (magnitude.representable.dvd_or_lt (54 + low)).resolve_right ?_
    rintro ⟨-, less⟩
    rw [← one] at less
    exact absurd large (Nat.not_le_of_lt less)
  rw [← one, Nat.mul_comm] at same
  obtain ⟨value, whole⟩ : ∃ value : Int, signedUnits negative magnitude = value * unitsPerOne := by
    cases negative with
    | true => exact ⟨-count, by rw [signedUnits, if_pos rfl, same, Nat.cast_mul, Int.neg_mul]⟩
    | false => exact ⟨count, by rw [signedUnits, if_neg Bool.false_ne_true, same, Nat.cast_mul]⟩
  rw [exact_eq_iff.mpr whole, Int.floor_intCast_add]
  norm_num

/-- A negative number of at most one half has the floor zero after a half is added. -/
theorem floor_eq_zero_of_small (small : 2 * magnitude.units ≤ unitsPerOne)
    : ⌊exact true magnitude + 1 / 2⌋ = 0 := by
  have positive := unitsPerOne_pos
  rw [floor_exact_add_half_iff, signedUnits, if_pos rfl]
  omega

theorem floor_of_positive
    : ⌊exact false magnitude + 1 / 2⌋
      = ((magnitude.units + halfUnits) / unitsPerOne : Nat) := by
  have one := two_mul_halfUnits
  have bounds := floorUnits_bounds (magnitude.units + halfUnits : Nat)
  rw [floor_exact_add_half_iff, signedUnits, if_neg Bool.false_ne_true, Int.natCast_ediv]
  rw [floorUnits] at bounds
  generalize ((magnitude.units + halfUnits : Nat) : Int) / unitsPerOne = value at bounds ⊢
  omega

theorem exists_zero_eq (negative : Bool)
    : ∃ none : Magnitude, none.units = 0 ∧ zero negative = finite negative none := by
  have representable : Representable 0 := ⟨0, 0, by decide, rfl, lt_unitsLimit (Nat.zero_le _)⟩
  exact ⟨⟨0, representable⟩, rfl, ofRatio_eq_iff.mpr (representable.nearestUnits_eq Nat.one_pos)⟩

/-- For positive numbers the rounded sum is cut off as the exact one, but for the greatest number
below one half.
-/
theorem exists_floor_eq_ite (small : magnitude.units < 2 ^ 52 * unitsPerOne)
    : ∃ rounded, ((finite false magnitude).add half).floor = finite false rounded
      ∧ exact false rounded = if finite false magnitude = finite false belowHalf then (1 : ℚ)
        else ⌊exact false magnitude + 1 / 2⌋ := by
  have one := two_mul_halfUnits
  obtain ⟨rounded, cut, whole⟩ := exists_floor_of_positive small
  refine ⟨rounded, cut, ?_⟩
  rw [whole, floor_of_positive]
  split
  case isTrue same =>
      cases same
      exact congrArg _ (show _ = 1 by decide +kernel)
  case isFalse differs =>
      rcases Nat.lt_or_ge magnitude.units halfUnits with less | above
      · have differs : magnitude.units ≠ belowHalf.units :=
          fun same => differs (congrArg _ (Magnitude.eq_of_units_eq same))
        have closest := nearestUnits_add_half_lt magnitude.representable less differs
        rw [Nat.div_eq_of_lt closest, Nat.div_eq_of_lt (by omega)]
        rfl
      · rw [nearestUnits_add_half_div magnitude.representable above small]
        rfl

/-- Rounding a finite number gives a finite one with the same sign. It is the floor of the number
and one half but for the greatest number below one half, where it is one.
-/
theorem exists_round_eq (negative : Bool) (magnitude : Magnitude)
    : ∃ rounded, (finite negative magnitude).round = finite negative rounded
      ∧ exact negative rounded = if finite negative magnitude = finite false belowHalf then (1 : ℚ)
        else ⌊exact negative magnitude + 1 / 2⌋ := by
  have power : Nat.pow 2 52 = 2 ^ 52 := rfl
  rw [round, power]
  split
  case isTrue large =>
      refine ⟨magnitude, rfl, ?_⟩
      rw [if_neg]
      · exact exact_of_large large negative
      · rintro same
        cases same
        exact absurd large (by decide +kernel)
  case isFalse small =>
      rw [Nat.not_le] at small
      split
      case isTrue least =>
          obtain ⟨rfl, upTo⟩ := least
          obtain ⟨none, units, same⟩ := exists_zero_eq true
          have whole : signedUnits true none = (0 : Int) * unitsPerOne := by
            rw [signedUnits, units, Int.zero_mul, if_pos rfl, Nat.cast_zero, neg_zero]
          refine ⟨none, same, ?_⟩
          rw [if_neg (by rintro ⟨⟩), floor_eq_zero_of_small upTo, exact_eq_iff.mpr whole]
      case isFalse most =>
          cases negative with
          | true =>
              have large : unitsPerOne < 2 * magnitude.units := by simpa using most
              rw [if_neg (by rintro ⟨⟩)]
              exact exists_floor_of_negative large small
          | false => exact exists_floor_eq_ite small

theorem exact_true_eq_zero_iff : exact true magnitude = 0 ↔ magnitude.units = 0 := by
  have iff : exact true magnitude = (0 : Int)
      ↔ signedUnits true magnitude = (0 : Int) * unitsPerOne := exact_eq_iff
  rw [Int.cast_zero, Int.zero_mul, signedUnits, if_pos rfl] at iff
  rw [iff]
  omega

theorem floor_eq_zero_iff
    : ⌊exact true magnitude + 1 / 2⌋ = 0 ↔ -1 / 2 ≤ exact true magnitude := by
  have positive : (0 : ℚ) < unitsPerOne := by exact_mod_cast unitsPerOne_pos
  have sign : exact true magnitude ≤ 0 := by
    rw [exact, signedUnits, if_pos rfl, Int.cast_neg, neg_div]
    exact neg_nonpos.mpr (div_nonneg (by exact_mod_cast Nat.zero_le _) positive.le)
  rw [Int.floor_eq_iff, Int.cast_zero]
  constructor
  · rintro ⟨low, -⟩
    linarith
  · intro low
    constructor <;> linarith

theorem round_eq_zero_iff (negative : Bool) (magnitude : Magnitude)
    : (finite negative magnitude).round = zero true
      ↔ negative = true ∧ -1 / 2 ≤ exact negative magnitude := by
  obtain ⟨none, units, same⟩ := exists_zero_eq true
  obtain ⟨rounded, rounds, value⟩ := exists_round_eq negative magnitude
  rw [same, rounds]
  constructor
  · intro same
    cases same
    rw [if_neg (by rintro ⟨⟩), exact_true_eq_zero_iff.mpr units, eq_comm, Int.cast_eq_zero,
      floor_eq_zero_iff] at value
    exact ⟨rfl, value⟩
  · rintro ⟨rfl, low⟩
    rw [if_neg (by rintro ⟨⟩), floor_eq_zero_iff.mpr low, Int.cast_zero, exact_true_eq_zero_iff,
      ← units] at value
    rw [Magnitude.eq_of_units_eq value]

/-- Rounding: a finite number keeps its sign and becomes the floor of its exact sum with one half,
but for the greatest number below one half, which becomes one. The result is the negative zero
for what is at least minus one half and not positive, and what is not finite is kept. The sums
of numbers are rounded to the closest number, of two to the even one.
-/
theorem round_spec (negative : Bool) (magnitude : Magnitude)
    : (∃ rounded, (finite negative magnitude).round = finite negative rounded
        ∧ exact negative rounded = if finite negative magnitude = finite false belowHalf then (1 : ℚ)
          else ⌊exact negative magnitude + 1 / 2⌋)
      ∧ ((finite negative magnitude).round = zero true
        ↔ negative = true ∧ -1 / 2 ≤ exact negative magnitude)
      ∧ nan.round = nan
      ∧ (infinite negative).round = infinite negative
      ∧ ∀ right other, RoundedFrom (signedUnits negative magnitude + signedUnits right other)
          ((finite negative magnitude).add (finite right other)) :=
  ⟨exists_round_eq negative magnitude, round_eq_zero_iff negative magnitude, rfl, rfl,
    fun _ _ => roundedFrom_ofSum _ _⟩

/-- The greatest number below one half is rounded to one, though its sum with one half is less. -/
theorem round_belowHalf
    : (finite false belowHalf).round = ofInt 1 ∧ ⌊exact false belowHalf + 1 / 2⌋ = 0 := by
  refine ⟨by decide +kernel, ?_⟩
  have below : belowHalf.units < halfUnits := by decide +kernel
  have one := two_mul_halfUnits
  rw [floor_of_positive, Nat.div_eq_of_lt (by omega)]
  rfl

end Number

end PathQuery
