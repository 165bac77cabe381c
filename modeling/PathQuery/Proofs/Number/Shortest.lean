import Mathlib
import PathQuery.Number.Decimal
import PathQuery.Proofs.Number.Rounding

/-! The shortest decimal that reads back as a count. The points that are rounded to a count form an
interval around it, which a grid of decimals of 17 digits cannot miss; the coarsest grid that has
a point inside gives the shortest decimal.
-/

namespace PathQuery

variable {units : Nat} {point other : ℚ}

-----------------------------------------------------------------------------------------
-- Rounding intervals
-----------------------------------------------------------------------------------------

/-- How far the points that are rounded to a count reach below it: half a step, and a quarter at
the first count of a binade, where the neighbour is nearer.
-/
def reachBelow (units : Nat) : ℚ :=
  if units = 2 ^ 52 * spacing units ∧ 1 < spacing units then spacing units / 4
  else spacing units / 2

/-- A point, counted in units, is rounded to a count. The ends of the interval belong to it if
the significand is even.
-/
structure RoundsTo (units : Nat) (point : ℚ) : Prop where
  low : units - reachBelow units ≤ point
  high : point ≤ units + spacing units / 2
  odd : units / spacing units % 2 = 1 →
    units - reachBelow units < point ∧ point < units + spacing units / 2

theorem spacing_pos (units : Nat) : (0 : ℚ) < spacing units := by
  obtain ⟨exponent, step, -⟩ := exists_spacing units
  rw [step]
  positivity

theorem quarter_le_reachBelow (units : Nat) : (spacing units / 4 : ℚ) ≤ reachBelow units := by
  have positive := spacing_pos units
  rw [reachBelow]
  split <;> linarith

namespace RoundsTo

theorem of_lt (low : units - reachBelow units < point) (high : point < units + spacing units / 2)
    : RoundsTo units point :=
  ⟨low.le, high.le, fun _ => ⟨low, high⟩⟩

theorem self (units : Nat) : RoundsTo units units := by
  have positive := spacing_pos units
  have below := quarter_le_reachBelow units
  exact of_lt (by linarith) (by linarith)

/-- What lies between two points that are rounded to a count is so as well. -/
theorem between {middle : ℚ} (left : RoundsTo units point) (right : RoundsTo units other)
    (above : point ≤ middle) (below : middle ≤ other)
    : RoundsTo units middle where
  low := left.low.trans above
  high := below.trans right.high
  odd isOdd := ⟨(left.odd isOdd).1.trans_le above, below.trans_lt (right.odd isOdd).2⟩

end RoundsTo

/-- The reach below a count is one quarter of a step, or two. -/
theorem IsNormal.reachBelow_eq {significand exponent : Nat} (normal : IsNormal significand exponent)
    : reachBelow (significand * 2 ^ exponent)
      = (if significand = 2 ^ 52 ∧ 0 < exponent then 1 else 2 : Nat) * 2 ^ exponent / 4 := by
  have first : significand * 2 ^ exponent = 2 ^ 52 * 2 ^ exponent ∧ 1 < 2 ^ exponent
      ↔ significand = 2 ^ 52 ∧ 0 < exponent := by
    rw [Nat.mul_left_inj (by positivity), Nat.one_lt_two_pow_iff, Nat.pos_iff_ne_zero]
  rw [reachBelow, normal.spacing_eq]
  simp only [first]
  split <;> push_cast <;> ring

/-- A quotient is rounded to a representable count if it lies in the interval of the count. -/
theorem nearestUnits_eq_iff_roundsTo {numerator denominator : Nat} (positive : 0 < denominator)
    (representable : Representable units)
    : nearestUnits numerator denominator = units
      ↔ RoundsTo units (numerator / denominator) := by
  obtain ⟨significand, exponent, normal, rfl⟩ := representable.exists_isNormal
  have whole : significand * 2 ^ exponent / 2 ^ exponent = significand :=
    Nat.mul_div_cancel _ (by positivity)
  have count : ((significand * 2 ^ exponent : Nat) : ℚ) = significand * 2 ^ exponent := by
    push_cast
    rfl
  have halves (odd : significand % 2 = 1)
      : reachBelow (significand * 2 ^ exponent) = 2 * 2 ^ exponent / 4 := by
    rw [normal.reachBelow_eq, if_neg (by rintro ⟨rfl, -⟩; simp at odd), Nat.cast_ofNat]
  have positive' : (0 : ℚ) < denominator := by exact_mod_cast positive
  -- each inequality of counts is one of points
  have low (quarters : Nat)
      : 4 * (significand * (denominator * 2 ^ exponent))
          ≤ 4 * numerator + quarters * (denominator * 2 ^ exponent)
        ↔ (significand * 2 ^ exponent - quarters * 2 ^ exponent / 4 : ℚ)
          ≤ numerator / denominator := by
    rw [← Nat.cast_le (α := ℚ), le_div_iff₀ positive']
    push_cast
    constructor <;> intro <;> linarith
  have above
      : 4 * (significand * (denominator * 2 ^ exponent))
          < 4 * numerator + 2 * (denominator * 2 ^ exponent)
        ↔ (significand * 2 ^ exponent - 2 * 2 ^ exponent / 4 : ℚ) < numerator / denominator := by
    rw [← Nat.cast_lt (α := ℚ), lt_div_iff₀ positive']
    push_cast
    constructor <;> intro <;> linarith
  have high
      : 4 * numerator ≤ (4 * significand + 2) * (denominator * 2 ^ exponent)
        ↔ (numerator / denominator : ℚ) ≤ significand * 2 ^ exponent + 2 ^ exponent / 2 := by
    rw [← Nat.cast_le (α := ℚ), div_le_iff₀ positive']
    push_cast
    constructor <;> intro <;> linarith
  have below
      : 4 * numerator < (4 * significand + 2) * (denominator * 2 ^ exponent)
        ↔ (numerator / denominator : ℚ) < significand * 2 ^ exponent + 2 ^ exponent / 2 := by
    rw [← Nat.cast_lt (α := ℚ), div_lt_iff₀ positive']
    push_cast
    constructor <;> intro <;> linarith
  rw [nearestUnits_eq_iff positive normal, low, high, above, below]
  have ends : RoundsTo (significand * 2 ^ exponent) (numerator / denominator) ↔ _ ∧ _ ∧ (_ → _) :=
    ⟨fun inside => ⟨inside.low, inside.high, inside.odd⟩, fun ⟨low, high, odd⟩ => ⟨low, high, odd⟩⟩
  rw [ends, normal.spacing_eq, whole, count, Nat.cast_pow, Nat.cast_ofNat]
  refine and_congr ?_ (and_congr_right fun _ => forall_congr' fun odd => ?_)
  · rw [normal.reachBelow_eq]
  · rw [halves odd]

-----------------------------------------------------------------------------------------
-- Grids of decimals
-----------------------------------------------------------------------------------------

/-- The exact value of a decimal. -/
def Decimal.value (decimal : Decimal) : ℚ :=
  decimal.digits * 10 ^ decimal.exponent

/-- The exact value of a decimal, counted in units. -/
def Decimal.inUnits (decimal : Decimal) : ℚ :=
  decimal.value * unitsPerOne

/-- The distance between the decimals of an exponent, counted in units. -/
def gridStep (exponent : Int) : ℚ :=
  10 ^ exponent * unitsPerOne

theorem gridStep_pos (exponent : Int) : 0 < gridStep exponent := by
  have positive : (0 : ℚ) < unitsPerOne := by exact_mod_cast unitsPerOne_pos
  rw [gridStep]
  positivity

theorem Decimal.inUnits_mk (digits : Nat) (exponent : Int)
    : Decimal.inUnits ⟨digits, exponent⟩ = digits * gridStep exponent := by
  rw [inUnits, value, gridStep, mul_assoc]

/-- A power of ten is the quotient of two natural ones. -/
theorem ten_zpow_eq (exponent : Int)
    : (10 ^ exponent : ℚ) = 10 ^ exponent.toNat / 10 ^ (-exponent).toNat := by
  rw [← zpow_natCast, ← zpow_natCast, ← zpow_sub₀ (by norm_num)]
  congr 1
  omega

theorem gridStep_eq (exponent : Int)
    : gridStep exponent = unitsPerOne * (gridScales exponent).2 / (gridScales exponent).1 := by
  rw [gridStep, ten_zpow_eq]
  simp only [gridScales, Nat.pow_eq]
  push_cast
  ring

theorem gridScales_pos (exponent : Int)
    : 0 < (gridScales exponent).1 ∧ 0 < (gridScales exponent).2 :=
  ⟨Nat.pow_pos (by decide), Nat.pow_pos (by decide)⟩

/-- The test on counts decides whether a point of a grid is rounded to a count. -/
theorem readsBack_iff (positive : 0 < units) (exponent : Int) (digits : Nat)
    : readsBack units exponent digits ↔ RoundsTo units (digits * gridStep exponent) := by
  have scalePositive : (0 : ℚ) < (gridScales exponent).1 := by
    exact_mod_cast (gridScales_pos exponent).1
  -- the reach below the count in quarters, which the count has room for
  obtain ⟨below, quarters, reach, room⟩ : ∃ below : Nat,
      (if units = Nat.pow 2 52 * spacing units ∧ 1 < spacing units then spacing units
        else 2 * spacing units) = below
      ∧ reachBelow units = below / 4 ∧ below ≤ 4 * units := by
    refine ⟨_, rfl, ?_, ?_⟩
    · rw [reachBelow, Nat.pow_eq]
      split <;> push_cast <;> ring
    · obtain ⟨shift, step, rfl | lower, -⟩ := exists_spacing units
      · split <;> omega
      · rw [step]
        split <;> omega
  have low
      : (4 * units - below) * (gridScales exponent).1
          ≤ 4 * digits * unitsPerOne * (gridScales exponent).2
        ↔ units - reachBelow units ≤ digits * gridStep exponent := by
    rw [← Nat.cast_le (α := ℚ), gridStep_eq, ← mul_div_assoc, le_div_iff₀ scalePositive, reach]
    push_cast [room]
    constructor <;> intro <;> linarith
  have above
      : (4 * units - below) * (gridScales exponent).1
          < 4 * digits * unitsPerOne * (gridScales exponent).2
        ↔ units - reachBelow units < digits * gridStep exponent := by
    rw [← Nat.cast_lt (α := ℚ), gridStep_eq, ← mul_div_assoc, lt_div_iff₀ scalePositive, reach]
    push_cast [room]
    constructor <;> intro <;> linarith
  have high
      : 4 * digits * unitsPerOne * (gridScales exponent).2
          ≤ (4 * units + 2 * spacing units) * (gridScales exponent).1
        ↔ digits * gridStep exponent ≤ units + spacing units / 2 := by
    rw [← Nat.cast_le (α := ℚ), gridStep_eq, ← mul_div_assoc, div_le_iff₀ scalePositive]
    push_cast
    constructor <;> intro <;> linarith
  have under
      : 4 * digits * unitsPerOne * (gridScales exponent).2
          < (4 * units + 2 * spacing units) * (gridScales exponent).1
        ↔ digits * gridStep exponent < units + spacing units / 2 := by
    rw [← Nat.cast_lt (α := ℚ), gridStep_eq, ← mul_div_assoc, div_lt_iff₀ scalePositive]
    push_cast
    constructor <;> intro <;> linarith
  simp only [readsBack, quarters]
  split
  case isTrue even =>
      rw [Bool.and_eq_true, decide_eq_true_iff, decide_eq_true_iff, low, high]
      exact ⟨fun ⟨low, high⟩ => ⟨low, high, by omega⟩, fun inside => ⟨inside.low, inside.high⟩⟩
  case isFalse odd =>
      rw [Bool.and_eq_true, decide_eq_true_iff, decide_eq_true_iff, above, under]
      exact ⟨fun ⟨low, high⟩ => .of_lt low high, fun inside => inside.odd (by omega)⟩

/-- The nearest integer is at most one half away. -/
theorem IsNearest.abs_sub_le {numerator denominator nearest : Nat} (positive : 0 < denominator)
    (isNearest : IsNearest numerator denominator nearest)
    : |(nearest - numerator / denominator : ℚ)| ≤ 1 / 2 := by
  have positive' : (0 : ℚ) < denominator := by exact_mod_cast positive
  have low : (2 * nearest * denominator : ℚ) ≤ 2 * numerator + denominator := by
    exact_mod_cast isNearest.low
  have high : (2 * numerator : ℚ) ≤ 2 * nearest * denominator + denominator := by
    exact_mod_cast isNearest.high
  have above : (nearest - 1 / 2 : ℚ) ≤ numerator / denominator := by
    rw [le_div_iff₀ positive']
    linarith
  have below : (numerator / denominator : ℚ) ≤ nearest + 1 / 2 := by
    rw [div_le_iff₀ positive']
    linarith
  rw [abs_le]
  constructor <;> linarith

/-- A count lies between two neighbours on every grid, and rounding on the grid gives one that is
at most half a step away.
-/
theorem exists_neighbours (units : Nat) (exponent : Int)
    : ∃ lower nearest : Nat,
      units * (gridScales exponent).1 / (unitsPerOne * (gridScales exponent).2) = lower
      ∧ roundHalfEven (units * (gridScales exponent).1) (unitsPerOne * (gridScales exponent).2)
        = nearest
      ∧ lower * gridStep exponent ≤ units ∧ units < (lower + 1) * gridStep exponent
      ∧ |nearest * gridStep exponent - units| ≤ gridStep exponent / 2 := by
  obtain ⟨scalePositive, gridPositive⟩ := gridScales_pos exponent
  have positive := Nat.mul_pos unitsPerOne_pos gridPositive
  have step := gridStep_pos exponent
  have count : (units : ℚ) = ((units * (gridScales exponent).1 : Nat) : ℚ)
      / (unitsPerOne * (gridScales exponent).2 : Nat) * gridStep exponent := by
    have cancelled {count scale step : ℚ} (scaled : scale ≠ 0) (stepped : step ≠ 0)
        : count = count * scale / step * (step / scale) := by
      field_simp
    rw [gridStep_eq, Nat.cast_mul units, ← Nat.cast_mul unitsPerOne]
    exact cancelled (Nat.cast_ne_zero.mpr scalePositive.ne') (Nat.cast_ne_zero.mpr positive.ne')
  generalize units * (gridScales exponent).1 = numerator at count ⊢
  generalize unitsPerOne * (gridScales exponent).2 = denominator at positive count ⊢
  refine ⟨_, _, rfl, rfl, ?_, ?_, ?_⟩
  · rw [count]
    exact mul_le_mul_of_nonneg_right Nat.cast_div_le step.le
  · rw [count]
    refine mul_lt_mul_of_pos_right ?_ step
    rw [div_lt_iff₀ (by exact_mod_cast positive), mul_comm]
    exact_mod_cast Nat.lt_mul_div_succ _ positive
  · rw [count, ← sub_mul, abs_mul, abs_of_pos step]
    have near := (@isNearest_roundHalfEven numerator _ positive).abs_sub_le positive
    linarith [mul_le_mul_of_nonneg_right near step.le]

/-- A point of a grid is rounded to a count, is at most one step above it, and no other point of
the grid that is rounded to it is nearer.
-/
structure IsGridPoint (units : Nat) (exponent : Int) (digits : Nat) : Prop where
  rounds : RoundsTo units (digits * gridStep exponent)
  near : digits * gridStep exponent ≤ units + gridStep exponent
  nearest : ∀ other : Nat, RoundsTo units (other * gridStep exponent) →
    |digits * gridStep exponent - units| ≤ |other * gridStep exponent - units|

/-- The points of a grid that are rounded to a count have the neighbours of the count among them. -/
theorem neighbour_of_roundsTo {lower other : Nat} {step : ℚ} (positive : 0 < step)
    (below : lower * step ≤ units) (above : units < (lower + 1) * step)
    (rounds : RoundsTo units (other * step))
    : RoundsTo units (lower * step) ∧ units - lower * step ≤ |other * step - units|
      ∨ RoundsTo units ((lower + 1) * step)
        ∧ (lower + 1) * step - units ≤ |other * step - units| := by
  rcases Nat.lt_or_ge lower other with less | upTo
  · have further : (lower + 1) * step ≤ other * step :=
      mul_le_mul_of_nonneg_right (by exact_mod_cast less) positive.le
    refine .inr ⟨(RoundsTo.self units).between rounds above.le further, ?_⟩
    rw [abs_of_nonneg (by linarith)]
    linarith
  · have further : other * step ≤ lower * step :=
      mul_le_mul_of_nonneg_right (by exact_mod_cast upTo) positive.le
    refine .inl ⟨rounds.between (.self units) further below, ?_⟩
    rw [abs_of_nonpos (by linarith)]
    linarith

/-- The search on a grid finds a nearest point that is rounded to the count if there is one. -/
theorem gridPoint?_spec (positive : 0 < units) (exponent : Int)
    : match gridPoint? units exponent with
      | some digits => IsGridPoint units exponent digits
      | none => ∀ digits : Nat, ¬RoundsTo units (digits * gridStep exponent) := by
  obtain ⟨lower, nearest, lowerSame, nearestSame, below, above, near⟩ :=
    exists_neighbours units exponent
  have lowerReads := readsBack_iff positive exponent lower
  have upperReads := readsBack_iff positive exponent (lower + 1)
  simp only [gridPoint?, lowerSame, nearestSame]
  have step := gridStep_pos exponent
  have upper : ((lower + 1 : Nat) : ℚ) = lower + 1 := by norm_num
  rw [upper] at upperReads
  have neighbour {other : Nat} := @neighbour_of_roundsTo units lower other _ step below above
  cases lowerBack : readsBack units exponent lower <;>
    cases upperBack : readsBack units exponent (lower + 1) <;>
    simp only [lowerBack, upperBack, Bool.false_eq_true, false_iff, true_iff] at lowerReads upperReads ⊢
  case false.false =>
      intro other rounds
      rcases neighbour rounds with inside | inside
      · exact lowerReads inside.1
      · exact upperReads inside.1
  case false.true =>
      refine ⟨upper ▸ upperReads, by rw [upper]; linarith, fun other rounds => ?_⟩
      rw [upper, abs_of_pos (sub_pos.mpr above)]
      exact (neighbour rounds).elim (fun inside => (lowerReads inside.1).elim) And.right
  case true.false =>
      refine ⟨lowerReads, by linarith, fun other rounds => ?_⟩
      rw [abs_of_nonpos (sub_nonpos.mpr below), neg_sub]
      exact (neighbour rounds).elim And.right fun inside => (upperReads inside.1).elim
  case true.true =>
      rw [abs_le] at near
      have least : lower ≤ nearest := by
        have : (lower : ℚ) < nearest + 1 := by
          refine lt_of_mul_lt_mul_right ?_ step.le
          linarith
        exact Nat.le_of_lt_succ (by exact_mod_cast this)
      have most : nearest ≤ lower + 1 := by
        have : (nearest : ℚ) < lower + 1 + 1 := by
          refine lt_of_mul_lt_mul_right ?_ step.le
          linarith
        exact Nat.le_of_lt_succ (by exact_mod_cast this)
      obtain rfl | rfl : nearest = lower ∨ nearest = lower + 1 := by omega
      · refine ⟨lowerReads, by linarith, fun other rounds => ?_⟩
        rw [abs_of_nonpos (sub_nonpos.mpr below), neg_sub]
        rcases neighbour rounds with inside | inside
        · exact inside.2
        · linarith [inside.2]
      · rw [upper] at near
        refine ⟨upper ▸ upperReads, by rw [upper]; linarith, fun other rounds => ?_⟩
        rw [upper, abs_of_pos (sub_pos.mpr above)]
        rcases neighbour rounds with inside | inside
        · linarith [inside.2]
        · exact inside.2

-----------------------------------------------------------------------------------------
-- Widths
-----------------------------------------------------------------------------------------

/-- The step of a grid is that of a finer one times a power of ten. -/
theorem gridStep_add (exponent : Int) (more : Nat)
    : gridStep (exponent + more) = 10 ^ more * gridStep exponent := by
  rw [gridStep, gridStep, zpow_add₀ (by norm_num), zpow_natCast]
  ring

theorem gridStep_le_iff (zeros : Nat)
    : gridStep (-zeros) ≤ units ↔ unitsPerOne ≤ units * 10 ^ zeros := by
  have one : 10 ^ zeros * gridStep (-zeros) = unitsPerOne := by
    rw [← gridStep_add, neg_add_cancel, gridStep, zpow_zero, one_mul]
  have positive : (0 : ℚ) < 10 ^ zeros := by positivity
  rw [← Nat.cast_le (α := ℚ), ← one, ← mul_le_mul_iff_right₀ positive, Nat.cast_mul, Nat.cast_pow,
    Nat.cast_ofNat, mul_comm (units : ℚ)]

theorem gridStep_natCast (width : Nat) : gridStep width = (10 ^ width * unitsPerOne : Nat) := by
  rw [gridStep, zpow_natCast, Nat.cast_mul, Nat.cast_pow, Nat.cast_ofNat]

/-- The width of a positive count is the exponent of the least power of ten above it. -/
theorem decimalWidth_spec (positive : 0 < units)
    : gridStep (decimalWidth units - 1) ≤ units ∧ units < gridStep (decimalWidth units) := by
  rw [decimalWidth]
  split
  case isTrue large =>
      generalize same : (Nat.toDigits 10 (units / unitsPerOne)).length = width
      obtain ⟨fewer, rfl⟩ : ∃ fewer, width = fewer + 1 :=
        Nat.exists_eq_succ_of_ne_zero (same ▸ Nat.length_toDigits_pos).ne'
      have upper := (Nat.length_toDigits_le_iff (by decide) (Nat.succ_pos fewer)).mp same.le
      have lower : 10 ^ fewer ≤ units / unitsPerOne := by
        rcases Nat.eq_zero_or_pos fewer with rfl | some
        · exact Nat.div_pos large unitsPerOne_pos
        · by_contra! less
          have := (Nat.length_toDigits_le_iff (by decide) some).mpr less
          omega
      rw [Nat.div_lt_iff_lt_mul unitsPerOne_pos] at upper
      rw [Nat.le_div_iff_mul_le unitsPerOne_pos] at lower
      rw [Nat.cast_add, Nat.cast_one, add_sub_cancel_right, ← Nat.cast_add_one, gridStep_natCast,
        gridStep_natCast, Nat.cast_le, Nat.cast_lt]
      exact ⟨lower, upper⟩
  case isFalse small =>
      split
      case h_1 zeros found =>
          obtain ⟨enough, -, fewer⟩ := List.find?_range_eq_some.mp found
          obtain ⟨less, rfl⟩ : ∃ less, zeros = less + 1 := by
            refine Nat.exists_eq_succ_of_ne_zero fun zero => small ?_
            subst zero
            simpa using enough
          have short := fewer less (Nat.lt_succ_self less)
          rw [Bool.not_eq_true', decide_eq_false_iff_not, Nat.pow_eq, ← gridStep_le_iff] at short
          rw [decide_eq_true_iff, Nat.pow_eq, ← gridStep_le_iff] at enough
          have before : (1 - (less + 1 : Nat) - 1 : Int) = -(less + 1 : Nat) := by omega
          have here : (1 - (less + 1 : Nat) : Int) = -less := by omega
          rw [before, here]
          exact ⟨enough, not_le.mp short⟩
      case h_2 missing =>
          have last := List.find?_eq_none.mp missing 324 (by decide)
          rw [decide_eq_true_iff] at last
          have enough : unitsPerOne ≤ Nat.pow 10 324 := by decide +kernel
          exact absurd (enough.trans (Nat.le_mul_of_pos_left _ positive)) last

-----------------------------------------------------------------------------------------
-- Shortest decimals
-----------------------------------------------------------------------------------------

/-- A grid of 17 digits has a point that is rounded to the count: its step is shorter than that of
the count, and shorter than half of it at the first count of a binade.
-/
theorem exists_roundsTo (positive : 0 < units)
    : ∃ digits : Nat, RoundsTo units (digits * gridStep (decimalWidth units - 17)) := by
  obtain ⟨lower, nearest, -, -, below, above, near⟩ :=
    exists_neighbours units (decimalWidth units - 17)
  have wide := (decimalWidth_spec positive).1
  have fine : decimalWidth units - 1 = decimalWidth units - 17 + (16 : Nat) := by omega
  rw [fine, gridStep_add] at wide
  generalize gridStep (decimalWidth units - 17) = step at *
  have gap := spacing_pos units
  by_cases first : units = 2 ^ 52 * spacing units
  · have reach := quarter_le_reachBelow units
    have count : (units : ℚ) = 2 ^ 52 * spacing units := by exact_mod_cast first
    refine ⟨lower + 1, .of_lt ?_ ?_⟩ <;> push_cast <;> linarith
  · have reach : reachBelow units = spacing units / 2 := if_neg fun both => first both.1
    have count : (units : ℚ) < 2 ^ 53 * spacing units := by
      obtain ⟨exponent, same, -, upper⟩ := exists_spacing units
      rw [same]
      exact_mod_cast upper
    rw [abs_le] at near
    exact ⟨nearest, .of_lt (by linarith) (by linarith)⟩

/-- A decimal of a few digits that is rounded to a count has a point of the grid of so many digits
between it and the count, if it is not one itself.
-/
theorem exists_onGrid (positive : 0 < units) {decimal : Decimal} {digits : Nat}
    (short : decimal.digits < 10 ^ (digits + 1)) (rounds : RoundsTo units decimal.inUnits)
    : ∃ other : Nat, RoundsTo units (other * gridStep (decimalWidth units - 1 - digits))
      ∧ |other * gridStep (decimalWidth units - 1 - digits) - units|
        ≤ |decimal.inUnits - units| := by
  have wide := (decimalWidth_spec positive).1
  obtain ⟨count, exponent⟩ := decimal
  rw [Decimal.inUnits_mk] at rounds ⊢
  rcases lt_or_ge exponent (decimalWidth units - 1 - digits) with finer | coarser
  · obtain ⟨more, same⟩ := Int.le.dest (Int.add_one_le_of_lt finer)
    have power : decimalWidth units - 1 = decimalWidth units - 1 - digits + digits := by omega
    rw [power, gridStep_add] at wide
    have below : count * gridStep exponent
        ≤ 10 ^ digits * gridStep (decimalWidth units - 1 - digits) := by
      rw [← same, add_assoc, add_comm 1, ← Nat.cast_succ, gridStep_add, ← mul_assoc, ← pow_add]
      refine mul_le_mul_of_nonneg_right ?_ (gridStep_pos exponent).le
      have upTo : count ≤ 10 ^ (digits + (more + 1)) :=
        short.le.trans (Nat.pow_le_pow_right (by decide) (by omega))
      exact_mod_cast upTo
    refine ⟨10 ^ digits, ?_⟩
    rw [Nat.cast_pow, Nat.cast_ofNat]
    refine ⟨rounds.between (.self units) below wide, ?_⟩
    rw [abs_of_nonpos (by linarith), abs_of_nonpos (by linarith)]
    linarith
  · obtain ⟨more, rfl⟩ := Int.le.dest coarser
    rw [gridStep_add] at rounds ⊢
    refine ⟨count * 10 ^ more, ?_⟩
    push_cast
    rw [mul_assoc]
    exact ⟨rounds, le_rfl⟩

/-- Without zeros at the end a decimal has the same value, and not more digits. -/
theorem Decimal.trim_spec (decimal : Decimal)
    : decimal.trim.inUnits = decimal.inUnits ∧ decimal.trim.digits ≤ decimal.digits := by
  induction decimal using Decimal.trim.induct with
  | case1 decimal done => rw [trim, if_pos done]; exact ⟨rfl, le_rfl⟩
  | case2 decimal more ih =>
      rw [trim, if_neg more]
      refine ⟨ih.1.trans ?_, ih.2.trans (Nat.div_le_self _ _)⟩
      have tens : decimal.digits / 10 * 10 = decimal.digits := by omega
      have tens' : ((decimal.digits / 10 : Nat) * 10 : ℚ) = decimal.digits := by exact_mod_cast tens
      rw [inUnits, inUnits, value, value, zpow_add_one₀ (by norm_num), ← tens']
      ring

/-- A power of ten loses its zeros, so it does not need the digit they are counted from. -/
theorem Decimal.trim_digits_lt {decimal : Decimal} {digits : Nat}
    (short : decimal.digits ≤ 10 ^ (digits + 1))
    : decimal.trim.digits < 10 ^ (digits + 1) := by
  rcases short.lt_or_eq with less | full
  · exact decimal.trim_spec.2.trans_lt less
  · have tens : decimal.digits = 10 ^ digits * 10 := by rw [full, Nat.pow_succ]
    have some : 0 < 10 ^ digits := by positivity
    rw [trim, if_neg (by omega)]
    refine (trim_spec _).2.trans_lt ?_
    rw [full]
    exact Nat.div_lt_self (by positivity) (by decide)

/-- The search over the grids finds a point of the first one that has a point rounded to the
count.
-/
theorem shortestDecimal_spec (positive : 0 < units)
    : ∃ more digits : Nat,
      shortestDecimal units = Decimal.trim ⟨digits, decimalWidth units - 1 - more⟩
      ∧ IsGridPoint units (decimalWidth units - 1 - more) digits
      ∧ ∀ fewer : Nat, fewer < more →
        ∀ digits : Nat, ¬RoundsTo units (digits * gridStep (decimalWidth units - 1 - fewer)) := by
  rw [shortestDecimal]
  simp only
  generalize search : List.findSome? _ _ = found
  have missed {exponent : Int} (none : gridPoint? units exponent = none)
      : ∀ digits : Nat, ¬RoundsTo units (digits * gridStep exponent) := by
    have spec := gridPoint?_spec positive exponent
    rwa [none] at spec
  match found with
  | none =>
      have last := List.findSome?_eq_none_iff.mp search 16 (by decide)
      have finest : decimalWidth units - 1 - (16 : Nat) = decimalWidth units - 17 := by omega
      rw [finest] at last
      obtain ⟨digits, rounds⟩ := exists_roundsTo positive
      exact absurd rounds (missed (Option.map_eq_none_iff.mp last) digits)
  | some decimal =>
      obtain ⟨before, more, after, grids, here, earlier⟩ := List.findSome?_eq_some_iff.mp search
      obtain ⟨digits, found, rfl⟩ := Option.map_eq_some_iff.mp here
      refine ⟨more, digits, rfl, ?_, fun fewer less => missed ?_⟩
      · have spec := gridPoint?_spec positive (decimalWidth units - 1 - more)
        rwa [found] at spec
      · have ordered : (before ++ more :: after).Pairwise (· < ·) :=
          grids ▸ List.pairwise_lt_range
        have among : fewer ∈ before ++ more :: after := by
          have : more ∈ List.range 17 := grids ▸ List.mem_append_right before List.mem_cons_self
          rw [← grids]
          exact List.mem_range.mpr (less.trans (List.mem_range.mp this))
        have tail := (List.pairwise_append.mp ordered).2.1
        rcases List.mem_append.mp among with first | later
        · exact Option.map_eq_none_iff.mp (earlier fewer first)
        · rcases List.mem_cons.mp later with rfl | later
          · omega
          · have := List.rel_of_pairwise_cons tail later
            omega

/-- The number of digits of a decimal. -/
def Decimal.length (decimal : Decimal) : Nat :=
  (Nat.toDigits 10 decimal.digits).length

theorem Decimal.length_le_iff (decimal : Decimal) (digits : Nat)
    : decimal.length ≤ digits + 1 ↔ decimal.digits < 10 ^ (digits + 1) :=
  Nat.length_toDigits_le_iff (by decide) (Nat.succ_pos digits)

/-- The number nearest to the exact value of a decimal. -/
def Decimal.toNumber (decimal : Decimal) : Number :=
  .ofRatio false (decimal.digits * unitsPerOne * 10 ^ decimal.exponent.toNat)
    (10 ^ (-decimal.exponent).toNat)

/-- A decimal reads back as a magnitude, no decimal of fewer digits does, and none of as many
digits that does is nearer to it.
-/
structure Decimal.IsShortest (decimal : Decimal) (magnitude : Magnitude) : Prop where
  reads : decimal.toNumber = .finite false magnitude
  shortest : ∀ other : Decimal, other.toNumber = .finite false magnitude →
    decimal.length ≤ other.length
  nearest : ∀ other : Decimal, other.toNumber = .finite false magnitude →
    other.length = decimal.length →
    |decimal.inUnits - magnitude.units| ≤ |other.inUnits - magnitude.units|

theorem Decimal.toNumber_eq_iff {decimal : Decimal} {magnitude : Magnitude}
    : decimal.toNumber = .finite false magnitude
      ↔ RoundsTo magnitude.units decimal.inUnits := by
  have ratio : decimal.inUnits
      = (decimal.digits * unitsPerOne * 10 ^ decimal.exponent.toNat : Nat)
        / (10 ^ (-decimal.exponent).toNat : Nat) := by
    rw [inUnits, value, ten_zpow_eq]
    simp only [Nat.cast_mul, Nat.cast_pow, Nat.cast_ofNat]
    ring
  rw [toNumber, Number.ofRatio_eq_iff, ratio,
    nearestUnits_eq_iff_roundsTo (by positivity) magnitude.representable]

/-- The decimal that is written for a number is its shortest one. -/
theorem isShortest_shortestDecimal {magnitude : Magnitude} (positive : 0 < magnitude.units)
    : (shortestDecimal magnitude.units).IsShortest magnitude := by
  obtain ⟨more, digits, found, onGrid, earlier⟩ := shortestDecimal_spec positive
  have same : (shortestDecimal magnitude.units).inUnits
      = digits * gridStep (decimalWidth magnitude.units - 1 - more) := by
    rw [found, (Decimal.trim_spec _).1, Decimal.inUnits_mk]
  have few : (shortestDecimal magnitude.units).length ≤ more + 1 := by
    rw [found, Decimal.length_le_iff]
    refine Decimal.trim_digits_lt (Nat.le_of_lt_succ ?_)
    have wide := (decimalWidth_spec positive).2
    have power : decimalWidth magnitude.units
        = decimalWidth magnitude.units - 1 - more + (more + 1 : Nat) := by omega
    rw [power, gridStep_add] at wide
    have step := gridStep_pos (decimalWidth magnitude.units - 1 - more)
    have : (digits : ℚ) < 10 ^ (more + 1) + 1 := by
      refine lt_of_mul_lt_mul_right ?_ step.le
      linarith [onGrid.near]
    exact_mod_cast this
  refine ⟨?_, fun other reads => ?_, fun other reads sameLength => ?_⟩
  · rw [Decimal.toNumber_eq_iff, same]
    exact onGrid.rounds
  · rw [Decimal.toNumber_eq_iff] at reads
    obtain ⟨fewer, length⟩ : ∃ fewer, other.length = fewer + 1 :=
      Nat.exists_eq_succ_of_ne_zero Nat.length_toDigits_pos.ne'
    obtain ⟨count, rounds, -⟩ :=
      exists_onGrid positive ((other.length_le_iff fewer).mp length.le) reads
    have : more ≤ fewer := not_lt.mp fun less => earlier fewer less count rounds
    omega
  · rw [Decimal.toNumber_eq_iff] at reads
    obtain ⟨count, rounds, near⟩ :=
      exists_onGrid positive ((other.length_le_iff more).mp (sameLength.trans_le few)) reads
    rw [same]
    exact (onGrid.nearest count rounds).trans near

end PathQuery
