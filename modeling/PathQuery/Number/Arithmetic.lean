import PathQuery.Number.Basic

/-! The arithmetic operations: exact on units and rounded once, with the rules for infinities and
signed zeros. The integer-valued functions are taken on exact counts as well.
-/

namespace PathQuery.Number

/-- The number with the other sign. -/
def negate : Number → Number
  | .nan => .nan
  | .infinite negative => .infinite !negative
  | .finite negative magnitude => .finite (!negative) magnitude

/-- The number of an exact signed count; a sum of zero is negative only if both terms were. -/
def ofSum (bothNegative : Bool) (units : Int) : Number :=
  if units = 0 then zero bothNegative else ofRatio (units < 0) units.natAbs 1

/-- The rounded sum. Opposite infinities have none. -/
def add : Number → Number → Number
  | .infinite left, .infinite right => if left = right then .infinite left else .nan
  | .infinite left, .finite .. => .infinite left
  | .finite .., .infinite right => .infinite right
  | .finite left a, .finite right b =>
      ofSum (left && right) (signedUnits left a + signedUnits right b)
  | _, _ => .nan

/-- The rounded difference. -/
def subtract (left right : Number) : Number :=
  left.add right.negate

/-- The rounded product. An infinity times zero has none. -/
def multiply : Number → Number → Number
  | .infinite left, .infinite right => .infinite (left != right)
  | .infinite left, .finite right b =>
      if b.units = 0 then .nan else .infinite (left != right)
  | .finite left a, .infinite right =>
      if a.units = 0 then .nan else .infinite (left != right)
  | .finite left a, .finite right b =>
      ofRatio (left != right) (a.units * b.units) unitsPerOne
  | _, _ => .nan

/-- The rounded quotient. A division by zero gives an infinity whose sign comes from both
operands, unless the dividend is zero as well.
-/
def divide : Number → Number → Number
  | .infinite left, .finite right _ => .infinite (left != right)
  | .finite left _, .infinite right => zero (left != right)
  | .finite left a, .finite right b =>
      if b.units = 0 then
        if a.units = 0 then .nan else .infinite (left != right)
      else ofRatio (left != right) (a.units * unitsPerOne) b.units
  | _, _ => .nan

/-- The remainder of the division that truncates: it has the sign of the dividend and is
exact.
-/
def remainder : Number → Number → Number
  | .finite left a, .infinite _ => .finite left a
  | .finite left a, .finite _ b =>
      if b.units = 0 then .nan else ofRatio left (a.units % b.units) 1
  | _, _ => .nan

/-- The greatest integer that is not above a signed count of units. -/
def floorUnits (units : Int) : Int :=
  units / unitsPerOne

/-- The greatest integer that is not above the number. A zero result is positive. -/
def floor : Number → Number
  | .finite negative magnitude => ofInt (floorUnits (signedUnits negative magnitude))
  | other => other

/-- The least integer that is not below the number. A negative number above minus one has the
negative zero.
-/
def ceiling : Number → Number
  | .finite negative magnitude =>
      if negative ∧ 0 < magnitude.units ∧ magnitude.units < unitsPerOne then zero true
      else ofInt (-floorUnits (-signedUnits negative magnitude))
  | other => other

/-- One half. -/
def half : Number :=
  ofRatio false unitsPerOne 2

/-- The integer that a number is rounded to, halves upwards: from 2^52 on every number is one,
what rounds to zero from below is the negative zero, and otherwise half is added before the
fraction is cut off.
-/
def round : Number → Number
  | .finite negative magnitude =>
      if Nat.pow 2 52 * unitsPerOne ≤ magnitude.units then .finite negative magnitude
      else if negative ∧ 2 * magnitude.units ≤ unitsPerOne then zero true
      else (add (.finite negative magnitude) half).floor
  | other => other

end PathQuery.Number
