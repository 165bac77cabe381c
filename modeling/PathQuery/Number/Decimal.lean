import PathQuery.Number.Basic
import PathQuery.Text.Characters

/-! Decimal notation of numbers. A numeral denotes the number nearest to its exact value; a number
is written with the fewest digits that read back as itself, the nearest to it among those, and
never with an exponent.
-/

namespace PathQuery

/-- The value of a run of decimal digits. -/
def digitsValue (digits : List Char) : Nat :=
  digits.foldl (fun value digit => 10 * value + (digit.toNat - '0'.toNat)) 0

/-- A numeral: its digits without the point, and how many of them stand after it. -/
structure Numeral where
  digits : Nat
  scale : Nat
deriving DecidableEq, Repr

/-- Reads digits with a point that may have digits on either side, but not on none. -/
def Numeral.ofChars? (text : List Char) : Option Numeral :=
  let whole := text.takeWhile Text.isDigit
  match text.dropWhile Text.isDigit with
  | [] => if whole.isEmpty then none else some ⟨digitsValue whole, 0⟩
  | c :: fraction =>
      if c = '.' ∧ fraction.all Text.isDigit ∧ ¬(whole.isEmpty ∧ fraction.isEmpty) then
        some ⟨digitsValue (whole ++ fraction), fraction.length⟩
      else none

/-- The number nearest to a numeral with a sign. -/
def Numeral.toNumber (negative : Bool) (numeral : Numeral) : Number :=
  .ofRatio negative (numeral.digits * unitsPerOne) (Nat.pow 10 numeral.scale)

/-- Reads a text as number: a numeral with an optional minus sign between blanks. Any other
text is no number.
-/
def Number.ofText (text : String) : Number :=
  let core := ((text.toList.dropWhile Text.isBlank).reverse.dropWhile Text.isBlank).reverse
  let (negative, numeral) :=
    match core with
    | '-' :: rest => (true, rest)
    | other => (false, other)
  match Numeral.ofChars? numeral with
  | some read => read.toNumber negative
  | none => .nan

/-- The value of some digits times a power of ten. -/
structure Decimal where
  digits : Nat
  exponent : Int
deriving DecidableEq, Repr

/-- The exponents of ten by which numerator and denominator of a ratio grow when it is
measured on the grid of multiples of `10 ^ exponent`.
-/
def gridScales (exponent : Int) : Nat × Nat :=
  (Nat.pow 10 (-exponent).toNat, Nat.pow 10 exponent.toNat)

/-- Whether the point `digits * 10 ^ exponent` reads back as the given positive count. The reals
that do end half way to the neighbours; below a power of two the neighbour is nearer. The ends
belong to the count if its significand is even. All is counted in quarters of a unit.
-/
def readsBack (units : Nat) (exponent : Int) (digits : Nat) : Bool :=
  let step := spacing units
  let below := if units = Nat.pow 2 52 * step ∧ 1 < step then step else 2 * step
  let (scale, grid) := gridScales exponent
  let point := 4 * digits * unitsPerOne * grid
  let low := (4 * units - below) * scale
  let high := (4 * units + 2 * step) * scale
  if units / step % 2 = 0 then low ≤ point && point ≤ high else low < point && point < high

/-- The point of a grid that reads back as the count, if one of the two around it does; the
nearer one if both do, the even one if they are equally near.
-/
def gridPoint? (units : Nat) (exponent : Int) : Option Nat :=
  let (scale, grid) := gridScales exponent
  let lower := units * scale / (unitsPerOne * grid)
  match readsBack units exponent lower, readsBack units exponent (lower + 1) with
  | true, true => some (roundHalfEven (units * scale) (unitsPerOne * grid))
  | true, false => some lower
  | false, true => some (lower + 1)
  | false, false => none

/-- The number of decimal digits before the point, less the zeros after it when there are
none: the least power of ten above the count.
-/
def decimalWidth (units : Nat) : Int :=
  if unitsPerOne ≤ units then
    (Nat.toDigits 10 (units / unitsPerOne)).length
  else
    match (List.range 325).find? (fun zeros => unitsPerOne ≤ units * Nat.pow 10 zeros) with
    | some zeros => 1 - zeros
    | none => -324

/-- Drops zeros at the end of the digits. -/
def Decimal.trim (decimal : Decimal) : Decimal :=
  if decimal.digits = 0 ∨ decimal.digits % 10 ≠ 0 then decimal
  else Decimal.trim ⟨decimal.digits / 10, decimal.exponent + 1⟩
termination_by decimal.digits
decreasing_by omega

/-- The shortest decimal that reads back as a positive count: the grids are tried from one
digit on, and 17 digits always suffice.
-/
def shortestDecimal (units : Nat) : Decimal :=
  let width := decimalWidth units
  let found := (List.range 17).findSome? (fun (more : Nat) =>
    let exponent := width - 1 - (more : Int)
    (gridPoint? units exponent).map (fun digits => Decimal.mk digits exponent))
  (found.getD ⟨units / unitsPerOne, 0⟩).trim

/-- The digits of a decimal with a point where needed and no exponent. -/
def Decimal.positional (decimal : Decimal) : String :=
  if 0 ≤ decimal.exponent then
    toString (decimal.digits * Nat.pow 10 decimal.exponent.toNat)
  else
    let places := (-decimal.exponent).toNat
    let digits := Nat.toDigits 10 decimal.digits
    let padded := List.replicate (places + 1 - digits.length) '0' ++ digits
    String.ofList (padded.take (padded.length - places)) ++ "."
      ++ String.ofList (padded.drop (padded.length - places))

/-- Writes a number: integers with all their digits, other finite numbers with the shortest
digits. The negative zero is written as zero.
-/
def Number.toText : Number → String
  | .nan => "NaN"
  | .infinite negative => if negative then "-Infinity" else "Infinity"
  | .finite negative magnitude =>
      if magnitude.units = 0 then "0"
      else
        (if negative then "-" else "")
          ++ if magnitude.units % unitsPerOne = 0 then
              toString (magnitude.units / unitsPerOne)
            else (shortestDecimal magnitude.units).positional

/-- Decimal digits with an exponent of ten of two digits at least. -/
def Decimal.scientific (decimal : Decimal) : String :=
  let digits := Nat.toDigits 10 decimal.digits
  let power := decimal.exponent + digits.length - 1
  let fraction := digits.drop 1
  let exponent := toString power.natAbs
  String.ofList (digits.take 1) ++ (if fraction.isEmpty then "" else "." ++ String.ofList fraction)
    ++ "e" ++ (if power < 0 then "-" else "+")
    ++ (if exponent.length < 2 then "0" ++ exponent else exponent)

/-- Writes a number as a literal of the calling program, which shows that it is no integer and
uses an exponent for numbers of more than 16 digits or below 0.0001.
-/
def Number.toLiteral : Number → String
  | .nan => "nan"
  | .infinite negative => if negative then "-inf" else "inf"
  | .finite negative magnitude =>
      (if negative then "-" else "")
        ++ if magnitude.units = 0 then "0.0"
          else
            let decimal := shortestDecimal magnitude.units
            let width := decimalWidth magnitude.units
            if width < -3 ∨ 16 < width then decimal.scientific
            else if 0 ≤ decimal.exponent then decimal.positional ++ ".0"
            else decimal.positional

end PathQuery
