import PathQuery.Number.Basic

/-! The encoding of numbers in 64 bits: a sign, eleven bits for the binade and the 52 bits of the
significand that follow the leading one.
-/

namespace PathQuery.Number

/-- Decodes a word of 64 bits. The highest binade holds the infinities and no numbers. -/
def ofBits (word : Nat) : Number :=
  let negative := decide (Nat.pow 2 63 ≤ word)
  let binade := word / Nat.pow 2 52 % Nat.pow 2 11
  let fraction := word % Nat.pow 2 52
  if binade = 2047 then
    if fraction = 0 then .infinite negative else .nan
  else if binade = 0 then ofRatio negative fraction 1
  else ofRatio negative ((Nat.pow 2 52 + fraction) * Nat.pow 2 (binade - 1)) 1

/-- Encodes a number; what is no number has one encoding. -/
def toBits : Number → Nat
  | .nan => 0x7ff8000000000000
  | .infinite negative => (if negative then Nat.pow 2 63 else 0) + 0x7ff0000000000000
  | .finite negative magnitude =>
      let binade := magnitude.units.log2 - 51
      (if negative then Nat.pow 2 63 else 0)
        + if binade = 0 then magnitude.units
          else binade * Nat.pow 2 52 + (magnitude.units / Nat.pow 2 (binade - 1) - Nat.pow 2 52)

/-- The integer that a finite number is, if it is one. -/
def toInt? : Number → Option Int
  | .finite negative magnitude =>
      if magnitude.units % unitsPerOne = 0 then
        let value : Int := (magnitude.units / unitsPerOne : Nat)
        some (if negative then -value else value)
      else none
  | _ => none

end PathQuery.Number
