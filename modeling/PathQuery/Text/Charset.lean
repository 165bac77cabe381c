import PathQuery.Text.Characters

/-! Sets of characters that one or two bytes each stand for. In the first half of all sets, a byte
stands for the character of its own number; a pair of bytes names a row and a place in it.
-/

namespace PathQuery.Text

/-- A set of characters with its names in small letters. Bytes before the starting one stand for the
characters of their own number; from there on the characters are listed, with U+FFFD for bytes that
stand for nothing.
-/
structure Charset where
  names : List String
  start : Nat
  characters : String
deriving DecidableEq, Repr

namespace Charset

/-- The characters that all sets agree on. -/
def ascii : Charset :=
  { names := ["us-ascii", "ascii", "iso646-us", "iso-ir-6", "ansi_x3.4-1968", "ansi_x3.4-1986",
      "cp367", "ibm367", "us", "csascii"]
    start := 0x80
    characters := "" }

/-- The mark of what stands for nothing. -/
def missing : Char :=
  '\uFFFD'

/-- The character that a byte stands for. -/
def character? (set : Charset) (byte : UInt8) : Option Char :=
  if byte.toNat < set.start then some (Char.ofNat byte.toNat)
  else (set.characters.toList[byte.toNat - set.start]?).filter (· != missing)

/-- The byte that stands for a character. -/
def byte? (set : Charset) (c : Char) : Option UInt8 :=
  if c.toNat < set.start then some (UInt8.ofNat c.toNat)
  else if c = missing then none
  else (set.characters.toList.idxOf? c).map (fun place => UInt8.ofNat (set.start + place))

end Charset

/-- The place of a number when the members of ranges are counted. -/
def placeIn? : List CodeRange → Nat → Option Nat
  | [], _ => none
  | range :: rest, code =>
      if range.first ≤ code && code ≤ range.last then some (code - range.first)
      else (placeIn? rest code).map (· + (range.last + 1 - range.first))

/-- The number at a place when the members of ranges are counted. -/
def codeAt? : List CodeRange → Nat → Option Nat
  | [], _ => none
  | range :: rest, place =>
      let size := range.last + 1 - range.first
      if place < size then some (range.first + place) else codeAt? rest (place - size)

/-- How many numbers ranges have. -/
def codeCount : List CodeRange → Nat
  | [] => 0
  | range :: rest => range.last + 1 - range.first + codeCount rest

/-- A set of characters of which some take two bytes: the first one counts rows, the second one
places in a row. The characters are listed row by row in several parts.
-/
structure PairCharset where
  names : List String
  single : Charset
  firsts : List CodeRange
  seconds : List CodeRange
  parts : List String
deriving DecidableEq, Repr

namespace PairCharset

/-- The characters of all rows. -/
def characters (set : PairCharset) : List Char :=
  set.parts.flatMap String.toList

/-- The character that two bytes stand for. -/
def character? (set : PairCharset) (first second : UInt8) : Option Char := do
  let row ← placeIn? set.firsts first.toNat
  let place ← placeIn? set.seconds second.toNat
  (set.characters[codeCount set.seconds * row + place]?).filter (· != Charset.missing)

/-- The characters that bytes stand for. -/
def decode? (set : PairCharset) : List UInt8 → Option (List Char)
  | [] => some []
  | first :: rest =>
      match set.single.character? first with
      | some c => (set.decode? rest).map (c :: ·)
      | none =>
          match rest with
          | [] => none
          | second :: rest =>
              match set.character? first second with
              | some c => (set.decode? rest).map (c :: ·)
              | none => none

/-- The bytes that stand for a character. -/
def bytes? (set : PairCharset) (c : Char) : Option (List UInt8) :=
  match set.single.byte? c with
  | some byte => some [byte]
  | none =>
      if c = Charset.missing then none
      else do
        let place ← set.characters.idxOf? c
        let first ← codeAt? set.firsts (place / codeCount set.seconds)
        let second ← codeAt? set.seconds (place % codeCount set.seconds)
        return [UInt8.ofNat first, UInt8.ofNat second]

end PairCharset

end PathQuery.Text
