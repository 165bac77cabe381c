/-! Character classes given by ranges of code points, and the blanks of the expression language.
A class is a list of closed ranges, so that a membership question is a finite comparison.
-/

namespace PathQuery.Text

/-- A closed range of code points. -/
structure CodeRange where
  first : Nat
  last : Nat
deriving DecidableEq, Repr

/-- A character lies in a class of ranges when one of them holds its code point. -/
def inRanges (ranges : List CodeRange) (c : Char) : Bool :=
  ranges.any (fun range => range.first ≤ c.toNat && c.toNat ≤ range.last)

/-- The blanks that separate tokens, that numerals may be padded with and that collapse when
text is normalized: space, tab, line feed and carriage return. Other space characters are text.
-/
def isBlank (c : Char) : Bool :=
  c == ' ' || c == '\n' || c == '\r' || c == '\t'

/-- The characters of Unicode that count as space between words: those of the separator
category and the control characters that end or divide lines and records.
-/
def spaceRanges : List CodeRange :=
  [⟨0x9, 0xD⟩, ⟨0x1C, 0x20⟩, ⟨0x85, 0x85⟩, ⟨0xA0, 0xA0⟩, ⟨0x1680, 0x1680⟩, ⟨0x2000, 0x200A⟩,
    ⟨0x2028, 0x2029⟩, ⟨0x202F, 0x202F⟩, ⟨0x205F, 0x205F⟩, ⟨0x3000, 0x3000⟩]

/-- Membership in `spaceRanges`. -/
def isSpace (c : Char) : Bool :=
  inRanges spaceRanges c

/-- The decimal digits of numerals are the ASCII ones only. -/
def isDigit (c : Char) : Bool :=
  '0' ≤ c && c ≤ '9'

end PathQuery.Text
