import PathQuery.Text.Scanner
import PathQuery.Text.Characters

/-! Which texts are references to resources in the generic syntax: an optional scheme, an optional
authority, a path, an optional query and an optional fragment. Other characters than the ASCII ones
that this syntax names must be written as percent-encoded bytes.
-/

namespace PathQuery.Text

open Scanner

/-- The letters of ASCII. -/
def isAsciiLetter (c : Char) : Bool :=
  ('a' ≤ c && c ≤ 'z') || ('A' ≤ c && c ≤ 'Z')

/-- The digits of base sixteen. -/
def isHexDigit (c : Char) : Bool :=
  isDigit c || ('a' ≤ c && c ≤ 'f') || ('A' ≤ c && c ≤ 'F')

/-- The characters that stand for themselves everywhere. -/
def isUnreserved (c : Char) : Bool :=
  isAsciiLetter c || isDigit c || "-._~!$&\x27()*+,;=".toList.contains c

/-- The characters of the segments of a path. -/
def isSegmentCharacter (c : Char) : Bool :=
  isUnreserved c || c == ':' || c == '@'

/-- The characters of a query. -/
def isQueryCharacter (c : Char) : Bool :=
  isSegmentCharacter c || c == '/' || c == '?'

/-- The characters of a fragment, which may hold brackets as well. -/
def isFragmentCharacter (c : Char) : Bool :=
  isQueryCharacter c || c == '[' || c == ']'

/-- What follows the characters of a class and percent-encoded bytes at the start of a text. -/
def afterEncoded (isMember : Char → Bool) : List Char → List Char
  | [] => []
  | '%' :: high :: low :: rest =>
      if isHexDigit high && isHexDigit low then afterEncoded isMember rest
      else '%' :: high :: low :: rest
  | c :: rest => if isMember c then afterEncoded isMember rest else c :: rest

/-- Takes characters of a class and percent-encoded bytes, if there are any. -/
def encodedRun (isMember : Char → Bool) : TextScanner Unit := fun text =>
  some ((), afterEncoded isMember text)

/-- Takes the scheme with its colon. -/
def scheme : TextScanner Unit := do
  let _ ← one isAsciiLetter
  let _ ← run (fun c => isAsciiLetter c || isDigit c || "+-.".toList.contains c)
  literal ":"

/-- Takes a host: an address in brackets or a name, which may be empty. -/
def host : TextScanner Unit :=
  (do
    literal "["
    let _ ← upTo "]")
    <|> encodedRun isUnreserved

/-- The largest number after a host. Larger ones do not fit in 32 bits with a sign. -/
def largestHostNumber : Nat :=
  2147483647

/-- Takes the number after a host with its colon. -/
def hostNumber : TextScanner Unit := do
  literal ":"
  let digits ← someRun isDigit
  let number := digits.foldl (fun value digit => 10 * value + (digit.toNat - '0'.toNat)) 0
  if largestHostNumber < number then failure

/-- Takes an authority: an optional user, a host and an optional number. -/
def authority : TextScanner Unit := do
  let _ ← optional (encodedRun (fun c => isUnreserved c || c == ':') *> literal "@")
  host
  let _ ← optional hostNumber

/-- Takes the segments of a path that follow slashes. -/
def segments : TextScanner Unit := do
  let _ ← many (literal "/" *> encodedRun isSegmentCharacter)

/-- Takes what follows the place of a scheme. A path after an authority begins with a slash; else
its first segment has characters of the given class.
-/
def relativePart (isFirst : Char → Bool) : TextScanner Unit := do
  (literal "//" *> authority) <|> encodedRun isFirst
  segments
  let _ ← optional (literal "?" *> encodedRun isQueryCharacter)
  let _ ← optional (literal "#" *> encodedRun isFragmentCharacter)

/-- Whether a text is a reference with a scheme. -/
def isAbsoluteReference (text : String) : Bool :=
  (whole? (scheme *> relativePart isSegmentCharacter) text.toList).isSome

/-- Whether a text is a reference without a scheme. Its first segment has no colon. -/
def isRelativeReference (text : String) : Bool :=
  (whole? (relativePart (fun c => isSegmentCharacter c && c != ':')) text.toList).isSome

end PathQuery.Text
