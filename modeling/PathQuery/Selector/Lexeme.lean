import PathQuery.Selector.Basic
import PathQuery.Text.UriReference

/-! The lexemes of a selector. Escapes stand for single characters in names and texts; comments
leave no lexeme and do not separate names either.
-/

namespace PathQuery.Selector

open Scanner

/-- The blanks of selectors. -/
def isGap (c : Char) : Bool :=
  c == ' ' || c == '\t' || c == '\r' || c == '\n' || c == '\x0c'

/-- Line ends, which need an escape in texts. -/
def isLineEnd (c : Char) : Bool :=
  c == '\n' || c == '\r' || c == '\x0c'

/-- Takes a line end, of which two characters may be one. -/
def lineEnd : TextScanner Unit :=
  literal "\r\n" <|> do let _ ← one isLineEnd

/-- The character of a code point, or the one that stands for characters that do not exist. -/
def characterOf (code : Nat) : Char :=
  if code.isValidChar then Char.ofNat code else '\uFFFD'

/-- Takes up to a number of symbols of a class. -/
def upToSome (count : Nat) (isMember : Char → Bool) : TextScanner (List Char) := fun text =>
  let found := (text.takeWhile isMember).take count
  if found.isEmpty then none else some (found, text.drop found.length)

/-- The value of a digit of base sixteen. -/
def hexValue (c : Char) : Nat :=
  if c ≤ '9' then c.toNat - '0'.toNat
  else if c ≤ 'F' then c.toNat - 'A'.toNat + 10
  else c.toNat - 'a'.toNat + 10

/-- Takes a character that is escaped by its number or itself. -/
def escaped : TextScanner Char := do
  literal "\\"
  (do
      let digits ← upToSome 6 Text.isHexDigit
      let _ ← optional (lineEnd <|> do let _ ← one isGap)
      return characterOf (digits.foldl (fun code c => 16 * code + hexValue c) 0))
    <|> one (fun c => !isLineEnd c && !Text.isHexDigit c)

/-- The characters that names begin with. -/
def isNameStart (c : Char) : Bool :=
  Text.isAsciiLetter c || c == '_' || 127 < c.toNat

/-- The characters that names continue with. -/
def isNameCharacter (c : Char) : Bool :=
  isNameStart c || Text.isDigit c || c == '-'

/-- Takes a name, which may begin with one hyphen. -/
def nameLexeme : TextScanner Lexeme := do
  let hyphen ← optional (literal "-")
  let first ← one isNameStart <|> escaped
  let more ← many (one isNameCharacter <|> escaped)
  let start := if hyphen.isSome then ['-', first] else [first]
  return .name (String.ofList (start ++ more))

/-- Takes a hash mark and the characters of names after it. -/
def hashLexeme : TextScanner Lexeme := do
  literal "#"
  let first ← one isNameCharacter <|> escaped
  let more ← many (one isNameCharacter <|> escaped)
  return .hash (String.ofList (first :: more))

/-- Takes a part of a text in quotes. An escaped line end is no part of it. -/
def textPart (mark : Char) : TextScanner (List Char) :=
  someRun (fun c => !isLineEnd c && c != '\\' && c != mark)
    <|> (do literal "\\"; lineEnd; return [])
    <|> (do return [← escaped])

/-- Takes a text in quotes. -/
def textLexeme : TextScanner Lexeme := do
  let mark ← one (fun c => c == '\x22' || c == '\x27')
  let parts ← many (textPart mark)
  literal (String.singleton mark)
  return .text (String.ofList parts.flatten)

/-- Takes a number with its sign. -/
def numberLexeme : TextScanner Lexeme := do
  let sign ← optional (one (fun c => c == '+' || c == '-'))
  let digits ←
    (do
        let whole ← run Text.isDigit
        literal "."
        let fraction ← someRun Text.isDigit
        return whole ++ '.' :: fraction)
      <|> someRun Text.isDigit
  return .number (String.ofList (sign.toList ++ digits))

/-- Takes a comment; the last one may be unfinished. -/
def comment : TextScanner Unit := do
  literal "/*"
  (do let _ ← upTo "*/") <|> do let _ ← run (fun _ => true)

/-- Takes what leaves one lexeme or none. -/
def lexeme : TextScanner (Option Lexeme) :=
  (do let _ ← someRun isGap; return some .gap)
    <|> (do return some (← nameLexeme))
    <|> (do return some (← hashLexeme))
    <|> (do return some (← textLexeme))
    <|> (do return some (← numberLexeme))
    <|> (do comment; return none)
    <|> (do return some (.mark (← one (fun c => c != '\x22' && c != '\x27'))))

/-- The lexemes of a text, unless a quote is left open. -/
def Lexeme.ofText? (source : String) : Option (List Lexeme) :=
  (whole? (many lexeme) source.toList).map (fun found => found.filterMap id)

end PathQuery.Selector
