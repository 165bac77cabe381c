import PathQuery.Text.Lower
import PathQuery.Text.UriReference
import PathQuery.Xml.Document
import PathQuery.Xml.Finding

/-! The smallest parts of markup: names, references, values in quotes, comments and processing
instructions. Names are read even where their colons are misplaced; whether that is tolerable is a
question of its own.
-/

namespace PathQuery.Xml

open Scanner

-----------------------------------------------------------------------------------------
-- Characters
-----------------------------------------------------------------------------------------

/-- The characters of XML. -/
def characterRanges : List Text.CodeRange :=
  [⟨0x9, 0xA⟩, ⟨0xD, 0xD⟩, ⟨0x20, 0xD7FF⟩, ⟨0xE000, 0xFFFD⟩, ⟨0x10000, 0x10FFFF⟩]

/-- Membership in `characterRanges`. -/
def isCharacter (c : Char) : Bool :=
  Text.inRanges characterRanges c

/-- Takes blanks, if there are any. -/
def blanks : TextScanner Unit := do
  let _ ← run Text.isBlank

/-- Takes one blank or more. -/
def gap : TextScanner Unit := do
  let _ ← someRun Text.isBlank

/-- Makes every line end a line feed. -/
def unifyLineEnds : List Char → List Char
  | [] => []
  | '\r' :: '\n' :: rest => '\n' :: unifyLineEnds rest
  | '\r' :: rest => '\n' :: unifyLineEnds rest
  | c :: rest => c :: unifyLineEnds rest

/-- Makes every line end and every other blank a space. -/
def spaced (text : List Char) : List Char :=
  (unifyLineEnds text).map (fun c => if Text.isBlank c then ' ' else c)

-----------------------------------------------------------------------------------------
-- Names
-----------------------------------------------------------------------------------------

/-- The most bytes that a name may have. -/
def nameLimit : Nat :=
  50000

/-- The text of a name, unless it is too long. -/
def nameOf (characters : List Char) : TextScanner String :=
  let text := String.ofList characters
  if text.utf8ByteSize ≤ nameLimit then return text else failure

/-- Takes a name without colon. -/
def simpleName : TextScanner String := do
  let first ← one Text.isNameStart
  let more ← run Text.isNameCharacter
  nameOf (first :: more)

/-- Takes characters of names and colons. -/
def nameRest : TextScanner (List Char) :=
  run (fun c => Text.isNameCharacter c || c == ':')

/-- Takes a name in which colons are letters. -/
def name : TextScanner String := do
  let first ← one (fun c => Text.isNameStart c || c == ':')
  let more ← nameRest
  nameOf (first :: more)

/-- Takes the name of a token, which may begin with any character of names. -/
def token : TextScanner String := do
  let characters ← nameRest
  if characters.isEmpty then failure
  nameOf characters

/-- Takes what follows a qualifier and its colon. If no name follows, there is no qualifier; further
colons belong to the local part.
-/
def qualifiedName (qualifier : String) : TextScanner SpelledName := do
  match ← optional simpleName with
  | none => return ⟨none, qualifier ++ ":" ++ String.ofList (← nameRest)⟩
  | some localPart =>
      let colon ← optional (literal ":")
      if colon.isNone then return ⟨some qualifier, localPart⟩
      let more ← optional name
      return ⟨some qualifier, localPart ++ ":" ++ more.getD ""⟩

/-- Takes a name with or without qualifier. -/
def spelledName : TextScanner SpelledName :=
  (do
    let first ← simpleName
    let colon ← optional (literal ":")
    if colon.isSome then qualifiedName first else return ⟨none, first⟩)
    <|> (do return ⟨none, ← name⟩)

-----------------------------------------------------------------------------------------
-- References and values
-----------------------------------------------------------------------------------------

/-- Takes an opening quote. -/
def quote : TextScanner Char :=
  one (fun c => c == '\x22' || c == '\x27')

/-- Takes a text in quotes that holds anything but its quote. -/
def quoted : TextScanner String := do
  let mark ← quote
  let content ← upTo (String.singleton mark)
  return String.ofList content

/-- The value of a digit up to base sixteen. -/
def digitOf (c : Char) : Nat :=
  if c ≤ '9' then c.toNat - '0'.toNat
  else if c ≤ 'F' then c.toNat - 'A'.toNat + 10
  else c.toNat - 'a'.toNat + 10

/-- Takes a character that is referred to by its number. -/
def numberedCharacter : TextScanner Char := do
  literal "&#"
  let hexadecimal ← optional (literal "x")
  let base := if hexadecimal.isSome then 16 else 10
  let digits ← someRun (if hexadecimal.isSome then Text.isHexDigit else Text.isDigit)
  literal ";"
  let code := digits.foldl (fun value digit => base * value + digitOf digit) 0
  if code.isValidChar && isCharacter (Char.ofNat code) then return Char.ofNat code
  else failure

/-- Takes a reference to an entity, of which the name is left. -/
def entityReference : TextScanner String := do
  literal "&"
  let entity ← name
  literal ";"
  return entity

/-- The characters that have a name everywhere. -/
def predefined : List (String × Char) :=
  [("lt", '<'), ("gt", '>'), ("amp", '&'), ("apos", '\x27'), ("quot", '\x22')]

/-- Takes a character that is referred to by number or by a predefined name. -/
def referredCharacter : TextScanner Char :=
  numberedCharacter
    <|> do
      let entity ← entityReference
      match predefined.lookup entity with
      | some c => return c
      | none => failure

/-- A part of the value of an attribute. -/
inductive ValuePart where
  | literal (content : List Char)
  | character (it : Char)
  | reference (entity : String)
deriving DecidableEq, Repr

namespace ValuePart

/-- The entity that a part refers to. -/
def entity? : ValuePart → Option String
  | .reference entity => some entity
  | _ => none

/-- The entities that the parts of a value refer to. -/
def entities (parts : List ValuePart) : List String :=
  parts.filterMap entity?

end ValuePart

/-- Takes a part of a value that has none of the given characters. -/
def valuePart (excluded : List Char) : TextScanner ValuePart :=
  (do return .character (← referredCharacter))
    <|> (do return .reference (← entityReference))
    <|> (do return .literal (← someRun (fun c => !(['<', '&'] ++ excluded).contains c)))

/-- Takes the value of an attribute with its quotes. -/
def attributeValue : TextScanner (List ValuePart) := do
  let mark ← quote
  let parts ← many (valuePart [mark])
  literal (String.singleton mark)
  return parts

/-- The parts of the value that an entity gives to an attribute. -/
def ValuePart.ofText? (text : List Char) : Option (List ValuePart) :=
  whole? (many (valuePart [])) text

-----------------------------------------------------------------------------------------
-- Leaves
-----------------------------------------------------------------------------------------

/-- Takes a comment. Two hyphens only occur at its end. -/
def comment : TextScanner Leaf := do
  literal "<!--"
  let content ← upTo "--"
  literal ">"
  return .comment (String.ofList (unifyLineEnds content))

/-- Takes a processing instruction. The blanks after its target are no content, and its target is
not `xml` in any case.
-/
def instruction : TextScanner Leaf := do
  literal "<?"
  let target ← name
  if Text.lower target = xmlQualifier then failure
  let ended ← optional (literal "?>")
  if ended.isSome then return .instruction target ""
  gap
  let content ← upTo "?>"
  return .instruction target (String.ofList (unifyLineEnds content))

/-- The targets that begin with `xml` and have a meaning. -/
def knownTargets : List String :=
  ["xml-stylesheet", "xml-model"]

/-- What there is to find about a leaf: targets should neither begin with `xml` nor have a colon. -/
def Leaf.findings : Leaf → List Finding
  | .comment _ => []
  | .instruction target _ =>
      if knownTargets.contains target then []
      else
        (if Text.startsWith (Text.lower target) xmlQualifier then [.notice] else [])
          ++ (if target.toList.contains ':' then [.fault] else [])

end PathQuery.Xml
