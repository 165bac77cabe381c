import PathQuery.Xml.Declaration

/-! The pieces that the text of a document is made of: tags, runs of characters, references,
comments, processing instructions and the document type. Pieces are recognized one by one up to
what is none; whether they fit together is a question of its own.
-/

namespace PathQuery.Xml

open Scanner

/-- An opening tag as it is written, in which declarations of namespaces are attributes as well. -/
structure Start where
  name : SpelledName
  attributes : List (SpelledName × List ValuePart)
deriving DecidableEq, Repr

/-- A piece of a document. Characters that cannot be plain text stand apart from it, and everything
from the first place on where no piece can be taken is broken.
-/
inductive Piece where
  | opening (start : Start) (isEmpty : Bool)
  | closing (name : String)
  | text (content : String)
  | characters (content : String)
  | reference (entity : String)
  | leaf (it : Leaf)
  | doctype (it : TypeDeclaration)
  | broken (rest : List Char)
deriving DecidableEq, Repr

/-- Takes an attribute and the blanks before it. -/
def nextAttribute : TextScanner (SpelledName × List ValuePart) := do
  gap
  let name ← spelledName
  blanks
  literal "="
  blanks
  return (name, ← attributeValue)

/-- Takes the tag that an element begins with, or that it consists of. -/
def openingTag : TextScanner Piece := do
  literal "<"
  let name ← spelledName
  let attributes ← many nextAttribute
  blanks
  let ended ← optional (literal "/")
  literal ">"
  return .opening ⟨name, attributes⟩ ended.isSome

/-- Takes the tag that an element ends with. -/
def closingTag : TextScanner Piece := do
  literal "</"
  let name ← someRun (fun c => !Text.isBlank c && c != '>')
  blanks
  literal ">"
  return .closing (String.ofList name)

/-- Takes plain text, which does not hold the end of a section of characters. -/
def plainText : TextScanner Piece := do
  let content ← someRun (fun c => c != '<' && c != '&')
  if (Text.find? "]]>".toList content).isSome then failure
  return .text (String.ofList (unifyLineEnds content))

/-- Takes a section of characters in which nothing is markup. -/
def characterSection : TextScanner Piece := do
  literal "<![CDATA["
  return .characters (String.ofList (unifyLineEnds (← upTo "]]>")))

/-- Takes a piece of a document. -/
def piece : TextScanner Piece :=
  plainText
    <|> (do return .characters (String.singleton (← referredCharacter)))
    <|> (do return .reference (← entityReference))
    <|> openingTag <|> closingTag <|> characterSection
    <|> (do return .leaf (← comment))
    <|> (do return .leaf (← instruction))
    <|> (do return .doctype (← typeDeclaration))

namespace Piece

/-- The pieces of a text. None of them goes beyond a character that documents do not have. -/
def ofText (text : List Char) : List Piece :=
  let (pieces, rest) := repetition piece (text.takeWhile isCharacter)
  let left := rest ++ text.dropWhile isCharacter
  if left.isEmpty then pieces else pieces ++ [.broken left]

/-- Whether a piece is an opening tag. -/
def isOpening : Piece → Bool
  | .opening _ _ => true
  | _ => false

/-- Whether a piece is a document type declaration. -/
def isDoctype : Piece → Bool
  | .doctype _ => true
  | _ => false

/-- The leaf that a piece is. -/
def leaf? : Piece → Option Leaf
  | .leaf it => some it
  | _ => none

/-- Whether a piece is a leaf or consists of blanks. -/
def isMarginal : Piece → Bool
  | .leaf _ => true
  | .text content => content.toList.all Text.isBlank
  | _ => false

/-- Whether a piece begins like a leaf without being one. -/
def isBrokenLeaf : Piece → Bool
  | .broken rest => ["<?", "<!--"].any (fun mark => mark.toList.isPrefixOf rest)
  | _ => false

/-- Whether a piece begins like a closing tag without being one. -/
def isBrokenClosing : Piece → Bool
  | .broken rest => "</".toList.isPrefixOf rest
  | _ => false

end Piece

end PathQuery.Xml
