import PathQuery.Xml.Markup

/-! The declarations of document types as they are written: of entities, of element types and their
attributes, and of the formats of data. Models of content are checked for their grammar and then
forgotten, since documents are not compared with them.
-/

namespace PathQuery.Xml

open Scanner

/-- How many members of a list occur before in it. -/
def repetitions {α : Type} [DecidableEq α] (list : List α) : Nat :=
  list.length - list.eraseDups.length

/-- What an entity stands for: a text of the document, a text that is elsewhere, or data that are
no text.
-/
inductive Entity where
  | internal (replacement : List Char)
  | external
  | unparsed
deriving DecidableEq, Repr

/-- What the values of an attribute are: texts, unique identifiers or other tokens. -/
inductive AttributeType where
  | text
  | identifier
  | tokens
deriving DecidableEq, Repr

/-- The declaration of an attribute with the number of listed tokens that were listed before. -/
structure AttributeDeclaration where
  name : String
  type : AttributeType
  repeated : Nat
  value? : Option (List ValuePart)
deriving DecidableEq, Repr

/-- A declaration in a document type. Parameters are entities that consist of declarations. -/
inductive Declaration where
  | nothing
  | leaf (it : Leaf)
  | entity (name : String) (it : Entity)
  | parameter (name : String) (replacement? : Option (List Char))
  | reference (parameter : String)
  | elementType (name : String)
  | attributes (element : String) (list : List AttributeDeclaration)
  | format (name : String)
deriving DecidableEq, Repr

/-- A document type declaration as it is written. -/
structure TypeDeclaration where
  hasAddress : Bool
  declarations : List Declaration
deriving DecidableEq, Repr

-----------------------------------------------------------------------------------------
-- Entities and formats
-----------------------------------------------------------------------------------------

/-- The characters of public identifiers. -/
def isPublicCharacter (c : Char) : Bool :=
  Text.isAsciiLetter c || Text.isDigit c || " \r\n-\x27()+,./:=?;!*#@$_%".toList.contains c

/-- Takes a public identifier with the keyword before it. -/
def publicId : TextScanner Unit := do
  literal "PUBLIC"
  gap
  let identifier ← quoted
  if !identifier.toList.all isPublicCharacter then failure

/-- Takes the address of something that is elsewhere. It must not be longer than a name. -/
def externalId : TextScanner String := do
  publicId <|> literal "SYSTEM"
  gap
  nameOf (← quoted).toList

/-- Takes a part of the text of an entity that does not hold the given quote. Characters that are
referred to by number are inserted, references to entities stay.
-/
def replacementPart (mark : Char) : TextScanner (List Char) :=
  someRun (fun c => c != mark && c != '&' && c != '%')
    <|> (do return [← numberedCharacter])
    <|> (do return ("&" ++ (← entityReference) ++ ";").toList)

/-- Takes the text of an entity. -/
def replacement : TextScanner (List Char) := do
  let mark ← quote
  let parts ← many (replacementPart mark)
  literal (String.singleton mark)
  return parts.flatten

/-- Takes what a declaration says about an entity. An address is of a whole resource. -/
def entityDefinition : TextScanner Entity :=
  (do return .internal (← replacement))
    <|> do
      let address ← externalId
      if address.toList.contains '#' then failure
      let data ← optional (gap *> literal "NDATA" *> gap *> optional name)
      return if data.isSome then .unparsed else .external

/-- Takes the declaration of an entity. Parameters are no data. -/
def entityDeclaration : TextScanner Declaration := do
  literal "<!ENTITY"
  gap
  let sign ← optional (literal "%" *> gap)
  let entity ← name
  gap
  let it ← entityDefinition
  blanks
  literal ">"
  if sign.isNone then return .entity entity it
  match it with
  | .internal text => return .parameter entity (some text)
  | .external => return .parameter entity none
  | .unparsed => failure

/-- Takes the declaration of a format of data. -/
def formatDeclaration : TextScanner Declaration := do
  literal "<!NOTATION"
  gap
  let format ← name
  gap
  (do let _ ← externalId) <|> publicId
  blanks
  literal ">"
  return .format format

-----------------------------------------------------------------------------------------
-- Element types
-----------------------------------------------------------------------------------------

/-- Takes a sign that tells how often something occurs, if there is one. -/
def occurrence : TextScanner Unit := do
  let _ ← optional (one "?*+".toList.contains)

/-- Takes a model of content that mixes text with elements. -/
def mixedModel : TextScanner Unit := do
  literal "("
  blanks
  literal "#PCDATA"
  blanks
  let names ← many (literal "|" *> blanks *> name <* blanks)
  literal ")"
  if names.isEmpty then
    let _ ← optional (literal "*")
  else literal "*"

/-- How deep the groups of a model of content may be nested. -/
def modelDepth : Nat :=
  256

/-- Takes a group of element types and of groups inside it, either a sequence or a choice. -/
def modelGroup : Nat → TextScanner Unit
  | 0 => failure
  | depth + 1 => do
      let particle : TextScanner Unit := do
        blanks
        modelGroup depth <|> (do let _ ← name)
        occurrence
        blanks
      literal "("
      particle
      let sequence ← many (literal "," *> particle)
      if sequence.isEmpty then
        let _ ← many (literal "|" *> particle)
      literal ")"

/-- Takes the declaration of an element type. -/
def elementDeclaration : TextScanner Declaration := do
  literal "<!ELEMENT"
  gap
  let element ← name
  gap
  literal "EMPTY" <|> literal "ANY" <|> mixedModel <|> (modelGroup modelDepth *> occurrence)
  blanks
  literal ">"
  return .elementType element

-----------------------------------------------------------------------------------------
-- Attributes
-----------------------------------------------------------------------------------------

/-- The types of attributes that have a name. One that another one begins with comes after it. -/
def namedTypes : List (String × AttributeType) :=
  [("CDATA", .text), ("IDREFS", .tokens), ("IDREF", .tokens), ("ID", .identifier),
    ("ENTITIES", .tokens), ("ENTITY", .tokens), ("NMTOKENS", .tokens), ("NMTOKEN", .tokens)]

/-- Takes a list of alternatives, of which the number of repeated ones is left. -/
def alternatives (item : TextScanner String) : TextScanner Nat := do
  literal "("
  let first ← blanks *> item <* blanks
  let more ← many (literal "|" *> blanks *> item <* blanks)
  literal ")"
  return repetitions (first :: more)

/-- Takes the type of an attribute and the number of repeated tokens in it. -/
def attributeType : TextScanner (AttributeType × Nat) :=
  (namedTypes.firstM (fun (keyword, type) => do
    literal keyword
    return (type, 0)))
    <|> (do return (.tokens, ← literal "NOTATION" *> gap *> alternatives name))
    <|> (do return (.tokens, ← alternatives token))

/-- Takes what is assumed where an attribute is missing, if anything is. -/
def assumedValue : TextScanner (Option (List ValuePart)) :=
  (literal "#REQUIRED" *> pure none)
    <|> (literal "#IMPLIED" *> pure none)
    <|> do
      let _ ← optional (literal "#FIXED" *> gap)
      return some (← attributeValue)

/-- Takes the declaration of an attribute and the blanks before it. -/
def attributeDeclaration : TextScanner AttributeDeclaration := do
  gap
  let subject ← name
  gap
  let (type, repeated) ← attributeType
  gap
  return ⟨subject, type, repeated, ← assumedValue⟩

/-- Takes the declaration of the attributes of an element type. -/
def attributesDeclaration : TextScanner Declaration := do
  literal "<!ATTLIST"
  gap
  let element ← name
  let list ← many attributeDeclaration
  blanks
  literal ">"
  return .attributes element list

-----------------------------------------------------------------------------------------
-- Document types
-----------------------------------------------------------------------------------------

/-- Takes a reference to a parameter. -/
def parameterReference : TextScanner Declaration := do
  literal "%"
  let parameter ← name
  literal ";"
  return .reference parameter

/-- Takes a declaration or what may stand between declarations. -/
def declaration : TextScanner Declaration :=
  (gap *> pure .nothing)
    <|> (do return .leaf (← comment))
    <|> (do return .leaf (← instruction))
    <|> entityDeclaration <|> elementDeclaration <|> attributesDeclaration <|> formatDeclaration
    <|> parameterReference

/-- The declarations that a text consists of. -/
def Declaration.ofText? (text : List Char) : Option (List Declaration) :=
  whole? (many declaration) text

/-- Takes the declarations between brackets. -/
def internalDeclarations : TextScanner (List Declaration) := do
  literal "["
  let declarations ← many declaration
  literal "]"
  blanks
  return declarations

/-- Takes a document type declaration. -/
def typeDeclaration : TextScanner TypeDeclaration := do
  literal "<!DOCTYPE"
  gap
  let _ ← name
  let address ← optional (gap *> externalId)
  blanks
  let declarations ← optional internalDeclarations
  literal ">"
  return ⟨address.isSome, declarations.getD []⟩

end PathQuery.Xml
