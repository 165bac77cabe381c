import PathQuery.Text.Words
import PathQuery.Xml.Piece

/-! What the declarations of a document type amount to, and the values of attributes in their light:
entities are replaced by their texts, and the values of attributes that are lists of tokens lose
blanks that separate nothing.
-/

namespace PathQuery.Xml

open Scanner

/-- What a document knows by name. The first declaration of a name counts. A document that stands
alone depends on nothing outside of it.
-/
structure Doctype where
  isAlone : Bool
  hasOutside : Bool
  entities : List (String × Entity)
  parameters : List (String × Option (List Char))
  elementTypes : List String
  attributes : List ((String × String) × AttributeDeclaration)
deriving DecidableEq, Repr

namespace Doctype

/-- What documents know without a declaration of their type. -/
def absent (isAlone : Bool) : Doctype :=
  ⟨isAlone, false, [], [], [], []⟩

/-- Whether there may be declarations that are not known. -/
def isOpen (doctype : Doctype) : Bool :=
  doctype.hasOutside && !doctype.isAlone

/-- The declared entity of a name. -/
def entity? (doctype : Doctype) (name : String) : Option Entity :=
  doctype.entities.lookup name

/-- The type of the attribute of a name. -/
def typeOf (doctype : Doctype) (element name : SpelledName) : AttributeType :=
  match doctype.attributes.lookup (element.text, name.text) with
  | some declaration => declaration.type
  | none => .text

/-- How deep entities may be nested. Deeper ones are taken for a circle. -/
def nestingLimit : Nat :=
  19

/-- The text that an entity gives to a value, where other entities are nested up to a depth. The
form of its plain text depends on the entity.
-/
def entityText (doctype : Doctype) (form : String → List Char → List Char)
    : Nat → String → List Char
  | 0, _ => []
  | depth + 1, name =>
      match doctype.entity? name with
      | some (.internal replacement) =>
          ((ValuePart.ofText? replacement).getD []).flatMap (fun part =>
            match part with
            | .literal content => form name content
            | .character c => [c]
            | .reference inner => doctype.entityText form depth inner)
      | _ => []

/-- A value with the texts of entities in it. -/
def valueText (doctype : Doctype) (form : String → List Char → List Char)
    (parts : List ValuePart) : String :=
  String.ofList (parts.flatMap (fun part =>
    match part with
    | .literal content => spaced content
    | .character c => [c]
    | .reference entity => doctype.entityText form nestingLimit entity))

/-- Parts with spaces in place of blanks, in which plain text is taken apart into characters. -/
def singleParts (parts : List ValuePart) : List ValuePart :=
  parts.flatMap (fun part =>
    match part with
    | .literal content => (spaced content).map .character
    | other => [other])

/-- Leaves one of several spaces in a row, or none after a space or the start. -/
def foldSpaces (after : Bool) : List ValuePart → List ValuePart
  | [] => []
  | part :: rest =>
      if part = .character ' ' then
        if after then foldSpaces true rest else part :: foldSpaces true rest
      else part :: foldSpaces false rest

/-- A value as a list of tokens with single spaces between them. -/
def tokenParts (parts : List ValuePart) : List ValuePart :=
  let folded := foldSpaces true (singleParts parts)
  if folded.getLast? = some (.character ' ') then folded.dropLast else folded

/-- The parts of the value of the attribute of a name. References to what is not declared are
dropped.
-/
def partsOf (doctype : Doctype) (element name : SpelledName) (parts : List ValuePart)
    : List ValuePart :=
  let kept := parts.filter (fun part => part.entity?.all (fun it => (doctype.entity? it).isSome))
  match doctype.typeOf element name with
  | .text => kept
  | _ => tokenParts kept

end Doctype

end PathQuery.Xml
