import PathQuery.Xml.Survey

/-! Document types from their declarations, which take effect in order. A reference to a parameter
stands for the declarations that the parameter consists of, unless these are elsewhere.
-/

namespace PathQuery.Xml

open Survey

/-- Whether a text is a reference to the given character by a number of two digits. -/
def isNumberOf (c : Char) (text : List Char) : Bool :=
  let isShort := text.length = if text.contains 'x' then 6 else 5
  isShort && Scanner.whole? numberedCharacter text == some c

/-- Whether a declaration of a predefined name keeps its meaning: the character itself stands for
it where that is harmless, a reference to it everywhere.
-/
def keepsMeaning (c : Char) : Entity → Bool
  | .internal text => (text == [c] && c != '<' && c != '&') || isNumberOf c text
  | _ => false

/-- Records what there is to find about the declaration of a name without colons. -/
def surveyDeclaredName (name : String) : Survey Unit :=
  expect (!name.toList.contains ':')

namespace Doctype

/-- Declares an entity. -/
def declareEntity (doctype : Doctype) (name : String) (it : Entity) : Survey Doctype := do
  surveyDeclaredName name
  match predefined.lookup name with
  | some c => if !keepsMeaning c it then note .notice
  | none => return { doctype with entities := doctype.entities ++ [(name, it)] }
  return doctype

/-- Surveys an assumed value, whose entities are declared before it. What their texts are is only
remembered of entities in the document itself.
-/
def surveyAssumed (doctype : Doctype) (parts : List ValuePart) : Survey Unit := do
  let before ← get
  (ValuePart.entities parts).forM (doctype.surveyInValue nestingLimit)
  modify (fun progress => { before with findings := progress.findings })

/-- Declares an attribute of an element, unless it was declared. The attribute `xml:id` is an
identifier.
-/
def declareAttribute (element : String) (doctype : Doctype) (it : AttributeDeclaration)
    : Survey Doctype := do
  noteAll (List.replicate it.repeated .fault)
  doctype.surveyAssumed (it.value?.getD [])
  expect (it.name != "xml:id" || it.type == .identifier)
  if (doctype.attributes.lookup (element, it.name)).isSome then return doctype
  return { doctype with attributes := doctype.attributes ++ [((element, it.name), it)] }

/-- Makes a declaration take effect. What a reference to a parameter does is given. -/
def declare (refer : Doctype → String → Survey Doctype) (doctype : Doctype)
    : Declaration → Survey Doctype
  | .nothing => return doctype
  | .leaf it => do
      noteAll it.findings
      return doctype
  | .entity name it => doctype.declareEntity name it
  | .parameter name replacement? => do
      surveyDeclaredName name
      return { doctype with parameters := doctype.parameters ++ [(name, replacement?)] }
  | .reference parameter => refer { doctype with hasOutside := true } parameter
  | .elementType name => do
      expect (!doctype.elementTypes.contains name)
      return { doctype with elementTypes := name :: doctype.elementTypes }
  | .attributes element list => list.foldlM (declareAttribute element) doctype
  | .format name => do
      surveyDeclaredName name
      return doctype

/-- Refers to a parameter, whose declarations may refer to others up to a depth. -/
def refer : Nat → Doctype → String → Survey Doctype
  | depth, doctype, name => do
      match doctype.parameters.lookup name with
      | none => do
          require (!doctype.isAlone)
          note .notice
          return doctype
      | some none => return doctype
      | some (some text) =>
          match depth with
          | 0 => failure
          | depth + 1 => do
              grow (bytesOf text)
              let declarations ← Declaration.ofText? text
              declarations.foldlM (declare (refer depth)) doctype

/-- Adds what a document type declaration declares. -/
def declareAll (doctype : Doctype) (written : TypeDeclaration) : Survey Doctype := do
  written.declarations.foldlM (declare (refer nestingLimit))
    { doctype with hasOutside := written.hasAddress }

end Doctype

end PathQuery.Xml
