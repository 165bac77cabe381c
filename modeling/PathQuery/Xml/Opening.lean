import PathQuery.Xml.Survey

/-! What opening tags mean: which of their attributes declare namespaces, what the names in them
stand for, and which identifiers they give. Much of what can be wrong here is found and tolerated;
names that occur twice are not.
-/

namespace PathQuery.Xml

open Survey

/-- A place in content: the scope there, how many elements are open above it, and how deep entities
may be nested there.
-/
structure Place where
  scope : Scope
  above : Nat
  depth : Nat
deriving DecidableEq, Repr

/-- The namespace that declarations themselves are in. -/
def declarationUri : String :=
  "http://www.w3.org/2000/xmlns/"

/-- The name of default declarations, and the qualifier of the other ones. -/
def declarationName : String :=
  "xmlns"

/-- The qualifier that the attribute of a name declares, if it is a declaration. -/
def SpelledName.declared? (name : SpelledName) : Option (Option String) :=
  if name = ⟨none, declarationName⟩ then some none
  else if name.qualifier = some declarationName then some (some name.localPart)
  else none

/-- The attributes of a tag that are no declarations. -/
def Start.ordinary (start : Start) : List (SpelledName × List ValuePart) :=
  start.attributes.filter (fun (name, _) => name.declared?.isNone)

/-- Whether a namespace has a meaning of its own. -/
def isReservedUri (uri : String) : Bool :=
  uri == xmlUri || uri == declarationUri

/-- Whether a declaration takes effect. Only the default namespace can be taken back, and what is
reserved is not declared.
-/
def isEffective (qualifier : Option String) (uri : String) : Bool :=
  !isReservedUri uri
    && match qualifier with
      | none => true
      | some text => text != xmlQualifier && text != declarationName && !uri.isEmpty

/-- What there is to find about the name of a namespace: it should be a reference, and that of a
default namespace one with a scheme.
-/
def uriFindings (isDefault : Bool) (uri : String) : List Finding :=
  if Text.isAbsoluteReference uri then []
  else if Text.isRelativeReference uri then (if isDefault then [.notice] else [])
  else [.fault]

/-- What there is to find about a declaration. -/
def declarationFindings (qualifier : Option String) (uri : String) : List Finding :=
  if qualifier = some xmlQualifier then (if uri = xmlUri then [] else [.fault])
  else if !isEffective qualifier uri then [.fault]
  else if uri.isEmpty then []
  else uriFindings qualifier.isNone uri

namespace Doctype

/-- The name of a namespace that an attribute of an element declares. -/
def namespaceOf (doctype : Doctype) (element name : SpelledName) (parts : List ValuePart)
    : String :=
  doctype.valueText (fun _ => spaced) (doctype.partsOf element name parts)

/-- The declarations of a tag that take effect. -/
def declarationsOf (doctype : Doctype) (start : Start) : Scope :=
  start.attributes.filterMap (fun (name, parts) =>
    match name.declared? with
    | none => none
    | some qualifier =>
        let uri := doctype.namespaceOf start.name name parts
        if isEffective qualifier uri then some (qualifier, uri) else none)

/-- The attributes that are assumed of an element, of which only the names are read. -/
def assumedOf (doctype : Doctype) (element : SpelledName) : List (SpelledName × List ValuePart) :=
  doctype.attributes.filterMap (fun ((subject, text), declaration) =>
    if subject = element.text then
      match declaration.value?, Scanner.whole? spelledName text.toList with
      | some parts, some name => some (name, parts)
      | _, _ => none
    else none)

/-- The declarations below a tag: its own ones and those that are assumed. -/
def allDeclarationsOf (doctype : Doctype) (start : Start) : Scope :=
  Scope.below (doctype.declarationsOf start)
    (doctype.declarationsOf ⟨start.name, doctype.assumedOf start.name⟩)

/-- Whether the value of `xml:space` is one of those that have a meaning. -/
def isSpaceValue (doctype : Doctype) (element name : SpelledName) (parts : List ValuePart) : Bool :=
  let parts := doctype.partsOf element name parts
  (ValuePart.entities parts).isEmpty
    && ["default", "preserve"].contains (doctype.valueText (fun _ => id) parts)

/-- Surveys an attribute by itself. -/
def surveyAttribute (doctype : Doctype) (depth : Nat) (element : SpelledName)
    : SpelledName × List ValuePart → Survey Unit
  | (name, parts) => do
      expect name.isProper
      match name.declared? with
      | some qualifier => do
          (ValuePart.entities parts).forM (doctype.surveyInNamespace depth)
          noteAll (declarationFindings qualifier (doctype.namespaceOf element name parts))
      | none => do
          (ValuePart.entities parts).forM (doctype.surveyInValue depth)
          if name = ⟨some xmlQualifier, "space"⟩ then
            if !doctype.isSpaceValue element name parts then note .notice

/-- Takes the identifier that an attribute gives to its element. Values that refer to entities
are none, and `xml:id` has to be a name.
-/
def surveyIdentifier (doctype : Doctype) (element : SpelledName)
    : SpelledName × List ValuePart → Survey Unit
  | (name, parts) => do
      let kept := doctype.partsOf element name parts
      let value := doctype.valueText (fun _ => id) kept
      if (ValuePart.entities kept).isEmpty && (parts.isEmpty || !value.isEmpty) then
        if name = ⟨some xmlQualifier, "id"⟩ then
          expect (Text.isName (String.ofList (Text.trimBlanks value.toList)))
          identify value
        else if doctype.typeOf element name = .identifier then identify value

/-- The most elements that may be open at the same time. -/
def elementLimit : Nat :=
  256

/-- Surveys an opening tag at a place and gives the place below it. Identifiers only count outside
of the texts of entities.
-/
def surveyStart (doctype : Doctype) (place : Place) (start : Start) : Survey Place := do
  expect start.name.isProper
  start.attributes.forM (doctype.surveyAttribute place.depth start.name)
  let names := start.ordinary.map Prod.fst
  require (names.Nodup && ((doctype.declarationsOf start).map Prod.fst).Nodup)
  let scope := Scope.below (doctype.allDeclarationsOf start) place.scope
  let assumed := (Start.ordinary ⟨start.name, doctype.assumedOf start.name⟩).map Prod.fst
  (names ++ assumed).forM (fun name => expect (scope.binds name.qualifier))
  let meant := (names ++ assumed.removeAll names).map scope.attributeName
  noteAll (List.replicate (repetitions meant) .fault)
  expect (scope.binds start.name.qualifier)
  require (place.above < elementLimit)
  if place.depth = nestingLimit then start.ordinary.forM (doctype.surveyIdentifier start.name)
  return { place with scope, above := place.above + 1 }

end Doctype

end PathQuery.Xml
