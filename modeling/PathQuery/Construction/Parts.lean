import PathQuery.Value.Datum

/-! What nodes are made from, checked: names, attribute values and the contents of text, comments
and processing instructions. Everything may come from the calling program as any datum.
-/

namespace PathQuery

/-- What a name is the name of. -/
inductive NameRole where
  | element
  | qualifier
  | attributeName
  | target
deriving DecidableEq, Repr

/-- Why a node cannot be made or not be put into another one. -/
inductive ConstructionFault where
  | invalidName (role : NameRole) (description : String)
  | reservedTarget (target : String)
  | invalidComment
  | valueNoText
  | contentNoText
  | malformedName
  | unusable
  | noChild (description : String)
  | alreadyAttached (description : String)
  | redundantAttribute (name : String)
deriving DecidableEq, Repr

/-- What a name is called in messages. -/
def NameRole.describe : NameRole → String
  | .element => "local name"
  | .qualifier => "prefix"
  | .attributeName => "attribute name"
  | .target => "processing instruction target"

/-- The wording of a fault, if it has one. -/
def ConstructionFault.message? : ConstructionFault → Option String
  | .invalidName role description => some ("Invalid " ++ role.describe ++ ": " ++ description)
  | .reservedTarget target => some ("Invalid target name: " ++ target)
  | .invalidComment => some "Invalid Comment content."
  | .valueNoText => some "Attribute values must be strings."
  | .contentNoText => some "The content of a text node must be a string."
  | .malformedName => none
  | .unusable => none
  | .noChild description => some (description ++ " can't be a child node.")
  | .alreadyAttached description =>
      some (description
        ++ " is already attached to a tree. Nodes can only be contained in one tree.")
  | .redundantAttribute name => some ("Redundant attribute: " ++ name)

namespace Construction

/-- Whether a datum counts as nothing where it may be left out. -/
def isNothing : Datum → Bool
  | .null => true
  | .boolean truth => !truth
  | .integer value => value == 0
  | .number value => value.equals (.zero false)
  | .text content => content.isEmpty
  | .list items => items.isEmpty
  | .mapping entries => entries.isEmpty
  | .node _ => false
  | .nodes set => set.items.isEmpty

/-- A datum as a part of other texts. -/
def display : Datum → String
  | .text content => content
  | other => other.describe []

/-- The namespace that a datum names; an empty one is none. -/
def uriFrom (datum : Datum) : Option String :=
  if isNothing datum then none else some (display datum)

/-- The qualifier that a datum names, if there is one. -/
def qualifierFrom : Datum → Option String
  | .null => none
  | datum => some (if isNothing datum then "" else display datum)

/-- A name for a role. -/
def name (role : NameRole) : Datum → Except ConstructionFault String
  | .text content =>
      if Text.isName content then .ok content
      else .error (.invalidName role (quoteText content))
  | other => .error (.invalidName role (other.describe []))

/-- The head of an element without attributes. -/
def head (localPart uri qualifier : Datum) (declarations : List (String × String))
    : Except ConstructionFault Head := do
  let localPart ← name .element localPart
  let qualifier ←
    match qualifier with
    | .null => .ok none
    | other => (name .qualifier other).map some
  .ok ⟨⟨uriFrom uri, localPart⟩, qualifier, [], assignAll [] declarations⟩

/-- An attribute. Names in the XML namespace have their qualifier if no other one is given. -/
def makeAttribute (localPart value uri qualifier : Datum) : Except ConstructionFault Attribute := do
  let localPart ← name .attributeName localPart
  match value with
  | .text value =>
      let uri := uriFrom uri
      let qualifier :=
        match qualifierFrom qualifier with
        | none => if uri = some xmlUri then some xmlQualifier else none
        | given => given
      .ok ⟨⟨uri, localPart⟩, qualifier, value⟩
  | _ => .error .valueNoText

/-- The content of a text. -/
def textContent : Datum → Except ConstructionFault String
  | .text content => .ok content
  | _ => .error .contentNoText

/-- Whether two hyphens follow each other or the last character is one. -/
def hasCommentEnd : List Char → Bool
  | [] => false
  | ['-'] => true
  | '-' :: '-' :: _ => true
  | _ :: rest => hasCommentEnd rest

/-- The content of a comment, which must not look like its end. -/
def commentContent : Datum → Except ConstructionFault String
  | .text content => if hasCommentEnd content.toList then .error .invalidComment else .ok content
  | _ => .error .unusable

/-- The target and content of a processing instruction. The target of the XML declaration is
reserved, whatever its case.
-/
def instruction (target content : Datum) : Except ConstructionFault (String × String) := do
  let target ← name .target target
  if Text.lower target = "xml" then .error (.reservedTarget target)
  else .ok (target, display content)

/-- Whether attributes have pairwise different names; gives the first one that has not, as it is
spelled.
-/
def redundant? (seen : List ExpandedName) : List Attribute → Option String
  | [] => none
  | it :: rest =>
      if seen.contains it.name then some (qualified it.qualifier it.name.localPart)
      else redundant? (it.name :: seen) rest

/-- An element with attributes and content. -/
def element (localPart uri qualifier : Datum) (attributes : List Attribute) (content : List Item)
    (declarations : List (String × String)) : Except ConstructionFault Item := do
  let head ← head localPart uri qualifier declarations
  match redundant? [] attributes with
  | some name => .error (.redundantAttribute name)
  | none => .ok (.element { head with attributes } content)

end Construction

end PathQuery
