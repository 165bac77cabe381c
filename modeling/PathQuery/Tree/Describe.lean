import PathQuery.Tree.Node

/-! How nodes appear in messages: the kind of node and what identifies it for a reader. The number
that tells nodes apart in memory is left blank.
-/

namespace PathQuery

/-- The description of a node of some kind with its details. -/
def describeAs (kind : String) (details : Option String) : String :=
  match details with
  | some details => "<" ++ kind ++ "(" ++ details ++ ") [0x]>"
  | none => "<" ++ kind ++ " [0x]>"

/-- A text between double quotes, unescaped. -/
def doubleQuoted (text : String) : String :=
  "\"" ++ text ++ "\""

/-- A name with its namespace in braces. -/
def ExpandedName.toBraces (name : ExpandedName) : String :=
  match name.uri with
  | some uri => "\x7b" ++ uri ++ "\x7d" ++ name.localPart
  | none => name.localPart

/-- Describes an element by its name. -/
def describeElement (name : ExpandedName) : String :=
  describeAs "ElementNode" (some (doubleQuoted name.toBraces))

/-- Describes an attribute as it is spelled. -/
def describeAttribute (qualifiedName value : String) : String :=
  describeAs "AttributeNode" (some (qualifiedName ++ "=" ++ doubleQuoted value))

/-- Describes a namespace binding. -/
def describeBinding (qualifier uri : String) : String :=
  describeAs "NamespaceNode" (some (doubleQuoted qualifier ++ "=" ++ doubleQuoted uri))

/-- Describes a text. -/
def describeText (content : String) : String :=
  describeAs "TextNode" (some (doubleQuoted content))

/-- Describes a comment. -/
def describeComment (content : String) : String :=
  describeAs "CommentNode" (some (doubleQuoted content))

/-- Describes a processing instruction. -/
def describeInstruction (target content : String) : String :=
  describeAs "ProcessingInstructionNode"
    (some (doubleQuoted target ++ ", " ++ doubleQuoted content))

/-- Describes a document. -/
def describeDocument : String :=
  describeAs "DocumentNode" none

/-- Describes an item. -/
def Item.describe : Item → String
  | .element head _ => describeElement head.name
  | .text content => describeText content
  | .comment content => describeComment content
  | .instruction target content => describeInstruction target content

/-- Describes the top of a tree. -/
def Top.describe : Top → String
  | .document _ => describeDocument
  | .item it => it.describe
  | .loneAttribute it =>
      describeAttribute (qualified it.qualifier it.name.localPart) it.value
  | .loneBinding qualifier uri => describeBinding qualifier uri

/-- Describes a node by its view. -/
def View.describe : View → String
  | .origin top => describeAs "DetachedTreeRoot" (some top.describe)
  | .document _ => describeDocument
  | .item it => it.describe
  | .attributeView it => describeAttribute (qualified it.qualifier it.name.localPart) it.value
  | .bindingView qualifier uri => describeBinding qualifier uri

/-- Describes a node of a forest. -/
def Forest.describe (forest : Forest) (node : Node) : String :=
  ((forest.view? node).map View.describe).getD ""

end PathQuery
