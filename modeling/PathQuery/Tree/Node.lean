import PathQuery.Tree.Scope
import PathQuery.Tree.Traversal

/-! Nodes are named by the tree they belong to and their place in it. A tree without document has
an origin as root, which is no part of the tree; each evaluation stamps the origins it makes. What
a node is, and what it holds, is seen through its `View`.
-/

namespace PathQuery

/-- A place in a tree: its origin, the top or an item below it, or one of the attributes or
namespace bindings of the element that a path leads to.
-/
inductive Place where
  | origin (stamp : Nat)
  | inner (path : List Nat)
  | attributeAt (path : List Nat) (index : Nat)
  | bindingAt (path : List Nat) (index : Nat)
deriving DecidableEq, Repr

/-- A node of a forest. -/
structure Node where
  tree : Nat
  place : Place
deriving DecidableEq, Repr

/-- Trees in a fixed order. -/
abbrev Forest :=
  List Top

/-- What is found at a place. -/
inductive View where
  | origin (top : Top)
  | document (content : List Item)
  | item (it : Item)
  | attributeView (it : Attribute)
  | bindingView (qualifier uri : String)
deriving Repr

/-- The kinds of nodes. -/
inductive Kind where
  | origin
  | document
  | element
  | attributeKind
  | bindingKind
  | text
  | comment
  | instruction
deriving DecidableEq, Repr

-----------------------------------------------------------------------------------------
-- Places
-----------------------------------------------------------------------------------------

/-- The indexes on the way to a place and the index of the place itself, none for the top. -/
def splitPath : List Nat → Option (List Nat × Nat)
  | [] => none
  | [index] => some ([], index)
  | index :: next :: rest =>
      (splitPath (next :: rest)).map (fun (path, last) => (index :: path, last))

/-- The paths of the nodes above the one that a path leads to, the closest first. -/
def pathsAbove (path : List Nat) : List (List Nat) :=
  (List.range path.length).reverse.map path.take

namespace Top

/-- What is found at a place of a tree. -/
def view? (top : Top) : Place → Option View
  | .origin _ => some (.origin top)
  | .inner path =>
      match top, path with
      | .document content, [] => some (.document content)
      | .loneAttribute it, [] => some (.attributeView it)
      | .loneBinding qualifier uri, [] => some (.bindingView qualifier uri)
      | _, _ => (top.at? path).map .item
  | .attributeAt path index => (top.attributesAt path)[index]?.map .attributeView
  | .bindingAt path index =>
      (top.bindingsAt path)[index]?.map (fun entry => .bindingView entry.1 entry.2)

/-- The nodes above a place within the tree, the closest first. The origin is not one. -/
def above : Place → List Place
  | .origin _ => []
  | .inner path => (pathsAbove path).map .inner
  | .attributeAt path _ => .inner path :: (pathsAbove path).map .inner
  | .bindingAt path _ => .inner path :: (pathsAbove path).map .inner

/-- The nodes right below a place; an origin has the top below it. -/
def below (top : Top) : Place → List Place
  | .origin _ => [.inner []]
  | .inner path => (located path 0 (top.contentAt path)).map (fun entry => .inner entry.1)
  | _ => []

/-- All nodes below a place in document order. -/
def descendants (top : Top) : Place → List Place
  | .origin _ =>
      .inner [] :: (walk (located [] 0 top.content)).map (fun entry => .inner entry.1)
  | .inner path =>
      (walk (located path 0 (top.contentAt path))).map (fun entry => .inner entry.1)
  | _ => []

/-- A place and all nodes below it, against document order. -/
def backwards (top : Top) : Place → List Place
  | .origin stamp =>
      (walkBack (Visit.trees (located [] 0 top.content))).map (fun entry => .inner entry.1)
        ++ [.inner [], .origin stamp]
  | .inner path =>
      (walkBack (Visit.trees (located path 0 (top.contentAt path)))).map
          (fun entry => .inner entry.1)
        ++ [.inner path]
  | place => [place]

end Top

-----------------------------------------------------------------------------------------
-- What a view holds
-----------------------------------------------------------------------------------------

namespace View

/-- The kind of the node. -/
def kind : View → Kind
  | .origin _ => .origin
  | .document _ => .document
  | .item (.element _ _) => .element
  | .item (.text _) => .text
  | .item (.comment _) => .comment
  | .item (.instruction _ _) => .instruction
  | .attributeView _ => .attributeKind
  | .bindingView _ _ => .bindingKind

/-- The local part of the node's name: a target for an instruction, the qualifier for a
namespace binding, empty for nodes without a name.
-/
def localPart : View → String
  | .item (.element head _) => head.name.localPart
  | .item (.instruction target _) => target
  | .attributeView it => it.name.localPart
  | .bindingView qualifier _ => qualifier
  | _ => ""

/-- The namespace of the node's name. -/
def uri : View → Option String
  | .item (.element head _) => head.name.uri
  | .attributeView it => it.name.uri
  | _ => none

/-- The qualifier that the node's name is spelled with. -/
def qualifier : View → Option String
  | .item (.element head _) => head.qualifier
  | .attributeView it => it.qualifier
  | .bindingView qualifier _ => some qualifier
  | _ => none

/-- The node's name as it is spelled. -/
def qualifiedName : View → String
  | .item (.element head _) => qualified head.qualifier head.name.localPart
  | .attributeView it => qualified it.qualifier it.name.localPart
  | other => other.localPart

/-- The characters of all text items below, in document order. -/
def textBelow (content : List Item) : String :=
  String.join ((walk (located [] 0 content)).filterMap (fun entry => entry.2.text?))

/-- The string-value of an item. -/
def itemText : Item → String
  | .element _ content => textBelow content
  | .text content => content
  | .comment content => content
  | .instruction _ content => content

/-- The string-value: the text below documents and elements, else what the node contains. An
origin has the string-value of the top.
-/
def stringValue : View → String
  | .origin (.document content) => textBelow content
  | .origin (.item it) => itemText it
  | .origin (.loneAttribute it) => it.value
  | .origin (.loneBinding _ uri) => uri
  | .document content => textBelow content
  | .item it => itemText it
  | .attributeView it => it.value
  | .bindingView _ uri => uri

/-- The head of an element. -/
def head? : View → Option Head
  | .item it => it.head?
  | _ => none

/-- The number of items right below; an origin has no length. -/
def length? : View → Option Nat
  | .origin _ => none
  | .document content => some content.length
  | .item it => some it.content.length
  | _ => some 0

end View

-----------------------------------------------------------------------------------------
-- Nodes of a forest
-----------------------------------------------------------------------------------------

namespace Forest

/-- What is found at a node. -/
def view? (forest : Forest) (node : Node) : Option View :=
  forest[node.tree]?.bind (·.view? node.place)

/-- The places of a tree as nodes. -/
def nodesAt (tree : Nat) (places : List Place) : List Node :=
  places.map (Node.mk tree)

/-- The nodes above a node, the closest first. -/
def above (node : Node) : List Node :=
  nodesAt node.tree (Top.above node.place)

/-- The nodes right below a node. -/
def below (forest : Forest) (node : Node) : List Node :=
  match forest[node.tree]? with
  | some top => nodesAt node.tree (top.below node.place)
  | none => []

/-- All nodes below a node in document order. -/
def descendants (forest : Forest) (node : Node) : List Node :=
  match forest[node.tree]? with
  | some top => nodesAt node.tree (top.descendants node.place)
  | none => []

/-- The string-value of a node. -/
def stringValue (forest : Forest) (node : Node) : String :=
  ((forest.view? node).map View.stringValue).getD ""

/-- The head of a node that is an element. -/
def head? (forest : Forest) (node : Node) : Option Head :=
  (forest.view? node).bind View.head?

/-- The namespaces in scope of a node that is an element. -/
def scope (forest : Forest) (node : Node) : List (String × String) :=
  match forest[node.tree]?, node.place with
  | some top, .inner path => top.scopeAt path
  | _, _ => []

/-- Whether a node is a root: an origin or a document. -/
def isRoot (forest : Forest) (node : Node) : Bool :=
  match forest.view? node with
  | some (.origin _) => true
  | some (.document _) => true
  | _ => false

/-- The root of a node's tree: the document, or else the origin with the given stamp; an origin
is its own root.
-/
def rootOf (forest : Forest) (stamp : Nat) (node : Node) : Node :=
  match node.place with
  | .origin _ => node
  | _ =>
      if (forest[node.tree]?.map Top.isDocument).getD false then ⟨node.tree, .inner []⟩
      else ⟨node.tree, .origin stamp⟩

end Forest

end PathQuery
