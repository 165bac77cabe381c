import PathQuery.Text.Name
import PathQuery.Text.Lower

/-! Trees of documents, elements, text, comments and processing instructions, and the paths that
lead to the items of a tree. Attributes belong to an element's head and are no items; a tree may
also consist of a lone attribute or a lone namespace binding.
-/

namespace PathQuery

/-- The namespace that `xml` is bound to everywhere. -/
def xmlUri : String :=
  "http://www.w3.org/XML/1998/namespace"

/-- The qualifier of names in `xmlUri`. -/
def xmlQualifier : String :=
  "xml"

/-- An attribute with its expanded name, the qualifier it is spelled with and its value. -/
structure Attribute where
  name : ExpandedName
  qualifier : Option String
  value : String
deriving DecidableEq, Repr

/-- The start of an element: its name, its attributes in order and the namespace declarations
that are made on it, where the empty qualifier declares the default namespace.
-/
structure Head where
  name : ExpandedName
  qualifier : Option String
  attributes : List Attribute
  declarations : List (String × String)
deriving DecidableEq, Repr

/-- What documents and elements contain. -/
inductive Item where
  | element (head : Head) (content : List Item)
  | text (content : String)
  | comment (content : String)
  | instruction (target content : String)
deriving Repr

/-- The top of a tree. -/
inductive Top where
  | document (content : List Item)
  | item (item : Item)
  | loneAttribute (it : Attribute)
  | loneBinding (qualifier uri : String)
deriving Repr

namespace Item

/-- The items that an item contains; only elements contain any. -/
def content : Item → List Item
  | .element _ content => content
  | _ => []

/-- The head of an element. -/
def head? : Item → Option Head
  | .element head _ => some head
  | _ => none

/-- The characters of a text item. -/
def text? : Item → Option String
  | .text content => some content
  | _ => none

mutual

/-- The number of items in a tree of items. -/
def size : Item → Nat
  | .element _ content => 1 + sizeAll content
  | .text _ => 1
  | .comment _ => 1
  | .instruction _ _ => 1

/-- The number of items in a list of trees. -/
def sizeAll : List Item → Nat
  | [] => 0
  | item :: rest => item.size + sizeAll rest

end

/-- The item that a path of child indexes leads to. -/
def at? : Item → List Nat → Option Item
  | item, [] => some item
  | item, index :: path =>
      match item.content[index]? with
      | some child => child.at? path
      | none => none

/-- The heads of the elements on a path, the outermost first. -/
def headsAlong : Item → List Nat → List Head
  | item, [] => item.head?.toList
  | item, index :: path =>
      item.head?.toList
        ++ match item.content[index]? with
          | some child => child.headsAlong path
          | none => []

end Item

namespace Head

/-- The first attribute with an expanded name. -/
def attribute? (head : Head) (name : ExpandedName) : Option Attribute :=
  head.attributes.find? (·.name = name)

end Head

namespace Top

/-- The items right below the top. -/
def content : Top → List Item
  | .document content => content
  | .item it => it.content
  | _ => []

/-- The item that a path from the top leads to. A document is no item. -/
def at? : Top → List Nat → Option Item
  | .item it, path => it.at? path
  | .document content, index :: path => content[index]?.bind (·.at? path)
  | _, _ => none

/-- The items right below the node that a path leads to. -/
def contentAt (top : Top) (path : List Nat) : List Item :=
  match path with
  | [] => top.content
  | _ :: _ => ((top.at? path).map Item.content).getD []

/-- The heads of the elements on a path, the outermost first. -/
def headsAlong : Top → List Nat → List Head
  | .item it, path => it.headsAlong path
  | .document content, index :: path =>
      ((content[index]?).map (·.headsAlong path)).getD []
  | _, _ => []

/-- Whether the top is a document, which is the root of its tree. -/
def isDocument : Top → Bool
  | .document _ => true
  | _ => false

/-- Whether the top is a lone attribute or a lone binding. -/
def isLone : Top → Bool
  | .loneAttribute _ => true
  | .loneBinding _ _ => true
  | _ => false

end Top

end PathQuery
