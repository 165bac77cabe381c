import PathQuery.Tree.Basic

/-! XML documents as they are written: tags with the names as they are spelled and the namespaces
they declare, texts, references to entities, comments and processing instructions. What a qualifier
stands for is found in the scope of its place, which the declarations around it make up.
-/

namespace PathQuery.Xml

/-- A name as it is spelled, with the qualifier in front of its colon. -/
structure SpelledName where
  qualifier : Option String
  localPart : String
deriving DecidableEq, Repr

/-- The whole name. -/
def SpelledName.text (name : SpelledName) : String :=
  qualified name.qualifier name.localPart

/-- Whether a name has no other colon than the one after its qualifier. -/
def SpelledName.isProper (name : SpelledName) : Bool :=
  !name.localPart.toList.contains ':'

/-- The namespaces that qualifiers stand for, where no qualifier stands for the default one.
The first entry of a qualifier counts.
-/
abbrev Scope :=
  List (Option String × String)

/-- The namespace of a qualifier, none if there is no entry or an empty one. The qualifier `xml`
needs no entry.
-/
def Scope.uri? (scope : Scope) (qualifier : Option String) : Option String :=
  if qualifier = some xmlQualifier then some xmlUri
  else (scope.lookup qualifier).bind uriOf

/-- Whether a qualifier stands for something. -/
def Scope.binds (scope : Scope) (qualifier : Option String) : Bool :=
  qualifier.isNone || qualifier == some xmlQualifier || (scope.lookup qualifier).isSome

/-- The scope below declarations: they themselves, then the outer ones that they do not replace. -/
def Scope.below (own outer : Scope) : Scope :=
  own ++ outer.filter (fun entry => own.all (fun it => it.1 != entry.1))

/-- What the name of an element means. -/
def Scope.elementName (scope : Scope) (name : SpelledName) : ExpandedName :=
  ⟨scope.uri? name.qualifier, name.localPart⟩

/-- What the name of an attribute means: the default namespace is not its own. -/
def Scope.attributeName (scope : Scope) (name : SpelledName) : ExpandedName :=
  ⟨if name.qualifier = none then none else scope.uri? name.qualifier, name.localPart⟩

/-- An attribute as it is written. -/
structure WrittenAttribute where
  name : SpelledName
  value : String
deriving DecidableEq, Repr

/-- The start of an element as it is written. -/
structure Tag where
  name : SpelledName
  attributes : List WrittenAttribute
  declarations : Scope
deriving DecidableEq, Repr

/-- The scope below a tag. -/
def Tag.scope (tag : Tag) (outer : Scope) : Scope :=
  Scope.below tag.declarations outer

/-- What contains nothing else and may also stand around the outermost element. -/
inductive Leaf where
  | comment (content : String)
  | instruction (target content : String)
deriving DecidableEq, Repr

/-- What elements contain. -/
inductive Content where
  | element (tag : Tag) (content : List Content)
  | leaf (it : Leaf)
  | text (content : String)
  | reference (entity : String)
deriving Repr

/-- A document: its outermost element and the leaves around it. -/
structure Document where
  before : List Leaf
  tag : Tag
  content : List Content
  after : List Leaf
deriving Repr

/-- Whether contents count as nodes of their own when places are numbered; texts do not. -/
def Content.isCounted : Content → Bool
  | .text _ => false
  | _ => true

/-- What is found on a path from an element, with the scope around it. -/
def Content.at? (scope : Scope) : Content → List Nat → Option (Scope × Content)
  | it, [] => some (scope, it)
  | .element tag content, index :: path =>
      match (content.filter Content.isCounted)[index]? with
      | some child => child.at? (tag.scope scope) path
      | none => none
  | _, _ :: _ => none

/-- The outermost element. -/
def Document.root (document : Document) : Content :=
  .element document.tag document.content

end PathQuery.Xml
