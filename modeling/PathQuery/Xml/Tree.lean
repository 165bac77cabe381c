import PathQuery.Construction.Parts
import PathQuery.Xml.Document

/-! Trees made from documents. Neighbouring texts become one, references to entities are left out,
and comments, processing instructions and blank texts may be. An element keeps its qualifier; an
attribute gets the first qualifier in scope that stands for its namespace.
-/

namespace PathQuery.Xml

/-- What is left out of trees. -/
structure TreeOptions where
  removeComments : Bool
  removeInstructions : Bool
  stripBlanks : Bool
deriving DecidableEq, Repr

-----------------------------------------------------------------------------------------
-- Heads of elements
-----------------------------------------------------------------------------------------

/-- The first qualifier that stands for a namespace, the default aside. -/
def Scope.qualifierOf? (scope : Scope) (uri : String) : Option String :=
  (scope.find? (fun entry => entry.1.isSome && entry.2 == uri)).bind Prod.fst

/-- An attribute in the scope of its element. -/
def WrittenAttribute.toAttribute (it : WrittenAttribute) (scope : Scope) : Attribute :=
  let name := scope.attributeName it.name
  { name
    qualifier :=
      match name.uri with
      | none => none
      | some uri => (scope.qualifierOf? uri).or (if uri = xmlUri then some xmlQualifier else none)
    value := it.value }

/-- The entries of a scope that differ from those of an outer one. A default namespace that is no
longer there is declared as empty.
-/
def Scope.changes (scope outer : Scope) : List (String × String) :=
  let changed := (scope.filter (fun entry => outer.lookup entry.1 != some entry.2)).map
    (fun entry => (entry.1.getD "", entry.2))
  if (outer.lookup none).isSome && (scope.lookup none).isNone then assign changed "" ""
  else changed

/-- The head of an element in its scope, which declares what is not in force around it. -/
def Tag.toHead (tag : Tag) (around scope : Scope) : Head :=
  { name := scope.elementName tag.name
    qualifier := tag.name.qualifier
    attributes := tag.attributes.map (·.toAttribute scope)
    declarations := scope.changes around }

-----------------------------------------------------------------------------------------
-- Contents of elements
-----------------------------------------------------------------------------------------

/-- Joins neighbouring texts. -/
def mergeTexts : List Item → List Item
  | [] => []
  | .text first :: rest =>
      match mergeTexts rest with
      | .text second :: more => .text (first ++ second) :: more
      | merged => .text first :: merged
  | item :: rest => item :: mergeTexts rest

/-- Whether an item is a text of blanks only. -/
def isBlankText : Item → Bool
  | .text content => content.toList.all Text.isBlank
  | _ => false

/-- Blank texts consist of spaces, tabs, line feeds and carriage returns. -/
theorem isBlankText_iff (item : Item)
    : isBlankText item
      ↔ ∃ content, item = .text content
        ∧ ∀ c ∈ content.toList, c = ' ' ∨ c = '\t' ∨ c = '\n' ∨ c = '\r' := by
  cases item with
  | text content =>
      simp only [isBlankText, List.all_eq_true, Text.isBlank, Bool.or_eq_true, beq_iff_eq,
        Item.text.injEq, exists_eq_left']
      exact forall_congr' fun c => imp_congr_right fun _ => by grind
  | element | comment | instruction => simp [isBlankText]

/-- The content of an element as it stays in the tree. -/
def tidy (options : TreeOptions) (items : List Item) : List Item :=
  if options.stripBlanks then (mergeTexts items).filter (!isBlankText ·) else mergeTexts items

/-- The item of a leaf, unless it is removed. -/
def Leaf.toItem? (options : TreeOptions) : Leaf → Option Item
  | .comment content => if options.removeComments then none else some (.comment content)
  | .instruction target content =>
      if options.removeInstructions then none else some (.instruction target content)

mutual

/-- The item of some content, if there is one, in the scope around it. -/
def Content.toItem? (options : TreeOptions) (around : Scope) : Content → Option Item
  | .element tag content =>
      some (.element (tag.toHead around (tag.scope around))
        (tidy options (itemsOf options (tag.scope around) content)))
  | .leaf it => it.toItem? options
  | .text content => if content.isEmpty then none else some (.text content)
  | .reference _ => none

/-- The items of several contents. -/
def itemsOf (options : TreeOptions) (around : Scope) : List Content → List Item
  | [] => []
  | it :: rest => (it.toItem? options around).toList ++ itemsOf options around rest

end

mutual

/-- The entities that some content refers to. -/
def Content.references : Content → List String
  | .element _ content => referencesOf content
  | .leaf _ => []
  | .text _ => []
  | .reference entity => [entity]

/-- The entities that several contents refer to. -/
def referencesOf : List Content → List String
  | [] => []
  | it :: rest => it.references ++ referencesOf rest

end

-----------------------------------------------------------------------------------------
-- Trees
-----------------------------------------------------------------------------------------

/-- A tree and the entities that were left out of it. -/
structure Built where
  top : Top
  ignored : List String
deriving Repr

/-- The tree of a document. -/
def Document.toTree (options : TreeOptions) (document : Document) : Built :=
  { top := .document
      (document.before.filterMap (·.toItem? options)
        ++ (document.root.toItem? options []).toList
        ++ document.after.filterMap (·.toItem? options))
    ignored := document.root.references }

/-- The tree of an element without the document around it, whose namespaces are all declared. -/
def elementTree (options : TreeOptions) (around : Scope) (tag : Tag) (content : List Content)
    : Built :=
  let scope := tag.scope around
  { top := .item (.element (tag.toHead [] scope) (tidy options (itemsOf options scope content)))
    ignored := referencesOf content }

-----------------------------------------------------------------------------------------
-- Parts that fit into no tree
-----------------------------------------------------------------------------------------

/-- Whether a name is one that trees can hold: its qualifier stands for something, and neither its
namespace nor its local part disturbs the notation in braces.
-/
def Scope.isUsable (scope : Scope) (name : SpelledName) (meant : ExpandedName) : Bool :=
  scope.binds name.qualifier && name.isProper && !(meant.uri.getD "").toList.contains '\x7d'

/-- Why a leaf fits into no tree. One that is removed does no harm. -/
def Leaf.fault? (options : TreeOptions) : Leaf → Option ConstructionFault
  | .comment _ => none
  | .instruction target content =>
      if options.removeInstructions then none
      else
        match Construction.instruction (.text target) (.text content) with
        | .ok _ => none
        | .error fault => some fault

/-- Why the attributes of a tag fit into no tree, in the scope of the tag. -/
def Tag.attributesFault? (tag : Tag) (scope : Scope) : Option ConstructionFault :=
  if tag.attributes.all (fun it => scope.isUsable it.name (scope.attributeName it.name)) then
    (Construction.redundant? [] (tag.attributes.map (·.toAttribute scope))).map .redundantAttribute
  else some .malformedName

mutual

/-- Why some content fits into no tree: the name of an element comes before its content, its
attributes come last.
-/
def Content.fault? (options : TreeOptions) (around : Scope) : Content → Option ConstructionFault
  | .element tag content =>
      let scope := tag.scope around
      if scope.isUsable tag.name (scope.elementName tag.name) then
        (faultOf? options scope content).or (tag.attributesFault? scope)
      else some .malformedName
  | .leaf it => it.fault? options
  | .text _ => none
  | .reference _ => none

/-- Why the first of several contents that does not fit fits into no tree. -/
def faultOf? (options : TreeOptions) (around : Scope) : List Content → Option ConstructionFault
  | [] => none
  | it :: rest => (it.fault? options around).or (faultOf? options around rest)

end

/-- Why a document has no tree. -/
def Document.fault? (options : TreeOptions) (document : Document) : Option ConstructionFault :=
  (document.before.findSome? (·.fault? options)).or
    ((document.root.fault? options []).or (document.after.findSome? (·.fault? options)))

-----------------------------------------------------------------------------------------
-- Selected parts
-----------------------------------------------------------------------------------------

/-- Why a part of a document has no tree. -/
inductive SelectionFault where
  | notFound
  | noElement
  | construction (fault : ConstructionFault)
deriving DecidableEq, Repr

/-- The wording of a fault, if it has one. -/
def SelectionFault.message? : SelectionFault → Option String
  | .notFound => none
  | .noElement => some "Only element trees and elements can be converted."
  | .construction fault => fault.message?

/-- A tree, unless there is a fault. -/
def Built.orFault (built : Built) : Option ConstructionFault → Except SelectionFault Built
  | none => .ok built
  | some fault => .error (.construction fault)

/-- The tree of what is found on a path from the outermost element, which stands for the whole
document.
-/
def Document.treeAt (options : TreeOptions) (document : Document) (path : List Nat)
    : Except SelectionFault Built :=
  if path.isEmpty then (document.toTree options).orFault (document.fault? options)
  else
    match document.root.at? [] path with
    | some (around, .element tag content) =>
        (elementTree options around tag content).orFault
          ((Content.element tag content).fault? options around)
    | some _ => .error .noElement
    | none => .error .notFound

/-- The warning about an entity that was left out. -/
def ignoredWarning (entity : String) : String :=
  "The unresolved entity reference &" ++ entity ++ "; is ignored."

end PathQuery.Xml
