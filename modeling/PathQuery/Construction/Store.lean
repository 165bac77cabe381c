import PathQuery.Construction.Parts

/-! Nodes made one after another, where each can be put into one other node only. Elements and
documents adopt their children in order, and elements their attributes after that; what was adopted
before a fault stays adopted, although the node that adopted it never comes to be.
-/

namespace PathQuery

/-- What a made node is. The head of an element lists no attributes, which are nodes of their
own here.
-/
inductive Label where
  | document
  | element (head : Head)
  | attributeLabel (it : Attribute)
  | binding (qualifier uri : String)
  | text (content : String)
  | comment (content : String)
  | instruction (target content : String)
deriving DecidableEq, Repr

/-- The node that another one was put into: none so far, a made one or one that never came to
be.
-/
inductive Attachment where
  | free
  | to (parent : Nat)
  | lost
deriving DecidableEq, Repr

/-- A made node. -/
structure Entry where
  label : Label
  attachment : Attachment
  children : List Nat
  attributes : List Nat
deriving DecidableEq, Repr

/-- The nodes made so far, named by their order. -/
structure Store where
  entries : List Entry
deriving DecidableEq, Repr

/-- What is given as a child: a text, a made node or anything else. -/
inductive Child where
  | text (content : String)
  | node (id : Nat)
  | other (datum : Datum)

/-- How the name of a new attribute is given: possibly in braces notation, or as namespace and
local part.
-/
inductive AttributeName where
  | braces (text : String)
  | parts (uri : Option String) (localPart : String)
deriving DecidableEq, Repr

/-- What is given as an attribute: a name with a value, a made node or anything else. -/
inductive GivenAttribute where
  | named (name : AttributeName) (value : Datum)
  | node (id : Nat)
  | other

/-- What is given as the declarations of an element: qualifiers with their namespaces, or what no
mapping can be made of.
-/
inductive GivenDeclarations where
  | pairs (entries : List (String × String))
  | other
deriving DecidableEq, Repr

/-- The declarations as a mapping has them, in which each qualifier has its last namespace. -/
def GivenDeclarations.entries? : GivenDeclarations → Option (List (String × String))
  | .pairs entries => some (assignAll [] entries)
  | .other => none

/-- How a made node appears in messages. -/
def Label.describe : Label → String
  | .document => describeDocument
  | .element head => describeElement head.name
  | .attributeLabel it => describeAttribute (qualified it.qualifier it.name.localPart) it.value
  | .binding qualifier uri => describeBinding qualifier uri
  | .text content => describeText content
  | .comment content => describeComment content
  | .instruction target content => describeInstruction target content

/-- Whether a node can be the child of another one. -/
def Label.isChild : Label → Bool
  | .element _ => true
  | .text _ => true
  | .comment _ => true
  | .instruction _ _ => true
  | _ => false

namespace Store

/-- No nodes. -/
def empty : Store :=
  ⟨[]⟩

/-- The node of a name. -/
def get? (store : Store) (id : Nat) : Option Entry :=
  store.entries[id]?

/-- Adds a node with what it contains, and gives its name. -/
def add (store : Store) (entry : Entry) : Store × Nat :=
  (⟨store.entries ++ [entry]⟩, store.entries.length)

/-- Adds a node that contains nothing and is in no other one. -/
def addFree (store : Store) (label : Label) : Store × Nat :=
  store.add ⟨label, .free, [], []⟩

/-- Changes what a node is attached to. -/
def attach (store : Store) (attachment : Attachment) (id : Nat) : Store :=
  ⟨store.entries.modify id (fun entry => { entry with attachment })⟩

/-- A store after an attempt, with what the attempt led to. -/
abbrev Attempt (α : Type) :=
  Store × Except ConstructionFault α

/-- Takes a node into one that is being made. A node is taken once only. -/
def adopt (store : Store) (id : Nat) (entry : Entry) : Attempt Nat :=
  if entry.attachment = .free then (store.attach .lost id, .ok id)
  else (store, .error (.alreadyAttached entry.label.describe))

/-- Takes a child into a node that is being made. -/
def adoptChild (store : Store) : Child → Attempt Nat
  | .text content =>
      let (store, id) := store.add ⟨.text content, .lost, [], []⟩
      (store, .ok id)
  | .node id =>
      match store.get? id with
      | some entry =>
          if entry.label.isChild then store.adopt id entry
          else (store, .error (.noChild entry.label.describe))
      | none => (store, .error .unusable)
  | .other datum => (store, .error (.noChild (datum.describe [])))

/-- Takes children in order, up to the first fault. -/
def adoptChildren (store : Store) : List Child → Attempt (List Nat)
  | [] => (store, .ok [])
  | child :: rest =>
      match store.adoptChild child with
      | (store, .error fault) => (store, .error fault)
      | (store, .ok id) =>
          let (store, others) := store.adoptChildren rest
          (store, others.map (id :: ·))

/-- Makes the attribute of a name and a value. -/
def namedAttribute (name : AttributeName) (value : Datum) : Except ConstructionFault Attribute :=
  match name with
  | .parts uri localPart =>
      Construction.makeAttribute (.text localPart) value
        ((uri.map Datum.text).getD .null) .null
  | .braces text =>
      match ExpandedName.ofBraces? text with
      | some name =>
          Construction.makeAttribute (.text name.localPart) value
            ((name.uri.map Datum.text).getD .null) .null
      | none => .error .malformedName

/-- The name in the store of what is given as an attribute, and the attribute. A new one is made
first.
-/
def attributeEntry (store : Store) : GivenAttribute → Attempt (Nat × Attribute)
  | .named name value =>
      match namedAttribute name value with
      | .ok it =>
          let (store, id) := store.addFree (.attributeLabel it)
          (store, .ok (id, it))
      | .error fault => (store, .error fault)
  | .node id =>
      match store.get? id with
      | some ⟨.attributeLabel it, _, _, _⟩ => (store, .ok (id, it))
      | _ => (store, .error .unusable)
  | .other => (store, .error .unusable)

/-- Takes attributes in order, up to the first fault; each is checked against the names of those
before it and then taken.
-/
def adoptAttributes (store : Store) (seen : List ExpandedName)
    : List GivenAttribute → Attempt (List Nat)
  | [] => (store, .ok [])
  | given :: rest =>
      match store.attributeEntry given with
      | (store, .error fault) => (store, .error fault)
      | (store, .ok (id, it)) =>
          if seen.contains it.name then
            (store,
              .error (.redundantAttribute (qualified it.qualifier it.name.localPart)))
          else
            match store.get? id with
            | none => (store, .error .unusable)
            | some entry =>
                match store.adopt id entry with
                | (store, .error fault) => (store, .error fault)
                | (store, .ok id) =>
                    let (store, others) := store.adoptAttributes (it.name :: seen) rest
                    (store, others.map (id :: ·))

/-- Adds a node that took children and attributes; they are in it from now on. -/
def complete (store : Store) (label : Label) (children attributes : List Nat) : Store × Nat :=
  let (store, id) := store.add ⟨label, .free, children, attributes⟩
  ((children ++ attributes).foldl (attach · (.to id)) store, id)

/-- Makes a document of children. -/
def makeDocument (store : Store) (children : List Child) : Attempt Nat :=
  match store.adoptChildren children with
  | (store, .error fault) => (store, .error fault)
  | (store, .ok ids) =>
      let (store, id) := store.complete .document ids []
      (store, .ok id)

/-- Makes an element: its names are checked first, then the children are taken, the declarations
are read and the attributes are taken.
-/
def makeElement (store : Store) (localPart uri qualifier : Datum) (children : List Child)
    (declarations : GivenDeclarations) (attributes : List GivenAttribute) : Attempt Nat :=
  match Construction.head localPart uri qualifier [] with
  | .error fault => (store, .error fault)
  | .ok head =>
      match store.adoptChildren children with
      | (store, .error fault) => (store, .error fault)
      | (store, .ok childIds) =>
          match declarations.entries? with
          | none => (store, .error .unusable)
          | some declared =>
              match store.adoptAttributes [] attributes with
              | (store, .error fault) => (store, .error fault)
              | (store, .ok attributeIds) =>
                  let label := .element { head with declarations := declared }
                  let (store, id) := store.complete label childIds attributeIds
                  (store, .ok id)

/-- The kinds of nodes that contain no others. -/
inductive LeafKind where
  | attributeLeaf
  | binding
  | text
  | comment
  | instruction
deriving DecidableEq, Repr

/-- What a node of a kind becomes from its arguments in order. -/
def leafLabel (kind : LeafKind) (arguments : List Datum) : Except ConstructionFault Label :=
  match kind, arguments with
  | .text, [content] => (Construction.textContent content).map .text
  | .comment, [content] => (Construction.commentContent content).map .comment
  | .instruction, [target] =>
      (Construction.instruction target (.text "")).map (fun it => .instruction it.1 it.2)
  | .instruction, [target, content] =>
      (Construction.instruction target content).map (fun it => .instruction it.1 it.2)
  | .binding, [qualifier, uri] =>
      .ok (.binding (Construction.display qualifier) (Construction.display uri))
  | .attributeLeaf, localPart :: value :: more =>
      if 2 < more.length then .error .unusable
      else
        (Construction.makeAttribute localPart value (more[0]?.getD .null)
          (more[1]?.getD .null)).map .attributeLabel
  | _, _ => .error .unusable

/-- Makes a node that contains no others. -/
def makeLeaf (store : Store) (kind : LeafKind) (arguments : List Datum) : Attempt Nat :=
  match leafLabel kind arguments with
  | .error fault => (store, .error fault)
  | .ok label =>
      let (store, id) := store.addFree label
      (store, .ok id)

/-- The node that a node is in. -/
def parent? (store : Store) (id : Nat) : Option Nat :=
  match (store.get? id).map Entry.attachment with
  | some (.to parent) => some parent
  | _ => none

/-- The name of a node that is an attribute. -/
def attributeName? (store : Store) (id : Nat) : Option ExpandedName :=
  match (store.get? id).map Entry.label with
  | some (.attributeLabel it) => some it.name
  | _ => none

/-- The first attribute with a name among those of an element. -/
def attribute? (store : Store) (id : Nat) (name : ExpandedName) : Option Nat :=
  (store.get? id).bind fun entry =>
    entry.attributes.find? fun it => store.attributeName? it == some name

end Store

/-- A request to make a node. -/
inductive Call where
  | document (children : List Child)
  | element (localPart uri qualifier : Datum) (children : List Child)
    (declarations : GivenDeclarations) (attributes : List GivenAttribute)
  | leaf (kind : Store.LeafKind) (arguments : List Datum)

/-- Makes the node of a call, if it can be made. -/
def Call.perform (store : Store) : Call → Store.Attempt Nat
  | .document children => store.makeDocument children
  | .element localPart uri qualifier children declarations attributes =>
      store.makeElement localPart uri qualifier children declarations attributes
  | .leaf kind arguments => store.makeLeaf kind arguments

/-- The store after calls, each of which may have failed. -/
def Store.after (store : Store) (calls : List Call) : Store :=
  calls.foldl (fun store call => (call.perform store).1) store

/-- Attributes as a mapping gives them: of equal names the last value counts, at the first
place.
-/
def GivenAttribute.ofMapping (entries : List (AttributeName × Datum)) : List GivenAttribute :=
  (assignAll [] entries).map (fun entry => .named entry.1 entry.2)

end PathQuery
