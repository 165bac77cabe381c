import PathQuery.Construction.Store
import PathQuery.Tree.Scope

/-! The trees that made nodes are in, and the namespace nodes of their elements. An element makes its
namespace nodes when it is asked for them the first time, from the declarations that are around it
by then, and keeps them from then on, whatever it is put into later.
-/

namespace PathQuery

namespace Store

-----------------------------------------------------------------------------------------
-- Trees
-----------------------------------------------------------------------------------------

/-- The attribute that a made node is. -/
def attributeOf? (store : Store) (id : Nat) : Option Attribute :=
  match (store.get? id).map Entry.label with
  | some (.attributeLabel it) => some it
  | _ => none

/-- The head of a made element, with the attributes that it has. -/
def head? (store : Store) (id : Nat) : Option Head :=
  match store.get? id with
  | some ⟨.element head, _, _, attributes⟩ =>
      some { head with attributes := attributes.filterMap store.attributeOf? }
  | _ => none

/-- A made element, text, comment or processing instruction with all that is in it. Children were
made before the node that they are in.
-/
def item? (store : Store) (id : Nat) : Option Item :=
  match store.get? id with
  | some ⟨.element head, _, children, attributes⟩ =>
      some (.element { head with attributes := attributes.filterMap store.attributeOf? }
        (children.filterMap fun child => if child < id then store.item? child else none))
  | some ⟨.text content, _, _, _⟩ => some (.text content)
  | some ⟨.comment content, _, _, _⟩ => some (.comment content)
  | some ⟨.instruction target content, _, _, _⟩ => some (.instruction target content)
  | _ => none
termination_by id

/-- The tree with a made node as its top. -/
def top? (store : Store) (id : Nat) : Option Top :=
  match store.get? id with
  | some ⟨.document, _, children, _⟩ => some (.document (children.filterMap store.item?))
  | some ⟨.attributeLabel it, _, _, _⟩ => some (.loneAttribute it)
  | some ⟨.binding qualifier uri, _, _, _⟩ => some (.loneBinding qualifier uri)
  | _ => (store.item? id).map .item

/-- The index of a node among the children of another one. -/
def indexIn (store : Store) (parent id : Nat) : Nat :=
  ((store.get? parent).map (·.children.idxOf id)).getD 0

/-- The top of the tree that a made node is in, and the path from there. The node that it is in was
made later.
-/
def place (store : Store) (id : Nat) : Nat × List Nat :=
  match store.parent? id with
  | some parent =>
      if id < parent ∧ parent < store.entries.length then
        let (top, path) := store.place parent
        (top, path ++ [store.indexIn parent id])
      else (id, [])
  | none => (id, [])
termination_by store.entries.length - id

-----------------------------------------------------------------------------------------
-- Namespaces in scope
-----------------------------------------------------------------------------------------

/-- The namespaces in scope of a made element. -/
def scope (store : Store) (id : Nat) : List (String × String) :=
  ((store.top? (store.place id).1).map (·.scopeAt (store.place id).2)).getD []

/-- The namespaces in scope of a made element, in the order of the namespace nodes that it would make
now.
-/
def bindings (store : Store) (id : Nat) : List (String × String) :=
  ((store.top? (store.place id).1).map (·.bindingsAt (store.place id).2)).getD []

end Store

/-- The nodes made in a session, and the namespaces that the namespace nodes of elements stand for,
for each element that was asked for them.
-/
structure Session where
  store : Store
  kept : List (Nat × List (String × String))

namespace Session

/-- What is done in a session: a node is to be made, or an element is asked for its namespace
nodes.
-/
inductive Action where
  | call (it : Call)
  | ask (id : Nat)

/-- No nodes were made. -/
def start : Session :=
  ⟨.empty, []⟩

/-- The namespaces that the namespace nodes of an element stand for. They are made when it is asked
for the first time.
-/
def ask (session : Session) (id : Nat) : Session × Option (List (String × String)) :=
  match session.store.head? id, session.kept.lookup id with
  | none, _ => (session, none)
  | some _, some entries => (session, some entries)
  | some _, none =>
      let entries := session.store.bindings id
      ({ session with kept := (id, entries) :: session.kept }, some entries)

/-- The session after an action, which may have failed. -/
def perform (session : Session) : Action → Session
  | .call it => { session with store := (it.perform session.store).1 }
  | .ask id => (session.ask id).1

/-- The session after actions. -/
def after (session : Session) (actions : List Action) : Session :=
  actions.foldl perform session

end Session

end PathQuery
