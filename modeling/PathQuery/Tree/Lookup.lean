import PathQuery.Tree.Node

/-! Single nodes looked up from another one: a child by its index, which may count from the end, and
an attribute by its name.
-/

namespace PathQuery

/-- The place that an index names in a list of some length, negative ones from the end. -/
def indexFromEnds? (length : Nat) (index : Int) : Option Nat :=
  let place := if index < 0 then index + length else index
  if 0 ≤ place ∧ place < length then some place.toNat else none

/-- Why a node cannot be looked up: there is none at the index, or nodes of this kind have no
items or no attributes to choose from.
-/
inductive LookupFault where
  | outOfRange
  | noItems
  | noAttributes
deriving DecidableEq, Repr

namespace Forest

/-- The child at an index of a document or an element. -/
def childAt (forest : Forest) (node : Node) (index : Int) : Except LookupFault Node :=
  match (forest.view? node).map View.kind with
  | some .document | some .element =>
      let children := forest.below node
      match (indexFromEnds? children.length index).bind (children[·]?) with
      | some child => .ok child
      | none => .error .outOfRange
  | _ => .error .noItems

/-- The attribute of an element with a name. -/
def attributeNode? (forest : Forest) (node : Node) (name : ExpandedName)
    : Except LookupFault (Option Node) :=
  match forest.head? node, node.place with
  | some head, .inner path =>
      .ok ((head.attributes.findIdx? (·.name = name)).map
        (fun index => ⟨node.tree, .attributeAt path index⟩))
  | _, _ => .error .noAttributes

end Forest

end PathQuery
