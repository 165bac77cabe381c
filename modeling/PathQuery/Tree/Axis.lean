import PathQuery.Tree.Node

/-! The thirteen axes. An axis gives the nodes that stand in its relation to a node in axis order,
which is against document order for the reverse axes. The origin of a tree without document is
reached upwards only, and stands above the top.
-/

namespace PathQuery

/-- The axes of location steps. -/
inductive Axis where
  | ancestor
  | ancestorOrSelf
  | attributeAxis
  | child
  | descendant
  | descendantOrSelf
  | following
  | followingSibling
  | namespaceAxis
  | parent
  | preceding
  | precedingSibling
  | self
deriving DecidableEq, Repr

namespace Axis

/-- All axes with their names. -/
def names : List (String × Axis) :=
  [("ancestor", .ancestor), ("ancestor-or-self", .ancestorOrSelf),
    ("attribute", .attributeAxis), ("child", .child), ("descendant", .descendant),
    ("descendant-or-self", .descendantOrSelf), ("following", .following),
    ("following-sibling", .followingSibling), ("namespace", .namespaceAxis),
    ("parent", .parent), ("preceding", .preceding), ("preceding-sibling", .precedingSibling),
    ("self", .self)]

/-- The axis of a name. -/
def ofName? (name : String) : Option Axis :=
  (names.find? (·.1 == name)).map Prod.snd

/-- The name of an axis. -/
def name (axis : Axis) : String :=
  ((names.find? (·.2 == axis)).map Prod.fst).getD ""

/-- Whether an axis runs against document order. -/
def isReverse : Axis → Bool
  | .ancestor | .ancestorOrSelf | .parent | .preceding | .precedingSibling => true
  | _ => false

/-- The kind of nodes that names select on an axis. -/
def principal : Axis → Kind
  | .attributeAxis => .attributeKind
  | .namespaceAxis => .bindingKind
  | _ => .element

end Axis

/-- The nodes after the one that a path leads to, apart from those below it: the trees of the
following siblings, then those of the parent, and so on outwards.
-/
def pathsAfter (base : List Nat) (items : List Item) : List Nat → List (List Nat)
  | [] => []
  | index :: path =>
      (match items[index]? with
        | some item => pathsAfter (base ++ [index]) item.content path
        | none => [])
      ++ (walk (located base (index + 1) (items.drop (index + 1)))).map Prod.fst

/-- The nodes before the one that a path leads to, apart from those above it, backwards: the
trees of the preceding siblings, then those of the parent, and so on outwards.
-/
def pathsBefore (base : List Nat) (items : List Item) : List Nat → List (List Nat)
  | [] => []
  | index :: path =>
      (match items[index]? with
        | some item => pathsBefore (base ++ [index]) item.content path
        | none => [])
      ++ (walkBack (Visit.trees (located base 0 (items.take index)))).map Prod.fst

namespace Top

/-- The siblings after a place in document order. Only items have siblings. -/
def siblingsAfter (top : Top) : Place → List Place
  | .inner path =>
      match splitPath path with
      | some (base, index) =>
          (located base (index + 1) ((top.contentAt base).drop (index + 1))).map
            (fun entry => .inner entry.1)
      | none => []
  | _ => []

/-- The siblings before a place, the closest first. -/
def siblingsBefore (top : Top) : Place → List Place
  | .inner path =>
      match splitPath path with
      | some (base, index) =>
          ((located base 0 ((top.contentAt base).take index)).map
            (fun entry => .inner entry.1)).reverse
      | none => []
  | _ => []

/-- The nodes above a place with the root of the tree, the closest first. -/
def ancestors (top : Top) (stamp : Nat) (place : Place) : List Place :=
  match place with
  | .origin _ => []
  | _ => above place ++ if top.isDocument then [] else [.origin stamp]

/-- The nodes after a place that are not below it. Those of an attribute or binding begin with
what is below its element; a lone one has no element to follow.
-/
def following? (top : Top) : Place → Option (List Place)
  | .origin _ => some []
  | .inner path =>
      if path.isEmpty && top.isLone then none
      else some ((pathsAfter [] top.content path).map .inner)
  | .attributeAt path _ =>
      some (top.descendants (.inner path) ++ (pathsAfter [] top.content path).map .inner)
  | .bindingAt path _ =>
      some (top.descendants (.inner path) ++ (pathsAfter [] top.content path).map .inner)

/-- The nodes before a place that are not above it, backwards. Those of an attribute or binding
are those of its element; a lone one has none to precede.
-/
def preceding? (top : Top) : Place → Option (List Place)
  | .origin _ => some []
  | .inner path =>
      if path.isEmpty && top.isLone then none
      else some ((pathsBefore [] top.content path).map .inner)
  | .attributeAt path _ => some ((pathsBefore [] top.content path).map .inner)
  | .bindingAt path _ => some ((pathsBefore [] top.content path).map .inner)

/-- The attributes of a place that is an element. -/
def attributePlaces (top : Top) : Place → List Place
  | .inner path => (List.range (top.attributesAt path).length).map (.attributeAt path)
  | _ => []

/-- The namespace bindings of a place that is an element. -/
def bindingPlaces (top : Top) : Place → List Place
  | .inner path => (List.range (top.bindingsAt path).length).map (.bindingAt path)
  | _ => []

/-- The places on an axis from a place, in axis order. Origins that are met get the stamp. Only
the axes after and before a lone attribute or binding do not exist.
-/
def onAxis? (top : Top) (stamp : Nat) (axis : Axis) (place : Place) : Option (List Place) :=
  match axis with
  | .ancestor => some (top.ancestors stamp place)
  | .ancestorOrSelf => some (place :: top.ancestors stamp place)
  | .attributeAxis => some (top.attributePlaces place)
  | .child => some (top.below place)
  | .descendant => some (top.descendants place)
  | .descendantOrSelf => some (place :: top.descendants place)
  | .following => top.following? place
  | .followingSibling => some (top.siblingsAfter place)
  | .namespaceAxis => some (top.bindingPlaces place)
  | .parent => some ((top.ancestors stamp place).take 1)
  | .preceding => top.preceding? place
  | .precedingSibling => some (top.siblingsBefore place)
  | .self => some [place]

end Top

/-- The nodes on an axis from a node, in axis order. -/
def Forest.onAxis? (forest : Forest) (stamp : Nat) (axis : Axis) (node : Node)
    : Option (List Node) :=
  match forest[node.tree]? with
  | some top => (top.onAxis? stamp axis node.place).map (nodesAt node.tree)
  | none => some []

end PathQuery
