import PathQuery.Tree.Lookup
import PathQuery.Tree.Order

/-! Node-sets: nodes of which none occurs twice, in document order. `ofNodes?` puts any nodes in that
order; the operations that take nodes from a set rely on it.
-/

namespace PathQuery

/-- Nodes that a path selects. -/
structure NodeSet where
  items : List Node
deriving DecidableEq, Repr

namespace NodeSet

/-- The set of the given nodes, where marks tell in which order the trees come. -/
def ofNodesBy? (forest : Forest) (mark : Nat → Int) (nodes : List Node) : Option NodeSet :=
  (forest.sortedBy? mark [] nodes).map NodeSet.mk

/-- The set of the given nodes. -/
def ofNodes? (forest : Forest) (nodes : List Node) : Option NodeSet :=
  ofNodesBy? forest Forest.numbered nodes

/-- The number of nodes. -/
def size (set : NodeSet) : Nat :=
  set.items.length

/-- The first node in document order. -/
def first? (set : NodeSet) : Option Node :=
  set.items.head?

/-- The last node in document order. -/
def last? (set : NodeSet) : Option Node :=
  set.items.getLast?

/-- Whether a node is in the set. -/
def contains (set : NodeSet) (node : Node) : Bool :=
  set.items.contains node

/-- The nodes that a condition holds of. -/
def filter (set : NodeSet) (condition : Node → Bool) : NodeSet :=
  ⟨set.items.filter condition⟩

/-- The node at an index, where negative ones count from the end. -/
def get? (set : NodeSet) (index : Int) : Option Node :=
  (indexFromEnds? set.size index).bind (set.items[·]?)

end NodeSet

/-- A range of indexes with a step. Negative bounds count from the end, and a missing bound is
the end that the step leads away from or to.
-/
structure Slice where
  start : Option Int
  stop : Option Int
  step : Option Int
deriving DecidableEq, Repr

namespace Slice

/-- A bound as an index in a list, kept between the least and the greatest one. -/
def clamp (length least greatest index : Int) : Int :=
  let place := if index < 0 then index + length else index
  if place < least then least else if greatest < place then greatest else place

/-- The indexes that are met from a start before a stop, of which there are `count` at most. -/
def indexesFrom (start step : Int) (count : Nat) : List Nat :=
  (List.range count).map (fun (index : Nat) => (start + index * step).toNat)

/-- The indexes of a slice in a list of some length. A step of zero has none to give. -/
def indexes? (slice : Slice) (length : Nat) : Option (List Nat) :=
  let step := slice.step.getD 1
  if step = 0 then none
  else if 0 < step then
    let start := (slice.start.map (clamp length 0 length)).getD 0
    let stop := (slice.stop.map (clamp length 0 length)).getD length
    some (indexesFrom start step ((stop - start + step - 1) / step).toNat)
  else
    let start := (slice.start.map (clamp length (-1) (length - 1))).getD (length - 1)
    let stop := (slice.stop.map (clamp length (-1) (length - 1))).getD (-1)
    some (indexesFrom start step ((start - stop - step - 1) / (-step)).toNat)

end Slice

/-- The nodes at the indexes of a slice, in the order in which they are met. -/
def NodeSet.slice? (set : NodeSet) (slice : Slice) : Option NodeSet :=
  (slice.indexes? set.size).map (fun indexes => ⟨indexes.filterMap (set.items[·]?)⟩)

end PathQuery
