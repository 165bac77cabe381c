import PathQuery.Tree.Axis

/-! Document order. Each node has a key that is compared position by position: a node comes before
its namespace bindings, those before its attributes and those before its content. A key is found
on the way up from a node. All nodes that depend on a parent in the same way are located at once,
and what is known of their locations serves the keys of all nodes that are sorted together.
-/

namespace PathQuery

/-- The ways in which nodes depend on a parent. -/
inductive Rank where
  | bindings
  | attributes
  | content
deriving DecidableEq, Repr

/-- The order of the ranks. -/
def Rank.toInt : Rank → Int
  | .bindings => 0
  | .attributes => 1
  | .content => 2

/-- The way in which the node at a place depends on its parent. -/
def Place.rank : Place → Rank
  | .attributeAt _ _ => .attributes
  | .bindingAt _ _ => .bindings
  | _ => .content

/-- Where a node stands below its parent. -/
structure Location where
  rank : Rank
  index : Nat
deriving DecidableEq, Repr

/-- What a location adds to the key of the parent. -/
def Location.toKey (location : Location) : List Int :=
  [location.rank.toInt, location.index]

/-- The locations that are known so far, the latest first. -/
abbrev Locations :=
  List (Node × Location)

/-- Adds the locations of all nodes of one rank below a parent. -/
def Locations.addAll (known : Locations) (rank : Rank) (siblings : List Node) : Locations :=
  (siblings.zipIdx.map (fun (sibling, index) => (sibling, ⟨rank, index⟩))).reverse ++ known

namespace Forest

/-- The nodes that depend on a parent in some way, in order. -/
def dependents (forest : Forest) (parent : Node) (rank : Rank) : List Node :=
  match forest[parent.tree]? with
  | some top =>
      nodesAt parent.tree <|
        match rank with
        | .bindings => top.bindingPlaces parent.place
        | .attributes => top.attributePlaces parent.place
        | .content => top.below parent.place
  | none => []

/-- The location of a node below its parent. If it is not known yet, its siblings are located
with it. A node that is not among them has none.
-/
def locate? (forest : Forest) (known : Locations) (parent node : Node)
    : Option (Location × Locations) :=
  match known.lookup node with
  | some location => some (location, known)
  | none =>
      let rank := node.place.rank
      let more := known.addAll rank (forest.dependents parent rank)
      (more.lookup node).map (·, more)

/-- The key of a node below some others, the closest first. The key of a top begins with the mark
of its tree and a zero, which leaves room for an origin before it.
-/
def climb? (forest : Forest) (mark : Nat → Int) (known : Locations) (node : Node)
    : List Node → Option (List Int × Locations)
  | [] => some ([mark node.tree, 0], known)
  | parent :: others => do
      let (location, known) ← forest.locate? known parent node
      let (start, known) ← forest.climb? mark known parent others
      some (start ++ location.toKey, known)

/-- The key of a node, with the locations that are known afterwards. -/
def key? (forest : Forest) (mark : Nat → Int) (known : Locations) (node : Node)
    : Option (List Int × Locations) :=
  match node.place with
  | .origin _ => some ([mark node.tree, -1], known)
  | _ => forest.climb? mark known node (above node)

/-- Nodes with their keys, which share what is known of locations. -/
def keyed? (forest : Forest) (mark : Nat → Int) (known : Locations)
    : List Node → Option (List (List Int × Node))
  | [] => some []
  | node :: rest => do
      let (key, known) ← forest.key? mark known node
      let others ← forest.keyed? mark known rest
      some ((key, node) :: others)

end Forest

/-- The lexicographic order of keys, in which a key comes before its extensions. -/
def keyBefore : List Int → List Int → Bool
  | _, [] => false
  | [], _ :: _ => true
  | left :: lefts, right :: rights =>
      left < right || (left == right && keyBefore lefts rights)

namespace Forest

/-- The given nodes in document order, each once. The marks of the trees tell in which order the
trees come, and some locations may be known before. There is no order if a node has no key.
-/
def sortedBy? (forest : Forest) (mark : Nat → Int) (known : Locations) (nodes : List Node)
    : Option (List Node) :=
  let unique := nodes.eraseDups
  if unique.length < 2 then some unique
  else
    (forest.keyed? mark known unique).map (fun keyed =>
      (keyed.mergeSort (fun left right => !keyBefore right.1 left.1)).map Prod.snd)

/-- The mark of a tree where the trees of a forest come one after the other. -/
def numbered (tree : Nat) : Int :=
  tree

/-- The given nodes in document order, each once. -/
def sorted? (forest : Forest) (nodes : List Node) : Option (List Node) :=
  forest.sortedBy? numbered [] nodes

end Forest

end PathQuery
