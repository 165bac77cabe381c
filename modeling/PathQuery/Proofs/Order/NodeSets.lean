import PathQuery.Proofs.Order.Traversal

/-! Node-sets of a forest: nodes in document order of which none occurs twice. Evaluations
may have made several roots of one tree, and only those have the same place in the order.
-/

namespace PathQuery

-----------------------------------------------------------------------------------------
-- Nodes of evaluations
-----------------------------------------------------------------------------------------

namespace Top

/-- A place of the tree or the root that one of some evaluations has given it. -/
def HasAmong (top : Top) (stamps : Nat → Prop) (place : Place) : Prop :=
  ∃ stamp, stamps stamp ∧ top.HasWithin stamp place

variable {top : Top} {stamps : Nat → Prop} {stamp : Nat} {place other : Place}

/-- What is no origin is a place of the tree in any evaluation. -/
theorem hasAmong_of_has (present : top.Has place) (noOrigin : ∀ found, place ≠ .origin found)
    (known : stamps stamp)
    : top.HasAmong stamps place :=
  ⟨stamp, known, present, fun found same => absurd same (noOrigin found)⟩

/-- A tree without document has an origin in each evaluation. -/
theorem hasAmong_origin (noDocument : ¬ top.isDocument) (known : stamps stamp)
    : top.HasAmong stamps (.origin stamp) := by
  refine ⟨stamp, known, rfl, fun found same => ?_⟩
  cases same
  exact ⟨rfl, noDocument⟩

/-- Nodes that stand above another one are no origins. -/
theorem no_origin_of_mem_above (member : other ∈ above place) (found : Nat)
    : other ≠ .origin found := by
  rintro rfl
  cases place <;> simp [above] at member

/-- The way up ends at the origin with the stamp, if the tree is without document. -/
theorem origin_of_mem_ancestors {found : Nat} (member : .origin found ∈ top.ancestors stamp place)
    : found = stamp ∧ ¬ top.isDocument := by
  cases place with
  | origin => simp [ancestors] at member
  | inner | attributeAt | bindingAt =>
      rcases List.mem_append.mp member with inside | root
      · exact absurd rfl (no_origin_of_mem_above inside found)
      · cases document : top.isDocument <;> simp_all

/-- No origin comes after a place and its descendants. -/
theorem no_origin_of_mem_following {places : List Place} {found : Nat}
    (given : top.following? place = some places)
    : .origin found ∉ places := by
  cases place with
  | origin => simp_all [following?]
  | inner path =>
      obtain ⟨-, ⟨⟩⟩ := Option.ite_none_left_eq_some.mp given
      simp
  | attributeAt | bindingAt =>
      cases given
      simp [descendants]

/-- No origin comes before a place, apart from what is above it. -/
theorem no_origin_of_mem_preceding {places : List Place} {found : Nat}
    (given : top.preceding? place = some places)
    : .origin found ∉ places := by
  cases place with
  | origin => simp_all [preceding?]
  | inner path =>
      obtain ⟨-, ⟨⟩⟩ := Option.ite_none_left_eq_some.mp given
      simp
  | attributeAt | bindingAt =>
      cases given
      simp

/-- An axis leads to an origin from the origin itself or to the one that gets the stamp. -/
theorem origin_of_mem_onAxis {axis : Axis} {places : List Place} {found : Nat}
    (given : top.onAxis? stamp axis place = some places) (member : .origin found ∈ places)
    : place = .origin found ∨ (found = stamp ∧ ¬ top.isDocument) := by
  cases axis with
  | ancestor =>
      cases given
      exact .inr (origin_of_mem_ancestors member)
  | ancestorOrSelf =>
      cases given
      rcases List.mem_cons.mp member with same | member
      · exact .inl same.symm
      · exact .inr (origin_of_mem_ancestors member)
  | parent =>
      cases given
      exact .inr (origin_of_mem_ancestors (List.mem_of_mem_take member))
  | self =>
      cases given
      exact .inl (List.mem_singleton.mp member).symm
  | descendantOrSelf =>
      cases given
      rcases List.mem_cons.mp member with same | member
      · exact .inl same.symm
      · cases place <;> simp [descendants] at member
  | attributeAxis | child | descendant | followingSibling | namespaceAxis | precedingSibling =>
      cases given
      cases place <;>
        simp [attributePlaces, bindingPlaces, below, descendants, siblingsAfter,
          siblingsBefore] at member
      all_goals split at member <;> simp at member
  | following => exact absurd member (no_origin_of_mem_following given)
  | preceding => exact absurd member (no_origin_of_mem_preceding given)

/-- What an axis leads to belongs to the same evaluations. -/
theorem HasAmong.onAxis {axis : Axis} {places : List Place} (among : top.HasAmong stamps place)
    (known : stamps stamp) (given : top.onAxis? stamp axis place = some places)
    (member : other ∈ places)
    : top.HasAmong stamps other := by
  obtain ⟨own, ownKnown, present, root⟩ := among
  have present := has_of_mem_onAxis present given member
  cases other with
  | origin found =>
      rcases origin_of_mem_onAxis given member with rfl | ⟨rfl, noDocument⟩
      · exact ⟨own, ownKnown, present, root⟩
      · exact hasAmong_origin noDocument known
  | inner | attributeAt | bindingAt => exact hasAmong_of_has present (by simp) known

end Top

namespace Forest

/-- A node of the forest or a root that one of some evaluations has given a tree. -/
def HasAmong (forest : Forest) (stamps : Nat → Prop) (node : Node) : Prop :=
  ∃ top, forest[node.tree]? = some top ∧ top.HasAmong stamps node.place

variable {forest : Forest} {stamps : Nat → Prop} {stamp : Nat} {node other : Node}

theorem hasAmong_iff_hasWithin (node : Node)
    : forest.HasAmong (· = stamp) node ↔ forest.HasWithin stamp node := by
  simp [HasAmong, Top.HasAmong, HasWithin]

theorem HasAmong.has (among : forest.HasAmong stamps node) : forest.Has node := by
  obtain ⟨top, found, stamp, -, present, -⟩ := among
  exact (has_iff forest node).mpr ⟨top, found, present⟩

theorem HasAmong.imp {more : Nat → Prop} (among : forest.HasAmong stamps node)
    (contains : ∀ stamp, stamps stamp → more stamp)
    : forest.HasAmong more node := by
  obtain ⟨top, found, stamp, known, inside⟩ := among
  exact ⟨top, found, stamp, contains stamp known, inside⟩

/-- What an axis leads to belongs to the same evaluations. -/
theorem HasAmong.onAxis {axis : Axis} {nodes : List Node} (among : forest.HasAmong stamps node)
    (known : stamps stamp) (given : forest.onAxis? stamp axis node = some nodes)
    (member : other ∈ nodes)
    : forest.HasAmong stamps other := by
  obtain ⟨top, found, inside⟩ := among
  rw [onAxis?, found] at given
  obtain ⟨places, reached, rfl⟩ := Option.map_eq_some_iff.mp given
  obtain ⟨place, inPlaces, rfl⟩ := List.mem_map.mp member
  exact ⟨top, found, inside.onAxis known reached inPlaces⟩

/-- The root of a node's tree belongs to the same evaluations. -/
theorem HasAmong.rootOf (among : forest.HasAmong stamps node) (known : stamps stamp)
    : forest.HasAmong stamps (forest.rootOf stamp node) := by
  obtain ⟨top, found, inside⟩ := id among
  rw [Forest.rootOf]
  split
  case h_1 => exact among
  case h_2 =>
    rw [found, Option.map_some, Option.getD_some]
    split
    case isTrue => exact ⟨top, found, Top.hasAmong_of_has top.has_top (by simp) known⟩
    case isFalse noDocument => exact ⟨top, found, Top.hasAmong_origin noDocument known⟩

end Forest

-----------------------------------------------------------------------------------------
-- Nodes that are there
-----------------------------------------------------------------------------------------

namespace Forest

variable {forest : Forest} {stamp : Nat} {axis : Axis} {node other : Node}

/-- Axes lead to nodes that are there. -/
theorem Has.onAxis {nodes : List Node} (has : forest.Has node)
    (given : forest.onAxis? stamp axis node = some nodes) (member : other ∈ nodes)
    : forest.Has other := by
  obtain ⟨top, found, present⟩ := (has_iff forest node).mp has
  rw [onAxis?, found] at given
  obtain ⟨places, reached, rfl⟩ := Option.map_eq_some_iff.mp given
  obtain ⟨place, inPlaces, rfl⟩ := List.mem_map.mp member
  exact (has_iff forest _).mpr ⟨top, found, Top.has_of_mem_onAxis present reached inPlaces⟩

/-- The root of the tree of a node that is there is there. -/
theorem Has.rootOf (has : forest.Has node) (stamp : Nat)
    : forest.Has (forest.rootOf stamp node) := by
  obtain ⟨top, found, -⟩ := (has_iff forest node).mp has
  rw [Forest.rootOf]
  split
  · exact has
  · split
    · exact (has_iff forest _).mpr ⟨top, found, top.has_top⟩
    · exact (has_iff forest _).mpr ⟨top, found, top.has_origin stamp⟩

end Forest

-----------------------------------------------------------------------------------------
-- Nodes that have all axes
-----------------------------------------------------------------------------------------

/-- In a tree whose top is no lone attribute or binding, all axes exist for all places. -/
theorem Top.exists_onAxis {top : Top} (proper : ¬ top.isLone) (stamp : Nat) (axis : Axis)
    (place : Place)
    : ∃ places, top.onAxis? stamp axis place = some places := by
  cases axis with
  | following | preceding =>
      cases place with
      | inner path => exact ⟨_, if_neg (by simp [proper])⟩
      | origin | attributeAt | bindingAt => exact ⟨_, rfl⟩
  | ancestor | ancestorOrSelf | attributeAxis | child | descendant | descendantOrSelf
  | followingSibling | namespaceAxis | parent | precedingSibling | self => exact ⟨_, rfl⟩

namespace Forest

/-- A node that is there in a tree whose top is no attribute or binding. -/
def HasProper (forest : Forest) (node : Node) : Prop :=
  ∃ top, forest[node.tree]? = some top ∧ ¬ top.isLone ∧ top.Has node.place

variable {forest : Forest} {stamp : Nat} {axis : Axis} {node other : Node}

theorem HasProper.has (proper : forest.HasProper node) : forest.Has node := by
  obtain ⟨top, found, -, present⟩ := proper
  exact (has_iff forest node).mpr ⟨top, found, present⟩

/-- Axes lead to nodes of the same tree. -/
theorem HasProper.onAxis {nodes : List Node} (proper : forest.HasProper node)
    (given : forest.onAxis? stamp axis node = some nodes) (member : other ∈ nodes)
    : forest.HasProper other := by
  obtain ⟨top, found, noLone, present⟩ := proper
  rw [onAxis?, found] at given
  obtain ⟨places, reached, rfl⟩ := Option.map_eq_some_iff.mp given
  obtain ⟨place, inPlaces, rfl⟩ := List.mem_map.mp member
  exact ⟨top, found, noLone, Top.has_of_mem_onAxis present reached inPlaces⟩

theorem HasProper.exists_onAxis (proper : forest.HasProper node) (stamp : Nat) (axis : Axis)
    : ∃ nodes, forest.onAxis? stamp axis node = some nodes := by
  obtain ⟨top, found, noLone, -⟩ := proper
  obtain ⟨places, given⟩ := Top.exists_onAxis noLone stamp axis node.place
  rw [onAxis?, found]
  exact ⟨_, congrArg (Option.map (nodesAt node.tree)) given⟩

theorem HasProper.rootOf (proper : forest.HasProper node) (stamp : Nat)
    : forest.HasProper (forest.rootOf stamp node) := by
  obtain ⟨top, found, noLone, present⟩ := id proper
  rw [Forest.rootOf]
  split
  · exact proper
  · split
    · exact ⟨top, found, noLone, top.has_top⟩
    · exact ⟨top, found, noLone, top.has_origin stamp⟩

end Forest

-----------------------------------------------------------------------------------------
-- Document order
-----------------------------------------------------------------------------------------

/-- Different roots of one tree, which different evaluations have given it. -/
def Node.Rivals (left right : Node) : Prop :=
  ∃ tree stamp other, stamp ≠ other ∧ left = ⟨tree, .origin stamp⟩ ∧ right = ⟨tree, .origin other⟩

/-- A node comes before another one in document order, or both are rival roots, of which neither
comes first.
-/
def Node.Precedes (left right : Node) : Prop :=
  left.key Forest.numbered < right.key Forest.numbered ∨ left.Rivals right

theorem Node.Precedes.ne {left right : Node} (precedes : left.Precedes right) : left ≠ right := by
  rintro rfl
  rcases precedes with before | ⟨tree, stamp, other, apart, rfl, same⟩
  · exact lt_irrefl _ before
  · cases same
    exact apart rfl

namespace Forest

variable {forest : Forest} {stamps : Nat → Prop} {stamp : Nat} {left right : Node}

theorem markedApart_numbered (forest : Forest) : forest.MarkedApart numbered :=
  fun _ _ _ _ same => Int.natCast_inj.mp same

/-- An origin has the key of its tree's other origins only. -/
theorem key_eq_origin {mark : Nat → Int} {tree : Nat}
    (same : Node.key mark ⟨tree, .origin stamp⟩ = right.key mark)
    : ∃ other, right.place = .origin other := by
  obtain ⟨tree, place⟩ := right
  cases place with
  | origin other => exact ⟨other, rfl⟩
  | inner | attributeAt | bindingAt => simp [Node.key, Place.key] at same

/-- Different nodes with one key are rival roots. -/
theorem rivals_of_key_eq (leftAmong : forest.HasAmong stamps left)
    (rightAmong : forest.HasAmong stamps right) (apart : left ≠ right)
    (same : left.key numbered = right.key numbered)
    : left.Rivals right := by
  have sameTree : left.tree = right.tree := Int.natCast_inj.mp (List.cons.inj same).1
  obtain ⟨top, found, stamp, -, inside⟩ := leftAmong
  obtain ⟨other, foundOther, further, -, insideOther⟩ := rightAmong
  by_cases root : ∃ own, right.place = .origin own
  · obtain ⟨own, root⟩ := root
    obtain ⟨tree, place⟩ := right
    obtain rfl : place = .origin own := root
    obtain ⟨first, leftRoot⟩ := key_eq_origin same.symm
    obtain ⟨leftTree, place⟩ := left
    obtain rfl : place = .origin first := leftRoot
    obtain rfl : leftTree = tree := sameTree
    exact ⟨leftTree, first, own, fun equal => apart (by rw [equal]), rfl, rfl⟩
  -- no root has this key, so that any evaluation may be taken for that of the other node
  · refine absurd (key_inj forest.markedApart_numbered ⟨top, found, inside⟩ ?_ same) apart
    exact ⟨other, foundOther, insideOther.1, fun own place => absurd ⟨own, place⟩ root⟩

/-- Nodes of one evaluation are no rivals. -/
theorem before_of_precedes (leftWithin : forest.HasWithin stamp left)
    (rightWithin : forest.HasWithin stamp right) (precedes : left.Precedes right)
    : left.key numbered < right.key numbered := by
  rcases precedes with before | ⟨tree, own, other, apart, rfl, rfl⟩
  · exact before
  · obtain ⟨top, found, -, root⟩ := leftWithin
    obtain ⟨another, same, -, otherRoot⟩ := rightWithin
    exact absurd ((root own rfl).1.trans (otherRoot other rfl).1.symm) apart

-----------------------------------------------------------------------------------------
-- Node-sets
-----------------------------------------------------------------------------------------

/-- Nodes in document order, each once, all of some evaluations. -/
structure IsSet (forest : Forest) (stamps : Nat → Prop) (nodes : List Node) : Prop where
  among : ∀ node ∈ nodes, forest.HasAmong stamps node
  ordered : nodes.Pairwise Node.Precedes

namespace IsSet

variable {nodes fewer : List Node}

theorem nodup (isSet : forest.IsSet stamps nodes) : nodes.Nodup :=
  isSet.ordered.imp Node.Precedes.ne

theorem sublist (isSet : forest.IsSet stamps nodes) (contained : fewer.Sublist nodes)
    : forest.IsSet stamps fewer :=
  ⟨fun node member => isSet.among node (contained.subset member),
    isSet.ordered.sublist contained⟩

theorem singleton {node : Node} (among : forest.HasAmong stamps node)
    : forest.IsSet stamps [node] :=
  ⟨fun _ member => List.mem_singleton.mp member ▸ among, List.pairwise_singleton _ _⟩

/-- The nodes of a set of one evaluation have increasing keys. -/
theorem increasing (isSet : forest.IsSet (· = stamp) nodes)
    : nodes.Pairwise (fun left right => left.key numbered < right.key numbered) := by
  refine isSet.ordered.imp_of_mem fun {left right} leftMember rightMember precedes => ?_
  have within (node : Node) (member : node ∈ nodes) : forest.HasWithin stamp node :=
    (hasAmong_iff_hasWithin node).mp (isSet.among node member)
  exact before_of_precedes (within left leftMember) (within right rightMember) precedes

/-- Sets of one evaluation that have the same nodes are the same. -/
theorem eq_of_mem_iff {others : List Node} (isSet : forest.IsSet (· = stamp) nodes)
    (also : forest.IsSet (· = stamp) others) (same : ∀ node, node ∈ nodes ↔ node ∈ others)
    : nodes = others := by
  have present : ∀ node ∈ nodes, forest.Has node := fun node member => (isSet.among node member).has
  have sorted : forest.sortedBy? numbered [] nodes = some nodes :=
    sortedBy?_eq_of_pairwise present (Locations.holdIn_nil forest) (fun _ => Iff.rfl)
      isSet.increasing
  have sortedToo : forest.sortedBy? numbered [] nodes = some others :=
    sortedBy?_eq_of_pairwise present (Locations.holdIn_nil forest) (fun node => (same node).symm)
      also.increasing
  exact Option.some.inj (sorted.symm.trans sortedToo)

end IsSet

/-- Sorting makes a set of any nodes, which has the same members. -/
theorem exists_sorted {nodes : List Node} (among : ∀ node ∈ nodes, forest.HasAmong stamps node)
    : ∃ sorted, forest.sorted? nodes = some sorted ∧ forest.IsSet stamps sorted
      ∧ ∀ node, node ∈ sorted ↔ node ∈ nodes := by
  obtain ⟨sorted, found, perm, ordered⟩ :=
    sortedBy?_spec numbered (fun node member => (among node member).has)
      (Locations.holdIn_nil forest)
  have distinct : sorted.Nodup := perm.nodup_iff.mpr (nodup_eraseDups nodes)
  have members (node : Node) : node ∈ sorted ↔ node ∈ nodes :=
    perm.mem_iff.trans List.mem_eraseDups
  have among : ∀ node ∈ sorted, forest.HasAmong stamps node := fun node member =>
    among node ((members node).mp member)
  refine ⟨sorted, found, ⟨among, ?_⟩, members⟩
  refine (ordered.and distinct).imp_of_mem fun {left right} leftMember rightMember both => ?_
  rcases lt_or_eq_of_le (not_lt.mp both.1) with before | same
  · exact .inl before
  · exact .inr (rivals_of_key_eq (among left leftMember) (among right rightMember) both.2 same)

theorem isSet_of_sorted {nodes : List Node} (among : ∀ node ∈ nodes, forest.HasAmong stamps node)
    : ∃ sorted, forest.sorted? nodes = some sorted ∧ forest.IsSet stamps sorted :=
  (exists_sorted among).imp fun _ => And.imp_right And.left

end Forest

-----------------------------------------------------------------------------------------
-- Descendants
-----------------------------------------------------------------------------------------

theorem Place.key_inner_lt {path other : List Nat} (before : path < other)
    : (Place.inner path).key < (Place.inner other).key := by
  have lower : pathKey path ++ [] < pathKey other ++ [] :=
    pathKey_append_lt before (by simp [Early])
  rw [List.append_nil, List.append_nil] at lower
  exact List.cons_lt_cons_iff.mpr (.inr ⟨rfl, lower⟩)

/-- The descendants of a place have increasing keys. -/
theorem Top.descendants_pairwise (top : Top) (place : Place)
    : (top.descendants place).Pairwise (fun left right => left.key < right.key) := by
  have below (path : List Nat) (items : List Item)
      : ((walk (located path 0 items)).map (fun entry => Place.inner entry.1)).Pairwise
        (fun left right => left.key < right.key) := by
    have increasing := Item.preorderAll_pairwise_lt path 0 items
    rw [List.pairwise_map] at increasing
    rw [walk_located_nil, List.pairwise_map]
    exact increasing.imp Place.key_inner_lt
  cases place with
  | origin =>
      refine List.pairwise_cons.mpr ⟨fun place member => ?_, below [] top.content⟩
      obtain ⟨index, more, rfl, -⟩ := mem_walk_iff.mp member
      exact Place.key_inner_lt (List.nil_lt_cons _ _)
  | inner path => exact below path (top.contentAt path)
  | attributeAt | bindingAt => exact .nil

/-- The nodes below a node are those on the descendant axis. -/
theorem Forest.onAxis?_descendant (forest : Forest) (stamp : Nat) (node : Node)
    : forest.onAxis? stamp .descendant node = some (forest.descendants node) := by
  rw [onAxis?, descendants]
  cases forest[node.tree]? <;> rfl

/-- The descendants of a node are a set. -/
theorem Forest.isSet_descendants {forest : Forest} {stamps : Nat → Prop} {stamp : Nat} {node : Node}
    (among : forest.HasAmong stamps node) (known : stamps stamp)
    : forest.IsSet stamps (forest.descendants node) := by
  obtain ⟨top, found, inside⟩ := id among
  refine ⟨fun other member => among.onAxis known (forest.onAxis?_descendant stamp node) member, ?_⟩
  simp only [descendants, found, nodesAt, List.pairwise_map]
  refine (top.descendants_pairwise node.place).imp fun before => ?_
  exact .inl (List.cons_lt_cons_iff.mpr (.inr ⟨rfl, before⟩))

end PathQuery
