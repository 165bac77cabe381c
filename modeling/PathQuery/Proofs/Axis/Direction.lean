import PathQuery.Proofs.Axis.Relatives

/-! Axes run through a tree in one direction. Positions that predicates count depend on it: the
keys of the nodes on an axis decrease where the axis is a reverse one, and increase otherwise.
-/

namespace PathQuery

-----------------------------------------------------------------------------------------
-- Lists of paths
-----------------------------------------------------------------------------------------

/-- Items below one base have increasing paths. -/
theorem located_pairwise_lt (base : List Nat) (start : Nat) (items : List Item)
    : ((located base start items).map Prod.fst).Pairwise (· < ·) := by
  induction items generalizing start with
  | nil => simp [located]
  | cons item rest ih =>
      rw [located, List.map_cons, List.pairwise_cons]
      refine ⟨fun path member => ?_, ih (start + 1)⟩
      obtain ⟨index, -, rfl⟩ := (mem_map_fst_located base (start + 1) rest path).mp member
      exact Item.path_lt_path base (by omega) [] []

/-- The paths on the way up decrease. -/
theorem pathsAbove_pairwise_gt (path : List Nat)
    : (pathsAbove path).Pairwise (fun lower upper => upper < lower) := by
  rw [pathsAbove, List.pairwise_map, List.pairwise_reverse]
  refine List.pairwise_lt_range.imp_of_mem fun {upper lower} _ member shorter => ?_
  rw [List.mem_range] at member
  refine Place.lt_of_isPrefix (List.take_prefix_take_left (Nat.le_of_lt shorter)) fun same => ?_
  have length := congrArg List.length same
  rw [List.length_take, List.length_take] at length
  omega

/-- What a path leads on to comes before the greater paths that it does not lead on to. -/
theorem append_lt_of_not_isPrefix {path other : List Nat} (less : path < other)
    (apart : ¬ path <+: other) (more : List Nat)
    : path ++ more < other := by
  induction path generalizing other with
  | nil => exact absurd List.nil_prefix apart
  | cons first path ih =>
      cases other with
      | nil => exact absurd less (List.not_lt_nil _)
      | cons index other =>
          rw [List.cons_append, List.cons_lt_cons_iff]
          rw [List.cons_lt_cons_iff] at less
          refine less.imp_right fun ⟨same, less⟩ => ⟨same, ih less fun leads => ?_⟩
          exact apart (List.cons_prefix_cons.mpr ⟨same, leads⟩)

/-- The paths after one increase. -/
theorem pathsAfter_pairwise_lt (base : List Nat) (items : List Item) (path : List Nat)
    : (pathsAfter base items path).Pairwise (· < ·) := by
  induction path generalizing base items with
  | nil => exact .nil
  | cons first path ih =>
      rw [pathsAfter, List.pairwise_append, walk_located_nil]
      refine ⟨?_, Item.preorderAll_pairwise_lt base (first + 1) _, ?_⟩
      · split
        · exact ih _ _
        · exact .nil
      · intro left inside right later
        obtain ⟨index, more, rfl, -⟩ := mem_map_fst_preorderAll.mp later
        split at inside
        · obtain ⟨other, further, rfl, -⟩ := mem_pathsAfter_iff.mp inside
          rw [List.append_assoc, List.singleton_append]
          exact Item.path_lt_path base (by omega) _ _
        · simp at inside

/-- The paths before one decrease. -/
theorem pathsBefore_pairwise_gt (base : List Nat) (items : List Item) (path : List Nat)
    : (pathsBefore base items path).Pairwise (fun left right => right < left) := by
  induction path generalizing base items with
  | nil => exact .nil
  | cons first path ih =>
      rw [pathsBefore, List.pairwise_append, walkBack_trees_nil, List.map_reverse,
        List.pairwise_reverse]
      refine ⟨?_, Item.preorderAll_pairwise_lt base 0 _, ?_⟩
      · split
        · exact ih _ _
        · exact .nil
      · intro left inside right earlier
        obtain ⟨index, more, rfl, leads⟩ := mem_map_fst_preorderAll.mp (List.mem_reverse.mp earlier)
        have bound : index < first := (leads_take_iff.mp leads).1
        split at inside
        · obtain ⟨other, further, rfl, -⟩ := mem_pathsBefore_iff.mp inside
          rw [List.append_assoc, List.singleton_append]
          exact Item.path_lt_path base (by omega) _ _
        · simp at inside

-----------------------------------------------------------------------------------------
-- Places on axes
-----------------------------------------------------------------------------------------

namespace Axis

/-- Places in the direction of an axis. -/
def Runs (axis : Axis) (first second : List Int) : Prop :=
  if axis.isReverse then second < first else first < second

end Axis

namespace Top

variable {top : Top} {stamp : Nat} {place other : Place} {places : List Place}

theorem inner_pairwise {paths : List (List Nat)} (increasing : paths.Pairwise (· < ·))
    : (paths.map Place.inner).Pairwise (fun left right => left.key < right.key) :=
  List.pairwise_map.mpr (increasing.imp Place.key_inner_lt)

theorem inner_pairwise_reverse {paths : List (List Nat)}
    (decreasing : paths.Pairwise (fun left right => right < left))
    : (paths.map Place.inner).Pairwise (fun left right => right.key < left.key) :=
  List.pairwise_map.mpr (decreasing.imp Place.key_inner_lt)

/-- The nodes above a place come one before the other. -/
theorem above_pairwise (place : Place)
    : (above place).Pairwise (fun left right => right.key < left.key) := by
  have orSelf (path : List Nat)
      : (.inner path :: (pathsAbove path).map Place.inner).Pairwise
        (fun left right => right.key < left.key) := by
    rw [← List.map_cons]
    refine inner_pairwise_reverse (List.pairwise_cons.mpr ⟨fun upper member => ?_, ?_⟩)
    · obtain ⟨leads, apart⟩ := mem_pathsAbove_iff.mp member
      exact Place.lt_of_isPrefix leads apart
    · exact pathsAbove_pairwise_gt path
  cases place with
  | origin => exact .nil
  | inner path => exact inner_pairwise_reverse (pathsAbove_pairwise_gt path)
  | attributeAt path | bindingAt path => exact orSelf path

/-- On the way up to the root, each place comes before the one from which it is reached. -/
theorem ancestors_pairwise (present : top.Has place)
    : (place :: top.ancestors stamp place).Pairwise (fun left right => right.key < left.key) := by
  refine List.pairwise_cons.mpr
    ⟨fun upper member => ((mem_ancestors_iff present).mp member).2.key_lt, ?_⟩
  have rooted : (above place ++ if top.isDocument then [] else [Place.origin stamp]).Pairwise
      (fun left right => right.key < left.key) := by
    refine List.pairwise_append.mpr ⟨above_pairwise place, by split <;> simp, ?_⟩
    intro upper member root inside
    split at inside
    · simp at inside
    · rw [List.mem_singleton.mp inside]
      exact Place.origin_lt fun found => no_origin_of_mem_above member found
  cases place with
  | origin => exact .nil
  | inner | attributeAt | bindingAt => exact rooted

theorem items_pairwise (base : List Nat) (start : Nat) (items : List Item)
    : ((located base start items).map fun entry => Place.inner entry.1).Pairwise
      (fun left right => left.key < right.key) := by
  have increasing := inner_pairwise (located_pairwise_lt base start items)
  rwa [List.map_map] at increasing

theorem below_pairwise (top : Top) (place : Place)
    : (top.below place).Pairwise (fun left right => left.key < right.key) := by
  cases place with
  | origin => exact List.pairwise_singleton _ _
  | inner path => exact items_pairwise path 0 _
  | attributeAt | bindingAt => exact .nil

theorem siblings_pairwise (top : Top) (place : Place)
    : (top.siblingsAfter place).Pairwise (fun left right => left.key < right.key)
      ∧ (top.siblingsBefore place).Pairwise (fun left right => right.key < left.key) := by
  cases place with
  | inner path =>
      rw [siblingsAfter, siblingsBefore]
      cases splitPath path with
      | none => exact ⟨.nil, .nil⟩
      | some split =>
          exact ⟨items_pairwise _ _ _, List.pairwise_reverse.mpr (items_pairwise _ _ _)⟩
  | origin | attributeAt | bindingAt => exact ⟨.nil, .nil⟩

/-- What is below an element comes before what is after it. -/
theorem following_pairwise (given : top.following? place = some places)
    : places.Pairwise (fun left right => left.key < right.key) := by
  have items (path : List Nat) := inner_pairwise (pathsAfter_pairwise_lt [] top.content path)
  have attached (path : List Nat)
      : (top.descendants (.inner path)
          ++ (pathsAfter [] top.content path).map Place.inner).Pairwise
        (fun left right => left.key < right.key) := by
    refine List.pairwise_append.mpr ⟨top.descendants_pairwise _, items path, ?_⟩
    intro lower below later after
    obtain ⟨index, more, rfl, -⟩ := mem_walk_iff.mp below
    obtain ⟨other, member, rfl⟩ := List.mem_map.mp after
    obtain ⟨_, _, rfl, -, less, apart⟩ := mem_pathsAfter_iff.mp member
    exact Place.key_inner_lt (append_lt_of_not_isPrefix less apart _)
  cases place with
  | origin =>
      cases given
      exact .nil
  | inner path =>
      obtain ⟨-, ⟨⟩⟩ := Option.ite_none_left_eq_some.mp given
      exact items path
  | attributeAt path | bindingAt path =>
      cases given
      exact attached path

theorem preceding_pairwise (given : top.preceding? place = some places)
    : places.Pairwise (fun left right => right.key < left.key) := by
  cases place with
  | origin =>
      cases given
      exact .nil
  | inner path =>
      obtain ⟨-, ⟨⟩⟩ := Option.ite_none_left_eq_some.mp given
      exact inner_pairwise_reverse (pathsBefore_pairwise_gt [] top.content path)
  | attributeAt path index | bindingAt path index =>
      cases given
      exact inner_pairwise_reverse (pathsBefore_pairwise_gt [] top.content path)

/-- The places on an axis run against document order where the axis is a reverse one, and
with it otherwise.
-/
theorem onAxis?_pairwise {axis : Axis} (present : top.Has place)
    (given : top.onAxis? stamp axis place = some places)
    : places.Pairwise (fun left right => axis.Runs left.key right.key) := by
  have own {path : List Nat} := top.own_pairwise path
  cases axis with
  | ancestor =>
      cases given
      exact (List.pairwise_cons.mp (ancestors_pairwise present)).2
  | ancestorOrSelf =>
      cases given
      exact ancestors_pairwise present
  | attributeAxis =>
      cases given
      cases place with
      | inner path => exact own.sublist (.cons _ (List.sublist_append_right _ _))
      | origin | attributeAt | bindingAt => exact .nil
  | child =>
      cases given
      exact top.below_pairwise place
  | descendant =>
      cases given
      exact top.descendants_pairwise place
  | descendantOrSelf =>
      cases given
      refine List.pairwise_cons.mpr ⟨fun lower member => ?_, top.descendants_pairwise place⟩
      exact ((mem_descendants_iff present).mp member).2.2.key_lt
  | following => exact following_pairwise given
  | followingSibling =>
      cases given
      exact (siblings_pairwise top place).1
  | namespaceAxis =>
      cases given
      cases place with
      | inner path => exact own.sublist (.cons _ (List.sublist_append_left _ _))
      | origin | attributeAt | bindingAt => exact .nil
  | parent =>
      cases given
      exact (List.pairwise_cons.mp (ancestors_pairwise present)).2.sublist (List.take_sublist 1 _)
  | preceding => exact preceding_pairwise given
  | precedingSibling =>
      cases given
      exact (siblings_pairwise top place).2
  | self =>
      cases given
      exact List.pairwise_singleton _ _

end Top

-----------------------------------------------------------------------------------------
-- Nodes on axes
-----------------------------------------------------------------------------------------

namespace Forest

variable {forest : Forest} {mark : Nat → Int} {own stamp : Nat} {left right node : Node}

/-- A node comes before another one by the keys that are found for them. -/
def Before (forest : Forest) (mark : Nat → Int) (left right : Node) : Prop :=
  ∃ first second more further, forest.key? mark [] left = some (first, more)
    ∧ forest.key? mark [] right = some (second, further) ∧ first < second

theorem before_iff (leftHas : forest.Has left) (rightHas : forest.Has right)
    : forest.Before mark left right ↔ left.key mark < right.key mark := by
  obtain ⟨more, leftFound, -⟩ := key?_eq mark leftHas (Locations.holdIn_nil forest)
  obtain ⟨further, rightFound, -⟩ := key?_eq mark rightHas (Locations.holdIn_nil forest)
  simp [Before, leftFound, rightFound]

/-- Within a tree, the keys of places decide. -/
theorem key_lt_iff_of_tree (sameTree : left.tree = right.tree)
    : left.key mark < right.key mark ↔ left.place.key < right.place.key := by
  simp [Node.key, sameTree]

/-- The nodes on an axis are at the places on the axis of the tree. -/
theorem exists_places {top : Top} {axis : Axis} {nodes : List Node}
    (found : forest[node.tree]? = some top) (given : forest.onAxis? stamp axis node = some nodes)
    : ∃ places, top.onAxis? stamp axis node.place = some places
      ∧ nodes = nodesAt node.tree places := by
  rw [onAxis?, found] at given
  obtain ⟨places, reached, rfl⟩ := Option.map_eq_some_iff.mp given
  exact ⟨places, reached, rfl⟩

/-- The keys of the nodes on an axis run in its direction. -/
theorem onAxis?_pairwise {axis : Axis} {nodes : List Node} (has : forest.Has node)
    (given : forest.onAxis? stamp axis node = some nodes) (mark : Nat → Int)
    : nodes.Pairwise (fun first second => axis.Runs (first.key mark) (second.key mark)) := by
  obtain ⟨top, found, present⟩ := (has_iff forest node).mp has
  obtain ⟨places, reached, rfl⟩ := exists_places found given
  refine List.pairwise_map.mpr ((Top.onAxis?_pairwise present reached).imp fun before => ?_)
  simpa [Axis.Runs, key_lt_iff_of_tree] using before

/-- An axis gives no node twice. -/
theorem onAxis?_nodup {axis : Axis} {nodes : List Node} (has : forest.Has node)
    (given : forest.onAxis? stamp axis node = some nodes)
    : nodes.Nodup := by
  refine (onAxis?_pairwise has given numbered).imp fun {first second} before same => ?_
  rw [same, Axis.Runs] at before
  split at before <;> exact lt_irrefl _ before

/-- An axis gives nodes of the tree, each once, against document order if it is a reverse axis
and in document order otherwise. Origins among them are those of the node and of the evaluation.
-/
theorem onAxis?_directed (proper : forest.HasProper node) (within : forest.HasWithin own node)
    (mark : Nat → Int) (stamp : Nat) (axis : Axis)
    : ∃ nodes, forest.onAxis? stamp axis node = some nodes
      ∧ nodes.Pairwise (fun first second =>
        if axis.isReverse then forest.Before mark second first
        else forest.Before mark first second)
      ∧ nodes.Nodup
      ∧ ∀ other ∈ nodes, other.tree = node.tree
        ∧ (forest.HasWithin own other ∨ forest.HasWithin stamp other) := by
  obtain ⟨nodes, given⟩ := proper.exists_onAxis stamp axis
  obtain ⟨top, found, -, -⟩ := id proper
  have has : ∀ other ∈ nodes, forest.Has other := fun other member =>
    (proper.onAxis given member).has
  refine ⟨nodes, given, (onAxis?_pairwise proper.has given mark).imp_of_mem
    fun {first second} inside member before => ?_, onAxis?_nodup proper.has given,
    fun other member => ⟨?_, ?_⟩⟩
  · rw [before_iff (has _ member) (has _ inside), before_iff (has _ inside) (has _ member)]
    exact before
  · obtain ⟨places, -, rfl⟩ := exists_places found given
    obtain ⟨place, -, rfl⟩ := List.mem_map.mp member
    rfl
  · have among : forest.HasAmong (fun found => found = own ∨ found = stamp) node :=
      ((hasAmong_iff_hasWithin node).mpr within).imp fun _ => .inl
    obtain ⟨top, inTree, found, rfl | rfl, inside⟩ := among.onAxis (.inr rfl) given member
    · exact .inl ⟨top, inTree, inside⟩
    · exact .inr ⟨top, inTree, inside⟩

/-- From an attribute, the way up leads over its element to the origin. -/
theorem onAxis?_directed_small
    : small.HasProper ⟨0, .attributeAt [] 0⟩ ∧ small.HasWithin 7 ⟨0, .attributeAt [] 0⟩
      ∧ ∃ nodes, small.onAxis? 7 .ancestorOrSelf ⟨0, .attributeAt [] 0⟩ = some nodes
        ∧ nodes = [⟨0, .attributeAt [] 0⟩, ⟨0, .inner []⟩, ⟨0, .origin 7⟩]
        ∧ nodes.Pairwise (fun first second => small.Before numbered second first) := by
  have proper : small.HasProper ⟨0, .attributeAt [] 0⟩ := ⟨_, rfl, by decide, rfl⟩
  have within : small.HasWithin 7 ⟨0, .attributeAt [] 0⟩ := ⟨_, rfl, rfl, by simp⟩
  obtain ⟨nodes, given, runs, -⟩ := onAxis?_directed proper within numbered 7 .ancestorOrSelf
  refine ⟨proper, within, nodes, given, ?_, runs⟩
  exact Option.some.inj (given.symm.trans rfl)

end Forest

end PathQuery
