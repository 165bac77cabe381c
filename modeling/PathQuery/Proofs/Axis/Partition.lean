import Mathlib.Data.List.Nodup
import Mathlib.Logic.Relation
import PathQuery.Proofs.Axis.Direction

/-! The axes to ancestors, descendants and what precedes and follows a node share out its tree.
Ancestors and descendants are reached by steps to parents and children; what is left comes
before the node or after it.
-/

namespace PathQuery

-----------------------------------------------------------------------------------------
-- Steps up and down
-----------------------------------------------------------------------------------------

namespace Place

/-- Nothing is above an origin. -/
theorem IsAbove.no_origin {upper lower : Place} (above : upper.IsAbove lower) (found : Nat)
    : lower ≠ .origin found := by
  rintro rfl
  cases upper <;> exact above.elim

/-- Nothing is below an attribute or a binding. -/
theorem IsAbove.not_attached {upper lower : Place} (above : upper.IsAbove lower)
    : ¬ upper.isAttached := by
  cases upper with
  | origin | inner => simp [isAttached]
  | attributeAt | bindingAt => cases lower <;> exact above.elim

/-- An origin is above all that comes after it. -/
theorem origin_isAbove_of_lt {stamp : Nat} {place : Place} (before : (origin stamp).key < place.key)
    : (origin stamp).IsAbove place := by
  cases place with
  | origin => exact absurd before (lt_irrefl _)
  | inner | attributeAt | bindingAt => trivial

theorem IsAbove.trans {first second third : Place} (upper : first.IsAbove second)
    (lower : second.IsAbove third)
    : first.IsAbove third := by
  cases first with
  | origin =>
      cases third with
      | origin => cases second <;> exact lower.elim
      | inner | attributeAt | bindingAt => trivial
  | inner path =>
      cases second with
      | inner other =>
          cases third with
          | origin => exact lower.elim
          | inner below =>
              refine ⟨upper.1.trans lower.1, fun same => ?_⟩
              have less := lt_of_isPrefix upper.1 upper.2
              exact lt_irrefl _ (lt_trans less (same ▸ lt_of_isPrefix lower.1 lower.2))
          | attributeAt | bindingAt => exact upper.1.trans lower
      | origin => exact upper.elim
      | attributeAt | bindingAt => cases third <;> exact lower.elim
  | attributeAt | bindingAt => cases second <;> exact upper.elim

end Place

namespace Top

variable {top : Top} {stamp : Nat} {place other upper : Place} {rest : List Place}

/-- Above an ancestor is what was above the place further up. -/
theorem ancestors_of_cons (up : top.ancestors stamp place = upper :: rest)
    : top.ancestors stamp upper = rest := by
  cases place with
  | origin => cases up
  | inner path =>
      cases path using List.reverseRecOn with
      | nil =>
          by_cases document : top.isDocument
          · simp [ancestors, above, pathsAbove, document] at up
          · simp only [ancestors, above, pathsAbove, document] at up
            cases up
            rfl
      | append_singleton path index =>
          simp only [ancestors, above, pathsAbove_concat, List.map_cons, List.cons_append,
            List.cons.injEq] at up
          obtain ⟨rfl, rfl⟩ := up
          rfl
  | attributeAt path | bindingAt path =>
      cases up
      rfl

/-- The children of an item are those with one more index. -/
theorem mem_below_inner_iff {path : List Nat} (present : top.Has (.inner path))
    : other ∈ top.below (.inner path)
      ↔ ∃ index, other = .inner (path ++ [index]) ∧ top.Has other := by
  have shape : top.below (.inner path)
      = ((located path 0 (top.contentAt path)).map Prod.fst).map Place.inner :=
    (List.map_map ..).symm
  rw [shape, List.mem_map]
  simp only [mem_map_fst_located, Nat.zero_add]
  constructor
  · rintro ⟨_, ⟨index, bound, rfl⟩, rfl⟩
    exact ⟨index, rfl, (has_concat_iff top path index).mpr ⟨present, bound⟩⟩
  · rintro ⟨index, rfl, present⟩
    exact ⟨_, ⟨index, ((has_concat_iff top path index).mp present).2, rfl⟩, rfl⟩

/-- A place is above its children, which are items of the tree. -/
theorem isAbove_of_mem_below (present : top.Has place) (member : other ∈ top.below place)
    : place.IsAbove other ∧ ¬ other.isAttached := by
  cases place with
  | origin =>
      obtain rfl := List.mem_singleton.mp member
      exact ⟨trivial, by simp [Place.isAttached]⟩
  | inner path =>
      obtain ⟨index, rfl, -⟩ := (mem_below_inner_iff present).mp member
      exact ⟨isAbove_inner_iff.mpr ⟨index, [], rfl⟩, by simp [Place.isAttached]⟩
  | attributeAt | bindingAt => simp [below] at member

/-- Steps to children lead down along a path. -/
theorem transGen_below {path more : List Nat} {index : Nat}
    (present : top.Has (.inner (path ++ index :: more)))
    : Relation.TransGen (fun upper lower => lower ∈ top.below upper) (.inner path)
        (.inner (path ++ index :: more)) := by
  have step {path : List Nat} {index : Nat} (present : top.Has (.inner (path ++ [index])))
      : Place.inner (path ++ [index]) ∈ top.below (.inner path) :=
    (mem_below_inner_iff (has_of_append [index] present)).mpr ⟨index, rfl, present⟩
  induction more generalizing path index with
  | nil => exact .single (step present)
  | cons next more ih =>
      have longer : path ++ index :: next :: more = (path ++ [index]) ++ next :: more := by simp
      rw [longer] at present ⊢
      exact .head (step (has_of_append _ present)) (ih present)

/-- The descendants of a place are what steps to children lead to. -/
theorem mem_descendants_iff_transGen (present : top.Has place)
    : other ∈ top.descendants place
      ↔ Relation.TransGen (fun upper lower => lower ∈ top.below upper) place other := by
  rw [mem_descendants_iff present]
  constructor
  · rintro ⟨there, proper, above⟩
    cases other with
    | origin => cases place <;> exact above.elim
    | attributeAt | bindingAt => exact absurd rfl proper
    | inner path =>
        cases place with
        | origin stamp =>
            have start : Place.inner [] ∈ top.below (.origin stamp) := List.mem_singleton.mpr rfl
            cases path with
            | nil => exact .single start
            | cons index more => exact .head start (@transGen_below _ [] _ _ there)
        | inner upper =>
            obtain ⟨index, more, rfl⟩ := isAbove_inner_iff.mp above
            exact transGen_below there
        | attributeAt | bindingAt => exact above.elim
  · intro leads
    induction leads with
    | single member =>
        obtain ⟨above, proper⟩ := isAbove_of_mem_below present member
        exact ⟨has_of_mem_below present member, proper, above⟩
    | tail _ member ih =>
        obtain ⟨there, -, above⟩ := ih
        obtain ⟨further, proper⟩ := isAbove_of_mem_below there member
        exact ⟨has_of_mem_below there member, proper, above.trans further⟩

/-- The ancestors of a place are what steps to parents lead to. -/
theorem mem_ancestors_iff_transGen
    : other ∈ top.ancestors stamp place
      ↔ Relation.TransGen (fun lower upper => upper ∈ (top.ancestors stamp lower).take 1) place
          other := by
  induction up : top.ancestors stamp place generalizing place with
  | nil =>
      refine ⟨fun member => absurd member List.not_mem_nil, fun leads => ?_⟩
      obtain ⟨first, step, -⟩ := Relation.TransGen.head'_iff.mp leads
      simp [up] at step
  | cons upper rest ih =>
      have further := ih (ancestors_of_cons up)
      rw [List.mem_cons, Relation.TransGen.head'_iff, further]
      simp only [up, List.take_succ_cons, List.take_zero, List.mem_singleton, exists_eq_left]
      exact Relation.reflTransGen_iff_eq_or_transGen.symm

end Top

-----------------------------------------------------------------------------------------
-- The tree around a node
-----------------------------------------------------------------------------------------

namespace Forest

variable {forest : Forest} {mark : Nat → Int} {stamp : Nat} {node other : Node}

/-- The nodes of a tree that are no attributes or bindings, with the origin of a tree without
document, in document order.
-/
def skeleton (forest : Forest) (stamp tree : Nat) : List Node :=
  (forest.treeNodes stamp tree).filter (!·.place.isAttached)

/-- A node is on an axis from another one. -/
def OnAxis (forest : Forest) (stamp : Nat) (axis : Axis) (node other : Node) : Prop :=
  ∃ nodes, forest.onAxis? stamp axis node = some nodes ∧ other ∈ nodes

theorem mem_skeleton_iff {top : Top} {tree : Nat} (found : forest[tree]? = some top)
    : other ∈ forest.skeleton stamp tree
      ↔ other.tree = tree ∧ top.HasWithin stamp other.place ∧ ¬ other.place.isAttached := by
  simp only [skeleton, treeNodes, found, List.mem_filter, nodesAt, List.mem_map,
    Top.mem_traversal_iff]
  constructor
  · rintro ⟨⟨place, within, rfl⟩, proper⟩
    exact ⟨rfl, within, by simpa using proper⟩
  · rintro ⟨rfl, within, proper⟩
    exact ⟨⟨other.place, within, rfl⟩, by simpa using proper⟩

theorem skeleton_pairwise (forest : Forest) (mark : Nat → Int) (stamp tree : Nat)
    : (forest.skeleton stamp tree).Pairwise (fun left right => left.key mark < right.key mark) :=
  (treeNodes_pairwise tree).filter _

theorem onAxis_iff {top : Top} {axis : Axis} {places : List Place}
    (found : forest[node.tree]? = some top)
    (given : top.onAxis? stamp axis node.place = some places)
    : forest.OnAxis stamp axis node other ↔ other.tree = node.tree ∧ other.place ∈ places := by
  rw [OnAxis, onAxis?, found]
  simp only [given, Option.map_some, Option.some.injEq, exists_eq_left', nodesAt, List.mem_map]
  constructor
  · rintro ⟨place, member, rfl⟩
    exact ⟨rfl, member⟩
  · rintro ⟨sameTree, member⟩
    exact ⟨other.place, member, by rw [← sameTree]⟩

section Relatives

variable {top : Top} (found : forest[node.tree]? = some top) (present : top.Has node.place)
include found present

/-- The ancestors of a node are the nodes of the skeleton that are above it. -/
theorem onAncestor_iff
    : forest.OnAxis stamp .ancestor node other
      ↔ other ∈ forest.skeleton stamp node.tree ∧ other.place.IsAbove node.place := by
  rw [onAxis_iff found rfl, mem_skeleton_iff found, Top.mem_ancestors_iff present]
  constructor
  · rintro ⟨sameTree, within, above⟩
    exact ⟨⟨sameTree, within, above.not_attached⟩, above⟩
  · rintro ⟨⟨sameTree, within, -⟩, above⟩
    exact ⟨sameTree, within, above⟩

/-- The descendants of a node are the nodes of the skeleton that it is above. -/
theorem onDescendant_iff
    : forest.OnAxis stamp .descendant node other
      ↔ other ∈ forest.skeleton stamp node.tree ∧ node.place.IsAbove other.place := by
  rw [onAxis_iff found rfl, mem_skeleton_iff found, Top.mem_descendants_iff present]
  constructor
  · rintro ⟨sameTree, there, proper, above⟩
    exact ⟨⟨sameTree, ⟨there, fun own root => absurd root (above.no_origin own)⟩, proper⟩, above⟩
  · rintro ⟨⟨sameTree, within, proper⟩, above⟩
    exact ⟨sameTree, within.1, proper, above⟩

variable (noLone : ¬ top.isLone)
include noLone

/-- What follows a node are the nodes of the skeleton that come after it and are not below. -/
theorem onFollowing_iff (mark : Nat → Int)
    : forest.OnAxis stamp .following node other
      ↔ other ∈ forest.skeleton stamp node.tree ∧ node.key mark < other.key mark
        ∧ ¬ node.place.IsAbove other.place := by
  obtain ⟨places, given⟩ := Top.exists_onAxis noLone stamp .following node.place
  rw [onAxis_iff found given, mem_skeleton_iff found, Top.mem_following_iff given present]
  constructor
  · rintro ⟨sameTree, there, proper, after, notAbove⟩
    refine ⟨⟨sameTree, ⟨there, fun own root => ?_⟩, proper⟩,
      (key_lt_iff_of_tree sameTree.symm).mpr after, notAbove⟩
    exact absurd (root ▸ after) (Place.not_lt_origin own _)
  · rintro ⟨⟨sameTree, within, proper⟩, after, notAbove⟩
    exact ⟨sameTree, within.1, proper, (key_lt_iff_of_tree sameTree.symm).mp after, notAbove⟩

omit present in
/-- What precedes a node are the nodes of the skeleton that come before it and are not above. -/
theorem onPreceding_iff (mark : Nat → Int)
    : forest.OnAxis stamp .preceding node other
      ↔ other ∈ forest.skeleton stamp node.tree ∧ other.key mark < node.key mark
        ∧ ¬ other.place.IsAbove node.place := by
  obtain ⟨places, given⟩ := Top.exists_onAxis noLone stamp .preceding node.place
  rw [onAxis_iff found given, mem_skeleton_iff found, Top.mem_preceding_iff given]
  constructor
  · rintro ⟨sameTree, there, proper, before, notAbove⟩
    refine ⟨⟨sameTree, ⟨there, fun own root => ?_⟩, proper⟩,
      (key_lt_iff_of_tree sameTree).mpr before, notAbove⟩
    rw [root] at before notAbove
    exact absurd (Place.origin_isAbove_of_lt before) notAbove
  · rintro ⟨⟨sameTree, within, proper⟩, before, notAbove⟩
    exact ⟨sameTree, within.1, proper, (key_lt_iff_of_tree sameTree).mp before, notAbove⟩

end Relatives

/-- Steps on an axis that all places have lead from place to place within the tree. -/
theorem transGen_onAxis_iff {top : Top} {axis : Axis} {next : Place → List Place}
    (found : forest[node.tree]? = some top)
    (given : ∀ place, top.onAxis? stamp axis place = some (next place))
    : Relation.TransGen (forest.OnAxis stamp axis) node other
      ↔ other.tree = node.tree
        ∧ Relation.TransGen (fun place further => further ∈ next place) node.place other.place := by
  constructor
  · intro leads
    induction leads with
    | single step =>
        obtain ⟨sameTree, member⟩ := (onAxis_iff found (given _)).mp step
        exact ⟨sameTree, .single member⟩
    | tail _ step ih =>
        obtain ⟨sameTree, leads⟩ := ih
        obtain ⟨further, member⟩ := (onAxis_iff (sameTree ▸ found) (given _)).mp step
        exact ⟨further.trans sameTree, leads.tail member⟩
  · obtain ⟨tree, place⟩ := other
    rintro ⟨rfl, leads⟩
    simp only at leads
    induction leads with
    | single member => exact .single ((onAxis_iff found (given _)).mpr ⟨rfl, member⟩)
    | @tail place further _ member ih =>
        have step : forest.OnAxis stamp axis ⟨node.tree, place⟩ ⟨node.tree, further⟩ :=
          (onAxis_iff (by exact found) (given _)).mpr ⟨rfl, member⟩
        exact ih.tail step

-----------------------------------------------------------------------------------------
-- The parts of the tree
-----------------------------------------------------------------------------------------

/-- Another node of the tree comes before or after a node. -/
theorem key_lt_or_gt (within : forest.HasWithin stamp node)
    (member : other ∈ forest.skeleton stamp node.tree) (apart : other ≠ node)
    : other.key numbered < node.key numbered ∨ node.key numbered < other.key numbered := by
  obtain ⟨top, found, -⟩ := id within
  obtain ⟨sameTree, inside, -⟩ := (mem_skeleton_iff found).mp member
  have otherWithin : forest.HasWithin stamp other := ⟨top, sameTree ▸ found, inside⟩
  rcases lt_trichotomy (other.key numbered) (node.key numbered) with before | same | after
  · exact .inl before
  · exact absurd (key_inj forest.markedApart_numbered otherWithin within same) apart
  · exact .inr after

/-- What is above a node, below it, after it and before it, each told by keys and paths. -/
structure Parts (forest : Forest) (stamp : Nat) (node : Node)
    (ancestors descendants following preceding : List Node) : Prop where
  within : forest.HasWithin stamp node
  mem_ancestors (other : Node)
    : other ∈ ancestors
      ↔ other ∈ forest.skeleton stamp node.tree ∧ other.place.IsAbove node.place
  mem_descendants (other : Node)
    : other ∈ descendants
      ↔ other ∈ forest.skeleton stamp node.tree ∧ node.place.IsAbove other.place
  mem_following (other : Node)
    : other ∈ following
      ↔ other ∈ forest.skeleton stamp node.tree ∧ node.key numbered < other.key numbered
        ∧ ¬ node.place.IsAbove other.place
  mem_preceding (other : Node)
    : other ∈ preceding
      ↔ other ∈ forest.skeleton stamp node.tree ∧ other.key numbered < node.key numbered
        ∧ ¬ other.place.IsAbove node.place

/-- A node as a part of its tree, unless it is an attribute or a binding. -/
def itself (node : Node) : List Node :=
  if node.place.isAttached then [] else [node]

theorem mem_itself_iff : other ∈ itself node ↔ other = node ∧ ¬ node.place.isAttached := by
  rw [itself]
  split <;> simp [*]

namespace Parts

variable {ancestors descendants following preceding : List Node}
  (parts : forest.Parts stamp node ancestors descendants following preceding)
include parts

theorem tree_eq (member : other ∈ forest.skeleton stamp node.tree) : other.tree = node.tree := by
  obtain ⟨top, found, -⟩ := parts.within
  exact ((mem_skeleton_iff found).mp member).1

/-- What is above a node comes before it, as what precedes it does. -/
theorem before (member : other ∈ ancestors ∨ other ∈ preceding)
    : other.key numbered < node.key numbered := by
  rcases member with up | precedes
  · obtain ⟨member, above⟩ := (parts.mem_ancestors other).mp up
    exact (key_lt_iff_of_tree (parts.tree_eq member)).mpr above.key_lt
  · exact ((parts.mem_preceding other).mp precedes).2.1

/-- What is below a node comes after it, as what follows it does. -/
theorem after (member : other ∈ descendants ∨ other ∈ following)
    : node.key numbered < other.key numbered := by
  rcases member with down | follows
  · obtain ⟨member, above⟩ := (parts.mem_descendants other).mp down
    exact (key_lt_iff_of_tree (parts.tree_eq member).symm).mpr above.key_lt
  · exact ((parts.mem_following other).mp follows).2.1

/-- No two parts have a node in common. -/
theorem pairwise_disjoint
    : [ancestors, descendants, following, preceding, itself node].Pairwise List.Disjoint := by
  have sides {other : Node} (early : other ∈ ancestors ∨ other ∈ preceding)
      : ¬ (other ∈ descendants ∨ other ∈ following) := fun late =>
    lt_asymm (parts.before early) (parts.after late)
  have same {other : Node} (isSelf : other ∈ itself node)
      : other.key numbered = node.key numbered :=
    congrArg (Node.key numbered) (mem_itself_iff.mp isSelf).1
  simp only [List.pairwise_cons, List.forall_mem_cons, List.not_mem_nil, false_implies,
    implies_true, and_true, List.Pairwise.nil]
  refine ⟨⟨?_, ?_, ?_, ?_⟩, ⟨?_, ?_, ?_⟩, ⟨?_, ?_⟩, ?_⟩
  · exact fun other up down => sides (.inl up) (.inl down)
  · exact fun other up follows => sides (.inl up) (.inr follows)
  · exact fun other up precedes =>
      ((parts.mem_preceding other).mp precedes).2.2 ((parts.mem_ancestors other).mp up).2
  · exact fun other up isSelf => ne_of_lt (parts.before (.inl up)) (same isSelf)
  · exact fun other down follows =>
      ((parts.mem_following other).mp follows).2.2 ((parts.mem_descendants other).mp down).2
  · exact fun other down precedes => sides (.inr precedes) (.inl down)
  · exact fun other down isSelf => ne_of_gt (parts.after (.inl down)) (same isSelf)
  · exact fun other follows precedes => sides (.inr precedes) (.inr follows)
  · exact fun other follows isSelf => ne_of_gt (parts.after (.inr follows)) (same isSelf)
  · exact fun other precedes isSelf => ne_of_lt (parts.before (.inr precedes)) (same isSelf)

/-- The parts meet the skeleton and nothing else. -/
theorem mem_flatten_iff (other : Node)
    : other ∈ [ancestors, descendants, following, preceding, itself node].flatten
      ↔ other ∈ forest.skeleton stamp node.tree := by
  obtain ⟨top, found, inside⟩ := id parts.within
  simp only [List.flatten_cons, List.flatten_nil, List.append_nil, List.mem_append,
    parts.mem_ancestors, parts.mem_descendants, parts.mem_following, parts.mem_preceding,
    mem_itself_iff]
  constructor
  · rintro (⟨member, -⟩ | ⟨member, -⟩ | ⟨member, -⟩ | ⟨member, -⟩ | ⟨rfl, proper⟩)
    · exact member
    · exact member
    · exact member
    · exact member
    · exact (mem_skeleton_iff found).mpr ⟨rfl, inside, proper⟩
  · intro member
    have proper := ((mem_skeleton_iff found).mp member).2.2
    by_cases isSelf : other = node
    · exact .inr (.inr (.inr (.inr ⟨isSelf, isSelf ▸ proper⟩)))
    rcases key_lt_or_gt parts.within member isSelf with less | greater
    · by_cases above : other.place.IsAbove node.place
      · exact .inl ⟨member, above⟩
      · exact .inr (.inr (.inr (.inl ⟨member, less, above⟩)))
    · by_cases above : node.place.IsAbove other.place
      · exact .inr (.inl ⟨member, above⟩)
      · exact .inr (.inr (.inl ⟨member, greater, above⟩))

/-- The parts hold each node of the skeleton once. -/
theorem perm (nodup : ancestors.Nodup ∧ descendants.Nodup ∧ following.Nodup ∧ preceding.Nodup)
    : [ancestors, descendants, following, preceding, itself node].flatten.Perm
      (forest.skeleton stamp node.tree) := by
  have distinct := (skeleton_pairwise forest numbered stamp node.tree).imp
    fun {left right} less => ne_of_apply_ne (Node.key numbered) (ne_of_lt less)
  have single : (itself node).Nodup := by
    rw [itself]
    split <;> simp
  refine (List.perm_ext_iff_of_nodup ?_ distinct).mpr parts.mem_flatten_iff
  refine List.nodup_flatten.mpr ⟨?_, parts.pairwise_disjoint⟩
  simpa [single] using nodup

end Parts

-----------------------------------------------------------------------------------------
-- Axes
-----------------------------------------------------------------------------------------

/-- The nodes on four axes from a node: what steps to parents and to children lead to, and of
the rest what comes after the node and what comes before it. With the node itself they make up
the skeleton of the tree.
-/
structure SharedOut (forest : Forest) (mark : Nat → Int) (stamp : Nat) (node : Node)
    (ancestors descendants following preceding : List Node) : Prop where
  onAncestor : forest.onAxis? stamp .ancestor node = some ancestors
  onDescendant : forest.onAxis? stamp .descendant node = some descendants
  onFollowing : forest.onAxis? stamp .following node = some following
  onPreceding : forest.onAxis? stamp .preceding node = some preceding
  mem_ancestors (other : Node)
    : other ∈ ancestors ↔ Relation.TransGen (forest.OnAxis stamp .parent) node other
  mem_descendants (other : Node)
    : other ∈ descendants ↔ Relation.TransGen (forest.OnAxis stamp .child) node other
  mem_following (other : Node)
    : other ∈ following ↔ other ∈ forest.skeleton stamp node.tree
      ∧ forest.Before mark node other ∧ other ∉ descendants
  mem_preceding (other : Node)
    : other ∈ preceding ↔ other ∈ forest.skeleton stamp node.tree
      ∧ forest.Before mark other node ∧ other ∉ ancestors
  following_nodup : following.Nodup
  preceding_nodup : preceding.Nodup
  perm : [ancestors, descendants, following, preceding, itself node].flatten.Perm
    (forest.skeleton stamp node.tree)

theorem onAxis_iff_mem {axis : Axis} {nodes : List Node}
    (given : forest.onAxis? stamp axis node = some nodes)
    : forest.OnAxis stamp axis node other ↔ other ∈ nodes := by
  simp [OnAxis, given]

/-- Ancestors, descendants, what follows and what precedes a node, and the node itself unless it
is an attribute or a binding, share out the skeleton of its tree. On the skeleton, the axes in
opposite directions are inverse to each other.
-/
theorem axes_partition (proper : forest.HasProper node) (within : forest.HasWithin stamp node)
    (mark : Nat → Int)
    : (∃ ancestors descendants following preceding,
        forest.SharedOut mark stamp node ancestors descendants following preceding)
      ∧ ∀ other ∈ forest.skeleton stamp node.tree, ¬ node.place.isAttached →
        (forest.OnAxis stamp .following node other ↔ forest.OnAxis stamp .preceding other node)
        ∧ (forest.OnAxis stamp .descendant node other
          ↔ forest.OnAxis stamp .ancestor other node) := by
  obtain ⟨top, found, noLone, present⟩ := id proper
  have own {other : Node} (member : other ∈ forest.skeleton stamp node.tree)
      : forest.Has other := by
    obtain ⟨sameTree, inside, -⟩ := (mem_skeleton_iff found).mp member
    exact (has_iff forest other).mpr ⟨top, sameTree ▸ found, inside.1⟩
  constructor
  · have given (axis : Axis) := proper.exists_onAxis stamp axis
    obtain ⟨ancestors, up⟩ := given .ancestor
    obtain ⟨descendants, down⟩ := given .descendant
    obtain ⟨following, follows⟩ := given .following
    obtain ⟨preceding, precedes⟩ := given .preceding
    have parts : forest.Parts stamp node ancestors descendants following preceding :=
      { within
        mem_ancestors := fun other =>
          (onAxis_iff_mem up).symm.trans (onAncestor_iff found present)
        mem_descendants := fun other =>
          (onAxis_iff_mem down).symm.trans (onDescendant_iff found present)
        mem_following := fun other =>
          (onAxis_iff_mem follows).symm.trans (onFollowing_iff found present noLone numbered)
        mem_preceding := fun other =>
          (onAxis_iff_mem precedes).symm.trans (onPreceding_iff found noLone numbered) }
    refine ⟨ancestors, descendants, following, preceding, up, down, follows, precedes,
      fun other => ?_, fun other => ?_, fun other => ?_, fun other => ?_,
      onAxis?_nodup proper.has follows, onAxis?_nodup proper.has precedes,
      parts.perm ⟨onAxis?_nodup proper.has up, onAxis?_nodup proper.has down,
        onAxis?_nodup proper.has follows, onAxis?_nodup proper.has precedes⟩⟩
    · rw [← onAxis_iff_mem up, onAxis_iff found rfl, Top.mem_ancestors_iff_transGen,
        transGen_onAxis_iff found fun _ => rfl]
    · rw [← onAxis_iff_mem down, onAxis_iff found rfl, Top.mem_descendants_iff_transGen present,
        transGen_onAxis_iff found fun _ => rfl]
    · rw [← onAxis_iff_mem follows, onFollowing_iff found present noLone mark,
        parts.mem_descendants]
      refine and_congr_right fun member => ?_
      rw [before_iff proper.has (own member), and_iff_right member]
    · rw [← onAxis_iff_mem precedes, onPreceding_iff found noLone mark, parts.mem_ancestors]
      refine and_congr_right fun member => ?_
      rw [before_iff (own member) proper.has, and_iff_right member]
  · intro other member notAttached
    obtain ⟨sameTree, inside, -⟩ := (mem_skeleton_iff found).mp member
    obtain ⟨_, inTree, nodeInside⟩ := within
    obtain rfl := Option.some.inj (found.symm.trans inTree)
    have back : node ∈ forest.skeleton stamp other.tree :=
      sameTree ▸ (mem_skeleton_iff found).mpr ⟨rfl, nodeInside, notAttached⟩
    have otherFound : forest[other.tree]? = some top := sameTree ▸ found
    rw [onFollowing_iff found present noLone mark, onPreceding_iff otherFound noLone mark,
      onDescendant_iff found present, onAncestor_iff otherFound inside.1]
    exact ⟨by simp only [member, back, true_and], by simp only [member, back, true_and]⟩

/-- An attribute of an element with a text and a comment, which follow it. -/
theorem axes_partition_small
    : small.HasProper ⟨0, .attributeAt [] 0⟩ ∧ small.HasWithin 7 ⟨0, .attributeAt [] 0⟩
      ∧ small.skeleton 7 0 = [⟨0, .origin 7⟩, ⟨0, .inner []⟩, ⟨0, .inner [0]⟩, ⟨0, .inner [1]⟩]
      ∧ ∃ ancestors descendants following preceding,
        small.SharedOut numbered 7 ⟨0, .attributeAt [] 0⟩ ancestors descendants following preceding
        ∧ ancestors = [⟨0, .inner []⟩, ⟨0, .origin 7⟩] ∧ descendants = []
        ∧ following = [⟨0, .inner [0]⟩, ⟨0, .inner [1]⟩] ∧ preceding = [] := by
  have proper : small.HasProper ⟨0, .attributeAt [] 0⟩ := ⟨_, rfl, by decide, rfl⟩
  have within : small.HasWithin 7 ⟨0, .attributeAt [] 0⟩ := ⟨_, rfl, rfl, by simp⟩
  obtain ⟨⟨ancestors, descendants, following, preceding, shared⟩, -⟩ :=
    axes_partition proper within numbered
  refine ⟨proper, within, by decide +kernel, ancestors, descendants, following, preceding, shared,
    Option.some.inj (shared.onAncestor.symm.trans rfl),
    Option.some.inj (shared.onDescendant.symm.trans rfl), ?_,
    Option.some.inj (shared.onPreceding.symm.trans rfl)⟩
  exact Option.some.inj (shared.onFollowing.symm.trans (by decide +kernel))

end Forest

end PathQuery
