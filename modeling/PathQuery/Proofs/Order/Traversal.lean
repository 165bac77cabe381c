import PathQuery.Proofs.Order.Sorting
import PathQuery.Value.NodeSet

/-! The traversal of a forest in document order, and that sorting agrees with it: nodes are
put in the order in which the traversal meets them, whatever their order before.
-/

namespace PathQuery

-----------------------------------------------------------------------------------------
-- The traversal of a tree
-----------------------------------------------------------------------------------------

namespace Top

/-- The place that a path leads to, its namespace bindings and its attributes. -/
def own (top : Top) (path : List Nat) : List Place :=
  .inner path :: (top.bindingPlaces (.inner path) ++ top.attributePlaces (.inner path))

/-- The paths of the top and of all items below it, each before those of its content. -/
def paths (top : Top) : List (List Nat) :=
  [] :: (Item.preorderAll [] 0 top.content).map Prod.fst

/-- All places of a tree: an origin with the stamp unless a document is the root, then each item
followed by its bindings, its attributes and its content.
-/
def traversal (top : Top) (stamp : Nat) : List Place :=
  (if top.isDocument then [] else [.origin stamp]) ++ top.paths.flatMap top.own

/-- A place of the tree, where an origin is the root with the stamp. -/
def HasWithin (top : Top) (stamp : Nat) (place : Place) : Prop :=
  top.Has place ∧ ∀ found, place = .origin found → found = stamp ∧ ¬ top.isDocument

/-- The traversal follows the paths to what is there. -/
theorem mem_paths_iff (top : Top) (path : List Nat)
    : path ∈ top.paths ↔ top.Has (.inner path) := by
  cases path with
  | nil => simp [paths]
  | cons index path =>
      rw [paths, has_cons_iff, List.mem_cons, mem_map_fst_preorderAll]
      constructor
      · rintro (same | ⟨other, more, same, leads⟩)
        · simp at same
        · rw [List.nil_append, Nat.zero_add, List.cons.injEq] at same
          rwa [same.1, same.2]
      · intro leads
        exact .inr ⟨index, path, by simp, leads⟩

/-- The traversal meets all places of the tree and no others. -/
theorem mem_traversal_iff (top : Top) (stamp : Nat) (place : Place)
    : place ∈ top.traversal stamp ↔ top.HasWithin stamp place := by
  rw [traversal, List.mem_append, List.mem_flatMap, HasWithin]
  cases place with
  | origin found =>
      by_cases document : top.isDocument <;>
        simp [document, own, bindingPlaces, attributePlaces]
  | inner path =>
      by_cases document : top.isDocument <;>
        simp [document, own, bindingPlaces, attributePlaces, mem_paths_iff]
  | attributeAt path index =>
      have element : top.Has (.attributeAt path index) → top.Has (.inner path) :=
        has_of_attribute
      rw [has_attributeAt_iff] at element ⊢
      by_cases document : top.isDocument <;>
        simpa [document, own, bindingPlaces, attributePlaces, mem_paths_iff] using element
  | bindingAt path index =>
      have element : top.Has (.bindingAt path index) → top.Has (.inner path) :=
        has_of_binding
      rw [has_bindingAt_iff] at element ⊢
      by_cases document : top.isDocument <;>
        simpa [document, own, bindingPlaces, attributePlaces, mem_paths_iff] using element

end Top

-----------------------------------------------------------------------------------------
-- The traversal is in the order of keys
-----------------------------------------------------------------------------------------

namespace Place

/-- What an item's own places add to its key stays before what its content adds. -/
def Early (more : List Int) : Prop :=
  ∀ head ∈ more.head?, head < Rank.content.toInt

/-- The own places of an item have its path in their keys, and keep before its content. -/
theorem key_of_mem_own {top : Top} {path : List Nat} {place : Place}
    (member : place ∈ top.own path)
    : ∃ more, place.key = 0 :: (pathKey path ++ more) ∧ Early more := by
  simp only [Top.own, Top.bindingPlaces, Top.attributePlaces, List.mem_cons, List.mem_append,
    List.mem_map] at member
  rcases member with rfl | ⟨index, -, rfl⟩ | ⟨index, -, rfl⟩
  · exact ⟨[], by simp [key], by simp [Early]⟩
  · exact ⟨_, rfl, by simp [Early, Location.toKey, Rank.toInt]⟩
  · exact ⟨_, rfl, by simp [Early, Location.toKey, Rank.toInt]⟩

/-- What depends on an item comes after it. -/
theorem key_lt_dependent (path : List Nat) (location : Location)
    : (inner path).key < (dependent path location).key := by
  have longer : (inner path).key ++ [] < (inner path).key ++ location.toKey :=
    List.append_left_lt (List.nil_lt_cons _ _)
  rwa [List.append_nil, ← key_dependent] at longer

/-- Own places of a smaller path have the smaller keys. -/
theorem pathKey_append_lt {path other : List Nat} {more further : List Int} (before : path < other)
    (early : Early more)
    : pathKey path ++ more < pathKey other ++ further := by
  induction path generalizing other with
  | nil =>
      cases other with
      | nil => exact absurd before (List.not_lt_nil [])
      | cons index other =>
          cases more with
          | nil => exact List.nil_lt_cons _ _
          | cons head more =>
              exact List.cons_lt_cons_iff.mpr (.inl (early head rfl))
  | cons index path ih =>
      cases other with
      | nil => exact absurd before (List.not_lt_nil _)
      | cons place other =>
          simp only [pathKey, List.flatMap_cons, Location.toKey, List.cons_append, List.nil_append,
            List.cons_lt_cons_iff, lt_irrefl, true_and, false_or, Int.ofNat_lt, Int.natCast_inj]
            at ih ⊢
          rw [List.cons_lt_cons_iff] at before
          exact before.imp_right fun inside => ⟨inside.1, ih inside.2⟩

end Place

namespace Top

/-- The own places of an item have increasing keys. -/
theorem own_pairwise (top : Top) (path : List Nat)
    : (top.own path).Pairwise (fun left right => left.key < right.key) := by
  have siblings (rank : Rank) (count : Nat)
      : ((List.range count).map (fun index => Place.dependent path ⟨rank, index⟩)).Pairwise
        (fun left right => left.key < right.key) := by
    rw [List.pairwise_map]
    refine List.pairwise_lt_range.imp fun {left right} before => ?_
    rw [Place.key_dependent, Place.key_dependent]
    refine List.append_left_lt ?_
    simpa [Location.toKey, List.cons_lt_cons_iff] using before
  rw [own, List.pairwise_cons, List.pairwise_append]
  refine ⟨?_, siblings .bindings _, siblings .attributes _, ?_⟩
  · intro place member
    simp only [bindingPlaces, attributePlaces, List.mem_append, List.mem_map] at member
    rcases member with ⟨index, -, rfl⟩ | ⟨index, -, rfl⟩
    · exact Place.key_lt_dependent path ⟨.bindings, index⟩
    · exact Place.key_lt_dependent path ⟨.attributes, index⟩
  · intro left inside right member
    obtain ⟨index, -, rfl⟩ := List.mem_map.mp inside
    obtain ⟨other, -, rfl⟩ := List.mem_map.mp member
    have before : Location.toKey ⟨.bindings, index⟩ < Location.toKey ⟨.attributes, other⟩ :=
      List.cons_lt_cons_iff.mpr (.inl (by simp [Rank.toInt]))
    exact List.append_left_lt before

/-- The traversal meets the places of a tree with increasing keys. -/
theorem traversal_pairwise (top : Top) (stamp : Nat)
    : (top.traversal stamp).Pairwise (fun left right => left.key < right.key) := by
  have increasing : top.paths.Pairwise (· < ·) := by
    rw [paths, List.pairwise_cons]
    refine ⟨?_, Item.preorderAll_pairwise_lt [] 0 top.content⟩
    intro path member
    obtain ⟨index, more, rfl, -⟩ := mem_map_fst_preorderAll.mp member
    exact List.nil_lt_cons _ _
  rw [traversal, List.pairwise_append, List.pairwise_flatMap]
  refine ⟨?_, ⟨fun path _ => own_pairwise top path, ?_⟩, ?_⟩
  · split <;> simp
  · refine increasing.imp fun {path other} before left inside right member => ?_
    obtain ⟨more, leftKey, early⟩ := Place.key_of_mem_own inside
    obtain ⟨further, rightKey, -⟩ := Place.key_of_mem_own member
    rw [leftKey, rightKey, List.cons_lt_cons_iff]
    exact .inr ⟨rfl, Place.pathKey_append_lt before early⟩
  · intro root member place inside
    obtain ⟨path, -, inside⟩ := List.mem_flatMap.mp inside
    obtain ⟨more, key, -⟩ := Place.key_of_mem_own inside
    split at member
    · simp at member
    · rw [List.mem_singleton.mp member, key]
      exact List.cons_lt_cons_iff.mpr (.inl (by decide))

end Top

-----------------------------------------------------------------------------------------
-- The traversal of a forest
-----------------------------------------------------------------------------------------

namespace Forest

/-- The trees of a forest have different marks. -/
def MarkedApart (forest : Forest) (mark : Nat → Int) : Prop :=
  ∀ left < forest.length, ∀ right < forest.length, mark left = mark right → left = right

/-- A node of the forest, where origins are the roots with the stamp. -/
def HasWithin (forest : Forest) (stamp : Nat) (node : Node) : Prop :=
  ∃ top, forest[node.tree]? = some top ∧ top.HasWithin stamp node.place

/-- The nodes of a tree of the forest in document order. -/
def treeNodes (forest : Forest) (stamp tree : Nat) : List Node :=
  match forest[tree]? with
  | some top => nodesAt tree (top.traversal stamp)
  | none => []

/-- All nodes of a forest in document order, where the trees come in the order of their
marks.
-/
def traversal (forest : Forest) (mark : Nat → Int) (stamp : Nat) : List Node :=
  ((List.range forest.length).mergeSort (fun left right => mark left ≤ mark right)).flatMap
    (forest.treeNodes stamp)

variable {forest : Forest} {mark : Nat → Int} {stamp : Nat}

/-- The nodes of a tree belong to it. -/
theorem mem_treeNodes_iff (tree : Nat) (node : Node)
    : node ∈ forest.treeNodes stamp tree ↔ node.tree = tree ∧ forest.HasWithin stamp node := by
  rw [treeNodes]
  split
  case h_1 top found =>
    rw [nodesAt, List.mem_map]
    constructor
    · rintro ⟨place, inside, rfl⟩
      exact ⟨rfl, top, found, (top.mem_traversal_iff stamp place).mp inside⟩
    · rintro ⟨rfl, other, same, inside⟩
      rw [found, Option.some.injEq] at same
      subst other
      exact ⟨node.place, (top.mem_traversal_iff stamp _).mpr inside, rfl⟩
  case h_2 missing =>
    simp only [List.not_mem_nil, false_iff, HasWithin, not_and, not_exists]
    rintro rfl top
    simp [missing]

/-- The traversal of a forest meets all of its nodes and no others. -/
theorem mem_traversal_iff (mark : Nat → Int) (stamp : Nat) (node : Node)
    : node ∈ forest.traversal mark stamp ↔ forest.HasWithin stamp node := by
  simp only [traversal, List.mem_flatMap, List.mem_mergeSort, List.mem_range, mem_treeNodes_iff]
  constructor
  · rintro ⟨tree, -, -, inside⟩
    exact inside
  · intro inside
    obtain ⟨top, found, -⟩ := id inside
    exact ⟨node.tree, (List.getElem?_eq_some_iff.mp found).1, rfl, inside⟩

theorem treeNodes_pairwise (tree : Nat)
    : (forest.treeNodes stamp tree).Pairwise
      (fun left right => left.key mark < right.key mark) := by
  rw [treeNodes]
  split
  · rw [nodesAt, List.pairwise_map]
    refine (Top.traversal_pairwise _ stamp).imp fun before => ?_
    exact List.cons_lt_cons_iff.mpr (.inr ⟨rfl, before⟩)
  · exact .nil

/-- The traversal of a forest with different marks meets its nodes with increasing keys. -/
theorem traversal_pairwise (apart : forest.MarkedApart mark) (stamp : Nat)
    : (forest.traversal mark stamp).Pairwise
      (fun left right => left.key mark < right.key mark) := by
  rw [traversal, List.pairwise_flatMap]
  refine ⟨fun tree _ => treeNodes_pairwise tree, ?_⟩
  have ordered : ((List.range forest.length).mergeSort (fun left right => mark left ≤ mark right))
      |>.Pairwise (fun left right => decide (mark left ≤ mark right)) :=
    List.pairwise_mergeSort (by simpa using fun _ _ _ => le_trans)
      (by simpa using fun _ _ => le_total _ _) _
  have distinct := (List.mergeSort_perm (List.range forest.length)
    (fun left right => mark left ≤ mark right)).nodup_iff.mpr List.nodup_range
  refine (ordered.and distinct).imp_of_mem fun {tree other} inside member both => ?_
  intro left leftMember right rightMember
  obtain ⟨rfl, -⟩ := (mem_treeNodes_iff tree left).mp leftMember
  obtain ⟨rfl, -⟩ := (mem_treeNodes_iff other right).mp rightMember
  rw [List.mem_mergeSort, List.mem_range] at inside member
  refine List.cons_lt_cons_iff.mpr (.inl (lt_of_le_of_ne (by simpa using both.1) fun same => ?_))
  exact both.2 (apart _ inside _ member same)

-----------------------------------------------------------------------------------------
-- Sorting
-----------------------------------------------------------------------------------------

/-- Nodes of the forest have different keys. -/
theorem key_inj (apart : forest.MarkedApart mark) {left right : Node}
    (leftWithin : forest.HasWithin stamp left) (rightWithin : forest.HasWithin stamp right)
    (same : left.key mark = right.key mark)
    : left = right := by
  have increasing := traversal_pairwise apart stamp
  have comparable : (forest.traversal mark stamp).Pairwise fun left right =>
      left.key mark = right.key mark → left = right :=
    increasing.imp fun before equal => absurd (equal ▸ before) (lt_irrefl _)
  refine comparable.forall_of_forall_of_flip (fun _ _ _ => rfl) ?_
    ((mem_traversal_iff mark stamp left).mpr leftWithin)
    ((mem_traversal_iff mark stamp right).mpr rightWithin) same
  exact increasing.imp fun before equal => absurd (equal ▸ before) (lt_irrefl _)

theorem HasWithin.has {node : Node} (within : forest.HasWithin stamp node) : forest.Has node := by
  obtain ⟨top, found, inside, -⟩ := within
  exact (has_iff forest node).mpr ⟨top, found, inside⟩

/-- Sorting gives the nodes, each once, in the order in which the traversal meets them, whatever
locations are known before; a node-set of them holds the same. Their keys are found and differ.
-/
theorem sortedBy?_eq_traversal (stamp : Nat) {known : Locations} {nodes : List Node}
    (apart : forest.MarkedApart mark) (hold : known.HoldIn forest)
    (within : ∀ node ∈ nodes, forest.HasWithin stamp node)
    : (∃ sorted, forest.sortedBy? mark known nodes = some sorted
        ∧ NodeSet.ofNodesBy? forest mark nodes = some ⟨sorted⟩
        ∧ sorted = (forest.traversal mark stamp).filter (· ∈ nodes)
        ∧ sorted.Nodup
        ∧ ∀ node, node ∈ sorted ↔ node ∈ nodes)
      ∧ (∀ node ∈ nodes, ∃ more, forest.key? mark known node = some (node.key mark, more)
        ∧ more.HoldIn forest)
      ∧ ∀ left ∈ nodes, ∀ right ∈ nodes, left.key mark = right.key mark → left = right := by
  have present : ∀ node ∈ nodes, forest.Has node := fun node member => (within node member).has
  have members (node : Node)
      : node ∈ (forest.traversal mark stamp).filter (· ∈ nodes) ↔ node ∈ nodes := by
    rw [List.mem_filter, mem_traversal_iff, decide_eq_true_iff]
    exact ⟨And.right, fun member => ⟨within node member, member⟩⟩
  have increasing := (traversal_pairwise apart stamp).filter (· ∈ nodes)
  have sorted {known : Locations} (hold : known.HoldIn forest) :=
    sortedBy?_eq_of_pairwise present hold members increasing
  refine ⟨⟨_, sorted hold, ?_, rfl, ?_, members⟩, ?_, ?_⟩
  · rw [NodeSet.ofNodesBy?, sorted (Locations.holdIn_nil forest)]
    rfl
  · refine increasing.imp fun {left right} before same => ?_
    rw [same] at before
    exact lt_irrefl _ before
  · exact fun node member => key?_eq mark (present node member) hold
  · exact fun left inside right member => key_inj apart (within left inside) (within right member)

/-- An element with an attribute, a text and a comment, and a document with an element. -/
def small : Forest :=
  [.item (.element ⟨⟨none, "a"⟩, none, [⟨⟨none, "k"⟩, none, "v"⟩], []⟩ [.text "t", .comment "c"]),
    .document [.element ⟨⟨none, "b"⟩, none, [], []⟩ []]]

/-- The second tree comes first if it has the smaller mark. -/
theorem traversal_small
    : small.traversal (fun tree => -tree) 7
      = [⟨1, .inner []⟩, ⟨1, .inner [0]⟩, ⟨1, .bindingAt [0] 0⟩, ⟨0, .origin 7⟩, ⟨0, .inner []⟩,
          ⟨0, .bindingAt [] 0⟩, ⟨0, .attributeAt [] 0⟩, ⟨0, .inner [0]⟩, ⟨0, .inner [1]⟩] := by
  have turned : (List.range 2).mergeSort
      (fun left right => decide (-(left : Int) ≤ -(right : Int))) = [1, 0] := by
    simp [List.range, List.range.loop, List.mergeSort, List.MergeSort.Internal.splitInTwo]
  show ((List.range 2).mergeSort
      (fun left right => decide (-(left : Int) ≤ -(right : Int)))).flatMap _ = _
  rw [turned]
  decide +kernel

/-- Nodes of both trees in no order, one of them repeated, and some locations known before. -/
theorem sortedBy?_eq_traversal_small
    : small.sortedBy? (fun tree => -tree)
        [(⟨0, .inner [1]⟩, ⟨.content, 1⟩), (⟨0, .inner [0]⟩, ⟨.content, 0⟩)]
        [⟨0, .inner [1]⟩, ⟨0, .attributeAt [] 0⟩, ⟨0, .inner [1]⟩, ⟨0, .inner []⟩, ⟨0, .origin 7⟩,
          ⟨1, .inner [0]⟩]
      = some [⟨1, .inner [0]⟩, ⟨0, .origin 7⟩, ⟨0, .inner []⟩, ⟨0, .attributeAt [] 0⟩,
          ⟨0, .inner [1]⟩] := by
  have apart : small.MarkedApart (fun tree => -tree) := fun left _ right _ same =>
    Int.natCast_inj.mp (Int.neg_inj.mp same)
  have within : ∀ node ∈ [⟨0, .inner [1]⟩, ⟨0, .attributeAt [] 0⟩, ⟨0, .inner [1]⟩, ⟨0, .inner []⟩,
      ⟨0, .origin 7⟩, ⟨1, .inner [0]⟩], small.HasWithin 7 node := by
    simp [← mem_traversal_iff (fun tree => -tree), traversal_small]
  obtain ⟨⟨sorted, found, -, same, -⟩, -⟩ :=
    sortedBy?_eq_traversal 7 apart ((Locations.holdIn_nil small).addAll 0 [] .content) within
  rw [traversal_small] at same
  exact found.trans (congrArg some same)

end Forest

end PathQuery
