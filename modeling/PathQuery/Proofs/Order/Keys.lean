import Mathlib.Data.List.Induction
import PathQuery.Proofs.Tree.Presence
import PathQuery.Tree.Order

/-! What the way up from a node finds. A key can be read off the place of a node, whatever
locations are known before, as long as each known location is one where the node stands.
-/

namespace PathQuery

-----------------------------------------------------------------------------------------
-- Keys of places
-----------------------------------------------------------------------------------------

namespace Place

/-- The place at a location below the one that a path leads to. -/
def dependent (path : List Nat) : Location → Place
  | ⟨.content, index⟩ => .inner (path ++ [index])
  | ⟨.attributes, index⟩ => .attributeAt path index
  | ⟨.bindings, index⟩ => .bindingAt path index

def pathKey (path : List Nat) : List Int :=
  path.flatMap (fun index => Location.toKey ⟨.content, index⟩)

/-- The key of a place, apart from the mark of its tree. -/
def key : Place → List Int
  | .origin _ => [-1]
  | .inner path => 0 :: pathKey path
  | .attributeAt path index => 0 :: pathKey path ++ Location.toKey ⟨.attributes, index⟩
  | .bindingAt path index => 0 :: pathKey path ++ Location.toKey ⟨.bindings, index⟩

@[simp] theorem rank_dependent (path : List Nat) (location : Location)
    : (dependent path location).rank = location.rank := by
  obtain ⟨rank, index⟩ := location
  cases rank <;> rfl

/-- A place has one location below one parent. -/
theorem dependent_inj {path other : List Nat} {left right : Location}
    : dependent path left = dependent other right ↔ path = other ∧ left = right := by
  obtain ⟨rank, index⟩ := left
  obtain ⟨rank', index'⟩ := right
  constructor
  · intro same
    cases rank <;> cases rank' <;> simp_all [dependent]
  · rintro ⟨rfl, same⟩
    rw [same]

/-- A location is added to the key of the parent. -/
theorem key_dependent (path : List Nat) (location : Location)
    : (dependent path location).key = (inner path).key ++ location.toKey := by
  obtain ⟨rank, index⟩ := location
  cases rank <;> simp [dependent, key, pathKey]

end Place

/-- The nodes above a path with one more index are the one before it and those above that. -/
theorem pathsAbove_concat (path : List Nat) (index : Nat)
    : pathsAbove (path ++ [index]) = path :: pathsAbove path := by
  simp only [pathsAbove, List.length_append, List.length_singleton, List.range_succ,
    List.reverse_append, List.reverse_singleton, List.singleton_append, List.map_cons,
    List.take_left', List.cons.injEq, true_and]
  refine List.map_congr_left fun count member => ?_
  rw [List.mem_reverse, List.mem_range] at member
  exact List.take_append_of_le_length (Nat.le_of_lt member)

theorem Top.above_dependent (path : List Nat) (location : Location)
    : above (.dependent path location) = .inner path :: above (.inner path) := by
  obtain ⟨rank, index⟩ := location
  cases rank <;> simp [Place.dependent, above, pathsAbove_concat]

-----------------------------------------------------------------------------------------
-- Known locations
-----------------------------------------------------------------------------------------

namespace Forest

/-- Something is found at the node. -/
def Has (forest : Forest) (node : Node) : Prop :=
  (forest.view? node).isSome

theorem has_iff (forest : Forest) (node : Node)
    : forest.Has node ↔ ∃ top, forest[node.tree]? = some top ∧ top.Has node.place := by
  rw [Has, view?]
  cases forest[node.tree]? <;> simp [Top.Has]

/-- The dependents of a parent stand at the locations of their rank. -/
theorem dependents_getElem? {forest : Forest} {tree : Nat} {path : List Nat} {rank : Rank}
    {index : Nat} {node : Node}
    (found : (forest.dependents ⟨tree, .inner path⟩ rank)[index]? = some node)
    : node = ⟨tree, .dependent path ⟨rank, index⟩⟩ := by
  rw [dependents] at found
  split at found
  · cases rank with
    | content =>
        simp only [nodesAt, Top.below, List.getElem?_map, getElem?_located, Nat.zero_add,
          Option.map_map, Option.map_eq_some_iff] at found
        obtain ⟨item, -, rfl⟩ := found
        rfl
    | attributes | bindings =>
        simp only [nodesAt, Top.attributePlaces, Top.bindingPlaces, List.getElem?_map,
          Option.map_map, Option.map_eq_some_iff, List.getElem?_eq_some_iff,
          List.getElem_range] at found
        obtain ⟨count, ⟨-, rfl⟩, rfl⟩ := found
        rfl
  · simp at found

/-- A dependent that is there is found at its location. -/
theorem getElem?_dependents {forest : Forest} {tree : Nat} {path : List Nat}
    {location : Location} (present : forest.Has ⟨tree, .dependent path location⟩)
    : (forest.dependents ⟨tree, .inner path⟩ location.rank)[location.index]?
      = some ⟨tree, .dependent path location⟩ := by
  obtain ⟨top, inside, present⟩ := (has_iff forest _).mp present
  obtain ⟨rank, index⟩ := location
  rw [dependents, inside]
  cases rank with
  | content =>
      have bound := ((top.has_concat_iff path index).mp present).2
      simp [nodesAt, Top.below, getElem?_located, List.getElem?_eq_getElem bound, Place.dependent]
  | attributes =>
      have bound := (top.has_attributeAt_iff path index).mp present
      simp [nodesAt, Top.attributePlaces, List.getElem?_range bound, Place.dependent]
  | bindings =>
      have bound := (top.has_bindingAt_iff path index).mp present
      simp [nodesAt, Top.bindingPlaces, List.getElem?_range bound, Place.dependent]

end Forest

/-- Each location is one where the node stands below its parent in a forest. -/
def Locations.HoldIn (known : Locations) (forest : Forest) : Prop :=
  ∀ node location, known.lookup node = some location →
    ∃ parent, (Forest.above node).head? = some parent
      ∧ (forest.dependents parent location.rank)[location.index]? = some node

namespace Locations

/-- A known location of a dependent is the one that it stands at. -/
theorem HoldIn.lookup_dependent {known : Locations} {forest : Forest} (hold : known.HoldIn forest)
    {tree : Nat} {path : List Nat} {location found : Location}
    (looked : known.lookup ⟨tree, .dependent path location⟩ = some found)
    : found = location := by
  obtain ⟨parent, above, stands⟩ := hold _ _ looked
  simp only [Forest.above, Forest.nodesAt, Top.above_dependent, List.map_cons, List.head?_cons,
    Option.some.injEq] at above
  subst above
  have same := Forest.dependents_getElem? stands
  rw [Node.mk.injEq, Place.dependent_inj] at same
  exact same.2.2.symm

/-- What is found among known locations and those of siblings is an index of the siblings or was
known before.
-/
theorem lookup_addAll {known : Locations} {rank : Rank} {siblings : List Node} {node : Node}
    {location : Location} (found : (known.addAll rank siblings).lookup node = some location)
    : (location.rank = rank ∧ siblings[location.index]? = some node)
      ∨ known.lookup node = some location := by
  rw [addAll, List.lookup_append, Option.or_eq_some_iff] at found
  refine found.imp (fun found => ?_) And.right
  obtain ⟨before, after, same, -⟩ := List.lookup_eq_some_iff.mp found
  have member : (node, location) ∈ before ++ (node, location) :: after := by simp
  rw [← same, List.mem_reverse] at member
  obtain ⟨⟨sibling, index⟩, inside, same⟩ := List.mem_map.mp member
  rw [Prod.mk.injEq] at same
  obtain ⟨rfl, rfl⟩ := same
  exact ⟨rfl, by simpa using List.mem_zipIdx_iff_getElem?.mp inside⟩

theorem exists_lookup_addAll (known : Locations) (rank : Rank) {siblings : List Node}
    {node : Node} (member : node ∈ siblings)
    : ∃ location, (known.addAll rank siblings).lookup node = some location := by
  rw [← Option.isSome_iff_exists, List.lookup_isSome_iff]
  obtain ⟨index, found⟩ := List.mem_iff_getElem?.mp member
  refine ⟨(node, ⟨rank, index⟩), ?_, beq_self_eq_true node⟩
  refine List.mem_append_left known (List.mem_reverse.mpr ?_)
  refine List.mem_map.mpr ⟨(node, index), ?_, rfl⟩
  exact List.mem_zipIdx_iff_getElem?.mpr (by simpa using found)

/-- Locating all dependents of one rank keeps to where nodes stand. -/
theorem HoldIn.addAll {known : Locations} {forest : Forest} (hold : known.HoldIn forest)
    (tree : Nat) (path : List Nat) (rank : Rank)
    : (known.addAll rank (forest.dependents ⟨tree, .inner path⟩ rank)).HoldIn forest := by
  intro node location found
  rcases lookup_addAll found with ⟨rfl, stands⟩ | before
  · refine ⟨⟨tree, .inner path⟩, ?_, stands⟩
    rw [Forest.dependents_getElem? stands]
    simp [Forest.above, Forest.nodesAt, Top.above_dependent]
  · exact hold node location before

end Locations

-----------------------------------------------------------------------------------------
-- Keys of nodes
-----------------------------------------------------------------------------------------

/-- The key of a node: the mark of its tree and the key of its place. -/
def Node.key (mark : Nat → Int) (node : Node) : List Int :=
  mark node.tree :: node.place.key

namespace Forest

variable {forest : Forest} {known : Locations}

/-- The location of a dependent is found, whether it is known or not. -/
theorem locate?_eq (hold : known.HoldIn forest) {tree : Nat} {path : List Nat}
    {location : Location} (present : forest.Has ⟨tree, .dependent path location⟩)
    : ∃ more, forest.locate? known ⟨tree, .inner path⟩ ⟨tree, .dependent path location⟩
        = some (location, more)
      ∧ more.HoldIn forest := by
  rw [locate?]
  cases looked : known.lookup ⟨tree, .dependent path location⟩ with
  | some found =>
      obtain rfl := hold.lookup_dependent looked
      exact ⟨known, rfl, hold⟩
  | none =>
      -- all siblings of one rank are located then, this one among them
      have member := List.mem_of_getElem? (getElem?_dependents present)
      have more := hold.addAll tree path location.rank
      obtain ⟨found, looked⟩ := known.exists_lookup_addAll location.rank member
      obtain rfl := more.lookup_dependent looked
      simp only [Place.rank_dependent, looked]
      exact ⟨_, rfl, more⟩

/-- What the way up finds at the parent extends to its dependents. -/
theorem climb?_dependent {mark : Nat → Int} {tree : Nat} {path : List Nat} (location : Location)
    (parent : ∀ {known : Locations}, known.HoldIn forest →
      ∃ more, forest.climb? mark known ⟨tree, .inner path⟩ (above ⟨tree, .inner path⟩)
          = some (Node.key mark ⟨tree, .inner path⟩, more)
        ∧ more.HoldIn forest)
    (hold : known.HoldIn forest) (present : forest.Has ⟨tree, .dependent path location⟩)
    : ∃ more, forest.climb? mark known ⟨tree, .dependent path location⟩
          (above ⟨tree, .dependent path location⟩)
        = some (Node.key mark ⟨tree, .dependent path location⟩, more)
      ∧ more.HoldIn forest := by
  obtain ⟨located, found, hold⟩ := locate?_eq hold present
  obtain ⟨more, start, hold⟩ := parent hold
  refine ⟨more, ?_, hold⟩
  simp only [above, nodesAt, Top.above_dependent, List.map_cons] at start ⊢
  simp [climb?, found, start, Node.key, Place.key_dependent]

/-- The way up from an item finds the key of its place, by induction from the top down. -/
theorem climb?_inner (mark : Nat → Int) {tree : Nat} {path : List Nat}
    (present : forest.Has ⟨tree, .inner path⟩) (hold : known.HoldIn forest)
    : ∃ more, forest.climb? mark known ⟨tree, .inner path⟩ (above ⟨tree, .inner path⟩)
        = some (Node.key mark ⟨tree, .inner path⟩, more)
      ∧ more.HoldIn forest := by
  induction path using List.reverseRecOn generalizing known with
  | nil => exact ⟨known, rfl, hold⟩
  | append_singleton path index ih =>
      obtain ⟨top, inside, place⟩ := (has_iff forest _).mp present
      have parent : forest.Has ⟨tree, .inner path⟩ :=
        (has_iff forest _).mpr ⟨top, inside, Top.has_of_append [index] place⟩
      exact climb?_dependent ⟨.content, index⟩ (ih parent) hold present

/-- The key of a node that is there is found whatever is known. -/
theorem key?_eq (mark : Nat → Int) {node : Node} (present : forest.Has node)
    (hold : known.HoldIn forest)
    : ∃ more, forest.key? mark known node = some (node.key mark, more)
      ∧ more.HoldIn forest := by
  obtain ⟨tree, place⟩ := node
  obtain ⟨top, inside, found⟩ := (has_iff forest _).mp present
  cases place with
  | origin stamp => exact ⟨known, rfl, hold⟩
  | inner path => exact climb?_inner mark present hold
  | attributeAt path index =>
      have element := (has_iff forest ⟨tree, .inner path⟩).mpr
        ⟨top, inside, Top.has_of_attribute found⟩
      exact climb?_dependent ⟨.attributes, index⟩ (climb?_inner mark element) hold present
  | bindingAt path index =>
      have element := (has_iff forest ⟨tree, .inner path⟩).mpr
        ⟨top, inside, Top.has_of_binding found⟩
      exact climb?_dependent ⟨.bindings, index⟩ (climb?_inner mark element) hold present

/-- Nodes that are there get their keys, and what is known for one of them serves the next. -/
theorem keyed?_eq (mark : Nat → Int) {nodes : List Node} (present : ∀ node ∈ nodes, forest.Has node)
    (hold : known.HoldIn forest)
    : forest.keyed? mark known nodes = some (nodes.map fun node => (node.key mark, node)) := by
  induction nodes generalizing known with
  | nil => rfl
  | cons node rest ih =>
      obtain ⟨more, found, hold⟩ := key?_eq mark (present node (by simp)) hold
      have others := ih (fun other member => present other (by simp [member])) hold
      simp [keyed?, found, others]

end Forest

theorem Locations.holdIn_nil (forest : Forest) : Locations.HoldIn [] forest := by
  intro node location looked
  simp at looked

end PathQuery
