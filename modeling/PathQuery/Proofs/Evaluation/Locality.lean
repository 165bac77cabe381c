import PathQuery.Function.Core
import PathQuery.Proofs.Evaluation.Steps

/-! What a location path depends on. The context node, its position and the number of nodes that it
is one of are replaced before a predicate sees them, so that a path only depends on the nodes that
it starts from; an absolute one on their trees.
-/

namespace PathQuery

-----------------------------------------------------------------------------------------
-- The context node
-----------------------------------------------------------------------------------------

section Focus

variable (library : Library) (context : Context) (node : Node) (position size : Nat)

/-- Predicates see no context node but those that they are put to, by induction on the list. -/
theorem Expr.restrict_focus (predicates : List Expr) (nodes : List Node)
    : Expr.restrict library (context.focus node position size) predicates nodes
      = Expr.restrict library context predicates nodes := by
  induction predicates generalizing nodes with
  | nil => rw [Expr.restrict, Expr.restrict]
  | cons predicate rest ih =>
      rw [Expr.restrict, Expr.restrict]
      simp only [ih]
      rfl

theorem Step.take_focus (step : Step) (nodes : List Node)
    : step.take library (context.focus node position size) nodes
      = step.take library context nodes := by
  cases step with
  | mk axisName test predicates =>
      rw [Step.take, Step.take]
      simp only [Expr.restrict_focus]
      rfl

theorem Step.follow_focus (steps : List Step) (nodes : List Node)
    : Step.follow library (context.focus node position size) steps nodes
      = Step.follow library context steps nodes := by
  induction steps generalizing nodes with
  | nil => rw [Step.follow, Step.follow]
  | cons step rest ih =>
      rw [Step.follow, Step.follow]
      simp only [Step.take_focus, ih]

theorem Expr.evaluate_path_focus (absolute : Bool) (steps : List Step) (start : List Node)
    : (Expr.path absolute steps).evaluate library (context.focus node position size) start
      = (Expr.path absolute steps).evaluate library context start := by
  rw [Expr.evaluate, Expr.evaluate]
  simp only [Step.follow_focus]
  rfl

end Focus

/-- Contexts that differ in the context node, its position and the number of nodes only. -/
structure Context.Shares (context other : Context) : Prop where
  forest_eq : context.forest = other.forest
  stamp_eq : context.stamp = other.stamp
  bindings_eq : context.bindings = other.bindings
  values_eq : context.values = other.values
  options_eq : context.options = other.options

theorem Context.Shares.eq_focus {context other : Context} (shares : context.Shares other)
    : other = context.focus other.node other.position other.size := by
  obtain ⟨forest, stamp, node, position, size, bindings, values, options⟩ := context
  obtain ⟨rfl, rfl, rfl, rfl, rfl⟩ := shares
  rfl

-----------------------------------------------------------------------------------------
-- Absolute paths
-----------------------------------------------------------------------------------------

section Roots

variable {context : Context} {node other : Node} {nodes others : List Node}

/-- Nodes of one tree have one root in an evaluation. -/
theorem Context.rootOf_eq_of_tree (within : context.forest.HasWithin context.stamp node)
    (also : context.forest.HasWithin context.stamp other) (same : node.tree = other.tree)
    : context.rootOf node = context.rootOf other := by
  have root (node : Node) (within : context.forest.HasWithin context.stamp node)
      : context.rootOf node = context.rootOf ⟨node.tree, .inner []⟩ := by
    obtain ⟨tree, place⟩ := node
    obtain ⟨top, found, -, origin⟩ := within
    cases place with
    | inner | attributeAt | bindingAt => rfl
    | origin own =>
        obtain ⟨rfl, noDocument⟩ := origin own rfl
        simp [rootOf, Forest.rootOf, show context.forest[tree]? = some top from found, noDocument]
  rw [root node within, root other also, same]

/-- An absolute path starts from the same roots for nodes of the same trees. -/
theorem startNodes_eq_of_trees
    (within : ∀ node ∈ nodes, context.forest.HasWithin context.stamp node)
    (also : ∀ node ∈ others, context.forest.HasWithin context.stamp node)
    (same : ∀ tree, tree ∈ nodes.map Node.tree ↔ tree ∈ others.map Node.tree)
    : startNodes context true nodes = startNodes context true others := by
  have rooted {nodes others : List Node}
      (within : ∀ node ∈ nodes, context.forest.HasWithin context.stamp node)
      (also : ∀ node ∈ others, context.forest.HasWithin context.stamp node)
      (trees : ∀ tree, tree ∈ nodes.map Node.tree → tree ∈ others.map Node.tree) (root : Node)
      (member : root ∈ nodes.map context.rootOf)
      : root ∈ others.map context.rootOf := by
    obtain ⟨node, inside, rfl⟩ := List.mem_map.mp member
    obtain ⟨other, found, sameTree⟩ := List.mem_map.mp (trees _ (List.mem_map_of_mem inside))
    refine List.mem_map.mpr ⟨other, found, ?_⟩
    exact Context.rootOf_eq_of_tree (also other found) (within node inside) sameTree
  have among : ∀ root ∈ nodes.map context.rootOf,
      context.forest.HasAmong (· = context.stamp) root := by
    intro root member
    obtain ⟨node, inside, rfl⟩ := List.mem_map.mp member
    exact ((Forest.hasAmong_iff_hasWithin node).mpr (within node inside)).rootOf rfl
  have members (root : Node) : root ∈ nodes.map context.rootOf ↔ root ∈ others.map context.rootOf :=
    ⟨rooted within also (fun tree => (same tree).mp) root,
      rooted also within (fun tree => (same tree).mpr) root⟩
  obtain ⟨sorted, found, isSet, inside⟩ := Forest.exists_sorted among
  have present : ∀ root ∈ others.map context.rootOf, context.forest.Has root :=
    fun root member => (among root ((members root).mpr member)).has
  have foundAlso : context.forest.sorted? (others.map context.rootOf) = some sorted :=
    Forest.sortedBy?_eq_of_pairwise present (Locations.holdIn_nil _)
      (fun root => (inside root).trans (members root)) isSet.increasing
  rw [startNodes, startNodes, if_pos rfl, if_pos rfl, inOrder, inOrder, found, foundAlso]

end Roots

/-- The outcome of a location path only depends on the nodes that it starts from, and on their trees
if it is absolute, whatever context node, position and size the contexts have.
-/
theorem Expr.evaluate_path_local (library : Library) {context other : Context}
    (shares : context.Shares other) (absolute : Bool) (steps : List Step)
    : (∀ start, (Expr.path absolute steps).evaluate library other start
        = (Expr.path absolute steps).evaluate library context start)
      ∧ (absolute → ∀ start starts : List Node,
        (∀ node ∈ start, context.forest.HasWithin context.stamp node) →
        (∀ node ∈ starts, context.forest.HasWithin context.stamp node) →
        (∀ tree, tree ∈ start.map Node.tree ↔ tree ∈ starts.map Node.tree) →
        (Expr.path absolute steps).evaluate library other starts
          = (Expr.path absolute steps).evaluate library context start) := by
  rw [shares.eq_focus]
  refine ⟨fun start => Expr.evaluate_path_focus .., ?_⟩
  rintro rfl start starts within also same
  rw [Expr.evaluate_path_focus, Expr.evaluate, Expr.evaluate,
    startNodes_eq_of_trees within also same]

/-- The last text of a tree, from three of its nodes and from its origin. -/
theorem Expr.evaluate_path_local_small
    : ∃ context other : Context, context.Shares other ∧ context.size ≠ other.size
      ∧ (Expr.path true [.mk "descendant" (.nodeType "text") [.call "last" []]]).evaluate
          Library.core other [⟨0, .origin 7⟩]
        = (Expr.path true [.mk "descendant" (.nodeType "text") [.call "last" []]]).evaluate
          Library.core context [⟨0, .inner [1]⟩, ⟨0, .inner []⟩, ⟨0, .attributeAt [] 0⟩] := by
  let context : Context :=
    { forest := .small, stamp := 7, node := ⟨0, .inner [0]⟩, position := 2, size := 3,
      bindings := .initial, values := [], options := .standard }
  have within {node : Node} (inside : Forest.small.HasWithin 7 node)
      : context.forest.HasWithin context.stamp node := inside
  refine ⟨context, context.focus ⟨0, .inner []⟩ 1 1, ⟨rfl, rfl, rfl, rfl, rfl⟩, by decide, ?_⟩
  refine (Expr.evaluate_path_local Library.core ⟨rfl, rfl, rfl, rfl, rfl⟩ true _).2 rfl
    [⟨0, .inner [1]⟩, ⟨0, .inner []⟩, ⟨0, .attributeAt [] 0⟩] [⟨0, .origin 7⟩]
    (fun node member => within ?_) (fun node member => within ?_) (by simp)
  · simp only [List.mem_cons, List.not_mem_nil, or_false] at member
    rcases member with rfl | rfl | rfl <;> exact ⟨_, rfl, rfl, by simp⟩
  · cases List.mem_singleton.mp member
    exact (Forest.hasAmong_iff_hasWithin _).mp ⟨_, rfl, Top.hasAmong_origin (by decide) rfl⟩

end PathQuery
