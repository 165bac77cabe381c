import Mathlib.Data.List.Forall2
import PathQuery.Proofs.Evaluation.Typing
import PathQuery.Proofs.Order.NodeSets

/-! Nodes of two evaluations that play the same part. Axes and roots lead from paired nodes to
paired ones, which are seen alike and stand in the same order; then all that an evaluation
finds out about one of them it finds out about its peer.
-/

namespace PathQuery

-----------------------------------------------------------------------------------------
-- Lists
-----------------------------------------------------------------------------------------

section Lists

variable {α β γ : Type} {Paired : α → β → Prop} {items : List α} {peers : List β}

theorem map_eq_of_forall₂ {read : α → γ} {other : β → γ} (paired : List.Forall₂ Paired items peers)
    (same : ∀ item peer, Paired item peer → read item = other peer)
    : items.map read = peers.map other := by
  induction paired with
  | nil => rfl
  | cons first _ ih => rw [List.map_cons, List.map_cons, same _ _ first, ih]

theorem isEmpty_eq_of_forall₂ (paired : List.Forall₂ Paired items peers)
    : items.isEmpty = peers.isEmpty := by
  cases paired <;> rfl

theorem findSome?_eq_of_forall₂ {find : α → Option γ} {other : β → Option γ}
    (paired : List.Forall₂ Paired items peers)
    (same : ∀ item peer, Paired item peer → find item = other peer)
    : items.findSome? find = peers.findSome? other := by
  induction paired with
  | nil => rfl
  | cons first _ ih => rw [List.findSome?_cons, List.findSome?_cons, same _ _ first, ih]

theorem forall_of_forall₂ {Here : α → Prop} {There : β → Prop}
    (paired : List.Forall₂ Paired items peers)
    (both : ∀ item peer, Paired item peer → Here item ∧ There peer)
    : (∀ item ∈ items, Here item) ∧ ∀ peer ∈ peers, There peer := by
  induction paired with
  | nil => simp
  | cons first _ ih =>
      obtain ⟨here, there⟩ := both _ _ first
      exact ⟨List.forall_mem_cons.mpr ⟨here, ih.1⟩, List.forall_mem_cons.mpr ⟨there, ih.2⟩⟩

/-- The first occurrences of paired items are paired if distinct items have distinct peers. -/
theorem forall₂_eraseDups [BEq α] [LawfulBEq α] [BEq β] [LawfulBEq β]
    (unique : Relator.BiUnique Paired) (paired : List.Forall₂ Paired items peers)
    : List.Forall₂ Paired items.eraseDups peers.eraseDups := by
  induction length : items.length using Nat.strong_induction_on generalizing items peers with
  | _ count ih =>
      cases paired with
      | nil => exact .nil
      | @cons item peer items peers first rest =>
          rw [List.eraseDups_cons, List.eraseDups_cons]
          have fewer : List.Forall₂ Paired (items.filter fun other => !other == item)
              (peers.filter fun other => !other == peer) :=
            List.rel_filter (fun another mate also => by simp [Relator.rel_eq unique also first]) rest
          refine .cons first (ih _ ?_ fewer rfl)
          have shorter := List.length_filter_le (fun other => !other == item) items
          rw [List.length_cons] at length
          omega

/-- Paired items are sorted alike if their peers compare like them. -/
theorem forall₂_mergeSort {before : α → α → Bool} {earlier : β → β → Bool}
    (same : ∀ item peer, Paired item peer → ∀ another mate, Paired another mate →
      before item another = earlier peer mate)
    (paired : List.Forall₂ Paired items peers)
    : List.Forall₂ Paired (items.mergeSort before) (peers.mergeSort earlier) := by
  -- both lists are read off the sorted list of pairs
  obtain ⟨length, pairs⟩ := List.forall₂_iff_zip.mp paired
  have sorted : List.Forall₂ Paired
      (((items.zip peers).mergeSort fun left right => before left.1 right.1).map Prod.fst)
      (((items.zip peers).mergeSort fun left right => before left.1 right.1).map Prod.snd) := by
    rw [List.forall₂_map_left_iff, List.forall₂_map_right_iff, List.forall₂_same]
    exact fun entry member => pairs (List.mem_mergeSort.mp member)
  rwa [List.map_mergeSort (f := Prod.fst) (s := before) fun _ _ _ _ => rfl,
    List.map_mergeSort (f := Prod.snd) (s := earlier) fun _ inside _ member =>
      same _ _ (pairs inside) _ _ (pairs member),
    List.map_fst_zip length.le, List.map_snd_zip length.ge] at sorted

end Lists

-----------------------------------------------------------------------------------------
-- Axes of nodes that are there
-----------------------------------------------------------------------------------------

/-- The way up goes on from what is above a place to an origin at most. -/
theorem Top.exists_ancestors (top : Top) (stamp : Nat) (place : Place)
    : ∃ roots, top.ancestors stamp place = above place ++ roots
      ∧ ∀ root ∈ roots, root = .origin stamp := by
  cases place with
  | origin => exact ⟨[], rfl, by simp⟩
  | inner | attributeAt | bindingAt =>
      refine ⟨_, rfl, fun root member => ?_⟩
      split at member
      · exact absurd member List.not_mem_nil
      · exact List.mem_singleton.mp member

namespace Forest

/-- What a search up to the root finds is found on the way up within the tree: an origin has
nothing of an element.
-/
theorem findSome?_ancestorOrSelf {α : Type} (forest : Forest) (stamp : Nat) (node : Node)
    (find : Head → Option α) (present : forest.Has node)
    : ∃ nodes, forest.onAxis? stamp .ancestorOrSelf node = some nodes
      ∧ nodes.findSome? (fun other => (forest.head? other).bind find)
        = (node :: above node).findSome? (fun other => (forest.head? other).bind find) := by
  obtain ⟨top, found, -⟩ := (has_iff forest node).mp present
  obtain ⟨roots, up, origins⟩ := top.exists_ancestors stamp node.place
  refine ⟨node :: nodesAt node.tree (Top.above node.place ++ roots), ?_, ?_⟩
  · rw [onAxis?, found, ← up]
    rfl
  have nothing : (nodesAt node.tree roots).findSome?
      (fun other => (forest.head? other).bind find) = none := by
    rw [List.findSome?_eq_none_iff]
    intro other member
    obtain ⟨root, inside, rfl⟩ := List.mem_map.mp member
    rw [origins root inside]
    simp [head?, view?, found, Top.view?, View.head?]
  rw [nodesAt, List.map_append, ← List.cons_append, List.findSome?_append]
  exact (congrArg _ nothing).trans Option.or_none

/-- The parent of a node has in scope what the node right above it has: an origin has nothing
in scope.
-/
theorem find?_scope_parent (forest : Forest) (stamp : Nat) (node : Node)
    (accepts : String × String → Bool) (present : forest.Has node)
    : ∃ parents, forest.onAxis? stamp .parent node = some parents
      ∧ parents.head?.bind (fun parent => (forest.scope parent).find? accepts)
        = (above node).head?.bind (fun parent => (forest.scope parent).find? accepts) := by
  obtain ⟨top, found, -⟩ := (has_iff forest node).mp present
  obtain ⟨roots, up, origins⟩ := top.exists_ancestors stamp node.place
  refine ⟨nodesAt node.tree ((Top.above node.place ++ roots).take 1), ?_, ?_⟩
  · rw [onAxis?, found, ← up]
    rfl
  rw [above]
  cases Top.above node.place with
  | cons => rfl
  | nil =>
      cases roots with
      | nil => rfl
      | cons root =>
          rw [origins root (by simp)]
          simp [nodesAt, scope]

end Forest

-----------------------------------------------------------------------------------------
-- Paired nodes
-----------------------------------------------------------------------------------------

/-- The same is found at two nodes, or an origin and a document with one string-value. -/
def View.Resembles (view other : View) : Prop :=
  view = other
  ∨ ∃ top content, view = .origin top ∧ other = .document content
    ∧ view.stringValue = other.stringValue

/-- Nodes of two evaluations that play the same part. Axes and roots lead from paired nodes to
paired ones.
-/
structure Correspondence (forest other : Forest) (stamp further : Nat)
    (Paired : Node → Node → Prop) : Prop where
  unique : Relator.BiUnique Paired
  key_lt (node peer : Node) (paired : Paired node peer) (another mate : Node)
    (also : Paired another mate)
    : node.key Forest.numbered < another.key Forest.numbered
      ↔ peer.key Forest.numbered < mate.key Forest.numbered
  onAxis {node peer : Node} (paired : Paired node peer) (axis : Axis)
    : Option.Rel (List.Forall₂ Paired) (forest.onAxis? stamp axis node)
        (other.onAxis? further axis peer)
  rootOf {node peer : Node} (paired : Paired node peer)
    : Paired (forest.rootOf stamp node) (other.rootOf further peer)
  view {node peer : Node} (paired : Paired node peer)
    : ∃ view seen, forest.view? node = some view ∧ other.view? peer = some seen
      ∧ view.Resembles seen
  scope (node peer : Node) (paired : Paired node peer) : forest.scope node = other.scope peer

namespace Correspondence

variable {forest other : Forest} {stamp further : Nat} {Paired : Node → Node → Prop}
  {node peer : Node} {nodes peers : List Node}
  (correspondence : Correspondence forest other stamp further Paired)
include correspondence

theorem has (paired : Paired node peer) : forest.Has node ∧ other.Has peer := by
  obtain ⟨view, seen, found, foundPeer, -⟩ := correspondence.view paired
  exact ⟨by rw [Forest.Has, found]; rfl, by rw [Forest.Has, foundPeer]; rfl⟩

/-- What is read from both kinds of roots alike is read from paired nodes alike. -/
theorem read_eq {α : Type} {read : View → α} (paired : Paired node peer)
    (roots : ∀ top content, (View.origin top).stringValue = (View.document content).stringValue →
      read (.origin top) = read (.document content))
    : (forest.view? node).map read = (other.view? peer).map read := by
  obtain ⟨view, seen, found, foundPeer, resembles⟩ := correspondence.view paired
  rw [found, foundPeer]
  rcases resembles with rfl | ⟨top, content, rfl, rfl, same⟩
  · rfl
  · exact congrArg some (roots top content same)

theorem stringValue_eq (node peer : Node) (paired : Paired node peer)
    : forest.stringValue node = other.stringValue peer := by
  rw [Forest.stringValue, Forest.stringValue,
    correspondence.read_eq paired fun _ _ same => same]

theorem head?_eq (node peer : Node) (paired : Paired node peer)
    : forest.head? node = other.head? peer := by
  obtain ⟨view, seen, found, foundPeer, resembles⟩ := correspondence.view paired
  rw [Forest.head?, Forest.head?, found, foundPeer]
  rcases resembles with rfl | ⟨top, content, rfl, rfl, -⟩ <;> rfl

theorem descendants (paired : Paired node peer)
    : List.Forall₂ Paired (forest.descendants node) (other.descendants peer) := by
  have related := correspondence.onAxis paired .descendant
  rwa [Forest.onAxis?_descendant, Forest.onAxis?_descendant, Option.rel_some_some] at related

/-- The nodes on an axis that the node has are paired with those of the peer. -/
theorem exists_onAxis {axis : Axis} (paired : Paired node peer)
    (given : forest.onAxis? stamp axis node = some nodes)
    : ∃ peers, other.onAxis? further axis peer = some peers ∧ List.Forall₂ Paired nodes peers := by
  have related := correspondence.onAxis paired axis
  rw [given] at related
  cases found : other.onAxis? further axis peer with
  | none => simp [found] at related
  | some peers => exact ⟨peers, rfl, by rwa [found, Option.rel_some_some] at related⟩

/-- Sorting paired nodes gives paired nodes. -/
theorem sorted (paired : List.Forall₂ Paired nodes peers)
    : ∃ sorted ordered, forest.sorted? nodes = some sorted ∧ other.sorted? peers = some ordered
      ∧ List.Forall₂ Paired sorted ordered := by
  obtain ⟨present, presentPeers⟩ := forall_of_forall₂ paired fun _ _ => correspondence.has
  refine ⟨_, _, Forest.sortedBy?_eq Forest.numbered present (Locations.holdIn_nil forest),
    Forest.sortedBy?_eq Forest.numbered presentPeers (Locations.holdIn_nil other), ?_⟩
  refine forall₂_mergeSort (fun node peer paired another mate also => ?_)
    (forall₂_eraseDups correspondence.unique paired)
  rw [Bool.eq_iff_iff, Node.notAfter_iff, Node.notAfter_iff,
    correspondence.key_lt another mate also node peer paired]

/-- A search for something of elements on the way up finds the same from paired nodes. -/
theorem findSome?_above {α : Type} (find : Head → Option α) (paired : Paired node peer)
    : (node :: Forest.above node).findSome? (fun found => (forest.head? found).bind find)
      = (peer :: Forest.above peer).findSome? (fun found => (other.head? found).bind find) := by
  obtain ⟨nodes, up, same⟩ :=
    Forest.findSome?_ancestorOrSelf forest stamp node find (correspondence.has paired).1
  obtain ⟨peers, upPeer, samePeer⟩ :=
    Forest.findSome?_ancestorOrSelf other further peer find (correspondence.has paired).2
  obtain ⟨_, given, related⟩ := correspondence.exists_onAxis paired up
  obtain rfl := Option.some.inj (upPeer.symm.trans given)
  rw [← same, ← samePeer]
  exact findSome?_eq_of_forall₂ related fun found mate also => by
    rw [correspondence.head?_eq found mate also]

/-- The scope of the node right above counts alike for paired nodes. -/
theorem find?_scope_above (accepts : String × String → Bool) (paired : Paired node peer)
    : (Forest.above node).head?.bind (fun parent => (forest.scope parent).find? accepts)
      = (Forest.above peer).head?.bind (fun parent => (other.scope parent).find? accepts) := by
  obtain ⟨parents, up, same⟩ :=
    Forest.find?_scope_parent forest stamp node accepts (correspondence.has paired).1
  obtain ⟨others, upPeer, samePeer⟩ :=
    Forest.find?_scope_parent other further peer accepts (correspondence.has paired).2
  obtain ⟨_, given, related⟩ := correspondence.exists_onAxis paired up
  obtain rfl := Option.some.inj (upPeer.symm.trans given)
  rw [← same, ← samePeer]
  cases related with
  | nil => rfl
  | cons first _ =>
      show (forest.scope _).find? accepts = (other.scope _).find? accepts
      rw [correspondence.scope _ _ first]

end Correspondence

-----------------------------------------------------------------------------------------
-- Values
-----------------------------------------------------------------------------------------

/-- Node-sets of paired nodes, or one value that is no node-set. -/
inductive Value.Related (Paired : Node → Node → Prop) : Value → Value → Prop
  | nodes {set others : NodeSet} (paired : List.Forall₂ Paired set.items others.items)
    : Related Paired (.nodes set) (.nodes others)
  | scalar {value : Value} (noNodes : value.type ≠ .nodes) : Related Paired value value

/-- The value of which each node is translated. -/
def Value.translated (translate : Node → Node) : Value → Value
  | .nodes set => .nodes ⟨set.items.map translate⟩
  | other => other

@[simp] theorem Value.translated_id (value : Value) : value.translated id = value := by
  cases value <;> simp [translated]

/-- A value is related to its translation if its nodes are paired with theirs. -/
theorem Value.related_translated {Paired : Node → Node → Prop} {translate : Node → Node}
    {value : Value}
    (paired : ∀ set, value = .nodes set → ∀ node ∈ set.items, Paired node (translate node))
    : Related Paired value (value.translated translate) := by
  cases value with
  | nodes set =>
      refine .nodes ?_
      rw [List.forall₂_map_right_iff, List.forall₂_same]
      exact paired set rfl
  | string | number | boolean => exact .scalar (by simp)

theorem Value.related_self {Paired : Node → Node → Prop} {value : Value}
    (paired : ∀ set, value = .nodes set → ∀ node ∈ set.items, Paired node node)
    : Related Paired value value := by
  have itself : Related Paired value (value.translated id) := related_translated paired
  rwa [translated_id] at itself

/-- A value is the translation of one that it is related to if nodes are only paired with theirs. -/
theorem Value.Related.eq_translated {Paired : Node → Node → Prop} {translate : Node → Node}
    {value other : Value} (related : Related Paired value other)
    (images : ∀ node peer, Paired node peer → peer = translate node)
    : other = value.translated translate := by
  cases related with
  | @nodes set others paired =>
      have same : set.items.map translate = others.items.map id :=
        map_eq_of_forall₂ paired fun node peer also => (images node peer also).symm
      rw [List.map_id] at same
      rw [Value.translated, same]
  | @scalar value noNodes =>
      cases value with
      | nodes => exact absurd rfl noNodes
      | string | number | boolean => rfl

section Values

variable {forest other : Forest} {stamp further : Nat} {Paired : Node → Node → Prop}
  {value another : Value}

namespace Value.Related

theorem toBoolean_eq (related : Value.Related Paired value another)
    : value.toBoolean = another.toBoolean := by
  cases related with
  | nodes paired => exact congrArg (!·) (isEmpty_eq_of_forall₂ paired)
  | scalar => rfl

theorem acceptsAt_eq (related : Value.Related Paired value another) (position : Nat)
    : value.acceptsAt position = another.acceptsAt position := by
  cases related with
  | nodes paired => exact (Related.nodes paired).toBoolean_eq
  | scalar => rfl

theorem asNodes_alike (related : Value.Related Paired value another) (wanted : NodesWanted)
    : Alike (fun set others : NodeSet => List.Forall₂ Paired set.items others.items)
        (value.asNodes wanted) (another.asNodes wanted) := by
  cases related with
  | nodes paired => exact paired
  | scalar noNodes =>
      cases value with
      | nodes => exact absurd rfl noNodes
      | string | number | boolean => rfl

section Conversions

variable (correspondence : Correspondence forest other stamp further Paired)
include correspondence

theorem toText_eq (related : Value.Related Paired value another)
    : value.toText forest = another.toText other := by
  cases related with
  | @nodes set others paired =>
      obtain ⟨items⟩ := set
      obtain ⟨peers⟩ := others
      cases paired with
      | nil => rfl
      | cons first _ => exact correspondence.stringValue_eq _ _ first
  | scalar noNodes =>
      cases value with
      | nodes => exact absurd rfl noNodes
      | string | number | boolean => rfl

theorem toNumber_eq (related : Value.Related Paired value another)
    : value.toNumber forest = another.toNumber other := by
  cases related with
  | nodes paired => exact congrArg Number.ofText ((Related.nodes paired).toText_eq correspondence)
  | scalar noNodes =>
      cases value with
      | nodes => exact absurd rfl noNodes
      | string | number | boolean => rfl

/-- Related values are related arguments. -/
theorem asArgument_alike (related : Value.Related Paired value another) (name : String)
    (index : Nat) (declared : Option ArgumentType)
    : Alike (Value.Related Paired) (value.asArgument forest name index declared)
        (another.asArgument other name index declared) := by
  have scalars {first second : Value} (same : first = second) (noNodes : first.type ≠ .nodes)
      : Value.Related Paired first second := same ▸ .scalar noNodes
  cases declared with
  | none => exact related
  | some type =>
      cases type with
      | nodes =>
          cases related with
          | nodes paired => exact .nodes paired
          | scalar noNodes =>
              cases value with
              | nodes => exact absurd rfl noNodes
              | string | number | boolean => rfl
      | string => exact scalars (congrArg Value.string (related.toText_eq correspondence)) (by simp)
      | number =>
          exact scalars (congrArg Value.number (related.toNumber_eq correspondence)) (by simp)
      | boolean => exact scalars (congrArg Value.boolean related.toBoolean_eq) (by simp)

end Conversions

end Value.Related

/-- Related values compare alike. -/
theorem Correspondence.compare_eq (correspondence : Correspondence forest other stamp further Paired)
    {left right first second : Value} (symbol : String) (lefts : Value.Related Paired left first)
    (rights : Value.Related Paired right second)
    : Comparison.compare forest symbol left right
      = Comparison.compare other symbol first second := by
  have texts {set others : NodeSet} (paired : List.Forall₂ Paired set.items others.items)
      : Comparison.textsOf forest set = Comparison.textsOf other others :=
    map_eq_of_forall₂ paired correspondence.stringValue_eq
  cases lefts with
  | nodes paired =>
      cases rights with
      | nodes also =>
          simp only [Comparison.compare, isEmpty_eq_of_forall₂ paired,
            isEmpty_eq_of_forall₂ also, texts paired, texts also]
      | scalar noNodes =>
          cases right with
          | nodes => exact absurd rfl noNodes
          | string | number | boolean =>
              simp only [Comparison.compare, texts paired]
              rfl
  | scalar noNodes =>
      cases rights with
      | nodes also =>
          cases left with
          | nodes => exact absurd rfl noNodes
          | string | number | boolean =>
              simp only [Comparison.compare, texts also]
              rfl
      | scalar noNodesRight =>
          cases left with
          | nodes => exact absurd rfl noNodes
          | string | number | boolean =>
              cases right with
              | nodes => exact absurd rfl noNodesRight
              | string | number | boolean => rfl

end Values

end PathQuery
