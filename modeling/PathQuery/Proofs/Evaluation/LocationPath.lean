import Mathlib
import PathQuery.Proofs.Axis.Translation
import PathQuery.Proofs.Evaluation.Steps
import PathQuery.Proofs.Function.Correspondence

/-! Location paths from several context nodes. The value is the union of what the path gives from
each of them, whatever their order and however often they occur, as if a variable with these nodes
were put before the path. Each evaluation makes origins of its own, which count as one.
-/

namespace PathQuery

-----------------------------------------------------------------------------------------
-- Origins as one
-----------------------------------------------------------------------------------------

/-- A node, where all origins of a tree count as one. -/
def Node.identified (node : Node) : Node :=
  match node.place with
  | .origin _ => ⟨node.tree, .origin 0⟩
  | _ => node

/-- The nodes of a set, where all origins of a tree count as one. -/
def NodeSet.identified (set : NodeSet) : NodeSet :=
  ⟨(set.items.map Node.identified).dedup⟩

theorem Node.key_identified (mark : Nat → Int) (node : Node)
    : node.identified.key mark = node.key mark := by
  obtain ⟨tree, place⟩ := node
  cases place <;> rfl

namespace Forest

variable {forest : Forest} {stamps : Nat → Prop} {stamp further : Nat} {node peer : Node}

theorem HasAmong.identified (among : forest.HasAmong stamps node)
    : forest.HasWithin 0 node.identified := by
  obtain ⟨tree, place⟩ := node
  obtain ⟨top, found, own, -, present, root⟩ := among
  cases place with
  | origin given => exact ⟨top, found, rfl, by simp [Node.identified, (root given rfl).2]⟩
  | inner | attributeAt | bindingAt => exact ⟨top, found, present, by simp [Node.identified]⟩

theorem identified_eq_of_renewed (renewed : forest.Renewed stamp further node peer)
    : node.identified = peer.identified := by
  obtain ⟨-, rfl⟩ := renewed
  obtain ⟨tree, place⟩ := node
  cases place <;> rfl

/-- A set where origins count as one is the set of any nodes that are, as one, its members. -/
theorem IsSet.ofNodes?_identified {set : NodeSet} {nodes : List Node}
    (isSet : forest.IsSet stamps set.items)
    (members : ∀ node, node ∈ nodes ↔ ∃ item ∈ set.items, item.identified = node)
    : NodeSet.ofNodes? forest nodes = some set.identified := by
  have within : ∀ node ∈ nodes, forest.HasWithin 0 node := by
    intro node member
    obtain ⟨item, inside, rfl⟩ := (members node).mp member
    exact (isSet.among item inside).identified
  have same (node : Node) : node ∈ set.identified.items ↔ node ∈ nodes := by
    rw [NodeSet.identified, List.mem_dedup, List.mem_map, members]
  have ordered : (set.items.map Node.identified).Pairwise
      (fun left right => left.key numbered ≤ right.key numbered) := by
    refine List.pairwise_map.mpr (isSet.ordered.imp fun {left right} precedes => ?_)
    rw [Node.key_identified, Node.key_identified]
    rcases precedes with before | ⟨tree, own, other, -, rfl, rfl⟩
    · exact le_of_lt before
    · exact le_refl _
  have increasing : set.identified.items.Pairwise
      (fun left right => left.key numbered < right.key numbered) := by
    refine ((ordered.sublist (List.dedup_sublist _)).and (List.nodup_dedup _)).imp_of_mem
      fun {left right} leftMember rightMember both => ?_
    refine lt_of_le_of_ne both.1 fun equal => both.2 ?_
    exact key_inj forest.markedApart_numbered (within left ((same left).mp leftMember))
      (within right ((same right).mp rightMember)) equal
  rw [NodeSet.ofNodes?, NodeSet.ofNodesBy?, sortedBy?_eq_of_pairwise
    (fun node member => (within node member).has) (Locations.holdIn_nil forest) same increasing]
  rfl

/-- Sets with the same nodes are the same where origins count as one. -/
theorem IsSet.identified_eq {nodes others : List Node} (isSet : forest.IsSet stamps nodes)
    (also : forest.IsSet stamps others) (same : ∀ node, node ∈ nodes ↔ node ∈ others)
    : NodeSet.identified ⟨nodes⟩ = NodeSet.identified ⟨others⟩ := by
  have sorted : NodeSet.ofNodes? forest (nodes.map Node.identified)
      = some (NodeSet.identified ⟨nodes⟩) :=
    isSet.ofNodes?_identified fun node => List.mem_map
  have sortedOthers : NodeSet.ofNodes? forest (nodes.map Node.identified)
      = some (NodeSet.identified ⟨others⟩) :=
    also.ofNodes?_identified fun node => by simp only [List.mem_map, same]
  exact Option.some.inj (sorted.symm.trans sortedOthers)

end Forest

-----------------------------------------------------------------------------------------
-- Paths in one context
-----------------------------------------------------------------------------------------

/-- Where a path starts from a node. -/
def Context.startOf (context : Context) (absolute : Bool) (node : Node) : Node :=
  if absolute then context.rootOf node else node

/-- The nodes that a path leads to. -/
def Step.followFrom (library : Library) (context : Context) (absolute : Bool) (steps : List Step)
    (nodes : List Node) : Except Fault (List Node) := do
  let first ← startNodes context absolute nodes
  Step.follow library context steps first

theorem Expr.evaluate_path (library : Library) (context : Context) (start : List Node)
    (absolute : Bool) (steps : List Step)
    : (Expr.path absolute steps).evaluate library context start
      = (Step.followFrom library context absolute steps start).map fun reached =>
          .nodes ⟨reached⟩ := by
  rw [Expr.evaluate, Step.followFrom]
  cases startNodes context absolute start with
  | error fault => rfl
  | ok first =>
      cases follows : Step.follow library context steps first <;>
        simp [bind, Except.bind, Except.map, follows]

section Paths

variable {library : Library} {context : Context} {stamps : Nat → Prop} {absolute : Bool}
  {steps : List Step} {nodes others reached : List Node}

theorem Context.startOf_among (known : stamps context.stamp)
    (among : ∀ node ∈ nodes, context.forest.HasAmong stamps node)
    : ∀ node ∈ nodes, context.forest.HasAmong stamps (context.startOf absolute node) := by
  intro node member
  rw [startOf]
  split
  · exact (among node member).rootOf known
  · exact among node member

/-- A path starts where it starts from one of the nodes. -/
theorem exists_startNodes (absolute : Bool) (known : stamps context.stamp)
    (among : ∀ node ∈ nodes, context.forest.HasAmong stamps node)
    : ∃ first, startNodes context absolute nodes = .ok first
      ∧ (∀ start, start ∈ first ↔ ∃ node ∈ nodes, context.startOf absolute node = start)
      ∧ (absolute → context.forest.IsSet stamps first) := by
  cases absolute with
  | false => exact ⟨nodes, rfl, by simp [Context.startOf], by simp⟩
  | true =>
      have roots : ∀ root ∈ nodes.map context.rootOf, context.forest.HasAmong stamps root := by
        intro root member
        obtain ⟨node, inside, rfl⟩ := List.mem_map.mp member
        exact (among node inside).rootOf known
      obtain ⟨sorted, found, isSet, members⟩ := Forest.exists_sorted roots
      refine ⟨sorted, by rw [startNodes, if_pos rfl, inOrder, found], fun start => ?_, fun _ => isSet⟩
      rw [members, List.mem_map]
      rfl

/-- What a path reaches is a set of what the steps lead to from where it starts. -/
theorem Step.reaches_of_followFrom (known : stamps context.stamp)
    (among : ∀ node ∈ nodes, context.forest.HasAmong stamps node) (leads : absolute ∨ steps ≠ [])
    (follows : Step.followFrom library context absolute steps nodes = .ok reached)
    : Reaches library context steps (nodes.map (context.startOf absolute)) reached
      ∧ context.forest.IsSet stamps reached := by
  obtain ⟨first, starts, members, isSet⟩ := exists_startNodes absolute known among
  rw [followFrom, starts] at follows
  have inside : ∀ start ∈ first, context.forest.HasAmong stamps start := by
    intro start member
    obtain ⟨node, given, rfl⟩ := (members start).mp member
    exact Context.startOf_among known among node given
  obtain ⟨reaches, ordered⟩ := reaches_of_follow known inside follows
  refine ⟨reaches.congr fun start => ?_, ordered (leads.symm.imp_right isSet)⟩
  rw [List.mem_map, members]

/-- A path can be followed if its steps are known and can be taken from where it starts. -/
theorem Step.exists_followFrom (known : stamps context.stamp)
    (among : ∀ node ∈ nodes, context.forest.HasAmong stamps node) (leads : absolute ∨ steps ≠ [])
    : (∃ reached, Step.followFrom library context absolute steps nodes = .ok reached)
      ↔ (∀ step ∈ steps, step.Applies context)
        ∧ ∀ node ∈ nodes, Passable library context steps (context.startOf absolute node) := by
  constructor
  · rintro ⟨reached, follows⟩
    obtain ⟨reaches, -⟩ := reaches_of_followFrom known among leads follows
    exact ⟨reaches.applies, List.forall_mem_map.mp reaches.passable⟩
  · rintro ⟨applies, passable⟩
    obtain ⟨first, starts, members, -⟩ := exists_startNodes absolute known among
    rw [followFrom, starts]
    refine exists_follow known (fun start member => ?_) applies fun start member => ?_
    · obtain ⟨node, given, rfl⟩ := (members start).mp member
      exact Context.startOf_among known among node given
    · obtain ⟨node, given, rfl⟩ := (members start).mp member
      exact passable node given

end Paths

-----------------------------------------------------------------------------------------
-- The value of a path
-----------------------------------------------------------------------------------------

/-- The nodes that a path leads to, if it can be followed, where all origins of a tree count as
one.
-/
def Step.gather? (context : Context) (absolute : Bool) (steps : List Step) (nodes : List Node)
    : Option NodeSet :=
  (Step.followFrom Library.core context absolute steps nodes).toOption.map fun reached =>
    NodeSet.identified ⟨reached⟩

section Gathering

variable {context other : Context} {stamps older : Nat → Prop} {absolute : Bool}
  {steps : List Step} {nodes others : List Node} {set : NodeSet}

theorem Step.gather?_eq_some
    : gather? context absolute steps nodes = some set
      ↔ ∃ reached, followFrom Library.core context absolute steps nodes = .ok reached
        ∧ NodeSet.identified ⟨reached⟩ = set := by
  rw [gather?]
  cases followFrom Library.core context absolute steps nodes <;> simp [Except.toOption]

theorem Step.isSome_gather?
    : (gather? context absolute steps nodes).isSome
      ↔ ∃ reached, followFrom Library.core context absolute steps nodes = .ok reached := by
  rw [gather?]
  cases followFrom Library.core context absolute steps nodes <;> simp [Except.toOption]

/-- A path can be followed from some nodes if it can be from each of them. -/
theorem Step.isSome_gather?_iff (known : stamps context.stamp)
    (among : ∀ node ∈ nodes, context.forest.HasAmong stamps node) (leads : absolute ∨ steps ≠ [])
    (some : nodes ≠ [])
    : (gather? context absolute steps nodes).isSome
      ↔ ∀ node ∈ nodes, (gather? context absolute steps [node]).isSome := by
  have alone (node : Node) (member : node ∈ nodes)
      : ∀ other ∈ [node], context.forest.HasAmong stamps other := fun other inside =>
    List.mem_singleton.mp inside ▸ among node member
  rw [isSome_gather?, exists_followFrom known among leads]
  constructor
  · rintro ⟨applies, passable⟩ node member
    rw [isSome_gather?, exists_followFrom known (alone node member) leads]
    exact ⟨applies, fun other inside => List.mem_singleton.mp inside ▸ passable node member⟩
  · intro succeeds
    have single (node : Node) (member : node ∈ nodes) :=
      (exists_followFrom known (alone node member) leads).mp
        (isSome_gather?.mp (succeeds node member))
    obtain ⟨node, member⟩ := List.exists_mem_of_ne_nil nodes some
    exact ⟨(single node member).1, fun node member =>
      (single node member).2 node (List.mem_singleton.mpr rfl)⟩

/-- What a path gathers from some nodes is the set of what it gathers from each of them. -/
theorem Step.gather?_eq_union (known : stamps context.stamp)
    (among : ∀ node ∈ nodes, context.forest.HasAmong stamps node) (leads : absolute ∨ steps ≠ [])
    {sets : Node → NodeSet} (gathered : gather? context absolute steps nodes = some set)
    (single : ∀ node ∈ nodes, gather? context absolute steps [node] = some (sets node))
    : NodeSet.ofNodes? context.forest (nodes.flatMap fun node => (sets node).items) = some set := by
  obtain ⟨reached, follows, rfl⟩ := gather?_eq_some.mp gathered
  obtain ⟨reaches, isSet⟩ := reaches_of_followFrom known among leads follows
  refine Forest.IsSet.ofNodes?_identified isSet fun other => ?_
  have alone (node : Node) (member : node ∈ nodes) (other : Node)
      : other ∈ (sets node).items
        ↔ ∃ item, Leads Library.core context steps (context.startOf absolute node) item
          ∧ item.identified = other := by
    obtain ⟨reached, follows, same⟩ := gather?_eq_some.mp (single node member)
    have inside : ∀ other ∈ [node], context.forest.HasAmong stamps other := fun other inside =>
      List.mem_singleton.mp inside ▸ among node member
    obtain ⟨reaches, -⟩ := reaches_of_followFrom known inside leads follows
    rw [← same, NodeSet.identified, List.mem_dedup, List.mem_map]
    simp [reaches.mem_iff]
  simp only [List.mem_flatMap, reaches.mem_iff, List.mem_map, exists_exists_and_eq_and]
  constructor
  · rintro ⟨node, member, inside⟩
    obtain ⟨item, leads, same⟩ := (alone node member other).mp inside
    exact ⟨item, ⟨node, member, leads⟩, same⟩
  · rintro ⟨item, ⟨node, member, leads⟩, same⟩
    exact ⟨node, member, (alone node member other).mpr ⟨item, leads, same⟩⟩

/-- A path gathers the same from the same nodes, whatever their order. -/
theorem Step.gather?_congr (known : stamps context.stamp)
    (among : ∀ node ∈ nodes, context.forest.HasAmong stamps node) (leads : absolute ∨ steps ≠ [])
    (same : ∀ node, node ∈ others ↔ node ∈ nodes)
    : gather? context absolute steps others = gather? context absolute steps nodes := by
  have amongOthers : ∀ node ∈ others, context.forest.HasAmong stamps node := fun node member =>
    among node ((same node).mp member)
  have succeeds : (gather? context absolute steps others).isSome
      ↔ (gather? context absolute steps nodes).isSome := by
    rw [isSome_gather?, isSome_gather?, exists_followFrom known among leads,
      exists_followFrom known amongOthers leads]
    simp only [same]
  cases gathered : gather? context absolute steps nodes with
  | none => simpa [gathered] using succeeds
  | some set =>
      obtain ⟨more, gatheredOthers⟩ := Option.isSome_iff_exists.mp (succeeds.mpr (by simp [gathered]))
      obtain ⟨reached, follows, rfl⟩ := gather?_eq_some.mp gathered
      obtain ⟨further, followsOthers, rfl⟩ := gather?_eq_some.mp gatheredOthers
      obtain ⟨reaches, isSet⟩ := reaches_of_followFrom known among leads follows
      obtain ⟨reachesOthers, isSetOthers⟩ :=
        reaches_of_followFrom known amongOthers leads followsOthers
      have members (other : Node) : other ∈ further ↔ other ∈ reached := by
        simp only [reaches.mem_iff, reachesOthers.mem_iff, List.mem_map, same]
      rw [gatheredOthers, isSetOthers.identified_eq isSet members]

/-- A path gathers the same in contexts of evaluations that are new to the nodes, if these agree on
what the path depends on.
-/
theorem Step.gather?_eq_of_older (forest_eq : context.forest = other.forest)
    (bindings_eq : context.bindings = other.bindings) (options_eq : context.options = other.options)
    (values_eq : ∀ name ∈ Step.namesOfAll steps, context.valueOf? name = other.valueOf? name)
    (values : ∀ name set, other.valueOf? name = some (.nodes set) →
      ∀ node ∈ set.items, other.forest.HasAmong older node)
    (among : ∀ node ∈ nodes, other.forest.HasAmong older node) (new : ¬ older context.stamp)
    (also : ¬ older other.stamp)
    : gather? context absolute steps nodes = gather? other absolute steps nodes := by
  have stays {node : Node} (among : other.forest.HasAmong older node)
      : other.forest.Renewed context.stamp other.stamp node node :=
    Forest.renewed_of_older among new also
  have parallel : context.Parallel (other.forest.Renewed context.stamp other.stamp) other :=
    ⟨by rw [forest_eq]; exact other.forest.correspondence_renewed _ _, bindings_eq, options_eq⟩
  have paired : List.Forall₂ (other.forest.Renewed context.stamp other.stamp) nodes nodes :=
    List.forall₂_same.mpr fun node member => stays (among node member)
  have agree : context.AgreeOn (other.forest.Renewed context.stamp other.stamp)
      (Step.namesOfAll steps) other := by
    intro name member
    rw [values_eq name member]
    cases found : other.valueOf? name with
    | none => exact .none
    | some value =>
        exact .some (Value.related_self fun set same node inside =>
          stays (values name set (same ▸ found) node inside))
  have alike : Alike (List.Forall₂ (other.forest.Renewed context.stamp other.stamp))
      (followFrom Library.core context absolute steps nodes)
      (followFrom Library.core other absolute steps nodes) :=
    (startNodes_alike parallel absolute paired).bind fun _ _ _ related =>
      follow_alike Library.respects_core parallel related steps agree
  refine alike.toOption_map_eq fun reached more related => ?_
  have same : reached.map Node.identified = more.map Node.identified :=
    map_eq_of_forall₂ related fun _ _ => Forest.identified_eq_of_renewed
  rw [NodeSet.identified, NodeSet.identified, same]

end Gathering

-----------------------------------------------------------------------------------------
-- Queries
-----------------------------------------------------------------------------------------

/-- A value, where all origins of a tree count as one. -/
def Value.identified : Value → Value
  | .nodes set => .nodes set.identified
  | other => other

/-- The value that an expression has with the core functions, if it has one, where all origins of a
tree count as one.
-/
def Query.identifiedValue? (forest : Forest) (stamp : Nat) (around : Surroundings)
    (expression : Expr) : Option Value :=
  (evaluateIn Library.core forest stamp around expression).toOption.map Value.identified

theorem Datum.nodeSetOf_map_node (forest : Forest) (nodes : List Node)
    : nodeSetOf forest (nodes.map .node)
      = match NodeSet.ofNodes? forest nodes with
        | some set => .ok (.nodes set)
        | none => .error .unlocated := by
  have others : (nodes.map Datum.node).filter (fun item => item.node?.isNone) = [] := by
    simp [node?]
  have all : (nodes.map Datum.node).filterMap node? = nodes := by
    simp [List.filterMap_map, Function.comp_def, node?]
  rw [nodeSetOf, others, all]
  rfl

/-- A list of nodes, or anything else that gives them when it is iterated over, stands for the set
of these nodes.
-/
theorem Datum.toValue_of_iterate {forest : Forest} {stamps : Nat → Prop} {datum : Datum}
    {nodes : List Node} (iterates : datum.iterate? = some (nodes.map .node)) (some : nodes ≠ [])
    (among : ∀ node ∈ nodes, forest.HasAmong stamps node)
    : ∃ set, datum.toValue forest = .ok (.nodes set) ∧ ∀ node, node ∈ set.items ↔ node ∈ nodes := by
  obtain ⟨node, rest, rfl⟩ := List.exists_cons_of_ne_nil some
  cases datum with
  | null | boolean | integer | number | node => cases iterates
  | text content =>
      cases characters : content.toList <;> simp [iterate?, characters] at iterates
  | mapping entries =>
      cases entries with
      | nil => simp [iterate?] at iterates
      | cons entry entries => cases key : entry.1 <;> simp [iterate?, ofKey, key] at iterates
  | list items =>
      obtain rfl := Option.some.inj iterates
      obtain ⟨sorted, found, -, members⟩ := Forest.exists_sorted among
      have found : NodeSet.ofNodes? forest (node :: rest) = .some ⟨sorted⟩ :=
        congrArg (Option.map NodeSet.mk) found
      exact ⟨⟨sorted⟩, by rw [toValue, nodeSetOf_map_node, found], members⟩
  | nodes set =>
      have same : set.items = node :: rest :=
        List.map_injective_iff.mpr (fun _ _ => Datum.node.inj) (Option.some.inj iterates)
      exact ⟨set, rfl, fun other => by rw [same]⟩

namespace Query

section Queries

variable {forest : Forest} {older : Nat → Prop} {around about : Surroundings} {absolute : Bool}
  {steps : List Step} {stamp further : Nat}

theorem identifiedValue?_eq {expression : Expr} {outcome : Except Fault (List Node)} {node : Node}
    {rest : List Node} (nodes : around.nodes = node :: rest)
    (evaluates : expression.evaluate Library.core (around.contextAt forest stamp node) around.nodes
      = outcome.map fun reached => .nodes ⟨reached⟩)
    : identifiedValue? forest stamp around expression
      = outcome.toOption.map fun reached => .nodes (NodeSet.identified ⟨reached⟩) := by
  rw [identifiedValue?, evaluateIn_cons nodes, evaluates]
  cases outcome <;> rfl

variable (values : ∀ name set, (name, Value.nodes set) ∈ around.values →
    ∀ node ∈ set.items, forest.HasAmong older node)
  (new : ¬ older stamp) (also : ¬ older further)
include values new also

/-- What steps gather in an evaluation of other surroundings that agree on what they depend on. -/
theorem gather?_contextAt {nodes : List Node} (node peer : Node)
    (bindings_eq : about.bindings = around.bindings) (options_eq : about.options = around.options)
    (values_eq : ∀ name ∈ Step.namesOfAll steps, about.valueOf? name = around.valueOf? name)
    (among : ∀ node ∈ nodes, forest.HasAmong older node)
    : Step.gather? (about.contextAt forest further peer) absolute steps nodes
      = Step.gather? (around.contextAt forest stamp node) absolute steps nodes := by
  refine Step.gather?_eq_of_older rfl bindings_eq options_eq values_eq (fun name set bound => ?_)
    among also new
  obtain ⟨name, member⟩ := Surroundings.mem_of_valueOf? bound
  exact values name set member

/-- The value of a path is what its steps gather, in any evaluation that is new to the nodes. -/
theorem identifiedValue?_path {nodes : List Node} (node : Node) (some : nodes ≠ [])
    (among : ∀ node ∈ nodes, forest.HasAmong older node)
    : identifiedValue? forest further { around with nodes } (.path absolute steps)
      = (Step.gather? (around.contextAt forest stamp node) absolute steps nodes).map .nodes := by
  obtain ⟨first, rest, rfl⟩ := List.exists_cons_of_ne_nil some
  rw [← gather?_contextAt values new also node first rfl rfl (fun _ _ => rfl) among, Step.gather?,
    Option.map_map]
  exact identifiedValue?_eq rfl (Expr.evaluate_path ..)

/-- The value of a path behind a variable is what its steps gather from the nodes of that. -/
theorem identifiedValue?_continued {name : String} {set : NodeSet} (node : Node)
    (some : about.nodes ≠ []) (bindings_eq : about.bindings = around.bindings)
    (options_eq : about.options = around.options) (bound : about.valueOf? name = .some (.nodes set))
    (values_eq : ∀ other ∈ Step.namesOfAll steps, about.valueOf? other = around.valueOf? other)
    (among : ∀ node ∈ set.items, forest.HasAmong older node)
    : identifiedValue? forest further about (.continued (.reference name) steps)
      = (Step.gather? (around.contextAt forest stamp node) false steps set.items).map .nodes := by
  obtain ⟨first, rest, start⟩ := List.exists_cons_of_ne_nil some
  rw [← gather?_contextAt values new also node first bindings_eq options_eq values_eq among,
    Step.gather?, Option.map_map]
  refine identifiedValue?_eq start ?_
  have bound : (about.contextAt forest further first).valueOf? name = .some (.nodes set) := bound
  rw [Expr.evaluate, Expr.evaluate, bound]
  cases follows : Step.follow Library.core (about.contextAt forest further first) steps set.items <;>
    simp [bind, Except.bind, Except.map, follows, Value.asNodes, Step.followFrom, startNodes]

end Queries

/-- What a location path gives from several context nodes, in the evaluation with a stamp. The
evaluations from single nodes have stamps of their own.
-/
structure JoinsPath (forest : Forest) (older : Nat → Prop) (around : Surroundings)
    (absolute : Bool) (steps : List Step) (stamp : Nat) (single : Node → Option Value) : Prop where
  succeeds : (identifiedValue? forest stamp around (.path absolute steps)).isSome
    ↔ ∀ node ∈ around.nodes, (single node).isSome
  union (sets : Node → NodeSet)
    (gives : ∀ node ∈ around.nodes, single node = some (.nodes (sets node)))
    : ∃ set, NodeSet.ofNodes? forest (around.nodes.flatMap fun node => (sets node).items) = some set
      ∧ identifiedValue? forest stamp around (.path absolute steps) = some (.nodes set)
  unordered (others : List Node) (further : Nat) (new : ¬ older further)
    (same : ∀ node, node ∈ others ↔ node ∈ around.nodes)
    : identifiedValue? forest further { around with nodes := others } (.path absolute steps)
      = identifiedValue? forest stamp around (.path absolute steps)
  continued (relative : ¬ absolute) (datum : Datum) (others : List Node)
    (iterates : datum.iterate? = some (others.map .node))
    (same : ∀ node, node ∈ others ↔ node ∈ around.nodes)
    : ∃ value, datum.toValue forest = .ok value
      ∧ ∀ (about : Surroundings) (name : String) (further : Nat), ¬ older further →
        about.nodes ≠ [] → about.bindings = around.bindings → about.options = around.options →
        about.valueOf? name = some value →
        (∀ other ∈ Step.namesOfAll steps, about.valueOf? other = around.valueOf? other) →
        identifiedValue? forest further about (.continued (.reference name) steps)
          = identifiedValue? forest stamp around (.path absolute steps)

/-- A location path has a value from context nodes if it has one from each of them, and that is the
union of these in document order. Neither the order of the context nodes nor repetitions matter,
and a relative path gives the same behind a variable that holds the nodes.
-/
theorem joins_path {forest : Forest} {older : Nat → Prop} {around : Surroundings}
    {absolute : Bool} {steps : List Step} (leads : absolute ∨ steps ≠ []) (some : around.nodes ≠ [])
    (nodes : ∀ node ∈ around.nodes, forest.HasAmong older node)
    (values : ∀ name set, (name, Value.nodes set) ∈ around.values →
      ∀ node ∈ set.items, forest.HasAmong older node)
    {stamp : Nat} (new : ¬ older stamp) {stamps : Node → Nat}
    (each : ∀ node ∈ around.nodes, ¬ older (stamps node))
    : JoinsPath forest older around absolute steps stamp fun node =>
        identifiedValue? forest (stamps node) { around with nodes := [node] }
          (.path absolute steps) := by
  obtain ⟨first, rest, start⟩ := List.exists_cons_of_ne_nil some
  let context := around.contextAt forest stamp first
  let known : Nat → Prop := fun own => own = stamp ∨ older own
  have own : known stamp := .inl rfl
  have among : ∀ node ∈ around.nodes, forest.HasAmong known node := fun node member =>
    (nodes node member).imp fun _ => .inr
  have whole : identifiedValue? forest stamp around (.path absolute steps)
      = (Step.gather? context absolute steps around.nodes).map .nodes :=
    identifiedValue?_path values new new first some nodes
  have single (node : Node) (member : node ∈ around.nodes)
      : identifiedValue? forest (stamps node) { around with nodes := [node] } (.path absolute steps)
        = (Step.gather? context absolute steps [node]).map .nodes :=
    identifiedValue?_path values new (each node member) first (by simp) fun other inside =>
      List.mem_singleton.mp inside ▸ nodes node member
  -- a list with the same members is as good as that of the context nodes
  have someOthers {others : List Node} (same : ∀ node, node ∈ others ↔ node ∈ around.nodes)
      : others ≠ [] := List.ne_nil_of_mem ((same first).mpr (start ▸ List.mem_cons_self))
  have amongOthers {others : List Node} (same : ∀ node, node ∈ others ↔ node ∈ around.nodes)
      : ∀ node ∈ others, forest.HasAmong older node := fun node member =>
    nodes node ((same node).mp member)
  refine ⟨?_, fun sets gives => ?_, fun others further also same => ?_,
    fun relative datum others iterates same => ?_⟩
  · rw [whole, Option.isSome_map, Step.isSome_gather?_iff own among leads some]
    exact forall₂_congr fun node member => by rw [single node member, Option.isSome_map]
  · have gathers : ∀ node ∈ around.nodes,
        Step.gather? context absolute steps [node] = .some (sets node) := fun node member => by
      obtain ⟨set, gathered, same⟩ := Option.map_eq_some_iff.mp
        ((single node member).symm.trans (gives node member))
      cases same
      exact gathered
    obtain ⟨set, gathered⟩ := Option.isSome_iff_exists.mp <|
      (Step.isSome_gather?_iff own among leads some).mpr fun node member => by
        rw [gathers node member]
        rfl
    exact ⟨set, Step.gather?_eq_union own among leads gathered gathers, by rw [whole, gathered]; rfl⟩
  · rw [whole, identifiedValue?_path values new also first (someOthers same) (amongOthers same)]
    exact congrArg _ (Step.gather?_congr own among leads same)
  · obtain rfl : absolute = false := by simpa using relative
    obtain ⟨set, made, members⟩ :=
      Datum.toValue_of_iterate iterates (someOthers same) (amongOthers same)
    have sameSet (node : Node) : node ∈ set.items ↔ node ∈ around.nodes :=
      (members node).trans (same node)
    refine ⟨_, made, fun about name further also here bindings_eq options_eq bound values_eq => ?_⟩
    rw [whole, identifiedValue?_continued values new also first here bindings_eq options_eq bound
      values_eq (amongOthers sameSet)]
    exact congrArg _ (Step.gather?_congr own among leads sameSet)

/-- A comment twice, the root that an earlier evaluation has made of its tree, and a text. -/
def severalNodes : Surroundings :=
  { nodes := [⟨0, .inner [1]⟩, ⟨0, .origin 3⟩, ⟨0, .inner [0]⟩, ⟨0, .inner [1]⟩],
    bindings := .initial, values := [("x", .nodes ⟨[⟨0, .inner []⟩]⟩)], options := .standard }

/-- All ways up lead to one root. -/
theorem joins_path_small
    : JoinsPath .small (· = 3) severalNodes false [.mk "ancestor-or-self" (.nodeType "node") []] 7
        (fun node => identifiedValue? .small (if node.place = .inner [1] then 8 else 9)
          { severalNodes with nodes := [node] }
          (.path false [.mk "ancestor-or-self" (.nodeType "node") []]))
      ∧ identifiedValue? .small 7 severalNodes
          (.path false [.mk "ancestor-or-self" (.nodeType "node") []])
        = some (.nodes ⟨[⟨0, .origin 0⟩, ⟨0, .inner []⟩, ⟨0, .inner [0]⟩, ⟨0, .inner [1]⟩]⟩) := by
  have inner {path : List Nat} (present : Forest.small.Has ⟨0, .inner path⟩)
      : Forest.small.HasAmong (· = 3) ⟨0, .inner path⟩ := by
    obtain ⟨top, found, present⟩ := (Forest.has_iff _ _).mp present
    exact ⟨top, found, Top.hasAmong_of_has present (by simp) rfl⟩
  have nodes : ∀ node ∈ severalNodes.nodes, Forest.small.HasAmong (· = 3) node := by
    simp only [severalNodes, List.forall_mem_cons, List.not_mem_nil, false_implies, implies_true,
      and_true]
    exact ⟨inner rfl, ⟨_, rfl, Top.hasAmong_origin (by decide) rfl⟩, inner rfl, inner rfl⟩
  have values : ∀ name set, (name, Value.nodes set) ∈ severalNodes.values →
      ∀ node ∈ set.items, Forest.small.HasAmong (· = 3) node := by
    intro name set member
    cases List.mem_singleton.mp member
    have top : Forest.small.HasAmong (· = 3) ⟨0, .inner []⟩ := inner rfl
    simpa using top
  have value : evaluateIn Library.core .small 7 severalNodes
      (.path false [.mk "ancestor-or-self" (.nodeType "node") []])
      = .ok (.nodes ⟨[⟨0, .origin 7⟩, ⟨0, .origin 3⟩, ⟨0, .inner []⟩, ⟨0, .inner [0]⟩,
          ⟨0, .inner [1]⟩]⟩) := by cbv
  refine ⟨?_, ?_⟩
  · refine joins_path (.inr (by simp)) (by simp [severalNodes]) nodes values (by simp) ?_
    intro node _
    split <;> simp
  · rw [identifiedValue?, value]
    decide

end Query

end PathQuery
