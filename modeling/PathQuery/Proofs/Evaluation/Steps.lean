import PathQuery.Proofs.Evaluation.Discipline
import PathQuery.Proofs.Order.NodeSets

/-! What steps lead to, told for one node at a time: a step selects nodes from each node by itself,
and further steps go on from each of these. Following steps from a list succeeds if this works out
from each of its nodes, and reaches what they lead to and no more.
-/

namespace PathQuery

-----------------------------------------------------------------------------------------
-- Selections
-----------------------------------------------------------------------------------------

/-- What is selected for all nodes is selected for one of them, and there is something selected
for each.
-/
theorem mem_forEachNode {select : Node → Except Fault (List Node)} {nodes all : List Node}
    (selects : forEachNode select nodes = .ok all)
    : (∀ node ∈ nodes, ∃ selected, select node = .ok selected)
      ∧ ∀ other, other ∈ all ↔ ∃ node ∈ nodes, ∃ selected, select node = .ok selected
        ∧ other ∈ selected := by
  induction nodes generalizing all with
  | nil =>
      cases selects
      simp
  | cons node rest ih =>
      rw [forEachNode] at selects
      obtain ⟨selected, found, selects⟩ := bind_eq_ok.mp selects
      obtain ⟨others, further, selects⟩ := bind_eq_ok.mp selects
      cases selects
      obtain ⟨succeeds, members⟩ := ih further
      refine ⟨List.forall_mem_cons.mpr ⟨⟨selected, found⟩, succeeds⟩, fun other => ?_⟩
      rw [List.mem_append, members, List.exists_mem_cons_iff]
      refine or_congr_left ⟨fun member => ⟨selected, found, member⟩, ?_⟩
      rintro ⟨again, same, member⟩
      cases found.symm.trans same
      exact member

/-- Selections that succeed for all nodes succeed one after the other. -/
theorem exists_forEachNode {select : Node → Except Fault (List Node)} {nodes : List Node}
    (succeeds : ∀ node ∈ nodes, ∃ selected, select node = .ok selected)
    : ∃ all, forEachNode select nodes = .ok all := by
  induction nodes with
  | nil => exact ⟨[], rfl⟩
  | cons node rest ih =>
      obtain ⟨⟨selected, found⟩, succeeds⟩ := List.forall_mem_cons.mp succeeds
      obtain ⟨others, further⟩ := ih succeeds
      exact ⟨selected ++ others, by rw [forEachNode, found, further]; rfl⟩

/-- A check of nodes keeps some of them. -/
theorem sublist_of_keepNodes {check : Nat → Node → Except Fault Bool} {position : Nat}
    {nodes kept : List Node} (keeps : keepNodes check position nodes = .ok kept)
    : kept.Sublist nodes := by
  have meets : Meets (fun _ => True) (fun kept => kept.Sublist nodes)
      (keepNodes check position nodes) :=
    keepNodes_meets position fun position node _ => by cases check position node <;> trivial
  rw [keeps] at meets
  exact meets

/-- Predicates keep some of the nodes. -/
theorem Expr.sublist_of_restrict {library : Library} {context : Context} {predicates : List Expr}
    {nodes kept : List Node} (keeps : Expr.restrict library context predicates nodes = .ok kept)
    : kept.Sublist nodes := by
  induction predicates generalizing nodes with
  | nil =>
      rw [Expr.restrict] at keeps
      cases keeps
      exact .refl _
  | cons predicate rest ih =>
      rw [Expr.restrict] at keeps
      obtain ⟨passed, passes, keeps⟩ := bind_eq_ok.mp keeps
      exact (ih keeps).trans (sublist_of_keepNodes passes)

-----------------------------------------------------------------------------------------
-- Steps from one node
-----------------------------------------------------------------------------------------

namespace Step

variable {library : Library} {context : Context}

/-- The axis and the qualifier of a step are known. -/
def Applies (context : Context) : Step → Prop
  | .mk axisName test _ => (Axis.ofName? axisName).isSome ∧ test.undeclared? context = none

/-- A step selects some nodes from a node. -/
def Selects (library : Library) (context : Context) : Step → Node → List Node → Prop
  | .mk axisName test predicates, node, selected =>
      ∃ axis, Axis.ofName? axisName = some axis
        ∧ ∃ passing, candidates context axis test node = .ok passing
          ∧ Expr.restrict library context predicates passing = .ok selected

/-- Steps can be taken from a node, and each from all that the one before selects. -/
def Passable (library : Library) (context : Context) : List Step → Node → Prop
  | [], _ => True
  | step :: rest, node =>
      ∃ selected, step.Selects library context node selected
        ∧ ∀ next ∈ selected, Passable library context rest next

/-- Steps lead from a node to another one, over a node that each of them selects. -/
def Leads (library : Library) (context : Context) : List Step → Node → Node → Prop
  | [], node, other => node = other
  | step :: rest, node, other =>
      ∃ selected, step.Selects library context node selected
        ∧ ∃ next ∈ selected, Leads library context rest next other

/-- A step selects nodes of the same evaluations. -/
theorem Selects.among {step : Step} {node other : Node} {selected : List Node}
    {stamps : Nat → Prop} (selects : step.Selects library context node selected)
    (known : stamps context.stamp) (among : context.forest.HasAmong stamps node)
    (member : other ∈ selected)
    : context.forest.HasAmong stamps other := by
  obtain ⟨axisName, test, predicates⟩ := step
  obtain ⟨axis, -, passing, passes, keeps⟩ := selects
  rw [candidates] at passes
  split at passes
  case h_1 nodes given =>
      have contained := (Expr.sublist_of_restrict keeps).trans (sublist_of_keepNodes passes)
      exact among.onAxis known given (contained.subset member)
  case h_2 => cases passes

/-- What a step that is known does with nodes one by one. -/
theorem take_eq_of_applies (library : Library) {step : Step} (applies : step.Applies context)
    : ∃ select : Node → Except Fault (List Node),
      (∀ nodes, step.take library context nodes
        = forEachNode select nodes >>= inOrder context)
      ∧ ∀ node selected, select node = .ok selected
        ↔ step.Selects library context node selected := by
  obtain ⟨axisName, test, predicates⟩ := step
  obtain ⟨axisKnown, declared⟩ := applies
  obtain ⟨axis, found⟩ := Option.isSome_iff_exists.mp axisKnown
  refine ⟨fun node => candidates context axis test node >>= fun passing =>
    Expr.restrict library context predicates passing, fun nodes => ?_, fun node selected => ?_⟩
  · rw [take, found, declared]
    rfl
  · rw [bind_eq_ok]
    constructor
    · rintro ⟨passing, passes, keeps⟩
      exact ⟨axis, found, passing, passes, keeps⟩
    · rintro ⟨other, same, passing, passes, keeps⟩
      cases found.symm.trans same
      exact ⟨passing, passes, keeps⟩

/-- A step that is taken is known. -/
theorem applies_of_take {step : Step} {nodes reached : List Node}
    (takes : step.take library context nodes = .ok reached)
    : step.Applies context := by
  obtain ⟨axisName, test, predicates⟩ := step
  rw [take] at takes
  obtain ⟨axis, found, takes⟩ := bind_eq_ok.mp takes
  cases declared : test.undeclared? context with
  | some qualifier => simp [declared] at takes
  | none =>
      refine ⟨?_, declared⟩
      cases known : Axis.ofName? axisName with
      | none => simp [known, Table.expect] at found
      | some axis => rfl

theorem Selects.unique {step : Step} {node : Node} {selected others : List Node}
    (selects : step.Selects library context node selected)
    (also : step.Selects library context node others)
    : selected = others := by
  obtain ⟨axisName, test, predicates⟩ := step
  obtain ⟨axis, found, passing, passes, keeps⟩ := selects
  obtain ⟨_, foundAgain, _, passesAgain, keepsAgain⟩ := also
  cases found.symm.trans foundAgain
  cases passes.symm.trans passesAgain
  cases keeps.symm.trans keepsAgain
  rfl

variable {stamps : Nat → Prop} {nodes reached : List Node}

/-- What a step reaches that is taken is a set of what it selects from each of the nodes. -/
theorem of_take {step : Step} (known : stamps context.stamp)
    (among : ∀ node ∈ nodes, context.forest.HasAmong stamps node)
    (takes : step.take library context nodes = .ok reached)
    : (∀ node ∈ nodes, ∃ selected, step.Selects library context node selected)
      ∧ (∀ other, other ∈ reached ↔ ∃ node ∈ nodes, ∃ selected,
        step.Selects library context node selected ∧ other ∈ selected)
      ∧ context.forest.IsSet stamps reached := by
  obtain ⟨select, equation, selects⟩ := take_eq_of_applies library (applies_of_take takes)
  rw [equation] at takes
  obtain ⟨all, selected, ordered⟩ := bind_eq_ok.mp takes
  obtain ⟨succeeds, members⟩ := mem_forEachNode selected
  simp only [selects] at succeeds members
  have inside : ∀ other ∈ all, context.forest.HasAmong stamps other := by
    intro other member
    obtain ⟨node, given, found, isSelected, member⟩ := (members other).mp member
    exact isSelected.among known (among node given) member
  obtain ⟨sorted, found, isSet, same⟩ := Forest.exists_sorted inside
  rw [inOrder, found] at ordered
  cases ordered
  exact ⟨succeeds, fun other => (same other).trans (members other), isSet⟩

/-- A step that is known can be taken from nodes if it selects something from each. -/
theorem exists_take {step : Step} (known : stamps context.stamp)
    (among : ∀ node ∈ nodes, context.forest.HasAmong stamps node) (applies : step.Applies context)
    (succeeds : ∀ node ∈ nodes, ∃ selected, step.Selects library context node selected)
    : ∃ reached, step.take library context nodes = .ok reached := by
  obtain ⟨select, equation, selects⟩ := take_eq_of_applies library applies
  simp only [← selects] at succeeds
  obtain ⟨all, selected⟩ := exists_forEachNode succeeds
  have inside : ∀ other ∈ all, context.forest.HasAmong stamps other := by
    intro other member
    obtain ⟨node, given, found, isSelected, member⟩ := ((mem_forEachNode selected).2 other).mp member
    exact ((selects node found).mp isSelected).among known (among node given) member
  obtain ⟨sorted, found, -⟩ := Forest.exists_sorted inside
  refine ⟨sorted, ?_⟩
  rw [equation, selected]
  show inOrder context all = _
  rw [inOrder, found]

-----------------------------------------------------------------------------------------
-- Steps from a list
-----------------------------------------------------------------------------------------

/-- What steps reach from some nodes: all that they lead to from one of these. -/
structure Reaches (library : Library) (context : Context) (steps : List Step)
    (nodes reached : List Node) : Prop where
  applies : ∀ step ∈ steps, step.Applies context
  passable : ∀ node ∈ nodes, Passable library context steps node
  mem_iff (other : Node) : other ∈ reached ↔ ∃ node ∈ nodes, Leads library context steps node other

theorem Reaches.congr {steps : List Step} {others : List Node}
    (reaches : Reaches library context steps nodes reached)
    (same : ∀ node, node ∈ others ↔ node ∈ nodes)
    : Reaches library context steps others reached := by
  refine ⟨reaches.applies, fun node member => reaches.passable node ((same node).mp member),
    fun other => ?_⟩
  simp only [reaches.mem_iff, same]

/-- Steps that are followed reach what they lead to, by induction on the steps. -/
theorem reaches_of_follow {steps : List Step} (known : stamps context.stamp)
    (among : ∀ node ∈ nodes, context.forest.HasAmong stamps node)
    (follows : Step.follow library context steps nodes = .ok reached)
    : Reaches library context steps nodes reached
      ∧ (steps ≠ [] ∨ context.forest.IsSet stamps nodes → context.forest.IsSet stamps reached) := by
  induction steps generalizing nodes with
  | nil =>
      rw [follow] at follows
      cases follows
      refine ⟨⟨by simp, fun _ _ => trivial, fun other => ?_⟩, fun isSet => isSet.elim (absurd rfl) id⟩
      simp [Leads]
  | cons step rest ih =>
      rw [follow] at follows
      obtain ⟨next, takes, follows⟩ := bind_eq_ok.mp follows
      obtain ⟨succeeds, members, isSet⟩ := of_take known among takes
      obtain ⟨⟨applies, passable, reaches⟩, ordered⟩ := ih isSet.among follows
      refine ⟨⟨List.forall_mem_cons.mpr ⟨applies_of_take takes, applies⟩, fun node member => ?_,
        fun other => ?_⟩, fun _ => ordered (.inr isSet)⟩
      · obtain ⟨selected, selects⟩ := succeeds node member
        exact ⟨selected, selects, fun further inside =>
          passable further ((members further).mpr ⟨node, member, selected, selects, inside⟩)⟩
      · rw [reaches]
        constructor
        · rintro ⟨further, inside, leads⟩
          obtain ⟨node, member, selected, selects, inside⟩ := (members further).mp inside
          exact ⟨node, member, selected, selects, further, inside, leads⟩
        · rintro ⟨node, member, selected, selects, further, inside, leads⟩
          exact ⟨further, (members further).mpr ⟨node, member, selected, selects, inside⟩, leads⟩

/-- Steps that are known can be followed from nodes that can be passed. -/
theorem exists_follow {steps : List Step} (known : stamps context.stamp)
    (among : ∀ node ∈ nodes, context.forest.HasAmong stamps node)
    (applies : ∀ step ∈ steps, step.Applies context)
    (passable : ∀ node ∈ nodes, Passable library context steps node)
    : ∃ reached, Step.follow library context steps nodes = .ok reached := by
  induction steps generalizing nodes with
  | nil => exact ⟨nodes, by rw [follow]⟩
  | cons step rest ih =>
      obtain ⟨applies, others⟩ := List.forall_mem_cons.mp applies
      have succeeds : ∀ node ∈ nodes, ∃ selected, step.Selects library context node selected :=
        fun node member => (passable node member).imp fun _ => And.left
      obtain ⟨next, takes⟩ := exists_take known among applies succeeds
      obtain ⟨-, members, isSet⟩ := of_take known among takes
      obtain ⟨reached, follows⟩ := ih isSet.among others fun further inside => by
        obtain ⟨node, member, selected, selects, inside⟩ := (members further).mp inside
        obtain ⟨_, again, passable⟩ := passable node member
        exact passable further (selects.unique again ▸ inside)
      exact ⟨reached, by rw [follow, takes]; exact follows⟩

end Step

end PathQuery
