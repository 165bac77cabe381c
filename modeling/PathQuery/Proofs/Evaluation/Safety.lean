import PathQuery.Proofs.Function.Core
import PathQuery.Proofs.Order.NodeSets

/-! Queries are safe: an expression that was read has a value in trees whose tops are no
attributes or namespace bindings, unless it names something that is not declared or uses
what is no node-set as one. Nothing that an evaluation looks up is missing, and functions
only see arguments of the types that they declare.
-/

namespace PathQuery

/-- What may end an evaluation: an undeclared variable or namespace, or what is no node-set
where one is wanted.
-/
def Fault.IsExpected : Fault → Prop
  | .unboundVariable _ | .unboundNamespace _ | .noNodes _ => True
  | _ => False

/-- Nodes of trees with proper tops, of which any are a set, and the expected faults. -/
def Discipline.safety (forest : Forest) (stamp : Nat) : Discipline forest stamp where
  Sound := forest.HasProper
  IsSet nodes := ∀ node ∈ nodes, forest.HasProper node
  Allowed := Fault.IsExpected
  onAxis proper given member := proper.onAxis given member
  noAxis {axis node} proper missing := by
    obtain ⟨nodes, given⟩ := proper.exists_onAxis stamp axis
    rw [missing] at given
    cases given
  rootOf proper := proper.rootOf stamp
  sorted {nodes} proper := by
    obtain ⟨sorted, found, contained⟩ :=
      Forest.exists_sorted?_subset fun node member => (proper node member).has
    exact ⟨sorted, found, fun node member => proper node (contained node member)⟩
  descendants {node} proper := by
    exact fun other member => proper.onAxis (forest.onAxis?_descendant stamp node) member
  sublist isSet contained node member := isSet node (contained.subset member)
  sound isSet := isSet
  unboundVariable _ := trivial
  unboundNamespace _ := trivial
  noNodes _ := trivial

/-- The value of a read expression, or an expected fault, comes of evaluating it with the
library that it was read for. Any library whose functions do the same with fitting arguments
gives the same.
-/
theorem Query.evaluateIn_safe {forest : Forest} {stamp : Nat} {around : Surroundings}
    {source : String} {expression : Expression}
    (read : Expression.ofText Library.core.arityOf source = .ok expression)
    (some : around.nodes ≠ []) (nodes : ∀ node ∈ around.nodes, forest.HasProper node)
    (values : ∀ name set, (name, Value.nodes set) ∈ around.values →
      ∀ node ∈ set.items, forest.HasProper node)
    : ((∃ value, evaluateIn Library.core forest stamp around expression.root = .ok value)
        ∨ ∃ fault, evaluateIn Library.core forest stamp around expression.root
            = .error (.evaluation fault)
          ∧ fault.IsExpected)
      ∧ ∀ library : Library, library.AgreesWith Library.core →
        evaluateIn library forest stamp around expression.root
          = evaluateIn Library.core forest stamp around expression.root := by
  let discipline := Discipline.safety forest stamp
  have meets := evaluateIn_meets discipline (Expression.wellFormed_of_ofText read)
    (fun _ _ => discipline.serves_core) some nodes values
  refine ⟨?_, fun library agrees => ?_⟩
  · cases outcome : evaluateIn Library.core forest stamp around expression.root with
    | ok value => exact .inl ⟨value, rfl⟩
    | error fault =>
        rw [outcome] at meets
        obtain ⟨inner, rfl, expected⟩ := meets
        exact .inr ⟨inner, rfl, expected⟩
  · simp only [evaluateIn, expression.root.evaluate_agrees agrees]

/-- An element and an attribute of two trees as context, and an element as variable. -/
def Query.sample : Surroundings :=
  { nodes := [⟨1, .inner [0]⟩, ⟨0, .attributeAt [] 0⟩], bindings := .initial,
    values := [("x", .nodes ⟨[⟨0, .inner []⟩]⟩)], options := .standard }

/-- Calls, operators and predicates have a value or come to an expected fault. -/
theorem Query.evaluateIn_safe_sample
    : ∃ expression,
        Expression.ofText Library.core.arityOf "count($x/@k) + string-length(//text()[last()])"
          = .ok expression
        ∧ ((∃ value, evaluateIn Library.core .small 7 sample expression.root = .ok value)
          ∨ ∃ fault, evaluateIn Library.core .small 7 sample expression.root
              = .error (.evaluation fault)
            ∧ fault.IsExpected) := by
  cases read : Expression.ofText Library.core.arityOf
      "count($x/@k) + string-length(//text()[last()])" with
  | error fault =>
      have succeeds : (Expression.ofText Library.core.arityOf
          "count($x/@k) + string-length(//text()[last()])").isOk := by decide +kernel
      rw [read] at succeeds
      cases succeeds
  | ok expression =>
      have proper : ∀ node ∈ sample.nodes, Forest.small.HasProper node := by
        simp only [sample, List.forall_mem_cons, List.not_mem_nil, false_implies, implies_true,
          and_true]
        exact ⟨⟨_, rfl, by decide, rfl⟩, ⟨_, rfl, by decide, rfl⟩⟩
      refine ⟨expression, rfl, (evaluateIn_safe read (by simp [sample]) proper ?_).1⟩
      intro name set member
      cases List.mem_singleton.mp member
      exact fun node inside => List.mem_singleton.mp inside ▸ ⟨_, rfl, by decide, rfl⟩

end PathQuery
