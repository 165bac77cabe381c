import PathQuery.Proofs.Evaluation.LocationPath
import PathQuery.Proofs.Evaluation.MissingAxes
import PathQuery.Proofs.Evaluation.Safety

/-! Evaluations from any nodes, lone attributes and namespace bindings among them. A location path has
a node-set as its value, unless it ends for what is undeclared or no node-set, or with a function
that is not one of the core, or misses an axis around a lone node.
-/

namespace PathQuery

-----------------------------------------------------------------------------------------
-- Nodes that are there
-----------------------------------------------------------------------------------------

/-- All nodes that a value holds are there. -/
def Value.IsPresent (forest : Forest) : Value → Prop
  | .nodes set => ∀ node ∈ set.items, forest.Has node
  | _ => True

/-- All nodes that a datum gives a value are there. -/
def Datum.IsPresent (forest : Forest) : Datum → Prop
  | .node it => forest.Has it
  | .list items => ∀ node, .node node ∈ items → forest.Has node
  | .nodes set => ∀ node ∈ set.items, forest.Has node
  | _ => True

/-- The context node and all nodes that variables hold are there. -/
structure Context.IsPresent (context : Context) : Prop where
  node : context.forest.Has context.node
  values : ∀ name value, context.valueOf? name = some value → value.IsPresent context.forest

/-- A function that returns no nodes but those that are there, as long as it gets no others. -/
def Function.KeepsPresent (forest : Forest) (function : Function) : Prop :=
  ∀ context arguments datum, context.forest = forest → context.IsPresent →
    function.signature.Fits arguments → (∀ value ∈ arguments, value.IsPresent forest) →
    function.run context arguments = .ok datum → datum.IsPresent forest

/-- A fault that ends a call of a function which is not one of the core: the function ends with it,
or what it returns is no value.
-/
def Library.FailsWith (library : Library) (forest : Forest) (fault : Fault) : Prop :=
  ∃ name function context arguments, library.find? name = some function
    ∧ Library.core.find? name ≠ some function ∧ context.forest = forest
    ∧ function.signature.Fits arguments ∧ function.call context arguments = .error fault

/-- Nodes that are there, of which any are a set. Besides what is expected, calls may fail, and axes
of lone nodes may be missing.
-/
def Discipline.presence (forest : Forest) (stamp : Nat) (library : Library)
    : Discipline forest stamp where
  Sound := forest.Has
  IsSet nodes := ∀ node ∈ nodes, forest.Has node
  Allowed fault :=
    fault.IsExpected ∨ library.FailsWith forest fault
      ∨ fault = .loneNode ∧ ∃ node, forest.IsLone node
  onAxis has given member := has.onAxis given member
  noAxis _ missing := .inr (.inr ⟨rfl, _, (Forest.lone_of_onAxis?_eq_none missing).2⟩)
  rootOf has := has.rootOf stamp
  sorted {nodes} present := by
    obtain ⟨sorted, found, contained⟩ := Forest.exists_sorted?_subset present
    exact ⟨sorted, found, fun node member => present node (contained node member)⟩
  descendants {node} has := by
    exact fun other member => has.onAxis (forest.onAxis?_descendant stamp node) member
  sublist isSet contained node member := isSet node (contained.subset member)
  sound isSet := isSet
  unboundVariable _ := .inl trivial
  unboundNamespace _ := .inl trivial
  noNodes _ := .inl trivial

namespace Discipline

variable {forest : Forest} {stamp : Nat} {library : Library}

theorem presence_good_iff (value : Value)
    : (presence forest stamp library).Good value ↔ value.IsPresent forest := by
  cases value <;> exact Iff.rfl

/-- Functions of the core, and others that return nodes that are there, keep to presence. -/
theorem servedBy_presence
    (functions : ∀ name function, library.find? name = some function →
      Library.core.find? name = some function ∨ function.KeepsPresent forest)
    : (presence forest stamp library).ServedBy library := by
  intro name function found
  by_cases inCore : Library.core.find? name = some function
  · exact serves_core _ inCore
  refine serves_of_admits (fun context arguments fault suits fits failed => ?_)
    fun context arguments datum suits fits good returned => ?_
  · exact .inr (.inl
      ⟨name, function, context, arguments, found, inCore, suits.forest_eq, fits, failed⟩)
  · have present : context.IsPresent := by
      obtain ⟨rfl, -, has, values⟩ := suits
      exact ⟨has, fun name value bound => (presence_good_iff value).mp (values name value bound)⟩
    have given := ((functions name function found).resolve_left inCore) context arguments datum
      suits.forest_eq present fits (fun value member => (presence_good_iff value).mp (good value member))
      returned
    cases datum <;> exact given

end Discipline

-----------------------------------------------------------------------------------------
-- Location paths
-----------------------------------------------------------------------------------------

/-- Whether an expression is a location path. -/
def Expr.isPath : Expr → Bool
  | .path _ _ => true
  | _ => false

theorem Expression.exists_path {arityOf : String → Option Arity} {source : String}
    (reads : (Expression.ofText arityOf source).toOption.any fun expression => expression.root.isPath)
    : ∃ expression, Expression.ofText arityOf source = .ok expression ∧ expression.root.isPath := by
  cases read : Expression.ofText arityOf source with
  | error fault => simp [read, Except.toOption] at reads
  | ok expression => exact ⟨expression, rfl, by simpa [read, Except.toOption] using reads⟩

-----------------------------------------------------------------------------------------
-- Queries
-----------------------------------------------------------------------------------------

namespace Query

variable {library : Library} {forest : Forest} {stamp : Nat} {query : Query}
  {around : Surroundings} {source : String} {expression : Expression}

/-- A path has a node-set if it has a value. -/
theorem exists_nodes_of_isPath {expression : Expr} {value : Value} (isPath : expression.isPath)
    (result : evaluateIn library forest stamp around expression = .ok value)
    : ∃ set, value = .nodes set := by
  cases expression with
  | path absolute steps =>
      cases start : around.nodes with
      | nil =>
          rw [evaluateIn, start] at result
          cases result
      | cons node rest =>
          rw [evaluateIn_cons start, Expr.evaluate_path] at result
          cases followed : Step.followFrom library (around.contextAt forest stamp node) absolute steps
              around.nodes with
          | error fault => simp [followed, Except.map, Except.mapError] at result
          | ok nodes =>
              simp only [followed, Except.map, Except.mapError, Except.ok.injEq] at result
              exact ⟨_, result.symm⟩
  | binary | negate | union | number | string | reference | call | filter | continued =>
      cases isPath

/-- A query that is accepted has a context node. -/
theorem nodes_ne_nil_of_surroundings (accepted : surroundings forest query = .ok around)
    : around.nodes ≠ [] := by
  rw [surroundings] at accepted
  obtain ⟨nodes, given, accepted⟩ := bind_eq_ok.mp accepted
  obtain ⟨bindings, -, accepted⟩ := bind_eq_ok.mp accepted
  obtain ⟨values, -, accepted⟩ := bind_eq_ok.mp accepted
  obtain ⟨options, -, same⟩ := bind_eq_ok.mp accepted
  cases same
  simp only [contextNodes] at given
  split at given
  case h_1 =>
      cases given
      exact List.cons_ne_nil _ _
  case h_2 =>
      split at given
      case h_1 => cases given
      case h_2 => cases given
      case h_3 items nonempty _ =>
          obtain ⟨all, found, rfl⟩ := map_eq_ok.mp given
          obtain _ | ⟨item, rest⟩ := items
          · exact absurd rfl nonempty
          cases item with
          | node it =>
              rw [allNodes] at found
              obtain ⟨others, -, same⟩ := bind_eq_ok.mp found
              cases same
              simp [List.eraseDups_cons]
          | null | boolean | integer | number | text | list | mapping | nodes => cases found

/-- A query with an expression that is read is evaluated in what it is made of. -/
theorem evaluate_eq_evaluateIn (accepted : surroundings forest query = .ok around)
    (text : query.expression = .text source)
    (read : Expression.ofText library.arityOf source = .ok expression)
    : evaluate library forest stamp query
      = evaluateIn library forest stamp around expression.root := by
  simp only [evaluate, text, accepted, read, bind, Except.bind]

/-- A query from nodes that are there has a value with such nodes, or ends with an expected fault or
that of a function which is not one of the core. Missing axes are those of steps around lone nodes.
-/
theorem evaluateIn_present (stamp : Nat)
    (read : Expression.ofText library.arityOf source = .ok expression) (given : around.nodes ≠ [])
    (nodes : ∀ node ∈ around.nodes, forest.Has node)
    (values : ∀ name value, (name, value) ∈ around.values → value.IsPresent forest)
    (functions : ∀ name function, library.find? name = some function →
      Library.core.find? name = some function ∨ function.KeepsPresent forest)
    : Meets (fun fault => ∃ inner, fault = .evaluation inner
          ∧ (inner.IsExpected ∨ library.FailsWith forest inner
            ∨ inner = .loneNode ∧ (∃ node, forest.IsLone node)
              ∧ ∃ axis ∈ expression.root.axes, axis.LeadsAround))
        (Value.IsPresent forest) (evaluateIn library forest stamp around expression.root) := by
  let discipline := Discipline.presence forest stamp library
  have meets := evaluateIn_meets discipline (Expression.wellFormed_of_ofText read)
    (Discipline.servedBy_presence functions) given nodes fun name set member =>
      values name (.nodes set) member
  let Reason : Prop :=
    library.FailsWith forest .loneNode ∨ ∃ axis ∈ expression.root.axes, axis.LeadsAround
  have explains : library.Explains forest Reason := by
    intro name function found context arguments same fits
    by_cases inCore : Library.core.find? name = some function
    · obtain ⟨value, outcome⟩ := Library.exists_call_core inCore context fits
      rw [outcome]
      trivial
    · cases outcome : function.call context arguments with
      | ok value => trivial
      | error fault =>
          rintro rfl
          exact .inl ⟨name, function, context, arguments, found, inCore, same, fits, outcome⟩
  have explained : Explained Reason expression.root.axes :=
    fun axis member around => .inr ⟨axis, member, around⟩
  obtain ⟨node, rest, cons⟩ := List.exists_cons_of_ne_nil given
  have excused := expression.root.evaluate_excused explains
    (rfl : (around.contextAt forest stamp node).forest = forest) around.nodes explained
  rw [evaluateIn_cons cons] at meets ⊢
  cases outcome : expression.root.evaluate library (around.contextAt forest stamp node) around.nodes
    with
  | ok value =>
      rw [outcome] at meets
      exact (Discipline.presence_good_iff value).mp meets
  | error fault =>
      rw [outcome] at meets excused
      obtain ⟨_, ⟨⟩, expected | failed | ⟨rfl, lone⟩⟩ := meets
      · exact ⟨fault, rfl, .inl expected⟩
      · exact ⟨fault, rfl, .inr (.inl failed)⟩
      · refine ⟨_, rfl, (excused rfl).elim (fun failed => .inr (.inl failed)) fun around => ?_⟩
        exact .inr (.inr ⟨rfl, lone, around⟩)

/-- A location path from nodes that are there has a node-set of such nodes as its value, or ends with
an expected fault or that of a function which is not one of the core. An axis may only be missing
where a lone node is, to what follows or precedes it, and if the path has such a step.
-/
theorem evaluate_locationPath (stamp : Nat) (accepted : surroundings forest query = .ok around)
    (text : query.expression = .text source)
    (read : Expression.ofText library.arityOf source = .ok expression)
    (isPath : expression.root.isPath) (nodes : ∀ node ∈ around.nodes, forest.Has node)
    (values : ∀ name value, (name, value) ∈ around.values → value.IsPresent forest)
    (functions : ∀ name function, library.find? name = some function →
      Library.core.find? name = some function ∨ function.KeepsPresent forest)
    : ((∃ set, evaluate library forest stamp query = .ok (.nodes set)
          ∧ ∀ node ∈ set.items, forest.Has node)
        ∨ ∃ fault, evaluate library forest stamp query = .error (.evaluation fault)
          ∧ (fault.IsExpected ∨ library.FailsWith forest fault
            ∨ fault = .loneNode ∧ (∃ node, forest.IsLone node)
              ∧ ∃ axis ∈ expression.root.axes, axis.LeadsAround))
      ∧ ∀ axis node, forest.onAxis? stamp axis node = none →
        axis.LeadsAround ∧ forest.IsLone node := by
  refine ⟨?_, fun axis node missing => Forest.lone_of_onAxis?_eq_none missing⟩
  have given := nodes_ne_nil_of_surroundings accepted
  have meets := evaluateIn_present stamp read given nodes values functions
  rw [evaluate_eq_evaluateIn accepted text read]
  cases outcome : evaluateIn library forest stamp around expression.root with
  | ok value =>
      rw [outcome] at meets
      obtain ⟨set, rfl⟩ := exists_nodes_of_isPath isPath outcome
      exact .inl ⟨set, rfl, meets⟩
  | error fault =>
      rw [outcome] at meets
      obtain ⟨inner, rfl, cause⟩ := meets
      exact .inr ⟨inner, rfl, cause⟩

/-- The root of a lone attribute has it below. -/
theorem evaluate_locationPath_lone
    : let forest : Forest := [.loneAttribute ⟨⟨none, "k"⟩, none, "v"⟩]
      ∃ expression, Expression.ofText Library.core.arityOf "../node()[last()]" = .ok expression
        ∧ expression.root.isPath
        ∧ ∃ set,
          evaluate Library.core forest 7 (plain ⟨0, .inner []⟩ "../node()[last()]") = .ok (.nodes set)
          ∧ ∀ node ∈ set.items, forest.Has node := by
  intro forest
  obtain ⟨expression, read, isPath⟩ : ∃ expression,
      Expression.ofText Library.core.arityOf "../node()[last()]" = .ok expression
        ∧ expression.root.isPath :=
    Expression.exists_path (by decide +kernel)
  have accepted : surroundings forest (plain ⟨0, .inner []⟩ "../node()[last()]")
      = .ok { nodes := [⟨0, .inner []⟩], bindings := .initial, values := [], options := .standard } :=
    rfl
  refine ⟨expression, read, isPath, ?_⟩
  rcases (evaluate_locationPath 7 accepted rfl read isPath
    (fun node member => List.mem_singleton.mp member ▸ rfl)
    (fun name value member => absurd member List.not_mem_nil)
    fun name function found => .inl found).1 with found | ⟨fault, failed, -⟩
  · exact found
  · have succeeds : (evaluate Library.core forest 7
        (plain ⟨0, .inner []⟩ "../node()[last()]")).isOk := by decide +kernel
    rw [failed] at succeeds
    cases succeeds

/-- The fault of a computation, if it ends with one. -/
def faultOf? {α : Type} : Except QueryFault α → Option QueryFault
  | .ok _ => none
  | .error fault => some fault

theorem eq_error_of_faultOf? {α : Type} {outcome : Except QueryFault α} {fault : QueryFault}
    (fails : faultOf? outcome = some fault)
    : outcome = .error fault := by
  cases outcome with
  | ok value => cases fails
  | error other => exact congrArg Except.error (Option.some.inj fails)

/-- The core functions and one that returns nothing. -/
def withNothing : Library :=
  (Library.core.register "nothing" [] fun _ _ => .ok .null).library

/-- A location path ends with a fault that is not expected if a function returns no value in one of its
predicates, or if it looks for what follows a lone attribute.
-/
theorem evaluate_locationPath_unexpected
    : ((∃ expression, Expression.ofText withNothing.arityOf "self::node()[nothing()]" = .ok expression
          ∧ expression.root.isPath)
        ∧ ∃ fault,
          evaluate withNothing .small 7 (plain ⟨0, .inner []⟩ "self::node()[nothing()]")
            = .error (.evaluation fault)
          ∧ ¬fault.IsExpected
          ∧ fault.message? = some "None can't be used as XPath value.")
      ∧ (∃ expression, Expression.ofText Library.core.arityOf "following::node()" = .ok expression
          ∧ expression.root.isPath)
        ∧ evaluate Library.core [.loneAttribute ⟨⟨none, "k"⟩, none, "v"⟩] 7
            (plain ⟨0, .inner []⟩ "following::node()")
          = .error (.evaluation .loneNode) := by
  refine ⟨⟨Expression.exists_path (by decide +kernel), .result (.noValue "None"), ?_, id, by decide⟩,
    Expression.exists_path (by decide +kernel), ?_⟩
  · exact eq_error_of_faultOf? (by decide +kernel)
  · exact eq_error_of_faultOf? (by decide +kernel)

end Query

end PathQuery
