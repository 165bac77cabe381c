import PathQuery.Proofs.Evaluation.Counterparts
import PathQuery.Query

/-! Evaluations correspond: from paired nodes, with related variables and functions that respect
the correspondence, an expression has related values or the same fault.
-/

namespace PathQuery

-----------------------------------------------------------------------------------------
-- Contexts
-----------------------------------------------------------------------------------------

/-- Contexts of corresponding evaluations, apart from their context nodes and variables. -/
structure Context.Parallel (Paired : Node → Node → Prop) (context other : Context) : Prop where
  correspondence : Correspondence context.forest other.forest context.stamp other.stamp Paired
  bindings_eq : context.bindings = other.bindings
  options_eq : context.options = other.options

/-- Paired context nodes, at the same position among as many nodes. -/
structure Context.FocusedAlike (Paired : Node → Node → Prop) (context other : Context)
    : Prop where
  node : Paired context.node other.node
  position_eq : context.position = other.position
  size_eq : context.size = other.size

/-- The variables of some names have related values, or there are none in both contexts. -/
def Context.AgreeOn (Paired : Node → Node → Prop) (names : List String) (context other : Context)
    : Prop :=
  ∀ name ∈ names, Option.Rel (Value.Related Paired) (context.valueOf? name) (other.valueOf? name)

/-- A function that gives related values or the same fault for related arguments in corresponding
evaluations.
-/
def Function.Respects (function : Function) : Prop :=
  ∀ (Paired : Node → Node → Prop) (context other : Context) (arguments others : List Value),
    context.Parallel Paired other → context.FocusedAlike Paired other →
    function.signature.Fits arguments → List.Forall₂ (Value.Related Paired) arguments others →
    Alike (Value.Related Paired) (function.call context arguments) (function.call other others)

/-- All functions of a library respect correspondences. -/
def Library.Respects (library : Library) : Prop :=
  ∀ name function, library.find? name = some function → function.Respects

-----------------------------------------------------------------------------------------
-- Parts of evaluation
-----------------------------------------------------------------------------------------

section Parts

variable {Paired : Node → Node → Prop} {context other : Context} {node peer : Node}
  {nodes peers : List Node}

/-- Checks that agree on paired nodes keep paired nodes. -/
theorem keepNodes_alike {check further : Nat → Node → Except Fault Bool}
    (paired : List.Forall₂ Paired nodes peers) (position : Nat)
    (same : ∀ position node peer, Paired node peer →
      Alike (· = ·) (check position node) (further position peer))
    : Alike (List.Forall₂ Paired) (keepNodes check position nodes)
        (keepNodes further position peers) := by
  induction paired generalizing position with
  | nil => exact .nil
  | cons first _ ih =>
      refine (same position _ _ first).bind fun kept _ _ equal => ?_
      subst equal
      refine (ih (position + 1)).bind fun others more _ related => ?_
      cases kept with
      | true => exact .cons first related
      | false => exact related

theorem forEachNode_alike {select further : Node → Except Fault (List Node)}
    (paired : List.Forall₂ Paired nodes peers)
    (selects : ∀ node peer, Paired node peer →
      Alike (List.Forall₂ Paired) (select node) (further peer))
    : Alike (List.Forall₂ Paired) (forEachNode select nodes) (forEachNode further peers) := by
  induction paired with
  | nil => exact .nil
  | cons first _ ih =>
      refine (selects _ _ first).bind fun selected more _ related => ?_
      exact ih.bind fun others further _ also => List.rel_append related also

variable (parallel : context.Parallel Paired other)
include parallel

/-- Paired nodes have a qualified name in the same namespace. -/
theorem namespaceMatches_eq (qualifier : Option String) (paired : Paired node peer)
    {view seen : View} (resembles : view.Resembles seen)
    : namespaceMatches context qualifier node view
      = namespaceMatches other qualifier peer seen := by
  obtain ⟨correspondence, bindings_eq, -⟩ := parallel
  have scope := correspondence.scope node peer paired
  rcases resembles with rfl | ⟨top, content, rfl, rfl, -⟩
  · cases qualifier with
    | none => simp only [namespaceMatches, bindings_eq]
    | some text =>
        simp only [namespaceMatches, bindings_eq]
        cases other.bindings.get? text with
        | some uri => rfl
        | none =>
            by_cases owned : view.kind = .attributeKind
            · simp only [if_pos owned, correspondence.find?_scope_above _ paired]
            · simp only [if_neg owned, Option.bind_some, scope]
  · cases qualifier with
    | none => rfl
    | some text => simp [namespaceMatches, bindings_eq, View.kind, View.uri, scope]

/-- Paired nodes pass the same tests. -/
theorem holds_eq (test : NodeTest) (axis : Axis) (paired : Paired node peer)
    : test.holds context axis.principal node = test.holds other axis.principal peer := by
  obtain ⟨view, seen, found, foundPeer, resembles⟩ := parallel.correspondence.view paired
  rw [NodeTest.holds, NodeTest.holds, found, foundPeer]
  have matched (qualifier : Option String) :=
    namespaceMatches_eq parallel qualifier paired resembles
  rcases resembles with rfl | ⟨top, content, rfl, rfl, -⟩
  · cases test with
    | anyName qualifier => cases qualifier <;> simp only [NodeTest.passes, matched]
    | name | nodeType | instruction => simp only [NodeTest.passes, matched]
  · have noRoot : axis.principal ≠ .origin ∧ axis.principal ≠ .document := by
      cases axis <;> simp [Axis.principal]
    cases test with
    | anyName qualifier =>
        cases qualifier <;>
          simp [NodeTest.passes, View.kind, noRoot.1.symm, noRoot.2.symm]
    | name | nodeType | instruction =>
        simp [NodeTest.passes, View.kind, noRoot.1.symm, noRoot.2.symm]

theorem undeclared?_eq (test : NodeTest) : test.undeclared? context = test.undeclared? other := by
  rw [NodeTest.undeclared?, NodeTest.undeclared?, parallel.options_eq, parallel.bindings_eq]

theorem candidates_alike (axis : Axis) (test : NodeTest) (paired : Paired node peer)
    : Alike (List.Forall₂ Paired) (candidates context axis test node)
        (candidates other axis test peer) := by
  have related := parallel.correspondence.onAxis paired axis
  rw [candidates, candidates, Context.onAxis?, Context.onAxis?]
  generalize context.forest.onAxis? context.stamp axis node = given at related
  generalize other.forest.onAxis? other.stamp axis peer = reached at related
  cases related with
  | none => rfl
  | some paired =>
      exact keepNodes_alike paired 1 fun _ _ _ also => .of_eq (holds_eq parallel test axis also)

theorem inOrder_alike (paired : List.Forall₂ Paired nodes peers)
    : Alike (List.Forall₂ Paired) (inOrder context nodes) (inOrder other peers) := by
  obtain ⟨sorted, ordered, found, foundPeers, related⟩ := parallel.correspondence.sorted paired
  rw [inOrder, inOrder, found, foundPeers]
  exact related

theorem startNodes_alike (absolute : Bool) (paired : List.Forall₂ Paired nodes peers)
    : Alike (List.Forall₂ Paired) (startNodes context absolute nodes)
        (startNodes other absolute peers) := by
  cases absolute with
  | false => exact paired
  | true =>
      refine inOrder_alike parallel ?_
      exact List.rel_map (fun _ _ also => parallel.correspondence.rootOf also) paired

end Parts

-----------------------------------------------------------------------------------------
-- Names of variables
-----------------------------------------------------------------------------------------

mutual

/-- The names of the variables in an expression. -/
def Expr.names : Expr → List String
  | .binary _ left right => left.names ++ right.names
  | .negate operand => operand.names
  | .union left right => left.names ++ right.names
  | .number _ => []
  | .string _ => []
  | .reference name => [name]
  | .call _ list => Expr.namesOfAll list
  | .filter primary predicates => primary.names ++ Expr.namesOfAll predicates
  | .path _ steps => Step.namesOfAll steps
  | .continued first steps => first.names ++ Step.namesOfAll steps

/-- The names of the variables in some expressions. -/
def Expr.namesOfAll : List Expr → List String
  | [] => []
  | first :: rest => first.names ++ Expr.namesOfAll rest

/-- The names of the variables in the predicates of a step. -/
def Step.names : Step → List String
  | .mk _ _ predicates => Expr.namesOfAll predicates

/-- The names of the variables in some steps. -/
def Step.namesOfAll : List Step → List String
  | [] => []
  | first :: rest => first.names ++ Step.namesOfAll rest

end

namespace Context.AgreeOn

variable {Paired : Node → Node → Prop} {names more : List String} {context other : Context}

theorem left (agree : AgreeOn Paired (names ++ more) context other)
    : AgreeOn Paired names context other :=
  fun name member => agree name (List.mem_append_left more member)

theorem right (agree : AgreeOn Paired (names ++ more) context other)
    : AgreeOn Paired more context other :=
  fun name member => agree name (List.mem_append_right names member)

end Context.AgreeOn

-----------------------------------------------------------------------------------------
-- Expressions
-----------------------------------------------------------------------------------------

section Expressions

variable {Paired : Node → Node → Prop} {library : Library} {context other : Context}
  {start starts : List Node}

theorem Value.Related.boolean (truth : Bool)
    : Value.Related Paired (.boolean truth) (.boolean truth) :=
  .scalar (by simp)

theorem Value.Related.number (it : Number)
    : Value.Related Paired (.number it) (.number it) :=
  .scalar (by simp)

/-- An operation on related operands has related values. -/
theorem Expr.binary_alike (parallel : context.Parallel Paired other) (operator : String)
    {left right : Expr}
    (lefts : Alike (Value.Related Paired) (left.evaluate library context start)
      (left.evaluate library other starts))
    (rights : Alike (Value.Related Paired) (right.evaluate library context start)
      (right.evaluate library other starts))
    : Alike (Value.Related Paired) ((Expr.binary operator left right).evaluate library context start)
        ((Expr.binary operator left right).evaluate library other starts) := by
  obtain ⟨correspondence, -, -⟩ := parallel
  rw [Expr.evaluate, Expr.evaluate]
  have truth {value another : Value} (related : Value.Related Paired value another)
      : Value.Related Paired (.boolean value.toBoolean) (.boolean another.toBoolean) :=
    related.toBoolean_eq ▸ .boolean _
  split
  case isTrue =>
      refine lefts.bind fun first second _ related => ?_
      rw [related.toBoolean_eq]
      split
      · exact .boolean true
      · exact rights.bind fun _ _ _ also => truth also
  case isFalse =>
  split
  case isTrue =>
      refine lefts.bind fun first second _ related => ?_
      rw [related.toBoolean_eq]
      split
      · exact rights.bind fun _ _ _ also => truth also
      · exact .boolean false
  case isFalse =>
  split
  case isTrue =>
      refine lefts.bind fun first second _ related => rights.bind fun third fourth _ also => ?_
      rw [correspondence.compare_eq operator related also]
      exact (Alike.of_eq rfl).bind fun outcome _ _ same => same ▸ .boolean outcome
  case isFalse =>
      refine (Alike.of_eq rfl).bind fun operation _ _ same => ?_
      subst same
      refine lefts.bind fun first second _ related => rights.bind fun third fourth _ also => ?_
      show Value.Related Paired _ _
      rw [related.toNumber_eq correspondence, also.toNumber_eq correspondence]
      exact .number _

mutual

/-- Corresponding evaluations of an expression have related values or the same fault, by induction
on expressions, steps and lists of them.
-/
theorem Expr.evaluate_alike (respects : library.Respects) {context other : Context}
    (parallel : context.Parallel Paired other) (focused : context.FocusedAlike Paired other)
    {start starts : List Node} (paired : List.Forall₂ Paired start starts)
    (expression : Expr) (agree : context.AgreeOn Paired expression.names other)
    : Alike (Value.Related Paired) (expression.evaluate library context start)
        (expression.evaluate library other starts) := by
  cases expression with
  | path absolute steps =>
      rw [Expr.evaluate, Expr.evaluate]
      refine (startNodes_alike parallel absolute paired).bind fun first firsts _ related => ?_
      refine (Step.follow_alike respects parallel related steps agree).bind
        fun reached others _ also => ?_
      exact .nodes also
  | binary operator left right =>
      exact Expr.binary_alike parallel operator
        (left.evaluate_alike respects parallel focused paired agree.left)
        (right.evaluate_alike respects parallel focused paired agree.right)
  | negate operand =>
      rw [Expr.evaluate, Expr.evaluate]
      refine (operand.evaluate_alike respects parallel focused paired agree).bind
        fun value another _ related => ?_
      show Value.Related Paired _ _
      rw [related.toNumber_eq parallel.correspondence]
      exact .number _
  | number value =>
      rw [Expr.evaluate, Expr.evaluate]
      exact .number value
  | string value =>
      rw [Expr.evaluate, Expr.evaluate]
      exact .scalar (by simp)
  | reference name =>
      rw [Expr.evaluate, Expr.evaluate]
      have bound := agree name (List.mem_singleton.mpr rfl)
      generalize context.valueOf? name = value at bound
      generalize other.valueOf? name = another at bound
      cases bound with
      | none => rfl
      | some related => exact related
  | call name list =>
      rw [Expr.evaluate, Expr.evaluate]
      cases found : library.findFor name list.length with
      | error fault => rfl
      | ok function =>
          refine (Expr.arguments_alike respects parallel focused paired name function.signature 0
            list agree).bind fun values others read related => ?_
          exact respects name function (Library.of_findFor found).1 Paired context other values
            others parallel focused (Signature.fits_of_arguments found read) related
  | union left right =>
      rw [Expr.evaluate, Expr.evaluate]
      refine (left.evaluate_alike respects parallel focused paired agree.left).bind
        fun first second _ related => ?_
      refine (right.evaluate_alike respects parallel focused paired agree.right).bind
        fun third fourth _ also => ?_
      refine (related.asNodes_alike _).bind fun these those _ pairedLeft => ?_
      refine (also.asNodes_alike _).bind fun others more _ pairedRight => ?_
      refine (inOrder_alike parallel (List.rel_append pairedLeft pairedRight)).bind
        fun sorted ordered _ both => ?_
      exact .nodes both
  | filter primary predicates =>
      rw [Expr.evaluate, Expr.evaluate]
      refine (primary.evaluate_alike respects parallel focused paired agree.left).bind
        fun value another _ related => ?_
      refine (related.asNodes_alike _).bind fun set others _ members => ?_
      refine (Expr.restrict_alike respects parallel members predicates agree.right).bind
        fun kept more _ both => ?_
      exact .nodes both
  | continued first steps =>
      rw [Expr.evaluate, Expr.evaluate]
      refine (first.evaluate_alike respects parallel focused paired agree.left).bind
        fun value another _ related => ?_
      refine (related.asNodes_alike _).bind fun set others _ members => ?_
      refine (Step.follow_alike respects parallel members steps agree.right).bind
        fun reached more _ both => ?_
      exact .nodes both
termination_by sizeOf expression

theorem Expr.arguments_alike (respects : library.Respects) {context other : Context}
    (parallel : context.Parallel Paired other) (focused : context.FocusedAlike Paired other)
    {start starts : List Node} (paired : List.Forall₂ Paired start starts) (name : String)
    (signature : Signature) (index : Nat) (list : List Expr)
    (agree : context.AgreeOn Paired (Expr.namesOfAll list) other)
    : Alike (List.Forall₂ (Value.Related Paired))
        (Expr.arguments library context start name signature index list)
        (Expr.arguments library other starts name signature index list) := by
  cases list with
  | nil =>
      rw [Expr.arguments, Expr.arguments]
      exact .nil
  | cons argument rest =>
      rw [Expr.arguments, Expr.arguments]
      refine (argument.evaluate_alike respects parallel focused paired agree.left).bind
        fun value another _ related => ?_
      refine (related.asArgument_alike parallel.correspondence name index _).bind
        fun converted also _ relatedConverted => ?_
      refine (Expr.arguments_alike respects parallel focused paired name signature (index + 1) rest
        agree.right).bind fun others more _ relatedOthers => ?_
      exact .cons relatedConverted relatedOthers
termination_by sizeOf list

/-- Paired nodes pass the same predicates. -/
theorem Expr.restrict_alike (respects : library.Respects) {context other : Context}
    (parallel : context.Parallel Paired other) {nodes peers : List Node}
    (paired : List.Forall₂ Paired nodes peers) (predicates : List Expr)
    (agree : context.AgreeOn Paired (Expr.namesOfAll predicates) other)
    : Alike (List.Forall₂ Paired) (Expr.restrict library context predicates nodes)
        (Expr.restrict library other predicates peers) := by
  cases predicates with
  | nil =>
      rw [Expr.restrict, Expr.restrict]
      exact paired
  | cons predicate rest =>
      rw [Expr.restrict, Expr.restrict]
      refine (keepNodes_alike paired 1 fun position node peer also => ?_).bind
        fun kept others _ related =>
          Expr.restrict_alike respects parallel related rest agree.right
      have parallel : (context.focus node position nodes.length).Parallel Paired
          (other.focus peer position peers.length) :=
        ⟨parallel.correspondence, parallel.bindings_eq, parallel.options_eq⟩
      have focused : (context.focus node position nodes.length).FocusedAlike Paired
          (other.focus peer position peers.length) := ⟨also, rfl, paired.length_eq⟩
      have values :=
        predicate.evaluate_alike respects parallel focused (.cons also .nil) agree.left
      exact values.bind fun value another _ related => related.acceptsAt_eq position
termination_by sizeOf predicates

/-- A step leads from paired nodes to paired nodes. -/
theorem Step.take_alike (respects : library.Respects) {context other : Context}
    (parallel : context.Parallel Paired other) {nodes peers : List Node}
    (paired : List.Forall₂ Paired nodes peers) (step : Step)
    (agree : context.AgreeOn Paired step.names other)
    : Alike (List.Forall₂ Paired) (step.take library context nodes)
        (step.take library other peers) := by
  cases step with
  | mk axisName test predicates =>
      rw [Step.take, Step.take, undeclared?_eq parallel test]
      refine (Alike.of_eq rfl).bind fun axis _ _ same => ?_
      subst same
      split
      · exact rfl
      · refine (forEachNode_alike paired fun node peer also => ?_).bind
          fun selected others _ related => inOrder_alike parallel related
        refine (candidates_alike parallel axis test also).bind fun passing others _ related => ?_
        exact Expr.restrict_alike respects parallel related predicates agree
termination_by sizeOf step

/-- Steps lead from paired nodes to paired nodes. -/
theorem Step.follow_alike (respects : library.Respects) {context other : Context}
    (parallel : context.Parallel Paired other) {nodes peers : List Node}
    (paired : List.Forall₂ Paired nodes peers) (steps : List Step)
    (agree : context.AgreeOn Paired (Step.namesOfAll steps) other)
    : Alike (List.Forall₂ Paired) (Step.follow library context steps nodes)
        (Step.follow library other steps peers) := by
  cases steps with
  | nil =>
      rw [Step.follow, Step.follow]
      exact paired
  | cons step rest =>
      rw [Step.follow, Step.follow]
      exact (step.take_alike respects parallel paired agree.left).bind fun reached others _ related =>
        Step.follow_alike respects parallel related rest agree.right
termination_by sizeOf steps

end

end Expressions

-----------------------------------------------------------------------------------------
-- Queries
-----------------------------------------------------------------------------------------

namespace Query

/-- The value of a variable. -/
def Surroundings.valueOf? (around : Surroundings) (name : String) : Option Value :=
  (around.values.find? (·.1 == name)).map Prod.snd

theorem Surroundings.mem_of_valueOf? {around : Surroundings} {name : String} {value : Value}
    (bound : around.valueOf? name = some value)
    : ∃ name, (name, value) ∈ around.values := by
  obtain ⟨entry, looked, rfl⟩ := Option.map_eq_some_iff.mp bound
  exact ⟨entry.1, List.mem_of_find?_eq_some looked⟩

/-- The context of an evaluation whose first context node is given. -/
def Surroundings.contextAt (around : Surroundings) (forest : Forest) (stamp : Nat) (node : Node)
    : Context :=
  { forest, stamp, node, position := 1, size := 1, bindings := around.bindings,
    values := around.values, options := around.options }

variable {Paired : Node → Node → Prop} {library : Library} {forest other : Forest}
  {stamp further : Nat} {around about : Surroundings} {expression : Expr}

theorem evaluateIn_cons {node : Node} {rest : List Node} (nodes : around.nodes = node :: rest)
    : evaluateIn library forest stamp around expression
      = (expression.evaluate library (around.contextAt forest stamp node) around.nodes).mapError
          .evaluation := by
  obtain ⟨start, bindings, values, options⟩ := around
  obtain rfl : start = node :: rest := nodes
  simp only [evaluateIn, Surroundings.contextAt]
  split
  case h_1 value evaluates => rw [evaluates, Except.mapError]
  case h_2 fault evaluates => rw [evaluates, Except.mapError]

/-- Corresponding evaluations from paired context nodes have related values or the same fault. -/
theorem evaluateIn_alike (respects : library.Respects)
    (correspondence : Correspondence forest other stamp further Paired)
    (nodes : List.Forall₂ Paired around.nodes about.nodes)
    (bindings_eq : around.bindings = about.bindings) (options_eq : around.options = about.options)
    (agree : ∀ name ∈ expression.names,
      Option.Rel (Value.Related Paired) (around.valueOf? name) (about.valueOf? name))
    : Alike (Value.Related Paired) (evaluateIn library forest stamp around expression)
        (evaluateIn library other further about expression) := by
  obtain ⟨start, bindings, values, options⟩ := around
  obtain ⟨starts, _, others, _⟩ := about
  obtain rfl : bindings = _ := bindings_eq
  obtain rfl : options = _ := options_eq
  cases nodes with
  | nil => rfl
  | @cons node peer rest more first paired =>
      rw [evaluateIn_cons rfl, evaluateIn_cons rfl]
      let context := Surroundings.contextAt ⟨node :: rest, bindings, values, options⟩ forest stamp
        node
      let image := Surroundings.contextAt ⟨peer :: more, bindings, others, options⟩ other further
        peer
      have parallel : context.Parallel Paired image := ⟨correspondence, rfl, rfl⟩
      have focused : context.FocusedAlike Paired image := ⟨first, rfl, rfl⟩
      have alike := expression.evaluate_alike respects parallel focused (.cons first paired) agree
      exact alike.mapError QueryFault.evaluation

end Query

end PathQuery
