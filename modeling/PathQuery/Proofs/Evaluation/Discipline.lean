import PathQuery.Proofs.Evaluation.Typing
import PathQuery.Proofs.Grammar.WellFormed
import PathQuery.Proofs.Value.Comparison
import PathQuery.Query

/-! What evaluations uphold. A discipline is a property of nodes, one of node-sets and a
range of faults that fit together; a well-formed expression keeps to it in every context
that does, if the functions that it calls do so.
-/

namespace PathQuery

/-- A property of nodes that axes and roots pass on, what makes such nodes a set, and the
faults that may end an evaluation.
-/
structure Discipline (forest : Forest) (stamp : Nat) where
  Sound : Node → Prop
  IsSet : List Node → Prop
  Allowed : Fault → Prop
  onAxis {axis : Axis} {node other : Node} {nodes : List Node} (sound : Sound node)
    (given : forest.onAxis? stamp axis node = some nodes) (member : other ∈ nodes)
    : Sound other
  noAxis {axis : Axis} {node : Node} (sound : Sound node)
    (missing : forest.onAxis? stamp axis node = none)
    : Allowed .loneNode
  rootOf {node : Node} (sound : Sound node) : Sound (forest.rootOf stamp node)
  sorted {nodes : List Node} (sound : ∀ node ∈ nodes, Sound node)
    : ∃ sorted, forest.sorted? nodes = some sorted ∧ IsSet sorted
  descendants {node : Node} (sound : Sound node) : IsSet (forest.descendants node)
  sublist {nodes fewer : List Node} (isSet : IsSet nodes) (contained : fewer.Sublist nodes)
    : IsSet fewer
  sound {nodes : List Node} (isSet : IsSet nodes) : ∀ node ∈ nodes, Sound node
  unboundVariable (name : String) : Allowed (.unboundVariable name)
  unboundNamespace (qualifier : String) : Allowed (.unboundNamespace qualifier)
  noNodes (wanted : NodesWanted) : Allowed (.noNodes wanted)

namespace Discipline

variable {forest : Forest} {stamp : Nat} (discipline : Discipline forest stamp)

/-- A node-set among values is a set. -/
def Good : Value → Prop
  | .nodes set => discipline.IsSet set.items
  | _ => True

theorem good_of_type {value : Value} (scalar : value.type ≠ .nodes) : discipline.Good value := by
  cases value with
  | nodes => exact absurd rfl scalar
  | string | number | boolean => trivial

/-- A context that an evaluation under the discipline comes to. -/
structure Suits (context : Context) : Prop where
  forest_eq : context.forest = forest
  stamp_eq : context.stamp = stamp
  node : discipline.Sound context.node
  values : ∀ name value, context.valueOf? name = some value → discipline.Good value

/-- A function whose calls keep to the discipline. -/
def Serves (function : Function) : Prop :=
  ∀ context arguments, discipline.Suits context → function.signature.Fits arguments →
    (∀ value ∈ arguments, discipline.Good value) →
    Meets discipline.Allowed discipline.Good (function.call context arguments)

/-- All functions of a library keep to the discipline. -/
def ServedBy (library : Library) : Prop :=
  ∀ name function, library.find? name = some function → discipline.Serves function

variable {discipline} {context : Context}

/-- Another sound context node keeps a context suitable. -/
theorem Suits.focus (suits : discipline.Suits context) {node : Node} (sound : discipline.Sound node)
    (position size : Nat)
    : discipline.Suits (context.focus node position size) :=
  ⟨suits.forest_eq, suits.stamp_eq, sound, suits.values⟩

end Discipline

-----------------------------------------------------------------------------------------
-- Parts of evaluation
-----------------------------------------------------------------------------------------

/-- A check of nodes keeps some of them. -/
theorem keepNodes_meets {Allowed : Fault → Prop} {check : Nat → Node → Except Fault Bool}
    {nodes : List Node} (position : Nat)
    (checks : ∀ position, ∀ node ∈ nodes, Meets Allowed (fun _ => True) (check position node))
    : Meets Allowed (fun kept => kept.Sublist nodes) (keepNodes check position nodes) := by
  induction nodes generalizing position with
  | nil => exact List.Sublist.refl []
  | cons node rest ih =>
      refine (checks position node (by simp)).bind fun kept _ _ => ?_
      have others := ih (position + 1) fun position node member =>
        checks position node (List.mem_cons_of_mem _ member)
      refine others.bind fun others _ contained => ?_
      cases kept with
      | true => exact contained.cons_cons node
      | false => exact contained.cons node

/-- What is selected for each node has a property that all that is selected has. -/
theorem forEachNode_meets {Allowed : Fault → Prop} {Sound : Node → Prop}
    {select : Node → Except Fault (List Node)} {nodes : List Node}
    (selects : ∀ node ∈ nodes, Meets Allowed (fun selected => ∀ other ∈ selected, Sound other)
      (select node))
    : Meets Allowed (fun selected => ∀ other ∈ selected, Sound other)
        (forEachNode select nodes) := by
  induction nodes with
  | nil => exact fun _ member => absurd member List.not_mem_nil
  | cons node rest ih =>
      refine (selects node (by simp)).bind fun selected _ sound => ?_
      have others := ih fun node member => selects node (List.mem_cons_of_mem _ member)
      refine others.bind fun others _ further other member => ?_
      rcases List.mem_append.mp member with inside | inside
      · exact sound other inside
      · exact further other inside

/-- A well-formed test is passed or not. -/
theorem NodeTest.exists_holds {test : NodeTest} (formed : test.WellFormed) (context : Context)
    (principal : Kind) (node : Node)
    : ∃ outcome, test.holds context principal node = .ok outcome := by
  rw [holds]
  split
  case h_1 view =>
      cases test with
      | anyName qualifier => cases qualifier <;> exact ⟨_, rfl⟩
      | name | instruction => exact ⟨_, rfl⟩
      | nodeType typeName => rcases formed with rfl | rfl | rfl <;> exact ⟨_, rfl⟩
  case h_2 => exact ⟨_, rfl⟩

namespace Discipline

variable {forest : Forest} {stamp : Nat} {discipline : Discipline forest stamp} {context : Context}

theorem asNodes_meets {value : Value} (good : discipline.Good value) (wanted : NodesWanted)
    : Meets discipline.Allowed (fun set : NodeSet => discipline.IsSet set.items)
        (value.asNodes wanted) := by
  cases value with
  | nodes set => exact good
  | string | number | boolean => exact discipline.noNodes wanted

/-- An argument is good if it was before it is converted. -/
theorem asArgument_meets {value : Value} (good : discipline.Good value) (forest : Forest)
    (name : String) (index : Nat) (declared : Option ArgumentType)
    : Meets discipline.Allowed discipline.Good (value.asArgument forest name index declared) := by
  have typed := value.asArgument_meets forest name index declared
  cases converted : value.asArgument forest name index declared with
  | error fault =>
      rw [converted] at typed
      obtain ⟨wanted, rfl⟩ := typed
      exact discipline.noNodes wanted
  | ok argument =>
      rw [converted] at typed
      rcases typed.1 with rfl | scalar
      · exact good
      · exact discipline.good_of_type scalar

/-- The nodes on an axis that pass a well-formed test are sound. -/
theorem candidates_meets (suits : discipline.Suits context) (axis : Axis) {test : NodeTest}
    (formed : test.WellFormed) {node : Node} (sound : discipline.Sound node)
    : Meets discipline.Allowed (fun nodes => ∀ other ∈ nodes, discipline.Sound other)
        (candidates context axis test node) := by
  obtain ⟨rfl, rfl, -, -⟩ := id suits
  rw [candidates]
  split
  case h_1 nodes given =>
      have checks (position : Nat) (node : Node) (_ : node ∈ nodes)
          : Meets discipline.Allowed (fun _ => True) (test.holds context axis.principal node) := by
        obtain ⟨outcome, holds⟩ := test.exists_holds formed context axis.principal node
        rw [holds]
        trivial
      refine (keepNodes_meets 1 checks).imp fun kept _ contained other member => ?_
      exact discipline.onAxis sound given (contained.subset member)
  case h_2 missing => exact discipline.noAxis sound missing

theorem inOrder_meets (suits : discipline.Suits context) {nodes : List Node}
    (sound : ∀ node ∈ nodes, discipline.Sound node)
    : Meets discipline.Allowed discipline.IsSet (inOrder context nodes) := by
  obtain ⟨sorted, found, isSet⟩ := discipline.sorted sound
  rw [inOrder, suits.forest_eq, found]
  exact isSet

/-- A path starts from sound nodes, which are a set if it is absolute. -/
theorem startNodes_meets (suits : discipline.Suits context) (absolute : Bool) {nodes : List Node}
    (sound : ∀ node ∈ nodes, discipline.Sound node)
    : Meets discipline.Allowed
        (fun first => (∀ node ∈ first, discipline.Sound node)
          ∧ (absolute → discipline.IsSet first))
        (startNodes context absolute nodes) := by
  rw [startNodes]
  split
  case isTrue isAbsolute =>
      have roots : ∀ node ∈ nodes.map context.rootOf, discipline.Sound node := by
        intro root member
        obtain ⟨node, inside, rfl⟩ := List.mem_map.mp member
        rw [Context.rootOf, suits.forest_eq, suits.stamp_eq]
        exact discipline.rootOf (sound node inside)
      exact (inOrder_meets suits roots).imp fun first _ isSet =>
        ⟨discipline.sound isSet, fun _ => isSet⟩
  case isFalse relative => exact ⟨sound, fun isAbsolute => absurd isAbsolute relative⟩

/-- A call of a function keeps to the discipline if the function does. -/
theorem call_meets {library : Library} {name : String} {list : List Expr} {function : Function}
    {start : List Node} {values : List Value} (suits : discipline.Suits context)
    (serves : discipline.Serves function)
    (found : library.findFor name list.length = .ok function)
    (read : Expr.arguments library context start name function.signature 0 list = .ok values)
    (good : ∀ value ∈ values, discipline.Good value)
    : Meets discipline.Allowed discipline.Good (function.call context values) :=
  serves context values suits (Signature.fits_of_arguments found read) good

end Discipline

-----------------------------------------------------------------------------------------
-- Data of callers
-----------------------------------------------------------------------------------------

namespace Discipline

variable {forest : Forest} {stamp : Nat} (discipline : Discipline forest stamp)

/-- A datum with sound nodes, which are a set already if it is a node-set. -/
def Admits : Datum → Prop
  | .node it => discipline.Sound it
  | .list items => ∀ node, .node node ∈ items → discipline.Sound node
  | .nodes set => discipline.IsSet set.items
  | _ => True

variable {discipline}

theorem isSet_singleton {node : Node} (sound : discipline.Sound node)
    : discipline.IsSet [node] := by
  obtain ⟨sorted, found, isSet⟩ := discipline.sorted fun other member =>
    List.mem_singleton.mp member ▸ sound
  cases found
  exact isSet

theorem nodeSetOf_meets {items : List Datum}
    (sound : ∀ node, .node node ∈ items → discipline.Sound node)
    : Meets (fun _ => True) discipline.Good (Datum.nodeSetOf forest items) := by
  rw [Datum.nodeSetOf]
  have nodes : ∀ node ∈ items.filterMap Datum.node?, discipline.Sound node := by
    intro node member
    obtain ⟨item, inside, same⟩ := List.mem_filterMap.mp member
    cases item with
    | node it =>
        cases same
        exact sound node inside
    | null | boolean | integer | number | text | list | mapping | nodes => cases same
  split
  · obtain ⟨sorted, found, isSet⟩ := discipline.sorted nodes
    have found : NodeSet.ofNodes? forest (items.filterMap Datum.node?) = some ⟨sorted⟩ :=
      congrArg (Option.map NodeSet.mk) found
    rw [found]
    exact isSet
  · trivial

/-- A value that is made of an admitted datum is good. -/
theorem toValue_meets {datum : Datum} (admits : discipline.Admits datum)
    : Meets (fun _ => True) discipline.Good (datum.toValue forest) := by
  cases datum with
  | node it => exact isSet_singleton admits
  | list items => exact nodeSetOf_meets admits
  | nodes set => exact admits
  | mapping entries =>
      refine nodeSetOf_meets fun node member => ?_
      obtain ⟨entry, -, same⟩ := List.mem_map.mp member
      cases key : entry.1 <;> simp [key, Datum.ofKey] at same
  | integer value =>
      have number (finite : Bool) (it : Number)
          : Meets (fun _ => True) discipline.Good
            (if finite then Except.ok (.number it) else .error DatumFault.tooLarge) := by
        cases finite <;> exact True.intro
      rw [Datum.toValue]
      exact number _ _
  | null | boolean | number | text => trivial

/-- A function whose faults are allowed keeps to the discipline if it returns admitted data. -/
theorem serves_of_admits {function : Function}
    (allowed : ∀ context arguments fault, discipline.Suits context →
      function.signature.Fits arguments →
      function.call context arguments = .error fault → discipline.Allowed fault)
    (admits : ∀ context arguments datum, discipline.Suits context →
      function.signature.Fits arguments → (∀ value ∈ arguments, discipline.Good value) →
      function.run context arguments = .ok datum → discipline.Admits datum)
    : discipline.Serves function := by
  intro context arguments suits fits good
  cases outcome : function.call context arguments with
  | error fault => exact allowed context arguments fault suits fits outcome
  | ok value =>
      rw [Function.call] at outcome
      obtain ⟨datum, returned, outcome⟩ := bind_eq_ok.mp outcome
      have meets := toValue_meets (admits context arguments datum suits fits good returned)
      rw [suits.forest_eq] at outcome
      cases made : datum.toValue forest with
      | error fault => simp [made] at outcome
      | ok other =>
          rw [made] at meets outcome
          cases outcome
          exact meets

end Discipline

-----------------------------------------------------------------------------------------
-- Expressions
-----------------------------------------------------------------------------------------

section Expressions

variable {forest : Forest} {stamp : Nat} {discipline : Discipline forest stamp} {library : Library}

/-- An operation has a value if its operands have, as there is one for each operator. -/
theorem Expr.binary_meets {context : Context} {start : List Node} {operator : String}
    {left right : Expr} (known : IsOperator operator)
    (leftMeets : Meets discipline.Allowed discipline.Good (left.evaluate library context start))
    (rightMeets : Meets discipline.Allowed discipline.Good (right.evaluate library context start))
    : Meets discipline.Allowed discipline.Good
        ((Expr.binary operator left right).evaluate library context start) := by
  rw [Expr.evaluate]
  split
  case isTrue =>
      refine leftMeets.bind fun first _ _ => ?_
      split
      · trivial
      · exact rightMeets.bind fun second _ _ => trivial
  case isFalse notOr =>
  split
  case isTrue =>
      refine leftMeets.bind fun first _ _ => ?_
      split
      · exact rightMeets.bind fun second _ _ => trivial
      · trivial
  case isFalse notAnd =>
  split
  case isTrue compares =>
      refine leftMeets.bind fun first _ _ => rightMeets.bind fun second _ _ => ?_
      obtain ⟨outcome, compared⟩ := Comparison.exists_compare context.forest compares first second
      rw [compared]
      trivial
  case isFalse noComparison =>
      have computes : (Operation.ofSymbol? operator).isSome := by
        rcases known with isOr | isAnd | compares | computes
        · exact absurd isOr notOr
        · exact absurd isAnd notAnd
        · exact absurd compares noComparison
        · exact computes
      obtain ⟨operation, found⟩ := Option.isSome_iff_exists.mp computes
      rw [found]
      exact leftMeets.bind fun first _ _ => rightMeets.bind fun second _ _ => trivial

/-- A union is a set of the nodes of both sets. -/
theorem Expr.union_meets {context : Context} (suits : discipline.Suits context)
    {start : List Node} {left right : Expr}
    (leftMeets : Meets discipline.Allowed discipline.Good (left.evaluate library context start))
    (rightMeets : Meets discipline.Allowed discipline.Good (right.evaluate library context start))
    : Meets discipline.Allowed discipline.Good
        ((Expr.union left right).evaluate library context start) := by
  rw [Expr.evaluate]
  refine leftMeets.bind fun first _ good => rightMeets.bind fun second _ further => ?_
  refine (Discipline.asNodes_meets good _).bind fun these _ isSet => ?_
  refine (Discipline.asNodes_meets further _).bind fun those _ others => ?_
  have both : ∀ node ∈ these.items ++ those.items, discipline.Sound node := by
    intro node member
    rcases List.mem_append.mp member with inside | inside
    · exact discipline.sound isSet node inside
    · exact discipline.sound others node inside
  exact (Discipline.inOrder_meets suits both).bind fun nodes _ isSet => isSet

mutual

/-- A well-formed expression has a good value, or an allowed fault ends its evaluation, by
induction on expressions, steps and lists of them.
-/
theorem Expr.evaluate_meets
    (serves : discipline.ServedBy library)
    {context : Context} (suits : discipline.Suits context) {start : List Node}
    (sound : ∀ node ∈ start, discipline.Sound node) (expression : Expr)
    (formed : expression.WellFormed library.arityOf)
    : Meets discipline.Allowed discipline.Good (expression.evaluate library context start) := by
  cases expression with
  | path absolute steps =>
      obtain ⟨reaches, formed⟩ := formed
      rw [Expr.evaluate]
      refine (Discipline.startNodes_meets suits absolute sound).bind fun first _ started => ?_
      have follows := Step.follow_meets serves suits started.1 steps formed
      refine follows.bind fun nodes _ followed => ?_
      -- the context nodes themselves may be no set, but a path from them has a step
      exact reaches.elim (fun isAbsolute => followed.2 (.inr (started.2 isAbsolute)))
        (fun some => followed.2 (.inl some))
  | binary operator left right =>
      obtain ⟨known, leftFormed, rightFormed⟩ := formed
      exact Expr.binary_meets known (left.evaluate_meets serves suits sound leftFormed)
        (right.evaluate_meets serves suits sound rightFormed)
  | negate operand =>
      rw [Expr.evaluate]
      exact (operand.evaluate_meets serves suits sound formed).bind fun value _ _ => trivial
  | number | string => exact trivial
  | reference name =>
      rw [Expr.evaluate]
      split
      case h_1 value found => exact suits.values name value found
      case h_2 => exact discipline.unboundVariable name
  | call name list =>
      obtain ⟨accepted, formed⟩ := formed
      obtain ⟨function, found⟩ := Library.findFor_of_checkCall accepted
      simp only [Expr.evaluate, found]
      have arguments :=
        Expr.arguments_meets serves suits sound name function.signature 0 list formed
      exact arguments.bind fun values read good =>
        Discipline.call_meets suits (serves name function (Library.of_findFor found).1) found read
          good
  | union left right =>
      exact Expr.union_meets suits (left.evaluate_meets serves suits sound formed.1)
        (right.evaluate_meets serves suits sound formed.2)
  | filter primary predicates =>
      rw [Expr.evaluate]
      refine (primary.evaluate_meets serves suits sound formed.1).bind fun value _ good => ?_
      refine (Discipline.asNodes_meets good _).bind fun set _ isSet => ?_
      have restricts :=
        Expr.restrict_meets serves suits (discipline.sound isSet) predicates formed.2
      exact restricts.bind fun nodes _ contained => discipline.sublist isSet contained
  | continued first steps =>
      rw [Expr.evaluate]
      refine (first.evaluate_meets serves suits sound formed.1).bind fun value _ good => ?_
      refine (Discipline.asNodes_meets good _).bind fun set _ isSet => ?_
      have follows := Step.follow_meets serves suits (discipline.sound isSet) steps formed.2
      exact follows.bind fun nodes _ followed => followed.2 (.inr isSet)
termination_by sizeOf expression

theorem Expr.arguments_meets
    (serves : discipline.ServedBy library)
    {context : Context} (suits : discipline.Suits context) {start : List Node}
    (sound : ∀ node ∈ start, discipline.Sound node) (name : String) (signature : Signature)
    (index : Nat) (list : List Expr) (formed : Expr.AllWellFormed library.arityOf list)
    : Meets discipline.Allowed (fun values => ∀ value ∈ values, discipline.Good value)
        (Expr.arguments library context start name signature index list) := by
  cases list with
  | nil =>
      rw [Expr.arguments]
      exact fun _ member => absurd member List.not_mem_nil
  | cons argument rest =>
      rw [Expr.arguments]
      refine (argument.evaluate_meets serves suits sound formed.1).bind fun value _ good => ?_
      refine (Discipline.asArgument_meets good _ name index _).bind fun converted _ good => ?_
      have others :=
        Expr.arguments_meets serves suits sound name signature (index + 1) rest formed.2
      exact others.bind fun others _ further => List.forall_mem_cons.mpr ⟨good, further⟩
termination_by sizeOf list

/-- Some of the sound nodes pass well-formed predicates. -/
theorem Expr.restrict_meets
    (serves : discipline.ServedBy library)
    {context : Context} (suits : discipline.Suits context) {nodes : List Node}
    (sound : ∀ node ∈ nodes, discipline.Sound node) (predicates : List Expr)
    (formed : Expr.AllWellFormed library.arityOf predicates)
    : Meets discipline.Allowed (fun kept => kept.Sublist nodes)
        (Expr.restrict library context predicates nodes) := by
  cases predicates with
  | nil =>
      rw [Expr.restrict]
      exact List.Sublist.refl nodes
  | cons predicate rest =>
      rw [Expr.restrict]
      have checks (position : Nat) (node : Node) (member : node ∈ nodes)
          : Meets discipline.Allowed (fun _ => True)
            (predicate.evaluate library (context.focus node position nodes.length) [node] >>=
              fun value => Except.ok (value.acceptsAt position)) := by
        have alone : ∀ other ∈ [node], discipline.Sound other := fun other inside =>
          List.mem_singleton.mp inside ▸ sound node member
        have focused := suits.focus (sound node member) position nodes.length
        exact (predicate.evaluate_meets serves focused alone formed.1).bind fun _ _ _ => trivial
      refine (keepNodes_meets 1 checks).bind fun kept _ contained => ?_
      have others := Expr.restrict_meets serves suits
        (fun node member => sound node (contained.subset member)) rest formed.2
      exact others.imp fun fewer _ further => further.trans contained
termination_by sizeOf predicates

/-- A well-formed step leads from sound nodes to a set. -/
theorem Step.take_meets
    (serves : discipline.ServedBy library)
    {context : Context} (suits : discipline.Suits context) {nodes : List Node}
    (sound : ∀ node ∈ nodes, discipline.Sound node) (step : Step)
    (formed : step.WellFormed library.arityOf)
    : Meets discipline.Allowed discipline.IsSet (step.take library context nodes) := by
  cases step with
  | mk axisName test predicates =>
      obtain ⟨known, testFormed, formed⟩ := formed
      obtain ⟨axis, found⟩ := Option.isSome_iff_exists.mp known
      simp only [Step.take, found]
      show Meets discipline.Allowed discipline.IsSet (match test.undeclared? context with
        | some qualifier => _
        | none => _)
      split
      case h_1 qualifier _ => exact discipline.unboundNamespace qualifier
      case h_2 =>
          have selects (node : Node) (member : node ∈ nodes)
              : Meets discipline.Allowed
                (fun selected => ∀ other ∈ selected, discipline.Sound other)
                (candidates context axis test node >>= fun passing =>
                  Expr.restrict library context predicates passing) := by
            have passes := Discipline.candidates_meets suits axis testFormed (sound node member)
            refine passes.bind fun passing _ passed => ?_
            have restricts := Expr.restrict_meets serves suits passed predicates formed
            exact restricts.imp fun fewer _ contained other inside =>
              passed other (contained.subset inside)
          exact (forEachNode_meets selects).bind fun selected _ sound =>
            Discipline.inOrder_meets suits sound
termination_by sizeOf step

/-- Well-formed steps lead from sound nodes to sound ones, which are a set if there is a
step or the nodes were one before.
-/
theorem Step.follow_meets
    (serves : discipline.ServedBy library)
    {context : Context} (suits : discipline.Suits context) {nodes : List Node}
    (sound : ∀ node ∈ nodes, discipline.Sound node) (steps : List Step)
    (formed : Step.AllWellFormed library.arityOf steps)
    : Meets discipline.Allowed
        (fun reached => (∀ node ∈ reached, discipline.Sound node)
          ∧ (steps ≠ [] ∨ discipline.IsSet nodes → discipline.IsSet reached))
        (Step.follow library context steps nodes) := by
  cases steps with
  | nil =>
      rw [Step.follow]
      exact ⟨sound, fun some => some.elim (absurd rfl) id⟩
  | cons step rest =>
      rw [Step.follow]
      refine (step.take_meets serves suits sound formed.1).bind fun reached _ isSet => ?_
      have follows := Step.follow_meets serves suits (discipline.sound isSet) rest formed.2
      exact follows.imp fun further _ followed => ⟨followed.1, fun _ => followed.2 (.inr isSet)⟩
termination_by sizeOf steps

end

end Expressions

-----------------------------------------------------------------------------------------
-- Queries
-----------------------------------------------------------------------------------------

theorem Context.mem_of_valueOf? {context : Context} {name : String} {value : Value}
    (found : context.valueOf? name = some value)
    : ∃ name, (name, value) ∈ context.values := by
  obtain ⟨entry, looked, rfl⟩ := Option.map_eq_some_iff.mp found
  exact ⟨entry.1, List.mem_of_find?_eq_some looked⟩

/-- A query keeps to a discipline that its context nodes, its variables and the functions
keep to.
-/
theorem Query.evaluateIn_meets {forest : Forest} {stamp : Nat} {library : Library}
    (discipline : Discipline forest stamp) {around : Surroundings} {expression : Expr}
    (formed : expression.WellFormed library.arityOf) (serves : discipline.ServedBy library)
    (some : around.nodes ≠ []) (nodes : ∀ node ∈ around.nodes, discipline.Sound node)
    (values : ∀ name set, (name, Value.nodes set) ∈ around.values → discipline.IsSet set.items)
    : Meets (fun fault => ∃ inner, fault = .evaluation inner ∧ discipline.Allowed inner)
        discipline.Good (evaluateIn library forest stamp around expression) := by
  obtain ⟨start, bindings, entries, options⟩ := around
  cases start with
  | nil => exact absurd rfl some
  | cons node rest =>
      let context : Context :=
        { forest, stamp, node, position := 1, size := 1, bindings, values := entries, options }
      have suits : discipline.Suits context := by
        refine ⟨rfl, rfl, nodes node (by simp), fun name value found => ?_⟩
        obtain ⟨name, member⟩ := Context.mem_of_valueOf? found
        cases value with
        | nodes set => exact values name set member
        | string | number | boolean => trivial
      have meets := expression.evaluate_meets serves suits nodes formed
      rw [evaluateIn]
      dsimp only
      split
      case h_1 value outcome =>
          rw [outcome] at meets
          exact meets
      case h_2 fault outcome =>
          rw [outcome] at meets
          exact ⟨fault, rfl, meets⟩

end PathQuery
