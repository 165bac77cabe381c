import PathQuery.Proofs.Evaluation.Discipline

/-! Axes that are missing. Only those after and before a lone attribute or namespace binding are, so
that an evaluation does not miss an axis unless the expression has a step on one of these, or a
function misses one.
-/

namespace PathQuery

-----------------------------------------------------------------------------------------
-- Axes that may be missing
-----------------------------------------------------------------------------------------

/-- An axis that leads to what lies after or before a node. -/
def Axis.LeadsAround (axis : Axis) : Prop :=
  axis = .following ∨ axis = .preceding

namespace Forest

/-- A node that is an attribute or a namespace binding without element. -/
def IsLone (forest : Forest) (node : Node) : Prop :=
  ∃ top, forest[node.tree]? = some top ∧ top.isLone ∧ node.place = .inner []

variable {forest : Forest} {stamp : Nat} {axis : Axis} {node : Node}

/-- Only the axes around a lone node are missing. -/
theorem lone_of_onAxis?_eq_none (missing : forest.onAxis? stamp axis node = none)
    : axis.LeadsAround ∧ forest.IsLone node := by
  obtain ⟨tree, place⟩ := node
  simp only [onAxis?] at missing
  split at missing
  case h_2 => cases missing
  case h_1 top found =>
      replace missing := Option.map_eq_none_iff.mp missing
      have lone {path : List Nat} (barred : path.isEmpty && top.isLone)
          : forest.IsLone ⟨tree, .inner path⟩ := by
        rw [Bool.and_eq_true, List.isEmpty_iff] at barred
        exact ⟨top, found, barred.2, by rw [barred.1]⟩
      cases axis with
      | following =>
          cases place with
          | inner path => exact ⟨.inl rfl, lone (by simpa [Top.onAxis?, Top.following?] using missing)⟩
          | origin | attributeAt | bindingAt => cases missing
      | preceding =>
          cases place with
          | inner path => exact ⟨.inr rfl, lone (by simpa [Top.onAxis?, Top.preceding?] using missing)⟩
          | origin | attributeAt | bindingAt => cases missing
      | ancestor | ancestorOrSelf | attributeAxis | child | descendant | descendantOrSelf
      | followingSibling | namespaceAxis | parent | precedingSibling | self => cases missing

end Forest

-----------------------------------------------------------------------------------------
-- Axes of expressions
-----------------------------------------------------------------------------------------

mutual

/-- The axes of all steps in an expression. -/
def Expr.axes : Expr → List Axis
  | .binary _ left right => left.axes ++ right.axes
  | .negate operand => operand.axes
  | .union left right => left.axes ++ right.axes
  | .number _ => []
  | .string _ => []
  | .reference _ => []
  | .call _ list => Expr.axesOfAll list
  | .filter primary predicates => primary.axes ++ Expr.axesOfAll predicates
  | .path _ steps => Step.axesOfAll steps
  | .continued first steps => first.axes ++ Step.axesOfAll steps

/-- The axes of all steps in some expressions. -/
def Expr.axesOfAll : List Expr → List Axis
  | [] => []
  | first :: rest => first.axes ++ Expr.axesOfAll rest

/-- The axis of a step and those in its predicates. -/
def Step.axes : Step → List Axis
  | .mk axisName _ predicates => (Axis.ofName? axisName).toList ++ Expr.axesOfAll predicates

/-- The axes of some steps and those in their predicates. -/
def Step.axesOfAll : List Step → List Axis
  | [] => []
  | first :: rest => first.axes ++ Step.axesOfAll rest

end

/-- There is a reason for a missing axis. -/
def Fault.Excused (Reason : Prop) (fault : Fault) : Prop :=
  fault = .loneNode → Reason

/-- There is a reason if one of some axes leads around. -/
def Explained (Reason : Prop) (axes : List Axis) : Prop :=
  ∀ axis ∈ axes, axis.LeadsAround → Reason

namespace Explained

variable {Reason : Prop} {axes more : List Axis}

theorem left (explained : Explained Reason (axes ++ more)) : Explained Reason axes :=
  fun axis member => explained axis (List.mem_append_left more member)

theorem right (explained : Explained Reason (axes ++ more)) : Explained Reason more :=
  fun axis member => explained axis (List.mem_append_right axes member)

end Explained

/-- A computation has a reason for any axis that it misses. -/
abbrev Excused {α : Type} (Reason : Prop) (outcome : Except Fault α) : Prop :=
  Meets (Fault.Excused Reason) (fun _ => True) outcome

section Parts

variable {Reason : Prop} {context : Context}

theorem Table.expect_excused {α : Type} (table : Table) (key : String) (entry : Option α)
    : Excused Reason (table.expect key entry) := by
  cases entry with
  | none => exact fun same => by cases same
  | some => trivial

theorem inOrder_excused (context : Context) (nodes : List Node)
    : Excused Reason (inOrder context nodes) := by
  rw [inOrder]
  split
  · trivial
  · exact fun same => by cases same

theorem startNodes_excused (context : Context) (absolute : Bool) (nodes : List Node)
    : Excused Reason (startNodes context absolute nodes) := by
  cases absolute with
  | false => trivial
  | true => exact inOrder_excused context _

theorem Value.asNodes_excused (value : Value) (wanted : NodesWanted)
    : Excused Reason (value.asNodes wanted) := by
  cases value with
  | nodes set => trivial
  | string | number | boolean => exact fun same => by cases same

theorem Value.asArgument_excused (forest : Forest) (name : String) (index : Nat) (value : Value)
    (declared : Option ArgumentType)
    : Excused Reason (value.asArgument forest name index declared) := by
  have meets := value.asArgument_meets forest name index declared
  cases converted : value.asArgument forest name index declared with
  | ok argument => trivial
  | error fault =>
      rw [converted] at meets
      obtain ⟨wanted, rfl⟩ := meets
      exact fun same => by cases same

theorem NodeTest.holds_excused (test : NodeTest) (context : Context) (principal : Kind) (node : Node)
    : Excused Reason (test.holds context principal node) := by
  rw [holds]
  split
  case h_2 => trivial
  case h_1 view _ =>
      cases test with
      | anyName qualifier => cases qualifier <;> trivial
      | name | instruction => trivial
      | nodeType typeName =>
          rw [passes]
          split_ifs
          · trivial
          · trivial
          · trivial
          · exact fun same => by cases same

/-- A missing axis leads around. -/
theorem candidates_excused (context : Context) {axis : Axis} (explained : axis.LeadsAround → Reason)
    (test : NodeTest) (node : Node)
    : Excused Reason (candidates context axis test node) := by
  rw [candidates]
  split
  case h_1 nodes _ =>
      exact (keepNodes_meets 1 fun position node _ =>
        test.holds_excused context axis.principal node).imp fun _ _ _ => trivial
  case h_2 missing => exact fun _ => explained (Forest.lone_of_onAxis?_eq_none missing).1

end Parts

section Expressions

variable {Reason : Prop} {library : Library} {forest : Forest} {context : Context}

/-- Calls in a library have a reason for any axis that they miss. -/
def Library.Explains (library : Library) (forest : Forest) (Reason : Prop) : Prop :=
  ∀ name function, library.find? name = some function → ∀ context arguments,
    context.forest = forest → function.signature.Fits arguments →
    Excused Reason (function.call context arguments)

theorem Expr.binary_excused {start : List Node} (operator : String) {left right : Expr}
    (lefts : Excused Reason (left.evaluate library context start))
    (rights : Excused Reason (right.evaluate library context start))
    : Excused Reason ((Expr.binary operator left right).evaluate library context start) := by
  rw [Expr.evaluate]
  split
  case isTrue =>
      refine lefts.bind fun first _ _ => ?_
      split
      · trivial
      · exact rights.bind fun _ _ _ => trivial
  case isFalse =>
  split
  case isTrue =>
      refine lefts.bind fun first _ _ => ?_
      split
      · exact rights.bind fun _ _ _ => trivial
      · trivial
  case isFalse =>
  split
  case isTrue compares =>
      refine lefts.bind fun first _ _ => rights.bind fun second _ _ => ?_
      obtain ⟨outcome, compared⟩ := Comparison.exists_compare context.forest compares first second
      rw [compared]
      trivial
  case isFalse =>
      refine (Table.expect_excused _ _ _).bind fun operation _ _ => ?_
      exact lefts.bind fun first _ _ => rights.bind fun second _ _ => trivial

mutual

/-- An evaluation only misses axes that the expression has, unless a function does, by induction on
expressions, steps and lists of them.
-/
theorem Expr.evaluate_excused (explains : library.Explains forest Reason)
    {context : Context} (same : context.forest = forest) (start : List Node) (expression : Expr)
    (explained : Explained Reason expression.axes)
    : Excused Reason (expression.evaluate library context start) := by
  cases expression with
  | path absolute steps =>
      rw [Expr.evaluate]
      refine (startNodes_excused context absolute start).bind fun first _ _ => ?_
      exact (Step.follow_excused explains same steps first explained).bind fun _ _ _ => trivial
  | binary operator left right =>
      exact Expr.binary_excused operator
        (left.evaluate_excused explains same start explained.left)
        (right.evaluate_excused explains same start explained.right)
  | negate operand =>
      rw [Expr.evaluate]
      exact (operand.evaluate_excused explains same start explained).bind fun _ _ _ => trivial
  | number | string => trivial
  | reference name =>
      rw [Expr.evaluate]
      split
      · trivial
      · exact fun same => by cases same
  | call name list =>
      rw [Expr.evaluate]
      split
      case h_1 => exact fun same => by cases same
      case h_2 function found =>
          refine (Expr.arguments_excused explains same start name function.signature 0 list
            explained).bind fun values read _ => ?_
          exact explains name function (Library.of_findFor found).1 context values same
            (Signature.fits_of_arguments found read)
  | union left right =>
      rw [Expr.evaluate]
      refine (left.evaluate_excused explains same start explained.left).bind fun first _ _ => ?_
      refine (right.evaluate_excused explains same start explained.right).bind fun second _ _ => ?_
      refine (first.asNodes_excused _).bind fun these _ _ => ?_
      refine (second.asNodes_excused _).bind fun those _ _ => ?_
      exact (inOrder_excused context _).bind fun _ _ _ => trivial
  | filter primary predicates =>
      rw [Expr.evaluate]
      refine (primary.evaluate_excused explains same start explained.left).bind fun value _ _ => ?_
      refine (value.asNodes_excused _).bind fun set _ _ => ?_
      exact (Expr.restrict_excused explains same predicates set.items explained.right).bind
        fun _ _ _ => trivial
  | continued first steps =>
      rw [Expr.evaluate]
      refine (first.evaluate_excused explains same start explained.left).bind fun value _ _ => ?_
      refine (value.asNodes_excused _).bind fun set _ _ => ?_
      exact (Step.follow_excused explains same steps set.items explained.right).bind
        fun _ _ _ => trivial
termination_by sizeOf expression

theorem Expr.arguments_excused (explains : library.Explains forest Reason)
    {context : Context} (same : context.forest = forest) (start : List Node) (name : String)
    (signature : Signature) (index : Nat) (list : List Expr)
    (explained : Explained Reason (Expr.axesOfAll list))
    : Excused Reason (Expr.arguments library context start name signature index list) := by
  cases list with
  | nil =>
      rw [Expr.arguments]
      trivial
  | cons argument rest =>
      rw [Expr.arguments]
      refine (argument.evaluate_excused explains same start explained.left).bind fun value _ _ => ?_
      refine (value.asArgument_excused context.forest name index _).bind fun converted _ _ => ?_
      exact (Expr.arguments_excused explains same start name signature (index + 1) rest
        explained.right).bind fun _ _ _ => trivial
termination_by sizeOf list

theorem Expr.restrict_excused (explains : library.Explains forest Reason)
    {context : Context} (same : context.forest = forest) (predicates : List Expr)
    (nodes : List Node) (explained : Explained Reason (Expr.axesOfAll predicates))
    : Excused Reason (Expr.restrict library context predicates nodes) := by
  cases predicates with
  | nil =>
      rw [Expr.restrict]
      trivial
  | cons predicate rest =>
      rw [Expr.restrict]
      refine (keepNodes_meets 1 fun position node _ => ?_).bind fun kept _ _ =>
        Expr.restrict_excused explains same rest kept explained.right
      have focused : (context.focus node position nodes.length).forest = forest := same
      exact (predicate.evaluate_excused explains focused [node] explained.left).bind
        fun _ _ _ => trivial
termination_by sizeOf predicates

theorem Step.take_excused (explains : library.Explains forest Reason)
    {context : Context} (same : context.forest = forest) (step : Step) (nodes : List Node)
    (explained : Explained Reason step.axes)
    : Excused Reason (step.take library context nodes) := by
  cases step with
  | mk axisName test predicates =>
      rw [Step.take]
      cases found : Axis.ofName? axisName with
      | none => exact fun same => by cases same
      | some axis =>
          have around : axis.LeadsAround → Reason := explained axis (by simp [Step.axes, found])
          refine (Table.expect_excused _ _ _).bind fun other known _ => ?_
          cases known
          split
          · exact fun same => by cases same
          · have selects (node : Node) (_ : node ∈ nodes)
                : Meets (Fault.Excused Reason) (fun selected => ∀ other ∈ selected, True)
                  (candidates context axis test node >>= fun passing =>
                    Expr.restrict library context predicates passing) := by
              refine (candidates_excused context around test node).bind fun passing _ _ => ?_
              exact (Expr.restrict_excused explains same predicates passing explained.right).imp
                fun _ _ _ _ _ => trivial
            exact (forEachNode_meets selects).bind fun selected _ _ => inOrder_excused context selected
termination_by sizeOf step

theorem Step.follow_excused (explains : library.Explains forest Reason)
    {context : Context} (same : context.forest = forest) (steps : List Step) (nodes : List Node)
    (explained : Explained Reason (Step.axesOfAll steps))
    : Excused Reason (Step.follow library context steps nodes) := by
  cases steps with
  | nil =>
      rw [Step.follow]
      trivial
  | cons step rest =>
      rw [Step.follow]
      exact (step.take_excused explains same nodes explained.left).bind fun reached _ _ =>
        Step.follow_excused explains same rest reached explained.right
termination_by sizeOf steps

end

end Expressions

end PathQuery
