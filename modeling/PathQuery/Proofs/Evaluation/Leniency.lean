import PathQuery.Proofs.Axis.Translation
import PathQuery.Proofs.Function.Correspondence

/-! Evaluations that put up with undeclared namespace qualifiers. They never end for one, and have
the value of an evaluation that refuses them if that has one. Where the namespaces declare all
qualifiers of an expression, both end alike.
-/

namespace PathQuery

-----------------------------------------------------------------------------------------
-- Strict and lenient computations
-----------------------------------------------------------------------------------------

/-- A computation does not end for an undeclared qualifier. -/
def Tolerant {α : Type} (outcome : Except Fault α) : Prop :=
  ∀ qualifier, outcome ≠ .error (.unboundNamespace qualifier)

/-- A lenient computation is tolerant and ends like a strict one, unless that ends for a qualifier
that is missing.
-/
structure Relaxes {α : Type} (Missing : String → Prop) (strict lenient : Except Fault α)
    : Prop where
  agrees : strict = lenient
    ∨ ∃ qualifier, Missing qualifier ∧ strict = .error (.unboundNamespace qualifier)
  tolerant : Tolerant lenient

section Computations

variable {α β : Type} {Missing : String → Prop} {strict lenient : Except Fault α}

theorem Tolerant.ok (value : α) : Tolerant (.ok value) :=
  fun _ same => by cases same

theorem Tolerant.of_exists {outcome : Except Fault α} (succeeds : ∃ value, outcome = .ok value)
    : Tolerant outcome := by
  obtain ⟨value, rfl⟩ := succeeds
  exact .ok value

/-- A tolerant computation that the options do not matter to. -/
theorem Tolerant.relaxes (tolerant : Tolerant lenient) : Relaxes Missing lenient lenient :=
  ⟨.inl rfl, tolerant⟩

theorem Relaxes.ok (value : α) : Relaxes Missing (.ok value) (.ok value) :=
  (Tolerant.ok value).relaxes

/-- What follows a lenient computation relaxes what follows the strict one. -/
theorem Relaxes.bind {next further : α → Except Fault β} (relaxes : Relaxes Missing strict lenient)
    (follows : ∀ value, lenient = .ok value → Relaxes Missing (next value) (further value))
    : Relaxes Missing (strict >>= next) (lenient >>= further) := by
  obtain ⟨agrees, tolerant⟩ := relaxes
  cases lenient with
  | error fault =>
      have passed : Tolerant (Except.error fault >>= further) := fun qualifier same =>
        tolerant qualifier (by cases same; rfl)
      refine ⟨?_, passed⟩
      rcases agrees with rfl | ⟨qualifier, missing, rfl⟩
      · exact .inl rfl
      · exact .inr ⟨qualifier, missing, rfl⟩
  | ok value =>
      refine ⟨?_, (follows value rfl).tolerant⟩
      rcases agrees with rfl | ⟨qualifier, missing, rfl⟩
      · exact (follows value rfl).agrees
      · exact .inr ⟨qualifier, missing, rfl⟩

/-- Checks that relax each other keep nodes that do. -/
theorem keepNodes_relaxes {check further : Nat → Node → Except Fault Bool}
    (checks : ∀ position node, Relaxes Missing (check position node) (further position node))
    (position : Nat) (nodes : List Node)
    : Relaxes Missing (keepNodes check position nodes) (keepNodes further position nodes) := by
  induction nodes generalizing position with
  | nil => exact .ok []
  | cons node rest ih =>
      exact (checks position node).bind fun kept _ => (ih (position + 1)).bind fun others _ => .ok _

theorem forEachNode_relaxes {select further : Node → Except Fault (List Node)}
    (selects : ∀ node, Relaxes Missing (select node) (further node)) (nodes : List Node)
    : Relaxes Missing (forEachNode select nodes) (forEachNode further nodes) := by
  induction nodes with
  | nil => exact .ok []
  | cons node rest ih => exact (selects node).bind fun selected _ => ih.bind fun others _ => .ok _

end Computations

-----------------------------------------------------------------------------------------
-- Parts of evaluation
-----------------------------------------------------------------------------------------

theorem Table.expect_tolerant {α : Type} (table : Table) (key : String) (entry : Option α)
    : Tolerant (table.expect key entry) := by
  cases entry <;> simp [Tolerant, Table.expect]

theorem inOrder_tolerant (context : Context) (nodes : List Node)
    : Tolerant (inOrder context nodes) := by
  unfold inOrder Tolerant
  split <;> simp

theorem startNodes_tolerant (context : Context) (absolute : Bool) (nodes : List Node)
    : Tolerant (startNodes context absolute nodes) := by
  cases absolute with
  | false => exact .ok nodes
  | true => exact inOrder_tolerant context _

theorem candidates_tolerant (context : Context) (axis : Axis) (test : NodeTest) (node : Node)
    : Tolerant (candidates context axis test node) := by
  have holds (node : Node) : Tolerant (test.holds context axis.principal node) := by
    unfold NodeTest.holds NodeTest.passes Tolerant
    repeat' split
    all_goals simp
  unfold candidates
  split
  case h_1 =>
      have keeps (nodes : List Node)
          : Relaxes (fun _ => False)
              (keepNodes (fun _ => test.holds context axis.principal) 1 nodes)
              (keepNodes (fun _ => test.holds context axis.principal) 1 nodes) :=
        keepNodes_relaxes (fun _ node => (holds node).relaxes) 1 nodes
      exact (keeps _).tolerant
  case h_2 => simp [Tolerant]

theorem Value.asNodes_tolerant (value : Value) (wanted : NodesWanted)
    : Tolerant (value.asNodes wanted) := by
  cases value <;> simp [Tolerant, Value.asNodes]

theorem Value.asArgument_tolerant (forest : Forest) (name : String) (index : Nat) (value : Value)
    (declared : Option ArgumentType)
    : Tolerant (value.asArgument forest name index declared) := by
  have meets := value.asArgument_meets forest name index declared
  intro qualifier same
  rw [same] at meets
  obtain ⟨wanted, other⟩ := meets
  cases other

-----------------------------------------------------------------------------------------
-- Qualifiers
-----------------------------------------------------------------------------------------

mutual

/-- The qualifiers of the name tests in an expression. -/
def Expr.qualifiers : Expr → List String
  | .binary _ left right => left.qualifiers ++ right.qualifiers
  | .negate operand => operand.qualifiers
  | .union left right => left.qualifiers ++ right.qualifiers
  | .number _ => []
  | .string _ => []
  | .reference _ => []
  | .call _ list => Expr.qualifiersOfAll list
  | .filter primary predicates => primary.qualifiers ++ Expr.qualifiersOfAll predicates
  | .path _ steps => Step.qualifiersOfAll steps
  | .continued first steps => first.qualifiers ++ Step.qualifiersOfAll steps

/-- The qualifiers of the name tests in some expressions. -/
def Expr.qualifiersOfAll : List Expr → List String
  | [] => []
  | first :: rest => first.qualifiers ++ Expr.qualifiersOfAll rest

/-- The qualifiers of the name test and in the predicates of a step. -/
def Step.qualifiers : Step → List String
  | .mk _ test predicates => test.qualifier?.toList ++ Expr.qualifiersOfAll predicates

/-- The qualifiers of the name tests in some steps. -/
def Step.qualifiersOfAll : List Step → List String
  | [] => []
  | first :: rest => first.qualifiers ++ Step.qualifiersOfAll rest

end

/-- The context with another choice on undeclared qualifiers. -/
def Context.opting (context : Context) (strictNamespaces : Bool) : Context :=
  { context with options := { strictNamespaces } }

/-- All qualifiers of a list that a context does not declare are missing. -/
def Context.Lacks (context : Context) (Missing : String → Prop) (qualifiers : List String) : Prop :=
  ∀ qualifier ∈ qualifiers, context.bindings.contains qualifier = false → Missing qualifier

namespace Context.Lacks

variable {context : Context} {Missing : String → Prop} {qualifiers more : List String}

theorem left (lacks : context.Lacks Missing (qualifiers ++ more))
    : context.Lacks Missing qualifiers :=
  fun qualifier member => lacks qualifier (List.mem_append_left more member)

theorem right (lacks : context.Lacks Missing (qualifiers ++ more)) : context.Lacks Missing more :=
  fun qualifier member => lacks qualifier (List.mem_append_right qualifiers member)

end Context.Lacks

/-- A test is only refused for a qualifier that is missing. -/
theorem NodeTest.undeclared?_opting (test : NodeTest) (context : Context) {Missing : String → Prop}
    (lacks : context.Lacks Missing test.qualifier?.toList)
    : test.undeclared? (context.opting false) = none
      ∧ ∀ qualifier ∈ test.undeclared? (context.opting true), Missing qualifier := by
  refine ⟨rfl, fun qualifier member => ?_⟩
  simp only [undeclared?, Context.opting, if_true, Option.mem_def, Option.filter_eq_some_iff,
    Bool.and_eq_true, Bool.not_eq_true'] at member
  obtain ⟨named, -, undeclared⟩ := member
  exact lacks qualifier (by simp [named]) undeclared

-----------------------------------------------------------------------------------------
-- Functions
-----------------------------------------------------------------------------------------

/-- A function that does not look at the options and is tolerant with arguments that fit it. -/
structure Function.Impartial (function : Function) : Prop where
  call_eq (context : Context) (strictNamespaces : Bool) (arguments : List Value)
    : function.call (context.opting strictNamespaces) arguments = function.call context arguments
  tolerant (context : Context) (arguments : List Value) (fits : function.signature.Fits arguments)
    : Tolerant (function.call context arguments)

/-- All functions of a library are impartial. -/
def Library.Impartial (library : Library) : Prop :=
  ∀ name function, library.find? name = some function → function.Impartial

theorem Library.impartial_core : Library.core.Impartial := by
  intro name function found
  refine ⟨fun context strictNamespaces arguments => ?_, fun context arguments fits => ?_⟩
  · have all : ∀ entry ∈ Library.core.entries,
        entry.2.call (context.opting strictNamespaces) arguments
          = entry.2.call context arguments := by
      simp only [Library.core, List.forall_mem_cons, List.not_mem_nil, false_implies, implies_true,
        and_true]
      exact ⟨rfl, rfl, rfl, rfl, rfl, rfl, rfl, rfl, rfl, rfl, rfl, rfl, rfl, rfl, rfl, rfl, rfl,
        rfl, rfl, rfl, rfl, rfl, rfl, rfl, rfl, rfl, rfl⟩
    exact all _ (Library.mem_of_find? found)
  · exact .of_exists (Library.exists_call_core found context fits)

-----------------------------------------------------------------------------------------
-- Expressions
-----------------------------------------------------------------------------------------

section Expressions

variable {library : Library} {Missing : String → Prop}

/-- An operation on operands that relax each other. -/
theorem Expr.binary_relaxes {context : Context} {start : List Node} (operator : String)
    {left right : Expr}
    (lefts : Relaxes Missing (left.evaluate library (context.opting true) start)
      (left.evaluate library (context.opting false) start))
    (rights : Relaxes Missing (right.evaluate library (context.opting true) start)
      (right.evaluate library (context.opting false) start))
    : Relaxes Missing
        ((Expr.binary operator left right).evaluate library (context.opting true) start)
        ((Expr.binary operator left right).evaluate library (context.opting false) start) := by
  rw [Expr.evaluate, Expr.evaluate]
  split
  case isTrue =>
      refine lefts.bind fun first _ => ?_
      split
      · exact .ok _
      · exact rights.bind fun _ _ => .ok _
  case isFalse =>
  split
  case isTrue =>
      refine lefts.bind fun first _ => ?_
      split
      · exact rights.bind fun _ _ => .ok _
      · exact .ok _
  case isFalse =>
  split
  case isTrue compares =>
      refine lefts.bind fun first _ => rights.bind fun second _ => ?_
      have compared := Tolerant.of_exists
        (Comparison.exists_compare context.forest compares first second)
      exact compared.relaxes.bind fun _ _ => .ok _
  case isFalse =>
      refine (Table.expect_tolerant _ _ _).relaxes.bind fun operation _ => ?_
      exact lefts.bind fun first _ => rights.bind fun second _ => .ok _

mutual

/-- A lenient evaluation of an expression relaxes the strict one, by induction on expressions, steps
and lists of them.
-/
theorem Expr.evaluate_relaxes (impartial : library.Impartial) (context : Context)
    (start : List Node) (expression : Expr) (lacks : context.Lacks Missing expression.qualifiers)
    : Relaxes Missing (expression.evaluate library (context.opting true) start)
        (expression.evaluate library (context.opting false) start) := by
  cases expression with
  | path absolute steps =>
      rw [Expr.evaluate, Expr.evaluate]
      refine (startNodes_tolerant context absolute start).relaxes.bind fun first _ => ?_
      exact (Step.follow_relaxes impartial context steps first lacks).bind fun nodes _ => .ok _
  | binary operator left right =>
      exact Expr.binary_relaxes operator (left.evaluate_relaxes impartial context start lacks.left)
        (right.evaluate_relaxes impartial context start lacks.right)
  | negate operand =>
      rw [Expr.evaluate, Expr.evaluate]
      exact (operand.evaluate_relaxes impartial context start lacks).bind fun value _ => .ok _
  | number value =>
      rw [Expr.evaluate, Expr.evaluate]
      exact .ok _
  | string value =>
      rw [Expr.evaluate, Expr.evaluate]
      exact .ok _
  | reference name =>
      rw [Expr.evaluate, Expr.evaluate]
      refine Tolerant.relaxes ?_
      split <;> simp [Tolerant]
  | call name list =>
      rw [Expr.evaluate, Expr.evaluate]
      cases found : library.findFor name list.length with
      | error fault => exact Tolerant.relaxes fun _ same => by cases same
      | ok function =>
          have known := impartial name function (Library.of_findFor found).1
          refine (Expr.arguments_relaxes impartial context start name function.signature 0 list
            lacks).bind fun values read => ?_
          rw [known.call_eq, known.call_eq]
          exact (known.tolerant context values (Signature.fits_of_arguments found read)).relaxes
  | union left right =>
      rw [Expr.evaluate, Expr.evaluate]
      refine (left.evaluate_relaxes impartial context start lacks.left).bind fun first _ => ?_
      refine (right.evaluate_relaxes impartial context start lacks.right).bind fun second _ => ?_
      refine (first.asNodes_tolerant _).relaxes.bind fun these _ => ?_
      refine (second.asNodes_tolerant _).relaxes.bind fun those _ => ?_
      exact (inOrder_tolerant context _).relaxes.bind fun nodes _ => .ok _
  | filter primary predicates =>
      rw [Expr.evaluate, Expr.evaluate]
      refine (primary.evaluate_relaxes impartial context start lacks.left).bind fun value _ => ?_
      refine (value.asNodes_tolerant _).relaxes.bind fun set _ => ?_
      exact (Expr.restrict_relaxes impartial context predicates set.items lacks.right).bind
        fun nodes _ => .ok _
  | continued first steps =>
      rw [Expr.evaluate, Expr.evaluate]
      refine (first.evaluate_relaxes impartial context start lacks.left).bind fun value _ => ?_
      refine (value.asNodes_tolerant _).relaxes.bind fun set _ => ?_
      exact (Step.follow_relaxes impartial context steps set.items lacks.right).bind
        fun nodes _ => .ok _
termination_by sizeOf expression

theorem Expr.arguments_relaxes (impartial : library.Impartial) (context : Context)
    (start : List Node) (name : String) (signature : Signature) (index : Nat) (list : List Expr)
    (lacks : context.Lacks Missing (Expr.qualifiersOfAll list))
    : Relaxes Missing
        (Expr.arguments library (context.opting true) start name signature index list)
        (Expr.arguments library (context.opting false) start name signature index list) := by
  cases list with
  | nil =>
      rw [Expr.arguments, Expr.arguments]
      exact .ok []
  | cons argument rest =>
      rw [Expr.arguments, Expr.arguments]
      refine (argument.evaluate_relaxes impartial context start lacks.left).bind fun value _ => ?_
      refine (value.asArgument_tolerant context.forest name index _).relaxes.bind
        fun converted _ => ?_
      exact (Expr.arguments_relaxes impartial context start name signature (index + 1) rest
        lacks.right).bind fun others _ => .ok _
termination_by sizeOf list

theorem Expr.restrict_relaxes (impartial : library.Impartial) (context : Context)
    (predicates : List Expr) (nodes : List Node)
    (lacks : context.Lacks Missing (Expr.qualifiersOfAll predicates))
    : Relaxes Missing (Expr.restrict library (context.opting true) predicates nodes)
        (Expr.restrict library (context.opting false) predicates nodes) := by
  cases predicates with
  | nil =>
      rw [Expr.restrict, Expr.restrict]
      exact .ok nodes
  | cons predicate rest =>
      rw [Expr.restrict, Expr.restrict]
      refine (keepNodes_relaxes (fun position node => ?_) 1 nodes).bind fun kept _ =>
        Expr.restrict_relaxes impartial context rest kept lacks.right
      exact (predicate.evaluate_relaxes impartial (context.focus node position nodes.length) [node]
        lacks.left).bind fun value _ => .ok _
termination_by sizeOf predicates

theorem Step.take_relaxes (impartial : library.Impartial) (context : Context) (step : Step)
    (nodes : List Node) (lacks : context.Lacks Missing step.qualifiers)
    : Relaxes Missing (step.take library (context.opting true) nodes)
        (step.take library (context.opting false) nodes) := by
  cases step with
  | mk axisName test predicates =>
      obtain ⟨admitted, refused⟩ := test.undeclared?_opting context lacks.left
      rw [Step.take, Step.take, admitted]
      refine (Table.expect_tolerant _ _ _).relaxes.bind fun axis _ => ?_
      have selects : Relaxes Missing
          (forEachNode (fun node => do
            let passing ← candidates context axis test node
            Expr.restrict library (context.opting true) predicates passing) nodes)
          (forEachNode (fun node => do
            let passing ← candidates context axis test node
            Expr.restrict library (context.opting false) predicates passing) nodes) :=
        forEachNode_relaxes (fun node => (candidates_tolerant context axis test node).relaxes.bind
          fun passing _ => Expr.restrict_relaxes impartial context predicates passing lacks.right)
          nodes
      have whole := selects.bind fun selected _ => (inOrder_tolerant context selected).relaxes
      cases undeclared : test.undeclared? (context.opting true) with
      | none => exact whole
      | some qualifier =>
          exact ⟨.inr ⟨qualifier, refused qualifier undeclared, rfl⟩, whole.tolerant⟩
termination_by sizeOf step

theorem Step.follow_relaxes (impartial : library.Impartial) (context : Context) (steps : List Step)
    (nodes : List Node) (lacks : context.Lacks Missing (Step.qualifiersOfAll steps))
    : Relaxes Missing (Step.follow library (context.opting true) steps nodes)
        (Step.follow library (context.opting false) steps nodes) := by
  cases steps with
  | nil =>
      rw [Step.follow, Step.follow]
      exact .ok nodes
  | cons step rest =>
      rw [Step.follow, Step.follow]
      exact (step.take_relaxes impartial context nodes lacks.left).bind fun reached _ =>
        Step.follow_relaxes impartial context rest reached lacks.right
termination_by sizeOf steps

end

end Expressions

-----------------------------------------------------------------------------------------
-- Queries
-----------------------------------------------------------------------------------------

/-- A value, where the origins that one evaluation has made give way to those of another one. -/
def Value.renewed (stamp further : Nat) : Value → Value :=
  Value.translated fun node => ⟨node.tree, node.place.renewed stamp further⟩

namespace Query

/-- The surroundings with another choice on undeclared qualifiers. -/
def Surroundings.opting (around : Surroundings) (strictNamespaces : Bool) : Surroundings :=
  { around with options := { strictNamespaces } }

variable {forest : Forest} {around : Surroundings}

/-- Queries relax each other like the evaluations of their expressions. -/
theorem evaluateIn_relaxes (forest : Forest) (stamp : Nat) (around : Surroundings)
    (expression : Expr)
    : (evaluateIn Library.core forest stamp (around.opting true) expression
        = evaluateIn Library.core forest stamp (around.opting false) expression
      ∨ ∃ qualifier ∈ expression.qualifiers, around.bindings.contains qualifier = false
        ∧ evaluateIn Library.core forest stamp (around.opting true) expression
          = .error (.evaluation (.unboundNamespace qualifier)))
      ∧ ∀ qualifier, evaluateIn Library.core forest stamp (around.opting false) expression
          ≠ .error (.evaluation (.unboundNamespace qualifier)) := by
  cases start : around.nodes with
  | nil => simp [evaluateIn, Surroundings.opting, start]
  | cons node rest =>
      let context := around.contextAt forest stamp node
      have lacks : context.Lacks
          (fun qualifier =>
            qualifier ∈ expression.qualifiers ∧ around.bindings.contains qualifier = false)
          expression.qualifiers :=
        fun _ named undeclared => ⟨named, undeclared⟩
      have relaxes :=
        expression.evaluate_relaxes Library.impartial_core context around.nodes lacks
      have reads (strictNamespaces : Bool)
          : evaluateIn Library.core forest stamp (around.opting strictNamespaces) expression
            = (expression.evaluate Library.core (context.opting strictNamespaces)
                around.nodes).mapError .evaluation :=
        evaluateIn_cons start
      rw [reads, reads]
      refine ⟨?_, fun qualifier same => ?_⟩
      · rcases relaxes.agrees with same | ⟨qualifier, ⟨named, undeclared⟩, refused⟩
        · exact .inl (by rw [same])
        · exact .inr ⟨qualifier, named, undeclared, by rw [refused]; rfl⟩
      · cases outcome : expression.evaluate Library.core (context.opting false) around.nodes with
        | ok value =>
            rw [outcome] at same
            cases same
        | error fault =>
            rw [outcome] at same
            cases same
            exact relaxes.tolerant qualifier outcome

/-- An evaluation that is new to the nodes that a query and its expression name ends like another
one, origins apart.
-/
theorem evaluateIn_renewed_of_names (around : Surroundings) {older : Nat → Prop}
    (nodes : ∀ node ∈ around.nodes, forest.HasAmong older node) {expression : Expr}
    (values : ∀ name ∈ expression.names, ∀ set, around.valueOf? name = some (.nodes set) →
      ∀ node ∈ set.items, forest.HasAmong older node)
    {stamp further : Nat} (new : ¬ older stamp) (also : ¬ older further)
    : evaluateIn Library.core forest further around expression
      = (evaluateIn Library.core forest stamp around expression).map
        (Value.renewed stamp further) := by
  have stays {node : Node} (among : forest.HasAmong older node)
      : forest.Renewed stamp further node node := Forest.renewed_of_older among new also
  have paired : List.Forall₂ (forest.Renewed stamp further) around.nodes around.nodes :=
    List.forall₂_same.mpr fun node member => stays (nodes node member)
  have agree (name : String) (named : name ∈ expression.names)
      : Option.Rel (Value.Related (forest.Renewed stamp further)) (around.valueOf? name)
        (around.valueOf? name) := by
    cases bound : around.valueOf? name with
    | none => exact .none
    | some value =>
        exact .some (Value.related_self fun set same node inside =>
          stays (values name named set (same ▸ bound) node inside))
  have alike : Alike (Value.Related (forest.Renewed stamp further))
      (evaluateIn Library.core forest stamp around expression)
      (evaluateIn Library.core forest further around expression) :=
    evaluateIn_alike Library.respects_core (forest.correspondence_renewed stamp further) paired rfl
      rfl agree
  exact alike.eq_map fun value other related => related.eq_translated fun node peer same => same.2

/-- An evaluation that is new to the nodes of a query ends like another one, origins apart. -/
theorem evaluateIn_renewed (around : Surroundings) {older : Nat → Prop}
    (nodes : ∀ node ∈ around.nodes, forest.HasAmong older node)
    (values : ∀ name set, (name, Value.nodes set) ∈ around.values →
      ∀ node ∈ set.items, forest.HasAmong older node)
    {stamp further : Nat} (new : ¬ older stamp) (also : ¬ older further) (expression : Expr)
    : evaluateIn Library.core forest further around expression
      = (evaluateIn Library.core forest stamp around expression).map
        (Value.renewed stamp further) := by
  refine evaluateIn_renewed_of_names around nodes (fun name _ set bound => ?_) new also
  obtain ⟨name, member⟩ := Surroundings.mem_of_valueOf? bound
  exact values name set member

/-- Putting up with undeclared qualifiers is conservative. A value of the strict evaluation is that
of the lenient one, apart from the origins that each of them makes; both end alike where all
qualifiers are declared; and the lenient one never ends for a qualifier.
-/
theorem evaluateIn_lenient {older : Nat → Prop}
    (nodes : ∀ node ∈ around.nodes, forest.HasAmong older node)
    (values : ∀ name set, (name, Value.nodes set) ∈ around.values →
      ∀ node ∈ set.items, forest.HasAmong older node)
    {stamp further : Nat} (new : ¬ older stamp) (also : ¬ older further) (expression : Expr)
    : (∀ value, evaluateIn Library.core forest stamp (around.opting true) expression = .ok value →
        evaluateIn Library.core forest further (around.opting false) expression
          = .ok (value.renewed stamp further))
      ∧ ((∀ qualifier ∈ expression.qualifiers, around.bindings.contains qualifier) →
        evaluateIn Library.core forest further (around.opting false) expression
          = (evaluateIn Library.core forest stamp (around.opting true) expression).map
            (Value.renewed stamp further))
      ∧ ∀ qualifier, evaluateIn Library.core forest further (around.opting false) expression
          ≠ .error (.evaluation (.unboundNamespace qualifier)) := by
  have renewed := evaluateIn_renewed (around.opting false) nodes values new also expression
  obtain ⟨agrees, -⟩ := evaluateIn_relaxes forest stamp around expression
  refine ⟨fun value given => ?_, fun declared => ?_,
    (evaluateIn_relaxes forest further around expression).2⟩
  · rcases agrees with same | ⟨qualifier, -, -, refused⟩
    · rw [renewed, ← same, given]
      rfl
    · rw [given] at refused
      cases refused
  · rcases agrees with same | ⟨qualifier, named, undeclared, -⟩
    · rw [renewed, same]
    · rw [declared qualifier named] at undeclared
      cases undeclared

/-- The way up from a comment, where no predicate comes to the qualifier that is not declared. -/
def wayUp : Expr :=
  .path false [.mk "ancestor-or-self" (.nodeType "node")
    [.binary "or" (.call "true" []) (.path false [.mk "child" (.name (some "p") "a") []])]]

/-- The attributes of a fixed namespace that a variable has. -/
def attributesOfVariable : Expr :=
  .continued (.reference "x") [.mk "attribute" (.anyName (some "xml")) []]

/-- A set with the origin of its evaluation, and a fault that both evaluations have. -/
theorem evaluateIn_lenient_small
    : (∀ node ∈ [⟨0, .inner [1]⟩], Forest.small.HasAmong (· = 3) node)
      ∧ evaluateIn Library.core .small 8
          { nodes := [⟨0, .inner [1]⟩], bindings := .initial, values := [], options := ⟨false⟩ }
          wayUp
        = .ok (.nodes ⟨[⟨0, .origin 8⟩, ⟨0, .inner []⟩, ⟨0, .inner [1]⟩]⟩)
      ∧ evaluateIn Library.core .small 8
          { nodes := [⟨0, .inner [1]⟩], bindings := .initial, values := [], options := ⟨false⟩ }
          attributesOfVariable
        = .error (.evaluation (.unboundVariable "x")) := by
  have nodes : ∀ node ∈ [⟨0, .inner [1]⟩], Forest.small.HasAmong (· = 3) node := by
    intro node member
    cases List.mem_singleton.mp member
    exact ⟨_, rfl, Top.hasAmong_of_has rfl (by simp) rfl⟩
  let around : Surroundings :=
    { nodes := [⟨0, .inner [1]⟩], bindings := .initial, values := [], options := .standard }
  have values : ∀ name set, (name, Value.nodes set) ∈ around.values →
      ∀ node ∈ set.items, Forest.small.HasAmong (· = 3) node := by simp [around]
  have lenient (expression : Expr) :=
    @evaluateIn_lenient .small around (· = 3) nodes values 7 8 (by decide) (by decide) expression
  have value : evaluateIn Library.core .small 7 (around.opting true) wayUp
      = .ok (.nodes ⟨[⟨0, .origin 7⟩, ⟨0, .inner []⟩, ⟨0, .inner [1]⟩]⟩) := by cbv
  have fault : evaluateIn Library.core .small 7 (around.opting true) attributesOfVariable
      = .error (.evaluation (.unboundVariable "x")) := by cbv
  refine ⟨nodes, (lenient wayUp).1 _ value, ?_⟩
  have agrees := (lenient attributesOfVariable).2.1 (by decide)
  rwa [fault] at agrees

end Query

end PathQuery
