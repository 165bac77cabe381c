import PathQuery.Proofs.Axis.Composition
import PathQuery.Proofs.Evaluation.LocationPath

/-! Steps without predicates. All that matters for what they end with, be it nodes or a fault, is
which nodes they come to test.
-/

namespace PathQuery

-----------------------------------------------------------------------------------------
-- Checks of nodes
-----------------------------------------------------------------------------------------

/-- A check that does not depend on positions keeps the nodes for which it succeeds. -/
theorem mem_keepNodes {check : Node → Except Fault Bool} {position : Nat} {nodes kept : List Node}
    (keeps : keepNodes (fun _ => check) position nodes = .ok kept)
    : (∀ node ∈ nodes, ∃ truth, check node = .ok truth)
      ∧ ∀ other, other ∈ kept ↔ other ∈ nodes ∧ check other = .ok true := by
  induction nodes generalizing position kept with
  | nil =>
      cases keeps
      simp
  | cons node rest ih =>
      rw [keepNodes] at keeps
      obtain ⟨truth, checked, keeps⟩ := bind_eq_ok.mp keeps
      obtain ⟨others, further, keeps⟩ := bind_eq_ok.mp keeps
      obtain ⟨succeeds, members⟩ := ih further
      refine ⟨List.forall_mem_cons.mpr ⟨⟨truth, checked⟩, succeeds⟩, fun other => ?_⟩
      cases keeps
      cases truth with
      | true =>
          rw [if_pos rfl, List.mem_cons, List.mem_cons, members, or_and_right]
          exact or_congr_left ⟨fun same => ⟨same, same ▸ checked⟩, And.left⟩
      | false =>
          rw [if_neg Bool.false_ne_true, members, List.mem_cons]
          refine ⟨fun both => ⟨.inr both.1, both.2⟩, ?_⟩
          rintro ⟨rfl | member, holds⟩
          · cases checked.symm.trans holds
          · exact ⟨member, holds⟩

theorem exists_of_keepNodes_error {check : Node → Except Fault Bool} {position : Nat}
    {nodes : List Node} {fault : Fault}
    (fails : keepNodes (fun _ => check) position nodes = .error fault)
    : ∃ node ∈ nodes, check node = .error fault := by
  induction nodes generalizing position with
  | nil => cases fails
  | cons node rest ih =>
      rw [keepNodes] at fails
      rcases bind_eq_error.mp fails with here | ⟨truth, -, fails⟩
      · exact ⟨node, List.mem_cons_self, here⟩
      · rcases bind_eq_error.mp fails with later | ⟨others, -, fails⟩
        · obtain ⟨found, member, failing⟩ := ih later
          exact ⟨found, List.mem_cons_of_mem _ member, failing⟩
        · cases fails

theorem exists_of_forEachNode_error {select : Node → Except Fault (List Node)}
    {nodes : List Node} {fault : Fault} (fails : forEachNode select nodes = .error fault)
    : ∃ node ∈ nodes, select node = .error fault := by
  induction nodes with
  | nil => cases fails
  | cons node rest ih =>
      rw [forEachNode] at fails
      rcases bind_eq_error.mp fails with here | ⟨selected, -, fails⟩
      · exact ⟨node, List.mem_cons_self, here⟩
      · rcases bind_eq_error.mp fails with later | ⟨others, -, fails⟩
        · obtain ⟨found, member, failing⟩ := ih later
          exact ⟨found, List.mem_cons_of_mem _ member, failing⟩
        · cases fails

/-- Checks of lists of nodes for one node after the other keep what they keep of all lists. -/
theorem mem_forEachNode_keepNodes {select : Node → Except Fault (List Node)}
    {check : Node → Except Fault Bool} {others : Node → List Node} {nodes all : List Node}
    (checks : ∀ node ∈ nodes, select node = keepNodes (fun _ => check) 1 (others node))
    (selects : forEachNode select nodes = .ok all)
    : (∀ other, (∃ node ∈ nodes, other ∈ others node) → ∃ truth, check other = .ok truth)
      ∧ ∀ other, other ∈ all ↔ (∃ node ∈ nodes, other ∈ others node) ∧ check other = .ok true := by
  obtain ⟨succeeds, members⟩ := mem_forEachNode selects
  refine ⟨?_, fun other => ?_⟩
  · rintro other ⟨node, member, inside⟩
    obtain ⟨kept, keeps⟩ := succeeds node member
    exact (mem_keepNodes (checks node member ▸ keeps)).1 other inside
  · rw [members]
    constructor
    · rintro ⟨node, member, kept, keeps, inside⟩
      obtain ⟨isOther, holds⟩ := ((mem_keepNodes (checks node member ▸ keeps)).2 other).mp inside
      exact ⟨⟨node, member, isOther⟩, holds⟩
    · rintro ⟨⟨node, member, isOther⟩, holds⟩
      obtain ⟨kept, keeps⟩ := succeeds node member
      exact ⟨node, member, kept, keeps,
        ((mem_keepNodes (checks node member ▸ keeps)).2 other).mpr ⟨isOther, holds⟩⟩

namespace NodeTest

variable {context : Context} {test : NodeTest} {node : Node} {fault : Fault}

/-- The test for nodes of any kind. -/
def anyNode : NodeTest :=
  .nodeType "node"

/-- The only fault of a test is that of a type of nodes that there is not. -/
theorem eq_unintended_of_holds {principal : Kind}
    (fails : test.holds context principal node = .error fault)
    : fault = .unintended := by
  rw [holds] at fails
  split at fails
  case h_1 =>
      cases test with
      | anyName qualifier => cases qualifier <;> cases fails
      | name | instruction => cases fails
      | nodeType typeName =>
          rw [passes] at fails
          repeat' split at fails
          all_goals cases fails
          rfl
  case h_2 => cases fails

theorem holds_anyNode {principal : Kind} (present : context.forest.Has node)
    : anyNode.holds context principal node = .ok true := by
  obtain ⟨view, found⟩ := Option.isSome_iff_exists.mp present
  rw [holds, found]
  rfl

/-- What an evaluation ends with that comes to test some nodes: those of them that pass the test,
in document order, unless the test names an undeclared qualifier or fails for one of them.
-/
def Selects (test : NodeTest) (context : Context) (stamps : Nat → Prop) (Candidate : Node → Prop)
    : Except Fault (List Node) → Prop
  | .ok nodes =>
      test.undeclared? context = none ∧ context.forest.IsSet stamps nodes
        ∧ (∀ node, Candidate node → ∃ truth, test.holds context .element node = .ok truth)
        ∧ ∀ node, node ∈ nodes ↔ Candidate node ∧ test.holds context .element node = .ok true
  | .error fault =>
      (∃ qualifier, test.undeclared? context = some qualifier ∧ fault = .unboundNamespace qualifier)
        ∨ test.undeclared? context = none ∧ fault = .unintended
          ∧ ∃ node, Candidate node ∧ test.holds context .element node = .error .unintended

/-- Outcomes that select from the same nodes are the same fault or the same set of nodes. -/
theorem Selects.alike {stamps : Nat → Prop} {Candidate : Node → Prop}
    {first second : Except Fault (List Node)} (selects : test.Selects context stamps Candidate first)
    (also : test.Selects context stamps Candidate second)
    : Alike (fun nodes others => context.forest.IsSet stamps nodes
          ∧ context.forest.IsSet stamps others ∧ ∀ node, node ∈ nodes ↔ node ∈ others)
        first second := by
  cases first with
  | ok nodes =>
      obtain ⟨declared, isSet, succeeds, members⟩ := selects
      cases second with
      | ok others =>
          obtain ⟨-, isSetToo, -, membersToo⟩ := also
          exact ⟨isSet, isSetToo, fun node => by rw [members, membersToo]⟩
      | error fault =>
          rcases also with ⟨qualifier, undeclared, -⟩ | ⟨-, -, node, candidate, fails⟩
          · cases declared.symm.trans undeclared
          · obtain ⟨truth, holds⟩ := succeeds node candidate
            cases holds.symm.trans fails
  | error fault =>
      rcases selects with ⟨qualifier, undeclared, rfl⟩ | ⟨declared, rfl, node, candidate, fails⟩
      · cases second with
        | ok others => cases also.1.symm.trans undeclared
        | error other =>
            rcases also with ⟨another, same, rfl⟩ | ⟨declared, -⟩
            · cases undeclared.symm.trans same
              rfl
            · cases declared.symm.trans undeclared
      · cases second with
        | ok others =>
            obtain ⟨truth, holds⟩ := also.2.2.1 node candidate
            cases holds.symm.trans fails
        | error other =>
            rcases also with ⟨another, undeclared, -⟩ | ⟨-, rfl, -⟩
            · cases declared.symm.trans undeclared
            · rfl

theorem Selects.congr {stamps : Nat → Prop} {Candidate Other : Node → Prop}
    {outcome : Except Fault (List Node)} (selects : test.Selects context stamps Candidate outcome)
    (same : ∀ node, Candidate node ↔ Other node)
    : test.Selects context stamps Other outcome := by
  rwa [← (funext fun node => propext (same node) : Candidate = Other)]

/-- Of nodes that are there, the test for nodes of any kind selects all. -/
theorem Selects.exists_anyNode {stamps : Nat → Prop} {Candidate : Node → Prop}
    {outcome : Except Fault (List Node)} (selects : anyNode.Selects context stamps Candidate outcome)
    (there : ∀ node, Candidate node → context.forest.Has node)
    : ∃ nodes, outcome = .ok nodes ∧ context.forest.IsSet stamps nodes
      ∧ ∀ node, node ∈ nodes ↔ Candidate node := by
  cases outcome with
  | error fault =>
      rcases selects with ⟨qualifier, undeclared, -⟩ | ⟨-, -, other, candidate, fails⟩
      · rw [NodeTest.undeclared?] at undeclared
        split at undeclared <;> cases undeclared
      · cases (holds_anyNode (there other candidate)).symm.trans fails
  | ok nodes =>
      obtain ⟨-, isSet, -, members⟩ := selects
      exact ⟨nodes, rfl, isSet, fun other => (members other).trans
        ⟨And.left, fun candidate => ⟨candidate, holds_anyNode (there other candidate)⟩⟩⟩

end NodeTest

-----------------------------------------------------------------------------------------
-- One step
-----------------------------------------------------------------------------------------

theorem Axis.ofName?_name (axis : Axis) : ofName? axis.name = some axis := by
  cases axis <;> rfl

theorem Context.startOf_proper {context : Context} {node : Node} (absolute : Bool)
    (proper : context.forest.HasProper node)
    : context.forest.HasProper (context.startOf absolute node) := by
  rw [startOf]
  split
  · exact proper.rootOf context.stamp
  · exact proper

namespace Step

variable {library : Library} {context : Context} {stamps : Nat → Prop} {test : NodeTest}
  {nodes reached : List Node}

/-- The step on an axis that has no predicates. -/
def on (axis : Axis) (test : NodeTest) : Step :=
  .mk axis.name test []

theorem take_on (library : Library) (context : Context) (axis : Axis) (test : NodeTest)
    (nodes : List Node)
    : (on axis test).take library context nodes
      = match test.undeclared? context with
        | some qualifier => .error (.unboundNamespace qualifier)
        | none => forEachNode (candidates context axis test) nodes >>= inOrder context := by
  have noPredicates
      : (fun node => candidates context axis test node >>= Expr.restrict library context [])
        = candidates context axis test := by
    funext node
    cases candidates context axis test node with
    | error fault => rfl
    | ok passing => exact Expr.restrict.eq_1 library context passing
  rw [on, take, Axis.ofName?_name, ← noPredicates]
  rfl

/-- A step comes to test what is on its axis from one of the nodes. -/
theorem take_selects (library : Library) (test : NodeTest) {axis : Axis}
    (principal : axis.principal = .element)
    (known : stamps context.stamp)
    (proper : ∀ node ∈ nodes, context.forest.HasProper node ∧ context.forest.HasAmong stamps node)
    : test.Selects context stamps
        (fun other => ∃ node ∈ nodes, context.forest.OnAxis context.stamp axis node other)
        ((on axis test).take library context nodes) := by
  let others (node : Node) : List Node := (context.forest.onAxis? context.stamp axis node).getD []
  have given (node : Node) (member : node ∈ nodes)
      : context.forest.onAxis? context.stamp axis node = some (others node) := by
    obtain ⟨onAxis, found⟩ := (proper node member).1.exists_onAxis context.stamp axis
    simp [others, found]
  have candidates_eq (other : Node)
      : (∃ node ∈ nodes, context.forest.OnAxis context.stamp axis node other)
        ↔ ∃ node ∈ nodes, other ∈ others node :=
    exists_congr fun node => and_congr_right fun member => by simp [Forest.OnAxis, given node member]
  have checks : ∀ node ∈ nodes, candidates context axis test node
      = keepNodes (fun _ => test.holds context .element) 1 (others node) := by
    intro node member
    rw [candidates, Context.onAxis?, given node member, principal]
  refine NodeTest.Selects.congr ?_ fun other => (candidates_eq other).symm
  rw [take_on]
  cases declared : test.undeclared? context with
  | some qualifier => exact .inl ⟨qualifier, declared, rfl⟩
  | none =>
      dsimp only
      cases selected : forEachNode (candidates context axis test) nodes with
      | error fault =>
          obtain ⟨node, member, fails⟩ := exists_of_forEachNode_error selected
          obtain ⟨other, inside, fails⟩ := exists_of_keepNodes_error (checks node member ▸ fails)
          obtain rfl := NodeTest.eq_unintended_of_holds fails
          exact .inr ⟨declared, rfl, other, ⟨node, member, inside⟩, fails⟩
      | ok all =>
          obtain ⟨succeeds, members⟩ := mem_forEachNode_keepNodes checks selected
          have among : ∀ other ∈ all, context.forest.HasAmong stamps other := by
            intro other member
            obtain ⟨⟨node, isGiven, inside⟩, -⟩ := (members other).mp member
            exact (proper node isGiven).2.onAxis known (given node isGiven) inside
          obtain ⟨sorted, found, isSet, same⟩ := Forest.exists_sorted among
          have ordered : (Except.ok all >>= inOrder context) = .ok sorted := by
            show inOrder context all = _
            rw [inOrder, found]
          rw [ordered]
          exact ⟨declared, isSet, succeeds, fun other => (same other).trans (members other)⟩

/-- A step to all nodes on an axis reaches them. -/
theorem exists_take_anyNode (library : Library) {axis : Axis} (principal : axis.principal = .element)
    (known : stamps context.stamp)
    (proper : ∀ node ∈ nodes, context.forest.HasProper node ∧ context.forest.HasAmong stamps node)
    : ∃ reached, (on axis .anyNode).take library context nodes = .ok reached
      ∧ (∀ node ∈ reached, context.forest.HasProper node ∧ context.forest.HasAmong stamps node)
      ∧ ∀ other, other ∈ reached
        ↔ ∃ node ∈ nodes, context.forest.OnAxis context.stamp axis node other := by
  have there (other : Node)
      (candidate : ∃ node ∈ nodes, context.forest.OnAxis context.stamp axis node other)
      : context.forest.HasProper other := by
    obtain ⟨node, member, others, given, inside⟩ := candidate
    exact (proper node member).1.onAxis given inside
  obtain ⟨reached, takes, isSet, members⟩ :=
    (take_selects library .anyNode principal known proper).exists_anyNode fun other candidate =>
      (there other candidate).has
  exact ⟨reached, takes, fun node member =>
    ⟨there node ((members node).mp member), isSet.among node member⟩, members⟩

-----------------------------------------------------------------------------------------
-- Several steps
-----------------------------------------------------------------------------------------

/-- Steps to all nodes on some axes, and at last one that tests the nodes on its axis. -/
def along (axes : List Axis) (axis : Axis) (test : NodeTest) : List Step :=
  axes.map (on · .anyNode) ++ [on axis test]

/-- Steps come to test what all axes lead to, by induction on the axes. -/
theorem follow_selects {axes : List Axis} {axis : Axis}
    (principal : ∀ each ∈ axes ++ [axis], each.principal = .element) (known : stamps context.stamp)
    (proper : ∀ node ∈ nodes, context.forest.HasProper node ∧ context.forest.HasAmong stamps node)
    : test.Selects context stamps
        (fun other => ∃ node ∈ nodes, context.forest.OnAxes context.stamp (axes ++ [axis]) node other)
        (follow library context (along axes axis test) nodes) := by
  induction axes generalizing nodes with
  | nil =>
      have last : follow library context (along [] axis test) nodes
          = (on axis test).take library context nodes := by
        show follow library context [on axis test] nodes = _
        rw [follow]
        cases (on axis test).take library context nodes with
        | error fault => rfl
        | ok reached => exact follow.eq_1 library context reached
      rw [last]
      refine (take_selects library test (by simpa using principal) known proper).congr fun other => ?_
      simp [Forest.OnAxes]
  | cons first rest ih =>
      obtain ⟨firstPrincipal, restPrincipal⟩ := List.forall_mem_cons.mp principal
      obtain ⟨reached, takes, inside, members⟩ :=
        exists_take_anyNode library firstPrincipal known proper
      have further : follow library context (along (first :: rest) axis test) nodes
          = follow library context (along rest axis test) reached := by
        show follow library context (on first .anyNode :: along rest axis test) nodes = _
        rw [follow, takes]
        rfl
      rw [further]
      refine (ih restPrincipal inside).congr fun other => ?_
      simp only [members, List.cons_append, Forest.OnAxes]
      constructor
      · rintro ⟨next, ⟨node, member, step⟩, beyond⟩
        exact ⟨node, member, next, step, beyond⟩
      · rintro ⟨node, member, next, step, beyond⟩
        exact ⟨next, ⟨node, member, step⟩, beyond⟩

/-- A path comes to test what its axes lead to from where it starts. -/
theorem followFrom_selects {axes : List Axis} {axis : Axis} (absolute : Bool)
    (principal : ∀ each ∈ axes ++ [axis], each.principal = .element) (known : stamps context.stamp)
    (proper : ∀ node ∈ nodes, context.forest.HasProper node ∧ context.forest.HasAmong stamps node)
    : test.Selects context stamps
        (fun other => ∃ node ∈ nodes, context.forest.OnAxes context.stamp (axes ++ [axis])
          (context.startOf absolute node) other)
        (followFrom library context absolute (along axes axis test) nodes) := by
  have among := fun node member => (proper node member).2
  obtain ⟨first, starts, members, -⟩ := exists_startNodes absolute known among
  have properStart : ∀ start ∈ first,
      context.forest.HasProper start ∧ context.forest.HasAmong stamps start := by
    intro start member
    obtain ⟨node, given, rfl⟩ := (members start).mp member
    exact ⟨Context.startOf_proper absolute (proper node given).1,
      Context.startOf_among known among node given⟩
  rw [followFrom, starts]
  refine (follow_selects principal known properStart).congr fun other => ?_
  simp [members]

end Step

end PathQuery
