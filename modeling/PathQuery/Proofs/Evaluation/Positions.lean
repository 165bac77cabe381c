import PathQuery.Proofs.Evaluation.PlainSteps
import PathQuery.Proofs.Number.Integers

/-! Positions in a step and in a filter. The predicates of a step count nodes along the axis, those
of a filter in document order. On a forward axis that comes to the same; on a reverse one, what a
step counts from the context node has to be counted from the last node in a filter.
-/

namespace PathQuery

-----------------------------------------------------------------------------------------
-- Nodes on an axis
-----------------------------------------------------------------------------------------

/-- Nodes along an axis, put in document order. -/
def Axis.arranged (axis : Axis) (nodes : List Node) : List Node :=
  if axis.isReverse then nodes.reverse else nodes

theorem Axis.mem_arranged {axis : Axis} {nodes : List Node} {node : Node}
    : node ∈ axis.arranged nodes ↔ node ∈ nodes := by
  rw [arranged]
  split
  · exact List.mem_reverse
  · rfl

namespace Forest

variable {forest : Forest} {stamp : Nat} {axis : Axis} {node other : Node} {nodes fewer : List Node}

/-- Nodes of an axis are sorted as the axis runs. -/
theorem sorted?_onAxis (has : forest.Has node)
    (given : forest.onAxis? stamp axis node = some nodes) (contained : fewer.Sublist nodes)
    : forest.sorted? fewer = some (axis.arranged fewer) := by
  have directed := (onAxis?_pairwise has given numbered).sublist contained
  refine sortedBy?_eq_of_pairwise (fun other member => has.onAxis given (contained.subset member))
    (Locations.holdIn_nil forest) (fun other => Axis.mem_arranged) ?_
  rw [Axis.arranged]
  split
  case isTrue reverse =>
      refine List.pairwise_reverse.mpr (directed.imp fun before => ?_)
      rwa [Axis.Runs, if_pos reverse] at before
  case isFalse forward =>
      refine directed.imp fun before => ?_
      rwa [Axis.Runs, if_neg forward] at before

end Forest

-----------------------------------------------------------------------------------------
-- Steps and filters
-----------------------------------------------------------------------------------------

/-- The nodes that a step from one node comes to before its predicates, along the axis. -/
def Step.matching (context : Context) (axis : Axis) (test : NodeTest) (node : Node)
    : Except Fault (List Node) :=
  match test.undeclared? context with
  | some qualifier => .error (.unboundNamespace qualifier)
  | none => candidates context axis test node

/-- What is selected for one node alone. -/
theorem forEachNode_singleton (select : Node → Except Fault (List Node)) (node : Node)
    : forEachNode select [node] = select node := by
  rw [forEachNode, forEachNode]
  cases select node with
  | error fault => rfl
  | ok selected => exact congrArg Except.ok (List.append_nil selected)

theorem Step.take_singleton (library : Library) (context : Context) (axis : Axis) (test : NodeTest)
    (predicates : List Expr) (node : Node)
    : (Step.mk axis.name test predicates).take library context [node]
      = matching context axis test node >>= fun passing =>
        Expr.restrict library context predicates passing >>= inOrder context := by
  rw [take, Axis.ofName?_name, matching]
  simp only [forEachNode_singleton]
  cases test.undeclared? context with
  | some qualifier => rfl
  | none =>
      cases passes : candidates context axis test node <;>
        simp [bind, Except.bind, Table.expect, passes]

namespace Expr

variable {library : Library} {context : Context} {axis : Axis} {test : NodeTest} {node : Node}
  {passing kept : List Node}

/-- The expression of a step. -/
def ofStep (axis : Axis) (test : NodeTest) (predicates : List Expr) : Expr :=
  .path false [.mk axis.name test predicates]

theorem inOrder_of_matching (has : context.forest.Has node)
    (matching : Step.matching context axis test node = .ok passing) (contained : kept.Sublist passing)
    : inOrder context kept = .ok (axis.arranged kept) := by
  rw [Step.matching] at matching
  split at matching
  case h_1 => cases matching
  case h_2 =>
      rw [candidates] at matching
      split at matching
      case h_1 nodes given =>
          rw [inOrder, Forest.sorted?_onAxis has given
            (contained.trans (sublist_of_keepNodes matching))]
      case h_2 => cases matching

/-- A step applies its predicates to the nodes along the axis. -/
theorem evaluate_ofStep (has : context.forest.Has node) (predicates : List Expr)
    : (ofStep axis test predicates).evaluate library context [node]
      = Step.matching context axis test node >>= fun passing =>
        (restrict library context predicates passing).map fun kept => .nodes ⟨axis.arranged kept⟩
      := by
  have taken : (ofStep axis test predicates).evaluate library context [node]
      = ((Step.mk axis.name test predicates).take library context [node]).map fun nodes =>
          .nodes ⟨nodes⟩ := by
    rw [ofStep, evaluate_path, Step.followFrom, startNodes, if_neg Bool.false_ne_true]
    refine congrArg (Except.map _) ?_
    cases takes : (Step.mk axis.name test predicates).take library context [node] <;>
      simp [bind, Except.bind, Step.follow, takes]
  rw [taken, Step.take_singleton]
  cases matching : Step.matching context axis test node with
  | error fault => rfl
  | ok passing =>
      cases keeps : restrict library context predicates passing with
      | error fault => simp [bind, Except.bind, Except.map, keeps]
      | ok kept =>
          have sorted := inOrder_of_matching has matching (sublist_of_restrict keeps)
          simp [bind, Except.bind, Except.map, keeps, sorted]

/-- A filter of a step applies its predicates to the nodes in document order. -/
theorem evaluate_filter_ofStep (has : context.forest.Has node) (predicates : List Expr)
    : (filter (ofStep axis test []) predicates).evaluate library context [node]
      = Step.matching context axis test node >>= fun passing =>
        (restrict library context predicates (axis.arranged passing)).map fun kept => .nodes ⟨kept⟩
      := by
  rw [evaluate, evaluate_ofStep has]
  cases Step.matching context axis test node with
  | error fault => rfl
  | ok passing =>
      cases keeps : restrict library context predicates (axis.arranged passing) <;>
        simp [bind, Except.bind, Except.map, restrict, Value.asNodes, keeps]

/-- On a forward axis, predicates of a step and of a filter come to the same. -/
theorem evaluate_filter_eq (has : context.forest.Has node) (forward : axis.isReverse = false)
    (predicates : List Expr)
    : (filter (ofStep axis test []) predicates).evaluate library context [node]
      = (ofStep axis test predicates).evaluate library context [node] := by
  have same (nodes : List Node) : axis.arranged nodes = nodes := by
    rw [Axis.arranged, forward, if_neg Bool.false_ne_true]
  rw [evaluate_filter_ofStep has, evaluate_ofStep has]
  simp only [same]

end Expr

-----------------------------------------------------------------------------------------
-- Single positions
-----------------------------------------------------------------------------------------

/-- A check that succeeds at one place only keeps the node there, if there is one. -/
theorem keepNodes_of_place {check : Nat → Node → Except Fault Bool} {nodes : List Node}
    {start place : Nat}
    (checks : ∀ index < nodes.length, ∀ node,
      check (start + index) node = .ok (decide (index = place)))
    : keepNodes check start nodes = .ok nodes[place]?.toList := by
  induction nodes generalizing start place with
  | nil => rfl
  | cons node rest ih =>
      have first := checks 0 (Nat.succ_pos _) node
      have later (other : Nat)
          (same : ∀ index < rest.length, index + 1 = place ↔ index = other)
          : keepNodes check (start + 1) rest = .ok rest[other]?.toList := by
        refine ih fun index less node => ?_
        rw [Nat.add_assoc, Nat.add_comm 1, checks (index + 1) (Nat.succ_lt_succ less) node,
          decide_eq_decide.mpr (same index less)]
      rw [Nat.add_zero] at first
      rw [keepNodes, first]
      cases place with
      | zero =>
          rw [later rest.length fun index less => by omega]
          simp [bind, Except.bind]
      | succ place =>
          rw [later place fun index less => by omega]
          simp [bind, Except.bind]

namespace Expr

variable {library : Library} {context : Context} {axis : Axis} {test : NodeTest} {node : Node}
  {nodes passing : List Node} {predicate : Expr} {count : Nat}

/-- A predicate that accepts one position only keeps the node there, if there is one. -/
theorem restrict_of_place {place : Nat}
    (accepts : ∀ position node, 0 < position → position ≤ nodes.length → ∃ value,
      predicate.evaluate library (context.focus node position nodes.length) [node] = .ok value
        ∧ (value.acceptsAt position ↔ position = place + 1))
    : restrict library context [predicate] nodes = .ok nodes[place]?.toList := by
  have keeps : keepNodes (fun position node => do
        let value ← predicate.evaluate library (context.focus node position nodes.length) [node]
        .ok (value.acceptsAt position))
      1 nodes = .ok nodes[place]?.toList := by
    refine keepNodes_of_place fun index less node => ?_
    obtain ⟨value, evaluates, iff⟩ := accepts (1 + index) node (by omega) (by omega)
    have same : value.acceptsAt (1 + index) = decide (index = place) := by
      rw [Bool.eq_iff_iff, iff, decide_eq_true_iff]
      omega
    rw [evaluates, ← same]
    rfl
  rw [restrict, keeps]
  exact restrict.eq_1 library context _

/-- The number of a position, read from its digits. -/
def ofPosition (count : Nat) : Expr :=
  .number ((Numeral.mk count 0).toNumber false)

/-- The position that is counted from the last one. -/
def fromLast (count : Nat) : Expr :=
  .binary "+" (.binary "-" (.call "last" []) (ofPosition count)) (ofPosition 1)

theorem evaluate_ofPosition (library : Library) (context : Context) (start : List Node) (count : Nat)
    : (ofPosition count).evaluate library context start = .ok (.number (.ofNat count)) := by
  rw [ofPosition, evaluate, Numeral.toNumber, Number.ofNat, Number.ofInt, Int.natAbs_natCast,
    decide_eq_false (Int.natCast_nonneg count).not_gt]
  rfl

/-- An arithmetic operation is applied to the numbers that its operands have. -/
theorem evaluate_operation {start : List Node} {left right : Expr} {first second : Number}
    {operation : Operation} {symbol : String} (listed : (symbol, operation) ∈ Operation.symbols)
    (evaluates : left.evaluate library context start = .ok (.number first))
    (also : right.evaluate library context start = .ok (.number second))
    : (binary symbol left right).evaluate library context start
      = .ok (.number (operation.apply first second)) := by
  rw [evaluate, evaluates, also]
  simp only [Operation.symbols, List.mem_cons, List.not_mem_nil, or_false, Prod.mk.injEq] at listed
  rcases listed with ⟨rfl, rfl⟩ | ⟨rfl, rfl⟩ | ⟨rfl, rfl⟩ | ⟨rfl, rfl⟩ | ⟨rfl, rfl⟩ <;> rfl

theorem evaluate_fromLast (context : Context) (start : List Node) (count : Nat)
    : (fromLast count).evaluate .core context start
      = .ok (.number
          (((Number.ofNat context.size).subtract (.ofNat count)).add (.ofNat 1))) := by
  have last : (call "last" []).evaluate .core context start
      = .ok (.number (.ofNat context.size)) := by
    rw [evaluate]
    rfl
  have minus : ("-", .subtract) ∈ Operation.symbols := by simp [Operation.symbols]
  have plus : ("+", .add) ∈ Operation.symbols := by simp [Operation.symbols]
  rw [fromLast, evaluate_operation plus (evaluate_operation minus last
    (evaluate_ofPosition _ _ _ count)) (evaluate_ofPosition _ _ _ 1), Operation.apply, Operation.apply]

theorem restrict_ofPosition (small : nodes.length < 2 ^ 53) (positive : 0 < count)
    : restrict library context [ofPosition count] nodes = .ok nodes[count - 1]?.toList := by
  refine restrict_of_place fun position node some upTo => ?_
  refine ⟨_, evaluate_ofPosition _ _ _ count, ?_⟩
  rw [Value.acceptsAt, Number.ofNat_equals_iff (by omega)]
  omega

theorem restrict_fromLast (small : nodes.length < 2 ^ 53) (positive : 0 < count)
    : restrict .core context [fromLast count] nodes = .ok nodes.reverse[count - 1]?.toList := by
  -- the place from the first node, or one after the last if there are not as many
  obtain ⟨place, same, accepted⟩ : ∃ place, nodes.reverse[count - 1]? = nodes[place]?
      ∧ ∀ position, 0 < position → position ≤ nodes.length →
        (position + count = nodes.length + 1 ↔ position = place + 1) := by
    rcases Nat.lt_or_ge nodes.length count with more | upTo
    · refine ⟨nodes.length, ?_, fun position some upTo => by omega⟩
      rw [List.getElem?_eq_none (by rw [List.length_reverse]; omega), List.getElem?_eq_none le_rfl]
    · refine ⟨nodes.length - count, ?_, fun position some upTo => by omega⟩
      rw [List.getElem?_reverse (by omega)]
      congr 1
      omega
  rw [same]
  refine restrict_of_place fun position node some upTo => ⟨_, evaluate_fromLast _ _ _, ?_⟩
  rw [Value.acceptsAt, Context.focus, ← accepted position some upTo]
  exact Number.fromLast_equals_iff small upTo some

/-- On a forward axis, predicates of a step and of a filter come to the same. On a reverse one, a
position in a step is that of a node counted from the context node, which a filter counts from the
last node. The nodes have to be fewer than the integers that numbers tell apart.
-/
theorem evaluate_positions (library : Library) (has : context.forest.Has node) (axis : Axis)
    (test : NodeTest)
    : (axis.isReverse = false → ∀ predicates : List Expr,
        (filter (ofStep axis test []) predicates).evaluate library context [node]
          = (ofStep axis test predicates).evaluate library context [node])
      ∧ (axis.isReverse = true → ∀ count : Nat, 0 < count →
        match Step.matching context axis test node with
        | .error fault =>
            (ofStep axis test [ofPosition count]).evaluate .core context [node] = .error fault
              ∧ (filter (ofStep axis test []) [fromLast count]).evaluate .core context [node]
                = .error fault
        | .ok passing =>
            (ofStep axis test []).evaluate .core context [node] = .ok (.nodes ⟨passing.reverse⟩)
              ∧ (passing.length < 2 ^ 53 →
                (ofStep axis test [ofPosition count]).evaluate .core context [node]
                    = .ok (.nodes ⟨passing[count - 1]?.toList⟩)
                  ∧ (filter (ofStep axis test []) [fromLast count]).evaluate .core context [node]
                    = .ok (.nodes ⟨passing[count - 1]?.toList⟩))) := by
  refine ⟨fun forward predicates => evaluate_filter_eq has forward predicates,
    fun reverse count positive => ?_⟩
  have arranged (nodes : List Node) : axis.arranged nodes = nodes.reverse := if_pos reverse
  rw [evaluate_ofStep has, evaluate_ofStep has, evaluate_filter_ofStep has]
  cases Step.matching context axis test node with
  | error fault => exact ⟨rfl, rfl⟩
  | ok passing =>
      simp only [bind, Except.bind, arranged]
      refine ⟨by rw [restrict, Except.map], fun small => ⟨?_, ?_⟩⟩
      · rw [restrict_ofPosition small positive, Except.map]
        cases passing[count - 1]? <;> rfl
      · rw [restrict_fromLast (by rwa [List.length_reverse]) positive,
          List.reverse_reverse, Except.map]

/-- The second ancestor of a text is the origin, which comes first in document order. -/
theorem evaluate_positions_small
    : let context : Context :=
        { forest := .small, stamp := 7, node := ⟨0, .inner [0]⟩, position := 1, size := 1,
          bindings := .initial, values := [], options := .standard }
      context.forest.Has ⟨0, .inner [0]⟩
        ∧ (ofStep .ancestor .anyNode [ofPosition 2]).evaluate .core context [⟨0, .inner [0]⟩]
          = .ok (.nodes ⟨[⟨0, .origin 7⟩]⟩)
        ∧ (filter (ofStep .ancestor .anyNode []) [fromLast 2]).evaluate .core context
            [⟨0, .inner [0]⟩]
          = .ok (.nodes ⟨[⟨0, .origin 7⟩]⟩) := by
  intro context
  have has : context.forest.Has ⟨0, .inner [0]⟩ := rfl
  have both := (evaluate_positions Library.core has .ancestor .anyNode).2 rfl 2 (by decide)
  have matching : Step.matching context .ancestor .anyNode ⟨0, .inner [0]⟩
      = .ok [⟨0, .inner []⟩, ⟨0, .origin 7⟩] := by cbv
  rw [matching] at both
  exact ⟨has, both.2 (by decide)⟩

end Expr

end PathQuery
