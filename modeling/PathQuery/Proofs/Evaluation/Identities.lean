import PathQuery.Proofs.Evaluation.Leniency
import PathQuery.Proofs.Evaluation.PlainSteps

/-! Location paths that amount to other ones: ways of going from nodes to others that come to test
the same nodes. They hold for every node test, with the faults that it can end with.
-/

namespace PathQuery

-----------------------------------------------------------------------------------------
-- Expressions that select
-----------------------------------------------------------------------------------------

/-- Node-sets with the same nodes. They also have them in the same order, apart from rival roots of
a tree, which count as one there.
-/
def Value.SameNodes (value other : Value) : Prop :=
  ∃ set more, value = .nodes set ∧ other = .nodes more
    ∧ (∀ node, node ∈ set.items ↔ node ∈ more.items) ∧ set.identified = more.identified

/-- What is selected from some nodes and from others together is selected from all of them. -/
theorem NodeTest.Selects.union {context : Context} {stamps : Nat → Prop} {test : NodeTest}
    {Candidate Other : Node → Prop} {first second : Except Fault (List Node)}
    (left : test.Selects context stamps Candidate first)
    (right : test.Selects context stamps Other second)
    : test.Selects context stamps (fun node => Candidate node ∨ Other node)
        (first >>= fun these => second >>= fun those => inOrder context (these ++ those)) := by
  cases first with
  | error fault =>
      refine left.imp_right fun ⟨declared, unintended, node, candidate, fails⟩ => ?_
      exact ⟨declared, unintended, node, .inl candidate, fails⟩
  | ok these =>
      cases second with
      | error fault =>
          refine right.imp_right fun ⟨declared, unintended, node, candidate, fails⟩ => ?_
          exact ⟨declared, unintended, node, .inr candidate, fails⟩
      | ok those =>
          obtain ⟨declared, isSet, succeeds, members⟩ := left
          obtain ⟨-, isSetToo, succeedsToo, membersToo⟩ := right
          have among : ∀ node ∈ these ++ those, context.forest.HasAmong stamps node := by
            intro node member
            exact (List.mem_append.mp member).elim (isSet.among node) (isSetToo.among node)
          obtain ⟨sorted, found, isSorted, same⟩ := Forest.exists_sorted among
          have ordered : inOrder context (these ++ those) = .ok sorted := by rw [inOrder, found]
          show test.Selects context stamps _ (inOrder context (these ++ those))
          rw [ordered]
          refine ⟨declared, isSorted, fun node candidate =>
            candidate.elim (succeeds node) (succeedsToo node), fun node => ?_⟩
          rw [same, List.mem_append, members, membersToo, or_and_right]

namespace Expr

variable {library : Library} {context : Context} {stamps : Nat → Prop} {test : NodeTest}
  {start : List Node} {Candidate Other : Node → Prop} {expression other : Expr}

/-- The value of an expression is what a test selects from some nodes. -/
def Selects (library : Library) (context : Context) (stamps : Nat → Prop) (test : NodeTest)
    (start : List Node) (Candidate : Node → Prop) (expression : Expr) : Prop :=
  ∃ outcome, test.Selects context stamps Candidate outcome
    ∧ expression.evaluate library context start = outcome.map fun reached => .nodes ⟨reached⟩

/-- A path selects from what its axes lead to. -/
theorem selects_path (absolute : Bool) (axes : List Axis) (axis : Axis)
    (principal : ∀ each ∈ axes ++ [axis], each.principal = .element) (known : stamps context.stamp)
    (proper : ∀ node ∈ start, context.forest.HasProper node ∧ context.forest.HasAmong stamps node)
    : Selects library context stamps test start
        (fun other => ∃ node ∈ start, context.forest.OnAxes context.stamp (axes ++ [axis])
          (context.startOf absolute node) other)
        (.path absolute (Step.along axes axis test)) :=
  ⟨_, Step.followFrom_selects absolute principal known proper, evaluate_path ..⟩

/-- A union selects what either operand selects. -/
theorem Selects.union (left : Selects library context stamps test start Candidate expression)
    (right : Selects library context stamps test start Other other)
    : Selects library context stamps test start (fun node => Candidate node ∨ Other node)
        (.union expression other) := by
  obtain ⟨first, selects, evaluates⟩ := left
  obtain ⟨second, also, evaluatesOther⟩ := right
  refine ⟨_, selects.union also, ?_⟩
  rw [evaluate, evaluates, evaluatesOther]
  cases first with
  | error fault => rfl
  | ok these =>
      cases second with
      | error fault => rfl
      | ok those =>
          show (inOrder context (these ++ those) >>= _) = (inOrder context (these ++ those)).map _
          cases inOrder context (these ++ those) <;> rfl

/-- Expressions that select from the same nodes have the same value or the same fault. -/
theorem Selects.alike (selects : Selects library context stamps test start Candidate expression)
    (also : Selects library context stamps test start Other other)
    (same : ∀ node, Candidate node ↔ Other node)
    : Alike Value.SameNodes (expression.evaluate library context start)
        (other.evaluate library context start) := by
  obtain ⟨first, selects, evaluates⟩ := selects
  obtain ⟨second, also, evaluatesOther⟩ := also
  rw [evaluates, evaluatesOther]
  obtain ⟨fault, rfl, rfl⟩ | ⟨nodes, others, rfl, rfl, isSet, isSetToo, members⟩ :=
    ((selects.congr same).alike also).fault_or_values
  · rfl
  · exact ⟨_, _, rfl, rfl, members, isSet.identified_eq isSetToo members⟩

/-- Where all origins are those of the evaluation, the values are equal. -/
theorem Selects.evaluate_eq
    (selects : Selects library context (· = context.stamp) test start Candidate expression)
    (also : Selects library context (· = context.stamp) test start Other other)
    (same : ∀ node, Candidate node ↔ Other node)
    : expression.evaluate library context start = other.evaluate library context start := by
  obtain ⟨first, selects, evaluates⟩ := selects
  obtain ⟨second, also, evaluatesOther⟩ := also
  rw [evaluates, evaluatesOther]
  obtain ⟨fault, rfl, rfl⟩ | ⟨nodes, others, rfl, rfl, isSet, isSetToo, members⟩ :=
    ((selects.congr same).alike also).fault_or_values
  · rfl
  · rw [isSet.eq_of_mem_iff isSetToo members]

end Expr

-----------------------------------------------------------------------------------------
-- Identities
-----------------------------------------------------------------------------------------

namespace Query

/-- Expressions that come to the same from some nodes, for a test. -/
inductive Identity (nodes : List Node) (test : NodeTest) : Expr → Expr → Prop where
  | descendant (absolute : Bool)
    : Identity nodes test
        (.path absolute [.on .descendantOrSelf .anyNode, .on .child test])
        (.path absolute [.on .descendant test])
  | ancestorOrSelf
    : Identity nodes test
        (.path false [.on .ancestorOrSelf test])
        (.union (.path false [.on .ancestor test]) (.path false [.on .self test]))
  | following (unattached : ∀ node ∈ nodes, ¬ node.place.isAttached)
    : Identity nodes test
        (.path false [.on .following test])
        (.path false [.on .ancestorOrSelf .anyNode, .on .followingSibling .anyNode,
          .on .descendantOrSelf test])
  | preceding (unattached : ∀ node ∈ nodes, ¬ node.place.isAttached)
    : Identity nodes test
        (.path false [.on .preceding test])
        (.path false [.on .ancestorOrSelf .anyNode, .on .precedingSibling .anyNode,
          .on .descendantOrSelf test])
  | followingAttached (attached : ∀ node ∈ nodes, node.place.isAttached)
    : Identity nodes test
        (.path false [.on .following test])
        (.union (.path false [.on .parent .anyNode, .on .descendant test])
          (.path false [.on .parent .anyNode, .on .following test]))
  | precedingAttached (attached : ∀ node ∈ nodes, node.place.isAttached)
    : Identity nodes test
        (.path false [.on .preceding test])
        (.path false [.on .parent .anyNode, .on .preceding test])

variable {test : NodeTest} {nodes : List Node} {left right : Expr}

/-- Both sides of an identity come to test the same nodes. -/
theorem Identity.selects (identity : Identity nodes test left right) (library : Library)
    (context : Context) (stamps : Nat → Prop) (known : stamps context.stamp)
    (proper : ∀ node ∈ nodes, context.forest.HasProper node ∧ context.forest.HasAmong stamps node)
    : ∃ Candidate Other, left.Selects library context stamps test nodes Candidate
        ∧ right.Selects library context stamps test nodes Other
        ∧ ∀ node, Candidate node ↔ Other node := by
  have path (absolute : Bool) (axes : List Axis) (axis : Axis)
      (principal : ∀ each ∈ axes ++ [axis], each.principal = .element)
      : (Expr.path absolute (Step.along axes axis test)).Selects library context stamps test nodes
        fun other => ∃ node ∈ nodes, context.forest.OnAxes context.stamp (axes ++ [axis])
          (context.startOf absolute node) other :=
    Expr.selects_path absolute axes axis principal known proper
  have relative (axes : List Axis) (axis : Axis)
      (principal : ∀ each ∈ axes ++ [axis], each.principal = .element)
      : (Expr.path false (Step.along axes axis test)).Selects library context stamps test nodes
        fun other =>
          ∃ node ∈ nodes, context.forest.OnAxes context.stamp (axes ++ [axis]) node other :=
    path false axes axis principal
  cases identity with
  | descendant absolute =>
      refine ⟨_, _, path absolute [.descendantOrSelf] .child (by decide),
        path absolute [] .descendant (by decide), fun other => ?_⟩
      refine exists_congr fun node => and_congr_right fun member => ?_
      have started := Context.startOf_proper absolute (proper node member).1
      exact started.onAxes_descendant_iff.symm
  | ancestorOrSelf =>
      refine ⟨_, _, relative [] .ancestorOrSelf (by decide),
        (relative [] .ancestor (by decide)).union (relative [] .self (by decide)),
        fun other => ?_⟩
      refine (exists_congr fun node => ?_).trans exists_or
      rw [← and_or_left]
      exact and_congr_right fun member => (proper node member).1.onAxes_ancestorOrSelf_iff
  | following unattached =>
      refine ⟨_, _, relative [] .following (by decide),
        relative [.ancestorOrSelf, .followingSibling] .descendantOrSelf (by decide),
        fun other => ?_⟩
      refine exists_congr fun node => and_congr_right fun member => ?_
      exact (proper node member).1.onAxes_following_iff (unattached node member)
  | preceding unattached =>
      refine ⟨_, _, relative [] .preceding (by decide),
        relative [.ancestorOrSelf, .precedingSibling] .descendantOrSelf (by decide),
        fun other => ?_⟩
      refine exists_congr fun node => and_congr_right fun member => ?_
      exact (proper node member).1.onAxes_preceding_iff (unattached node member)
  | followingAttached attached =>
      refine ⟨_, _, relative [] .following (by decide),
        (relative [.parent] .descendant (by decide)).union
          (relative [.parent] .following (by decide)),
        fun other => ?_⟩
      refine (exists_congr fun node => ?_).trans exists_or
      rw [← and_or_left]
      refine and_congr_right fun member => ?_
      exact (proper node member).1.onAxes_following_attached_iff (attached node member)
  | precedingAttached attached =>
      refine ⟨_, _, relative [] .preceding (by decide),
        relative [.parent] .preceding (by decide), fun other => ?_⟩
      refine exists_congr fun node => and_congr_right fun member => ?_
      exact (proper node member).1.onAxes_preceding_attached_iff (attached node member)

/-- No function is called by an identity, and no variable is referred to. -/
theorem Identity.evaluate_library (identity : Identity nodes test left right)
    (library other : Library) (context : Context) (start : List Node)
    : left.evaluate library context start = left.evaluate other context start
      ∧ right.evaluate library context start = right.evaluate other context start := by
  cases identity <;>
    simp only [Expr.evaluate, Step.follow, Step.take_on, and_self]

theorem Identity.names_eq (identity : Identity nodes test left right)
    : left.names = [] ∧ right.names = [] := by
  cases identity <;> exact ⟨rfl, rfl⟩

variable {library : Library} {forest : Forest} {around : Surroundings} {stamps older : Nat → Prop}
  {stamp further : Nat}

/-- Both sides of an identity end an evaluation with the same fault or the same nodes. -/
theorem Identity.alike (identity : Identity around.nodes test left right) (known : stamps stamp)
    (proper : ∀ node ∈ around.nodes, forest.HasProper node ∧ forest.HasAmong stamps node)
    : Alike Value.SameNodes (evaluateIn library forest stamp around left)
        (evaluateIn library forest stamp around right) := by
  cases start : around.nodes with
  | nil => simp [evaluateIn, start, Alike]
  | cons node rest =>
      obtain ⟨Candidate, Other, selects, also, same⟩ :=
        identity.selects library (around.contextAt forest stamp node) stamps known proper
      rw [evaluateIn_cons start, evaluateIn_cons start]
      exact (selects.alike also same).mapError _

/-- Where all origins are those of the evaluation, both sides of an identity end alike. -/
theorem Identity.evaluateIn_eq (identity : Identity around.nodes test left right)
    (proper : ∀ node ∈ around.nodes, forest.HasProper node ∧ forest.HasAmong (· = stamp) node)
    : evaluateIn library forest stamp around left = evaluateIn library forest stamp around right := by
  cases start : around.nodes with
  | nil => simp [evaluateIn, start]
  | cons node rest =>
      obtain ⟨Candidate, Other, selects, also, same⟩ :=
        identity.selects library (around.contextAt forest stamp node) (· = stamp) rfl proper
      rw [evaluateIn_cons start, evaluateIn_cons start, selects.evaluate_eq also same]

theorem Identity.evaluateIn_library (identity : Identity around.nodes test left right)
    (library other : Library)
    : evaluateIn library forest stamp around left = evaluateIn other forest stamp around left
      ∧ evaluateIn library forest stamp around right = evaluateIn other forest stamp around right := by
  cases start : around.nodes with
  | nil => simp [evaluateIn, start]
  | cons node rest =>
      obtain ⟨sameLeft, sameRight⟩ := identity.evaluate_library library other
        (around.contextAt forest stamp node) around.nodes
      simp only [evaluateIn_cons start, sameLeft, sameRight, and_self]

/-- Expressions that an identity states are as good as each other: from all nodes of trees, they end
with the same fault or with the same nodes, roots that the evaluations make apart. Values are
equal, order included, unless the nodes have roots of earlier evaluations among them.
-/
theorem evaluateIn_identity (identity : Identity around.nodes test left right)
    (proper : ∀ node ∈ around.nodes, forest.HasProper node ∧ forest.HasAmong older node)
    (new : ¬ older stamp) (also : ¬ older further)
    : Alike Value.SameNodes
        ((evaluateIn library forest stamp around left).map (Value.renewed stamp further))
        (evaluateIn library forest further around right)
      ∧ ((∀ node ∈ around.nodes, ∀ own, node.place ≠ .origin own) →
        evaluateIn library forest further around right
          = (evaluateIn library forest stamp around left).map (Value.renewed stamp further)) := by
  have renewed : evaluateIn library forest further around left
      = (evaluateIn library forest stamp around left).map (Value.renewed stamp further) := by
    rw [(identity.evaluateIn_library library .core).1, (identity.evaluateIn_library library .core).1]
    refine evaluateIn_renewed_of_names around (fun node member => (proper node member).2) ?_ new also
    rw [identity.names_eq.1]
    exact fun name named => absurd named List.not_mem_nil
  have among : ∀ node ∈ around.nodes,
      forest.HasProper node ∧ forest.HasAmong (fun own => own = further ∨ older own) node :=
    fun node member =>
      ⟨(proper node member).1, (proper node member).2.imp fun own known => .inr known⟩
  rw [← renewed]
  refine ⟨identity.alike (.inl rfl) among, fun noOrigin => ?_⟩
  refine (identity.evaluateIn_eq fun node member => ⟨(proper node member).1, ?_⟩).symm
  obtain ⟨top, found, -, present⟩ := (proper node member).1
  exact ⟨top, found, Top.hasAmong_of_has present (noOrigin node member) rfl⟩

/-- From a root of an earlier evaluation and a comment, where the rival roots come in another order,
and from a text.
-/
theorem evaluateIn_identity_small
    : (∀ node ∈ [⟨0, .origin 3⟩, ⟨0, .inner [1]⟩],
        Forest.small.HasProper node ∧ Forest.small.HasAmong (· = 3) node)
      ∧ Alike Value.SameNodes
        (.ok (.nodes ⟨[⟨0, .origin 3⟩, ⟨0, .origin 8⟩, ⟨0, .inner []⟩, ⟨0, .inner [1]⟩]⟩))
        (evaluateIn Library.core .small 8
          { nodes := [⟨0, .origin 3⟩, ⟨0, .inner [1]⟩], bindings := .initial, values := [],
            options := .standard }
          (.union (.path false [.on .ancestor .anyNode]) (.path false [.on .self .anyNode])))
      ∧ evaluateIn Library.core .small 8
          { nodes := [⟨0, .inner [0]⟩], bindings := .initial, values := [], options := .standard }
          (.path false [.on .ancestorOrSelf .anyNode, .on .followingSibling .anyNode,
            .on .descendantOrSelf (.nodeType "comment")])
        = .ok (.nodes ⟨[⟨0, .inner [1]⟩]⟩) := by
  have inner (path : List Nat) (present : Forest.small.Has ⟨0, .inner path⟩)
      : Forest.small.HasProper ⟨0, .inner path⟩
        ∧ Forest.small.HasAmong (· = 3) ⟨0, .inner path⟩ := by
    obtain ⟨top, found, present⟩ := (Forest.has_iff _ _).mp present
    cases found
    exact ⟨⟨_, rfl, by decide, present⟩, _, rfl, Top.hasAmong_of_has present (by simp) rfl⟩
  have origin : Forest.small.HasProper ⟨0, .origin 3⟩
      ∧ Forest.small.HasAmong (· = 3) ⟨0, .origin 3⟩ :=
    ⟨⟨_, rfl, by decide, rfl⟩, _, rfl, Top.hasAmong_origin (by decide) rfl⟩
  have several : ∀ node ∈ [⟨0, .origin 3⟩, ⟨0, .inner [1]⟩],
      Forest.small.HasProper node ∧ Forest.small.HasAmong (· = 3) node := by
    simp only [List.forall_mem_cons, List.not_mem_nil, false_implies, implies_true, and_true]
    exact ⟨origin, inner [1] rfl⟩
  have one : ∀ node ∈ [⟨0, .inner [0]⟩],
      Forest.small.HasProper node ∧ Forest.small.HasAmong (· = 3) node := by
    simp only [List.forall_mem_cons, List.not_mem_nil, false_implies, implies_true, and_true]
    exact inner [0] rfl
  let around (nodes : List Node) : Surroundings :=
    { nodes, bindings := .initial, values := [], options := .standard }
  have up := (@evaluateIn_identity .anyNode _ _ Library.core .small
    (around [⟨0, .origin 3⟩, ⟨0, .inner [1]⟩]) (· = 3) 7 8 .ancestorOrSelf several (by decide)
    (by decide)).1
  have along := (@evaluateIn_identity (.nodeType "comment") _ _ Library.core .small
    (around [⟨0, .inner [0]⟩]) (· = 3) 7 8 (.following (by simp [around, Place.isAttached])) one
    (by decide) (by decide)).2 (by simp [around])
  have upFirst : evaluateIn Library.core .small 7 (around [⟨0, .origin 3⟩, ⟨0, .inner [1]⟩])
      (.path false [.on .ancestorOrSelf .anyNode])
      = .ok (.nodes ⟨[⟨0, .origin 3⟩, ⟨0, .origin 7⟩, ⟨0, .inner []⟩, ⟨0, .inner [1]⟩]⟩) := by cbv
  have alongFirst : evaluateIn Library.core .small 7 (around [⟨0, .inner [0]⟩])
      (.path false [.on .following (.nodeType "comment")])
      = .ok (.nodes ⟨[⟨0, .inner [1]⟩]⟩) := by cbv
  rw [upFirst] at up
  rw [alongFirst] at along
  exact ⟨several, up, along⟩

/-- What a double slash stands for is one side of an identity. -/
example : (Expression.ofText Library.core.arityOf "//p:a").map Expression.root
    = .ok (.path true [.on .descendantOrSelf .anyNode, .on .child (.name (some "p") "a")]) := by cbv

end Query

end PathQuery
