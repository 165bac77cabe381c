import PathQuery.Proofs.Evaluation.Identities
import PathQuery.Proofs.Function.Core

/-! Roots of trees without document. An evaluation makes one for each tree and comes to no other one
unless that has been brought in with the context nodes or the variables. A root that an earlier
evaluation has made stays beside the present one, though: the way to its child and back does not
end where it has begun.
-/

namespace PathQuery

-----------------------------------------------------------------------------------------
-- Where roots come from
-----------------------------------------------------------------------------------------

/-- A node that is no root of another evaluation, unless it has been brought in. -/
def Node.Stems (stamp : Nat) (Brought : Node → Prop) (node : Node) : Prop :=
  ∀ own, node.place = .origin own → own = stamp ∨ Brought node

namespace Forest

variable {forest : Forest} {stamps : Nat → Prop} {stamp : Nat} {Brought : Node → Prop}
  {nodes : List Node} {node other left right : Node}

/-- Axes lead to the root that the evaluation makes, or stay at another one. -/
theorem stems_onAxis {axis : Axis} (stems : node.Stems stamp Brought)
    (given : forest.onAxis? stamp axis node = some nodes) (member : other ∈ nodes)
    : other.Stems stamp Brought := by
  intro own root
  cases found : forest[node.tree]? with
  | none =>
      rw [onAxis?, found] at given
      cases given
      exact absurd member List.not_mem_nil
  | some top =>
      obtain ⟨places, reached, rfl⟩ := exists_places found given
      obtain ⟨place, inside, rfl⟩ := List.mem_map.mp member
      obtain rfl : place = .origin own := root
      rcases Top.origin_of_mem_onAxis reached inside with same | ⟨rfl, -⟩
      · have stays : (⟨node.tree, .origin own⟩ : Node) = node := by rw [← same]
        exact stays ▸ stems own same
      · exact .inl rfl

theorem stems_rootOf (stems : node.Stems stamp Brought)
    : (forest.rootOf stamp node).Stems stamp Brought := by
  rw [rootOf]
  split
  · exact stems
  · split
    · intro own root
      cases root
    · intro own root
      cases root
      exact .inl rfl

/-- Different nodes with one key are roots of a tree, of which one has been brought in. -/
theorem brought_of_key_eq (leftAmong : forest.HasAmong stamps left)
    (rightAmong : forest.HasAmong stamps right) (leftStems : left.Stems stamp Brought)
    (rightStems : right.Stems stamp Brought) (apart : left ≠ right)
    (same : left.key numbered = right.key numbered)
    : left.Rivals right ∧ (Brought left ∨ Brought right) := by
  have rivals := rivals_of_key_eq leftAmong rightAmong apart same
  refine ⟨rivals, ?_⟩
  obtain ⟨tree, own, further, different, rfl, rfl⟩ := rivals
  rcases leftStems own rfl with rfl | brought
  · exact .inr ((rightStems further rfl).resolve_left different.symm)
  · exact .inl brought

end Forest

/-- Nodes of some evaluations that are no roots of other ones than the present one, unless they have
been brought in.
-/
def Discipline.stemming (forest : Forest) {stamps : Nat → Prop} {stamp : Nat} (known : stamps stamp)
    (Brought : Node → Prop)
    : Discipline forest stamp where
  Sound node := forest.HasAmong stamps node ∧ node.Stems stamp Brought
  IsSet nodes := forest.IsSet stamps nodes ∧ ∀ node ∈ nodes, node.Stems stamp Brought
  Allowed _ := True
  onAxis sound given member :=
    ⟨sound.1.onAxis known given member, Forest.stems_onAxis sound.2 given member⟩
  noAxis _ _ := trivial
  rootOf sound := ⟨sound.1.rootOf known, Forest.stems_rootOf sound.2⟩
  sorted {nodes} sound := by
    obtain ⟨sorted, found, isSet, same⟩ :=
      Forest.exists_sorted fun node member => (sound node member).1
    exact ⟨sorted, found, isSet, fun node member => (sound node ((same node).mp member)).2⟩
  descendants {node} sound :=
    ⟨Forest.isSet_descendants sound.1 known, fun other member =>
      Forest.stems_onAxis sound.2 (forest.onAxis?_descendant stamp node) member⟩
  sublist isSet contained :=
    ⟨isSet.1.sublist contained, fun node member => isSet.2 node (contained.subset member)⟩
  sound isSet node member := ⟨isSet.1.among node member, isSet.2 node member⟩
  unboundVariable _ := trivial
  unboundNamespace _ := trivial
  noNodes _ := trivial

-----------------------------------------------------------------------------------------
-- Queries
-----------------------------------------------------------------------------------------

namespace Query

/-- A node that comes into an evaluation as context node or in a variable. -/
def Surroundings.Brings (around : Surroundings) (node : Node) : Prop :=
  node ∈ around.nodes ∨ ∃ name set, (name, Value.nodes set) ∈ around.values ∧ node ∈ set.items

variable {library : Library} {forest : Forest} {stamps : Nat → Prop} {stamp own tree : Nat}
  {around : Surroundings} {source : String} {expression : Expression} {set : NodeSet}

/-- A tree has one root in a node-set: different nodes have different keys, unless they are roots of
one tree, of which one has been brought in with the context nodes or the variables. Functions
must not bring in roots themselves; those of the core library do not.
-/
theorem evaluateIn_rooted (read : Expression.ofText library.arityOf source = .ok expression)
    (known : stamps stamp) (nodes : ∀ node ∈ around.nodes, forest.HasAmong stamps node)
    (values : ∀ name set, (name, Value.nodes set) ∈ around.values → forest.IsSet stamps set.items)
    (functions : (Discipline.stemming forest known around.Brings).ServedBy library)
    (result : evaluateIn library forest stamp around expression.root = .ok (.nodes set))
    : (∀ left ∈ set.items, ∀ right ∈ set.items,
        left.key Forest.numbered = right.key Forest.numbered →
          left = right ∨ left.Rivals right ∧ (around.Brings left ∨ around.Brings right))
      ∧ ((∀ node, around.Brings node → ∀ own, node.place ≠ .origin own) →
        ∀ left ∈ set.items, ∀ right ∈ set.items,
          left.key Forest.numbered = right.key Forest.numbered → left = right) := by
  have some : around.nodes ≠ [] := by
    intro none
    rw [evaluateIn, none] at result
    cases result
  have meets := evaluateIn_meets (Discipline.stemming forest known around.Brings)
    (Expression.wellFormed_of_ofText read) functions some
    (fun node member => ⟨nodes node member, fun _ _ => .inr (.inl member)⟩)
    (fun name set bound =>
      ⟨values name set bound, fun node member _ _ => .inr (.inr ⟨name, set, bound, member⟩)⟩)
  rw [result] at meets
  obtain ⟨isSet, stems⟩ := meets
  have apart (left : Node) (leftMember : left ∈ set.items) (right : Node)
      (rightMember : right ∈ set.items)
      (same : left.key Forest.numbered = right.key Forest.numbered)
      : left = right ∨ left.Rivals right ∧ (around.Brings left ∨ around.Brings right) := by
    by_cases equal : left = right
    · exact .inl equal
    · exact .inr (Forest.brought_of_key_eq (isSet.among left leftMember)
        (isSet.among right rightMember) (stems left leftMember) (stems right rightMember) equal
        same)
  refine ⟨apart, fun noRoot left leftMember right rightMember same => ?_⟩
  rcases apart left leftMember right rightMember same with equal | ⟨rivals, brought⟩
  · exact equal
  · obtain ⟨tree, own, other, -, rfl, rfl⟩ := rivals
    exact brought.elim (fun brings => absurd rfl (noRoot _ brings own))
      (fun brings => absurd rfl (noRoot _ brings other))

/-- An earlier root, which leads to no other one, beside a node that leads to the present one. -/
theorem evaluateIn_rooted_small
    : ∃ expression, Expression.ofText Library.core.arityOf "/ | $x" = .ok expression
      ∧ ∃ set, evaluateIn Library.core .small 7
          { nodes := [⟨0, .inner []⟩, ⟨0, .origin 3⟩], bindings := .initial,
            values := [("x", .nodes ⟨[⟨0, .inner [1]⟩]⟩)], options := .standard }
          expression.root = .ok (.nodes set)
        ∧ set.items = [⟨0, .origin 7⟩, ⟨0, .origin 3⟩, ⟨0, .inner [1]⟩]
        ∧ ∀ left ∈ set.items, ∀ right ∈ set.items,
          left.key Forest.numbered = right.key Forest.numbered → left = right ∨ left.Rivals right := by
  let around : Surroundings :=
    { nodes := [⟨0, .inner []⟩, ⟨0, .origin 3⟩], bindings := .initial,
      values := [("x", .nodes ⟨[⟨0, .inner [1]⟩]⟩)], options := .standard }
  have tokens : Token.ofText "/ | $x"
      = .ok [⟨0, "/", .slash⟩, ⟨2, "|", .bar⟩, ⟨4, "$x", .variable⟩] := by decide +kernel
  have whole : Grammar.whole ⟨"/ | $x".length, Library.core.arityOf⟩
      [⟨0, "/", .slash⟩, ⟨2, "|", .bar⟩, ⟨4, "$x", .variable⟩]
      = .ok (.union (.path true []) (.reference "x")) := by cbv
  have read := (Expression.ofText_eq_ok_iff Library.core.arityOf "/ | $x"
    ⟨.union (.path true []) (.reference "x"), "/ | $x"⟩).mpr ⟨_, tokens, whole, rfl⟩
  have value : evaluateIn Library.core .small 7 around (.union (.path true []) (.reference "x"))
      = .ok (.nodes ⟨[⟨0, .origin 7⟩, ⟨0, .origin 3⟩, ⟨0, .inner [1]⟩]⟩) := by cbv
  have inner (path : List Nat) (present : Forest.small.Has ⟨0, .inner path⟩)
      : Forest.small.HasAmong (fun own => own = 3 ∨ own = 7) ⟨0, .inner path⟩ := by
    obtain ⟨top, found, present⟩ := (Forest.has_iff _ _).mp present
    exact ⟨top, found, Top.hasAmong_of_has present (by simp) (.inl rfl)⟩
  have nodes : ∀ node ∈ around.nodes,
      Forest.small.HasAmong (fun own => own = 3 ∨ own = 7) node := by
    simp only [around, List.forall_mem_cons, List.not_mem_nil, false_implies, implies_true,
      and_true]
    exact ⟨inner [] rfl, _, rfl, Top.hasAmong_origin (by decide) (.inl rfl)⟩
  have values : ∀ name set, (name, Value.nodes set) ∈ around.values →
      Forest.small.IsSet (fun own => own = 3 ∨ own = 7) set.items := by
    intro name set member
    cases List.mem_singleton.mp member
    exact .singleton (inner [1] rfl)
  have rooted := evaluateIn_rooted read (.inr rfl) nodes values
    (fun _ _ => Discipline.serves_core _) value
  refine ⟨_, read, _, value, rfl, fun left leftMember right rightMember same => ?_⟩
  exact (rooted.1 left leftMember right rightMember same).imp_right And.left

/-- The context nodes, and the way to their children and back. -/
def wayBack : Expr :=
  .union (.path false [.on .self .anyNode]) (.path false [.on .child .anyNode, .on .parent .anyNode])

example : Expression.ofText Library.core.arityOf ". | node()/.." = .ok ⟨wayBack, ". | node()/.."⟩ := by
  cbv

/-- The way back from a root of another evaluation leads to the present one beside it. -/
theorem exists_rivals_wayBack (library : Library) (known : stamps stamp)
    (proper : ∀ node ∈ around.nodes, forest.HasProper node ∧ forest.HasAmong stamps node)
    (member : ⟨tree, .origin own⟩ ∈ around.nodes) (other : own ≠ stamp)
    : ∃ set, evaluateIn library forest stamp around wayBack = .ok (.nodes set)
      ∧ ∃ left ∈ set.items, ∃ right ∈ set.items, left.Rivals right := by
  obtain ⟨node, rest, start⟩ := List.exists_cons_of_ne_nil (List.ne_nil_of_mem member)
  let context := around.contextAt forest stamp node
  have selected : wayBack.Selects library context stamps .anyNode around.nodes _ :=
    (Expr.selects_path false [] .self (by decide) known proper).union
      (Expr.selects_path false [.child] .parent (by decide) known proper)
  obtain ⟨outcome, selects, evaluates⟩ := selected
  obtain ⟨reached, rfl, -, members⟩ := selects.exists_anyNode fun other candidate => by
    rcases candidate with ⟨first, given, leads⟩ | ⟨first, given, leads⟩
    · exact ((proper first given).1.onAxes leads).has
    · exact ((proper first given).1.onAxes leads).has
  obtain ⟨top, found, _, -, -, root⟩ := (proper _ member).2
  obtain ⟨-, noDocument⟩ := root own rfl
  have stays : ⟨tree, .origin own⟩ ∈ reached := by
    refine (members _).mpr (.inl ⟨_, member, (Forest.onAxes_iff found _).mpr ⟨rfl, ?_⟩⟩)
    exact ⟨_, ⟨_, rfl, List.mem_singleton_self _⟩, rfl⟩
  have returns : ⟨tree, .origin stamp⟩ ∈ reached := by
    refine (members _).mpr (.inr ⟨_, member, (Forest.onAxes_iff found _).mpr ⟨rfl, ?_⟩⟩)
    refine ⟨.inner [], ⟨_, rfl, by simp [Top.below]⟩, .origin stamp, ⟨_, rfl, ?_⟩, rfl⟩
    show .origin stamp ∈ (top.ancestors stamp (.inner [])).take 1
    simp [Top.ancestors, noDocument, Top.above, pathsAbove]
  refine ⟨⟨reached⟩, ?_, _, stays, _, returns, tree, own, stamp, other, rfl, rfl⟩
  rw [evaluateIn_cons start, evaluates]
  rfl

/-- The first node of a query for the root, as context of another query: the way to its children and
back leads to a second node with its key.
-/
theorem evaluate_wayBack
    : ∃ root, first? Library.core .small 3 (plain ⟨0, .inner []⟩ "/") = .ok (some root)
      ∧ ∃ set, evaluate Library.core .small 7 (plain root ". | node()/..") = .ok (.nodes set)
        ∧ ∃ left ∈ set.items, ∃ right ∈ set.items,
          left ≠ right ∧ left.key Forest.numbered = right.key Forest.numbered := by
  have root : first? Library.core .small 3 (plain ⟨0, .inner []⟩ "/")
      = .ok (some ⟨0, .origin 3⟩) := by cbv
  have back : evaluate Library.core .small 7 (plain ⟨0, .origin 3⟩ ". | node()/..")
      = .ok (.nodes ⟨[⟨0, .origin 3⟩, ⟨0, .origin 7⟩]⟩) := by cbv
  exact ⟨_, root, _, back, ⟨0, .origin 3⟩, by simp, ⟨0, .origin 7⟩, by simp, by simp, rfl⟩

end Query

end PathQuery
