import Mathlib
import PathQuery.Function.Additional
import PathQuery.Proofs.Function.Core
import PathQuery.Proofs.Order.NodeSets

/-! Node-sets that queries give are in document order and hold no node twice, whatever
functions of a caller return in lists. Each evaluation gives a tree without document a root
of its own, so roots from other evaluations can come in through variables and functions;
they stand beside each other.
-/

namespace PathQuery

-----------------------------------------------------------------------------------------
-- What functions return
-----------------------------------------------------------------------------------------

/-- Nodes of some evaluations, and sets of them in document order. -/
def Discipline.order (forest : Forest) {stamps : Nat → Prop} {stamp : Nat} (known : stamps stamp)
    : Discipline forest stamp where
  Sound := forest.HasAmong stamps
  IsSet := forest.IsSet stamps
  Allowed _ := True
  onAxis among given member := among.onAxis known given member
  noAxis _ _ := trivial
  rootOf among := among.rootOf known
  sorted among := Forest.isSet_of_sorted among
  descendants among := Forest.isSet_descendants among known
  sublist isSet contained := isSet.sublist contained
  sound isSet := isSet.among
  unboundVariable _ := trivial
  unboundNamespace _ := trivial
  noNodes _ := trivial

/-- What a function may return: a node-set in document order, nodes of some evaluations in
any order, or anything else.
-/
def Datum.IsOrderly (forest : Forest) (stamps : Nat → Prop) : Datum → Prop
  | .node it => forest.HasAmong stamps it
  | .list items => ∀ node, .node node ∈ items → forest.HasAmong stamps node
  | .nodes set => forest.IsSet stamps set.items
  | _ => True

/-- A function that returns what it may in the contexts that an evaluation comes to. -/
def Function.IsOrderly (forest : Forest) {stamps : Nat → Prop} {stamp : Nat} (known : stamps stamp)
    (function : Function) : Prop :=
  ∀ context arguments datum, (Discipline.order forest known).Suits context →
    function.signature.Fits arguments →
    (∀ value ∈ arguments, (Discipline.order forest known).Good value) →
    function.run context arguments = .ok datum → datum.IsOrderly forest stamps

variable {forest : Forest} {stamps : Nat → Prop} {stamp : Nat}

/-- A function that returns what it may keeps to the order. -/
theorem Discipline.serves_of_isOrderly (known : stamps stamp) {function : Function}
    (orderly : function.IsOrderly forest known)
    : (order forest known).Serves function := by
  refine serves_of_admits (fun _ _ _ _ _ _ => trivial)
    fun context arguments datum suits fits good returned => ?_
  have given := orderly context arguments datum suits fits good returned
  cases datum <;> exact given

theorem Additional.isOrderly_elementChildren (known : stamps stamp)
    : Function.IsOrderly forest known ⟨.required [], elementChildren⟩ := by
  intro context arguments datum suits fits good returned
  cases arguments with
  | cons value rest => cases returned
  | nil =>
      cases returned
      intro node member
      obtain ⟨child, inside, same⟩ := List.mem_map.mp member
      cases same
      have below := List.mem_of_mem_filter inside
      obtain ⟨top, found, -⟩ := id suits.node
      rw [suits.forest_eq] at below
      have given : forest.onAxis? stamp .child context.node
          = some (forest.below context.node) := by
        rw [Forest.onAxis?, Forest.below, found]
        rfl
      exact suits.node.onAxis known given below

theorem Library.isOrderly_extended (known : stamps stamp) {name : String} {function : Function}
    (found : Library.extended.find? name = some function)
    : Library.core.find? name = some function ∨ function.IsOrderly forest known := by
  rw [find?, extended, List.find?_append, Option.map_or, Option.or_eq_some_iff] at found
  rcases found with inCore | ⟨-, added⟩
  · exact .inl inCore
  · obtain ⟨entry, looked, rfl⟩ := Option.map_eq_some_iff.mp added
    have member := List.mem_of_find?_eq_some looked
    simp only [List.mem_cons, List.not_mem_nil, or_false] at member
    right
    rcases member with rfl | rfl | rfl | rfl
    · intro context arguments datum suits fits good returned
      rcases arguments with _ | ⟨value, rest⟩ <;> cases returned
      trivial
    · intro context arguments datum suits fits good returned
      obtain _ | ⟨text, _ | _⟩ := Signature.fits_required fits
      obtain ⟨text, rfl⟩ := text.exists_string
      cases returned
      trivial
    · intro context arguments datum suits fits good returned
      obtain _ | ⟨set, _ | _⟩ := Signature.fits_required fits
      obtain ⟨set, rfl⟩ := set.exists_nodes
      cases returned
      trivial
    · exact Additional.isOrderly_elementChildren known

-----------------------------------------------------------------------------------------
-- Queries
-----------------------------------------------------------------------------------------

/-- A node-set that an expression has as its value is in document order and holds no node
twice, if that is so of the node-sets that variables and functions give. Only different
roots of one tree can be beside each other without a smaller key; there are none unless
other evaluations made them.
-/
theorem Query.evaluateIn_ordered {library : Library} {forest : Forest} {stamps : Nat → Prop}
    {stamp : Nat} {around : Surroundings} {source : String} {expression : Expression}
    {set : NodeSet}
    (read : Expression.ofText library.arityOf source = .ok expression) (known : stamps stamp)
    (nodes : ∀ node ∈ around.nodes, forest.HasWithin stamp node)
    (values : ∀ name set, (name, Value.nodes set) ∈ around.values → forest.IsSet stamps set.items)
    (functions : ∀ name function, library.find? name = some function →
      Library.core.find? name = some function ∨ function.IsOrderly forest known)
    (result : evaluateIn library forest stamp around expression.root = .ok (.nodes set))
    : set.items.Nodup
      ∧ forest.IsSet stamps set.items
      ∧ ((∀ other, stamps other → other = stamp) →
        set.items.Pairwise fun left right =>
          left.key Forest.numbered < right.key Forest.numbered) := by
  let discipline := Discipline.order forest known
  have serves (name : String) (function : Function) (found : library.find? name = some function)
      : discipline.Serves function := by
    rcases functions name function found with inCore | orderly
    · exact discipline.serves_core inCore
    · exact Discipline.serves_of_isOrderly known orderly
  have some : around.nodes ≠ [] := by
    intro none
    rw [evaluateIn, none] at result
    cases result
  have among : ∀ node ∈ around.nodes, forest.HasAmong stamps node := by
    intro node member
    obtain ⟨top, found, inside⟩ := nodes node member
    exact ⟨top, found, stamp, known, inside⟩
  have meets :=
    evaluateIn_meets discipline (Expression.wellFormed_of_ofText read) serves some among values
  rw [result] at meets
  have isSet : forest.IsSet stamps set.items := meets
  refine ⟨isSet.nodup, isSet, fun alone => ?_⟩
  have own : forest.IsSet (· = stamp) set.items :=
    ⟨fun node member => (isSet.among node member).imp alone, isSet.ordered⟩
  exact own.increasing

/-- An element as context, and the root that an earlier evaluation has given its tree as
variable.
-/
def Query.withEarlierRoot : Surroundings :=
  { nodes := [⟨0, .inner []⟩], bindings := .initial,
    values := [("x", .nodes ⟨[⟨0, .origin 3⟩]⟩)], options := .standard }

/-- The root that a query has given, bound to a variable of another query, and the root that this one
makes for the same tree: neither comes first, although the node-set of the variable is in order and
the context node is no root.
-/
theorem Query.evaluate_unordered
    : ∃ earlier, evaluate Library.core .small 3 (plain ⟨0, .inner []⟩ "/") = .ok (.nodes earlier)
      ∧ Forest.small.IsSet (· = 3) earlier.items
      ∧ ∃ set, evaluate Library.core .small 7
            { plain ⟨0, .inner []⟩ "$x | /" with values := .mapping [(some "x", .nodes earlier)] }
          = .ok (.nodes set)
        ∧ ¬ set.items.Pairwise fun left right =>
            left.key Forest.numbered < right.key Forest.numbered := by
  have root : evaluate Library.core .small 3 (plain ⟨0, .inner []⟩ "/")
      = .ok (.nodes ⟨[⟨0, .origin 3⟩]⟩) := by cbv
  have union : evaluate Library.core .small 7
      { plain ⟨0, .inner []⟩ "$x | /" with
        values := .mapping [(some "x", .nodes ⟨[⟨0, .origin 3⟩]⟩)] }
      = .ok (.nodes ⟨[⟨0, .origin 3⟩, ⟨0, .origin 7⟩]⟩) := by cbv
  exact ⟨_, root, .singleton ⟨_, rfl, Top.hasAmong_origin (by decide) rfl⟩, _, union, by decide⟩

/-- Earlier roots, elements in any order and texts in one union are in order. -/
theorem Query.evaluateIn_ordered_extended
    : ∃ expression,
      Expression.ofText Library.extended.arityOf
          "$x | element-children() | descendant::text()" = .ok expression
      ∧ ∃ set, evaluateIn Library.extended .small 7 withEarlierRoot expression.root
          = .ok (.nodes set)
        ∧ set.items.Nodup
        ∧ Forest.small.IsSet (fun stamp => stamp = 3 ∨ stamp = 7) set.items := by
  have succeeds : ((Expression.ofText Library.extended.arityOf
      "$x | element-children() | descendant::text()").toOption.bind fun expression =>
        (evaluateIn Library.extended .small 7 withEarlierRoot expression.root).toOption.bind
          Value.nodes?).isSome := by decide +kernel
  have nodes : ∀ node ∈ withEarlierRoot.nodes, Forest.small.HasWithin 7 node := by
    intro node member
    cases List.mem_singleton.mp member
    exact ⟨_, rfl, rfl, by simp⟩
  have values : ∀ name set, (name, Value.nodes set) ∈ withEarlierRoot.values →
      Forest.small.IsSet (fun stamp => stamp = 3 ∨ stamp = 7) set.items := by
    intro name set member
    cases List.mem_singleton.mp member
    exact .singleton ⟨_, rfl, Top.hasAmong_origin (by decide) (.inl rfl)⟩
  cases read : Expression.ofText Library.extended.arityOf
      "$x | element-children() | descendant::text()" with
  | error fault =>
      rw [read] at succeeds
      cases succeeds
  | ok expression =>
      simp only [read, Except.toOption, Option.bind_some] at succeeds
      cases result : evaluateIn Library.extended .small 7 withEarlierRoot expression.root with
      | error fault =>
          rw [result] at succeeds
          cases succeeds
      | ok value =>
          rw [result] at succeeds
          cases value with
          | string | number | boolean => cases succeeds
          | nodes set =>
              have ordered := evaluateIn_ordered read (.inr rfl) nodes values
                (fun _ _ => Library.isOrderly_extended _) result
              exact ⟨expression, rfl, set, result, ordered.1, ordered.2.1⟩

end PathQuery
