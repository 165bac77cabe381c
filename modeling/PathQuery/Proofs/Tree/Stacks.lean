import Mathlib.Data.List.Basic
import Mathlib.Logic.Relation

/-! Visits of what is below a node by loops that keep a stack, without recursion. One loop goes on
with siblings from the index where it left them, the other one takes children off the end of a list
of its own. Where a node has finitely many nodes below it both come to an end, after at most two
rounds for each of them and one more, and meet them in the order of the recursion or exactly against
it.
-/

namespace PathQuery

-----------------------------------------------------------------------------------------
-- Loops
-----------------------------------------------------------------------------------------

section

variable {σ ν : Type}

/-- What a loop yields if it takes fewer rounds than the limit. A round gives the nodes that it
yields and the state that it leaves, and nothing when the loop is over.
-/
def yielded? (round? : σ → Option (List ν × σ)) : Nat → σ → Option (List ν)
  | 0, _ => none
  | limit + 1, state =>
      match round? state with
      | none => some []
      | some (nodes, next) => (yielded? round? limit next).map (nodes ++ ·)

/-- A loop takes no more than some rounds from a state on and yields some nodes. -/
def EndsWithin (round? : σ → Option (List ν × σ)) (rounds : Nat) (state : σ) (nodes : List ν)
    : Prop :=
  ∀ limit, rounds < limit → yielded? round? limit state = some nodes

variable {round? : σ → Option (List ν × σ)} {rounds bound : Nat} {state next : σ}
  {nodes more : List ν}

theorem endsWithin_of_none (isOver : round? state = none) : EndsWithin round? 0 state [] := by
  intro limit enough
  obtain ⟨limit, rfl⟩ := Nat.exists_eq_succ_of_ne_zero (Nat.ne_zero_of_lt enough)
  rw [yielded?, isOver]

namespace EndsWithin

theorem mono (ends : EndsWithin round? rounds state nodes) (least : rounds ≤ bound)
    : EndsWithin round? bound state nodes :=
  fun limit enough => ends limit (Nat.lt_of_le_of_lt least enough)

/-- One round before the others. -/
theorem round (ends : EndsWithin round? rounds next more)
    (step : round? state = some (nodes, next))
    : EndsWithin round? (rounds + 1) state (nodes ++ more) := by
  intro limit enough
  obtain ⟨limit, rfl⟩ := Nat.exists_eq_succ_of_ne_zero (Nat.ne_zero_of_lt enough)
  rw [yielded?, step]
  dsimp only
  rw [ends limit (Nat.lt_of_succ_lt_succ enough)]
  rfl

/-- One more node in the first round. -/
theorem cons {node : ν} {other : σ} (ends : EndsWithin round? rounds other nodes)
    (goesOn : (round? other).isSome)
    (step : round? state = (round? other).map (Prod.map (node :: ·) id))
    : EndsWithin round? rounds state (node :: nodes) := by
  intro limit enough
  have rest := ends limit enough
  obtain ⟨⟨first, next⟩, found⟩ := Option.isSome_iff_exists.mp goesOn
  obtain ⟨limit, rfl⟩ := Nat.exists_eq_succ_of_ne_zero (Nat.ne_zero_of_lt enough)
  rw [yielded?, found] at rest
  obtain ⟨others, later, rfl⟩ := Option.map_eq_some_iff.mp rest
  rw [yielded?, step, found]
  dsimp only [Option.map_some, Prod.map_apply, id]
  rw [later]
  rfl

end EndsWithin

end

section

variable {ν : Type} {children : ν → List ν}

-----------------------------------------------------------------------------------------
-- Preorder
-----------------------------------------------------------------------------------------

/-- The order of some nodes and all nodes below them in which each node comes right before what is
below it. There is none if some of the nodes have no end of nodes below them.
-/
inductive InPreorder (children : ν → List ν) : List ν → List ν → Prop
  | nil : InPreorder children [] []
  | cons {node : ν} {nodes inside after : List ν}
    (below : InPreorder children (children node) inside)
    (further : InPreorder children nodes after)
    : InPreorder children (node :: nodes) (node :: (inside ++ after))

namespace InPreorder

variable {nodes others order : List ν}

theorem unique (ordered : InPreorder children nodes order)
    (again : InPreorder children nodes others)
    : others = order := by
  induction ordered generalizing others with
  | nil =>
      cases again
      rfl
  | cons _ _ ihBelow ihFurther =>
      cases again with
      | cons below further => rw [ihBelow below, ihFurther further]

/-- Orders of nodes side by side are joined ones. -/
theorem exists_of_append (ordered : InPreorder children (nodes ++ others) order)
    : ∃ first last, order = first ++ last ∧ InPreorder children nodes first
      ∧ InPreorder children others last := by
  induction nodes generalizing order with
  | nil => exact ⟨[], order, rfl, .nil, ordered⟩
  | cons node nodes ih =>
      cases ordered with
      | @cons _ _ inside _ below further =>
          obtain ⟨first, last, rfl, ordered, same⟩ := ih further
          exact ⟨_, last, by simp, .cons below ordered, same⟩

/-- The nodes in the order are those that steps to children lead to. -/
theorem mem_iff (ordered : InPreorder children nodes order) (other : ν)
    : other ∈ order ↔ ∃ node ∈ nodes,
      Relation.ReflTransGen (fun upper lower => lower ∈ children upper) node other := by
  induction ordered with
  | nil => simp
  | @cons node nodes inside after _ _ ihBelow ihFurther =>
      rw [List.mem_cons, List.mem_append, ihBelow, ihFurther, List.exists_mem_cons_iff,
        Relation.ReflTransGen.cases_head_iff, eq_comm, or_assoc]

end InPreorder

-----------------------------------------------------------------------------------------
-- Forwards
-----------------------------------------------------------------------------------------

/-- Siblings with the index of the one to go on with. -/
structure Siblings (ν : Type) where
  nodes : List ν
  index : Nat

namespace Siblings

/-- Visits the siblings from an index on, up to the first one with children. Its children and then
its further siblings are to be visited next.
-/
def visit (children : ν → List ν) (siblings : List ν) : Nat → List ν → List ν × List (Siblings ν)
  | _, [] => ([], [])
  | index, node :: left =>
      if (children node).isEmpty then
        let (nodes, next) := visit children siblings (index + 1) left
        (node :: nodes, next)
      else ([node], [⟨children node, 0⟩, ⟨siblings, index + 1⟩])

/-- Takes the siblings off the top of the stack and visits some of them. -/
def round? (children : ν → List ν)
    : List (Siblings ν) → Option (List ν × List (Siblings ν))
  | [] => none
  | ⟨siblings, index⟩ :: stack =>
      let (nodes, next) := visit children siblings index (siblings.drop index)
      some (nodes, next ++ stack)

/-- The nodes below a node, if fewer rounds than the limit are enough. -/
def visitBelow? (children : ν → List ν) (limit : Nat) (node : ν) : Option (List ν) :=
  yielded? (round? children) limit [⟨children node, 0⟩]

section

variable {node : ν} {siblings left : List ν} {index : Nat} {stack : List (Siblings ν)}

theorem drop_succ_eq (isLeft : siblings.drop index = node :: left)
    : siblings.drop (index + 1) = left := by
  rw [← List.tail_drop, isLeft, List.tail_cons]

theorem round?_of_nil (isLeft : siblings.drop index = [])
    : round? children (⟨siblings, index⟩ :: stack) = some ([], stack) := by
  rw [round?, isLeft]
  rfl

/-- After a node without children its siblings are visited in the same round. -/
theorem round?_of_leaf (isLeft : siblings.drop index = node :: left) (leaf : children node = [])
    : round? children (⟨siblings, index⟩ :: stack)
      = (round? children (⟨siblings, index + 1⟩ :: stack)).map (Prod.map (node :: ·) id) := by
  rw [round?, round?, isLeft, drop_succ_eq isLeft, visit, if_pos (List.isEmpty_iff.mpr leaf)]
  rfl

theorem round?_of_parent (isLeft : siblings.drop index = node :: left)
    (isParent : children node ≠ [])
    : round? children (⟨siblings, index⟩ :: stack)
      = some ([node], ⟨children node, 0⟩ :: ⟨siblings, index + 1⟩ :: stack) := by
  rw [round?, isLeft, visit, if_neg (mt List.isEmpty_iff.mp isParent)]
  rfl

end

/-- From siblings on top of the stack the loop yields what is left of them with what is below it,
and goes on with the rest of the stack. By induction on the order of what is left.
-/
theorem endsWithin_cons {left order more siblings : List ν} {index rounds : Nat}
    {stack : List (Siblings ν)} (ordered : InPreorder children left order)
    (isLeft : siblings.drop index = left) (ends : EndsWithin (round? children) rounds stack more)
    : EndsWithin (round? children) (2 * order.length + 1 + rounds) (⟨siblings, index⟩ :: stack)
      (order ++ more) := by
  induction ordered generalizing siblings index rounds stack more with
  | nil => exact (ends.round (round?_of_nil isLeft)).mono (by rw [List.length_nil]; omega)
  | @cons node nodes inside after below further ihBelow ihFurther =>
      have later := ihFurther (drop_succ_eq isLeft) ends
      by_cases leaf : children node = []
      · rw [leaf] at below
        cases below
        refine (later.cons rfl (round?_of_leaf isLeft leaf)).mono ?_
        simp only [List.nil_append, List.length_cons]
        omega
      · have whole := (ihBelow List.drop_zero later).round (round?_of_parent isLeft leaf)
        rw [← List.append_assoc inside] at whole
        refine whole.mono ?_
        simp only [List.length_cons, List.length_append]
        omega

/-- The loop ends and yields the nodes below a node in preorder. -/
theorem visitBelow?_eq {node : ν} {order : List ν} {limit : Nat}
    (ordered : InPreorder children (children node) order) (enough : 2 * order.length + 1 < limit)
    : visitBelow? children limit node = some order := by
  have ended : EndsWithin (round? children) 0 [] [] := endsWithin_of_none rfl
  have ends := endsWithin_cons ordered List.drop_zero ended
  rw [List.append_nil] at ends
  exact ends limit enough

end Siblings

-----------------------------------------------------------------------------------------
-- Backwards
-----------------------------------------------------------------------------------------

/-- A node with those of its children that are not yet taken. -/
structure Opened (ν : Type) where
  node : ν
  left : List ν

namespace Opened

/-- Takes the last child that is left of the node on top of the stack, which is visited or opened,
or else visits that node.
-/
def round? (children : ν → List ν) : List (Opened ν) → Option (List ν × List (Opened ν))
  | [] => none
  | ⟨parent, left⟩ :: stack =>
      match left.getLast? with
      | none => some ([parent], stack)
      | some node =>
          let others := ⟨parent, left.dropLast⟩ :: stack
          if (children node).isEmpty then some ([node], others)
          else some ([], ⟨node, children node⟩ :: others)

/-- A node and the nodes below it, from the last one on, if fewer rounds than the limit are
enough.
-/
def visitBack? (children : ν → List ν) (limit : Nat) (node : ν) : Option (List ν) :=
  if (children node).isEmpty then some [node]
  else yielded? (round? children) limit [⟨node, children node⟩]

section

variable {parent node : ν} {earlier : List ν} {stack : List (Opened ν)}

theorem round?_nil (parent : ν)
    : round? children (⟨parent, []⟩ :: stack) = some ([parent], stack) := rfl

theorem round?_concat_of_leaf (leaf : children node = [])
    : round? children (⟨parent, earlier ++ [node]⟩ :: stack)
      = some ([node], ⟨parent, earlier⟩ :: stack) := by
  simp [round?, leaf]

theorem round?_concat_of_parent (isParent : children node ≠ [])
    : round? children (⟨parent, earlier ++ [node]⟩ :: stack)
      = some ([], ⟨node, children node⟩ :: ⟨parent, earlier⟩ :: stack) := by
  simp [round?, isParent]

end

/-- From a node on top of the stack the loop yields its last children with what is below them from
the end on, and goes on with those before. By induction on the order of the last children.
-/
theorem endsWithin_append {left order more earlier : List ν} {parent : ν} {rounds : Nat}
    {stack : List (Opened ν)} (ordered : InPreorder children left order)
    (ends : EndsWithin (round? children) rounds (⟨parent, earlier⟩ :: stack) more)
    : EndsWithin (round? children) (2 * order.length + rounds)
      (⟨parent, earlier ++ left⟩ :: stack) (order.reverse ++ more) := by
  induction ordered generalizing parent earlier rounds stack more with
  | nil => simpa using ends
  | @cons node nodes inside after below further ihBelow ihFurther =>
      have first : EndsWithin (round? children) (2 * inside.length + 2 + rounds)
          (⟨parent, earlier ++ [node]⟩ :: stack) (inside.reverse ++ node :: more) := by
        by_cases leaf : children node = []
        · rw [leaf] at below
          cases below
          refine (ends.round (round?_concat_of_leaf leaf)).mono ?_
          rw [List.length_nil]
          omega
        · have opened := ihBelow (ends.round (round?_nil node))
          exact (opened.round (round?_concat_of_parent leaf)).mono (by omega)
      have whole := ihFurther first
      rw [List.append_assoc, List.singleton_append] at whole
      rw [List.reverse_cons, List.reverse_append, List.append_assoc, List.append_assoc,
        List.singleton_append]
      refine whole.mono ?_
      simp only [List.length_cons, List.length_append]
      omega

/-- The loop ends and yields a node and what is below it against the preorder. -/
theorem visitBack?_eq {node : ν} {order : List ν} {limit : Nat}
    (ordered : InPreorder children (children node) order) (enough : 2 * order.length + 1 < limit)
    : visitBack? children limit node = some (node :: order).reverse := by
  rw [visitBack?]
  split
  case isTrue leaf =>
      rw [List.isEmpty_iff.mp leaf] at ordered
      cases ordered
      rfl
  case isFalse =>
      have ended : EndsWithin (round? children) 0 [] [] := endsWithin_of_none rfl
      have ends := endsWithin_append ordered (ended.round (round?_nil node))
      rw [List.nil_append, List.append_nil, ← List.reverse_cons] at ends
      exact ends limit enough

end Opened

end

end PathQuery
