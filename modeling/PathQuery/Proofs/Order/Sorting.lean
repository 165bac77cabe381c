import Mathlib.Data.List.Lex
import Mathlib.Data.Int.Order.Basic
import PathQuery.Proofs.Order.Keys

/-! Sorting puts the distinct nodes in the order of their keys. As the keys decide the
order, any list of the same nodes with increasing keys is the sorted one.
-/

namespace PathQuery

/-- Keys are compared lexicographically. -/
theorem keyBefore_iff_lt (left right : List Int) : keyBefore left right ↔ left < right := by
  induction left generalizing right with
  | nil => cases right <;> simp [keyBefore]
  | cons head rest ih =>
      cases right with
      | nil => simp [keyBefore]
      | cons other others => simp [keyBefore, List.cons_lt_cons_iff, ih]

theorem nodup_eraseDups {α : Type} [BEq α] [LawfulBEq α] (items : List α)
    : items.eraseDups.Nodup := by
  induction items using List.reverseRecOn with
  | nil => simp
  | append_singleton items item ih =>
      rw [List.eraseDups_append]
      by_cases member : item ∈ items
      · simpa [List.removeAll, member] using ih
      · have fresh : ∀ other ∈ items, other ≠ item := fun other inside same =>
          member (same ▸ inside)
        simpa [List.removeAll, member, List.eraseDups_cons, List.nodup_append] using ⟨ih, fresh⟩

/-- Whether the key of a node is no greater than that of another. -/
def Node.notAfter (mark : Nat → Int) (left right : Node) : Bool :=
  !keyBefore (right.key mark) (left.key mark)

theorem Node.notAfter_iff (mark : Nat → Int) (left right : Node)
    : left.notAfter mark right ↔ ¬ right.key mark < left.key mark := by
  rw [notAfter, Bool.not_eq_true', ← Bool.not_eq_true, keyBefore_iff_lt]

namespace Forest

variable {forest : Forest} {known : Locations} {nodes : List Node}

/-- Sorting succeeds for nodes that are there, and gives their first occurrences by key. -/
theorem sortedBy?_eq (mark : Nat → Int) (present : ∀ node ∈ nodes, forest.Has node)
    (hold : known.HoldIn forest)
    : forest.sortedBy? mark known nodes
      = some (nodes.eraseDups.mergeSort (Node.notAfter mark)) := by
  have unique : ∀ node ∈ nodes.eraseDups, forest.Has node := fun node member =>
    present node (List.mem_eraseDups.mp member)
  rw [sortedBy?]
  split
  case isTrue few =>
      cases same : nodes.eraseDups with
      | nil => simp
      | cons node rest =>
          rw [same, List.length_cons] at few
          obtain rfl : rest = [] := List.eq_nil_of_length_eq_zero (by omega)
          simp
  case isFalse many =>
    rw [keyed?_eq mark unique hold, Option.map_some, List.map_mergeSort (s := Node.notAfter mark),
      List.map_map]
    · simp [Function.comp_def]
    · simp [Node.notAfter]

/-- Sorting gives each of the nodes once, none before one with a smaller key. -/
theorem sortedBy?_spec (mark : Nat → Int) (present : ∀ node ∈ nodes, forest.Has node)
    (hold : known.HoldIn forest)
    : ∃ sorted, forest.sortedBy? mark known nodes = some sorted
      ∧ sorted.Perm nodes.eraseDups
      ∧ sorted.Pairwise (fun left right => ¬ right.key mark < left.key mark) := by
  refine ⟨_, sortedBy?_eq mark present hold, List.mergeSort_perm _ _, ?_⟩
  have trans (first second third : Node) (lower : first.notAfter mark second)
      (upper : second.notAfter mark third)
      : first.notAfter mark third := by
    rw [Node.notAfter_iff, not_lt] at *
    exact le_trans lower upper
  have total (left right : Node) : (left.notAfter mark right || right.notAfter mark left) := by
    rw [Bool.or_eq_true, Node.notAfter_iff, Node.notAfter_iff, not_lt, not_lt]
    exact le_total _ _
  exact (List.pairwise_mergeSort trans total nodes.eraseDups).imp fun {left right} before =>
    (left.notAfter_iff mark right).mp before

/-- Nodes that are there can be sorted, which adds no others. -/
theorem exists_sorted?_subset (present : ∀ node ∈ nodes, forest.Has node)
    : ∃ sorted, forest.sorted? nodes = some sorted ∧ ∀ node ∈ sorted, node ∈ nodes := by
  obtain ⟨sorted, found, perm, -⟩ :=
    sortedBy?_spec numbered present (Locations.holdIn_nil forest)
  exact ⟨sorted, found, fun node member => List.mem_eraseDups.mp (perm.mem_iff.mp member)⟩

/-- Any list of the same nodes with increasing keys is the sorted one. -/
theorem sortedBy?_eq_of_pairwise {mark : Nat → Int} {sorted : List Node}
    (present : ∀ node ∈ nodes, forest.Has node) (hold : known.HoldIn forest)
    (members : ∀ node, node ∈ sorted ↔ node ∈ nodes)
    (increasing : sorted.Pairwise (fun left right => left.key mark < right.key mark))
    : forest.sortedBy? mark known nodes = some sorted := by
  obtain ⟨result, found, perm, ordered⟩ := sortedBy?_spec mark present hold
  have distinct : sorted.Nodup := by
    refine increasing.imp fun {left right} before same => ?_
    rw [same] at before
    exact lt_irrefl _ before
  have same : result.Perm sorted := perm.trans <|
    (List.perm_ext_iff_of_nodup (nodup_eraseDups nodes) distinct).mpr fun node => by
      rw [List.mem_eraseDups, members]
  rw [found, Option.some.injEq]
  refine same.eq_of_pairwise ?_ ordered (increasing.imp fun before => lt_asymm before)
  intro left right inside member notAfter notBefore
  have comparable : sorted.Pairwise fun left right =>
      left ≠ right → left.key mark < right.key mark ∨ right.key mark < left.key mark :=
    increasing.imp fun before _ => .inl before
  by_contra different
  exact (comparable.forall_of_forall_of_flip (fun _ _ apart => absurd rfl apart)
    (increasing.imp fun before _ => .inr before) (same.mem_iff.mp inside) member different).elim
    notBefore notAfter

end Forest

end PathQuery
