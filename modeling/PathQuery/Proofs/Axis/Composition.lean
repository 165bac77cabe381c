import PathQuery.Proofs.Axis.Enclosure
import PathQuery.Proofs.Axis.Partition

/-! Axes that amount to other ones taken one after the other. Below a place is what is a child of it
or of something below it; what comes after an item is in the tree of a sibling that comes after it
or after something above it; and from what hangs on an element, the way goes over the element.
-/

namespace PathQuery

-----------------------------------------------------------------------------------------
-- Paths that part
-----------------------------------------------------------------------------------------

/-- Two paths have a common beginning, after which they go on with indexes in some relation. -/
def PartsBy (related : Nat → Nat → Prop) (path other : List Nat) : Prop :=
  ∃ base index next, base ++ [index] <+: path ∧ base ++ [next] <+: other ∧ related index next

theorem partsBy_gt_iff {path other : List Nat}
    : PartsBy (fun index next => next < index) path other ↔ PartsBy (· < ·) other path := by
  constructor <;> exact fun ⟨base, index, next, leads, leadsOther, holds⟩ =>
    ⟨base, next, index, leadsOther, leads, holds⟩

theorem partsBy_cons_iff {first next : Nat} {path other : List Nat}
    : PartsBy (· < ·) (first :: path) (next :: other)
      ↔ first < next ∨ first = next ∧ PartsBy (· < ·) path other := by
  constructor
  · rintro ⟨base, index, later, leads, leadsOther, less⟩
    cases base with
    | nil =>
        obtain ⟨rfl, -⟩ := List.cons_prefix_cons.mp leads
        obtain ⟨rfl, -⟩ := List.cons_prefix_cons.mp leadsOther
        exact .inl less
    | cons common base =>
        obtain ⟨rfl, goesOn⟩ := List.cons_prefix_cons.mp leads
        obtain ⟨rfl, goesOnToo⟩ := List.cons_prefix_cons.mp leadsOther
        exact .inr ⟨rfl, base, index, later, goesOn, goesOnToo, less⟩
  · rintro (less | ⟨rfl, base, index, later, leads, leadsOther, less⟩)
    · exact ⟨[], first, next, by simp, by simp, less⟩
    · exact ⟨first :: base, index, later, by simpa using leads, by simpa using leadsOther, less⟩

/-- Paths part if one comes after the other without going on from it. -/
theorem partsBy_lt_iff {path other : List Nat}
    : PartsBy (· < ·) path other ↔ path < other ∧ ¬ path <+: other := by
  induction path generalizing other with
  | nil => simp [PartsBy]
  | cons first path ih =>
      cases other with
      | nil => simp [PartsBy]
      | cons next other =>
          rw [partsBy_cons_iff, ih, List.cons_lt_cons_iff, List.cons_prefix_cons]
          constructor
          · rintro (less | ⟨rfl, less, apart⟩)
            · exact ⟨.inl less, fun both => Nat.ne_of_lt less both.1⟩
            · exact ⟨.inr ⟨rfl, less⟩, fun both => apart both.2⟩
          · rintro ⟨less | ⟨rfl, less⟩, apart⟩
            · exact .inl less
            · exact .inr ⟨rfl, less, fun leads => apart ⟨rfl, leads⟩⟩

-----------------------------------------------------------------------------------------
-- Items and their siblings
-----------------------------------------------------------------------------------------

namespace Top

variable {top : Top} {stamp : Nat} {place other : Place} {path : List Nat} {axis : Axis}

theorem mem_itemsAfter_iff_partsBy
    : other ∈ (pathsAfter [] top.content path).map .inner
      ↔ ∃ lower, other = .inner lower ∧ top.Has other ∧ PartsBy (· < ·) path lower := by
  rw [mem_itemsAfter_iff]
  cases other with
  | inner lower =>
      simp only [Place.key_inner_lt_iff, Place.IsAbove, Place.isAttached, Place.inner.injEq,
        exists_eq_left', partsBy_lt_iff]
      constructor
      · rintro ⟨present, -, less, apart⟩
        exact ⟨present, less, fun leads => apart ⟨leads, ne_of_lt less⟩⟩
      · rintro ⟨present, less, apart⟩
        exact ⟨present, by simp, less, fun above => apart above.1⟩
  | origin => simp [Place.not_lt_origin]
  | attributeAt | bindingAt => simp [Place.isAttached]

theorem mem_itemsBefore_iff_partsBy
    : other ∈ (pathsBefore [] top.content path).map .inner
      ↔ ∃ upper, other = .inner upper ∧ top.Has other ∧ PartsBy (· > ·) path upper := by
  rw [mem_itemsBefore_iff]
  cases other with
  | inner upper =>
      simp only [Place.key_inner_lt_iff, Place.IsAbove, Place.isAttached, Place.inner.injEq,
        exists_eq_left', gt_iff_lt, partsBy_gt_iff, partsBy_lt_iff]
      constructor
      · rintro ⟨present, -, less, apart⟩
        exact ⟨present, less, fun leads => apart ⟨leads, ne_of_lt less⟩⟩
      · rintro ⟨present, less, apart⟩
        exact ⟨present, by simp, less, fun above => apart above.1⟩
  | origin => simp [Place.IsAbove]
  | attributeAt | bindingAt => simp [Place.isAttached]

/-- An axis leads from an item to siblings whose indexes are in some relation to its own. -/
def GivesSiblings (top : Top) (siblings : Place → List Place) (related : Nat → Nat → Prop) : Prop :=
  (∀ path other, top.Has (.inner path) →
    (other ∈ siblings (.inner path)
      ↔ ∃ base index next, path = base ++ [index] ∧ other = .inner (base ++ [next])
        ∧ related index next ∧ top.Has other))
  ∧ ∀ place, (∀ path, place ≠ .inner path) → siblings place = []

theorem mem_located_iff {base : List Nat} {start : Nat} {items : List Item}
    : other ∈ (located base start items).map (fun entry => Place.inner entry.1)
      ↔ ∃ index < items.length, other = .inner (base ++ [start + index]) := by
  have shape : (located base start items).map (fun entry => Place.inner entry.1)
      = ((located base start items).map Prod.fst).map Place.inner :=
    (List.map_map ..).symm
  rw [shape, List.mem_map]
  simp only [mem_map_fst_located]
  constructor
  · rintro ⟨_, ⟨index, bound, rfl⟩, rfl⟩
    exact ⟨index, bound, rfl⟩
  · rintro ⟨index, bound, rfl⟩
    exact ⟨_, ⟨index, bound, rfl⟩, rfl⟩

/-- The siblings after an item have greater indexes. -/
theorem givesSiblings_after (top : Top) : top.GivesSiblings top.siblingsAfter (· < ·) := by
  refine ⟨fun path other present => ?_, fun place apart => ?_⟩
  · rcases List.eq_nil_or_concat' path with rfl | ⟨base, index, rfl⟩
    · simp [siblingsAfter, splitPath]
    · obtain ⟨parent, -⟩ := (has_concat_iff top base index).mp present
      rw [siblingsAfter, splitPath_concat, mem_located_iff, List.length_drop]
      constructor
      · rintro ⟨more, fewer, rfl⟩
        exact ⟨base, index, index + 1 + more, rfl, rfl, by omega,
          (has_concat_iff ..).mpr ⟨parent, by omega⟩⟩
      · rintro ⟨common, own, next, same, rfl, less, there⟩
        obtain ⟨rfl, ⟨⟩⟩ := List.append_inj' same rfl
        have inside := ((has_concat_iff ..).mp there).2
        exact ⟨next - (index + 1), by omega, by rw [Nat.add_sub_cancel' less]⟩
  · cases place with
    | inner path => exact absurd rfl (apart path)
    | origin | attributeAt | bindingAt => rfl

/-- The siblings before an item have smaller indexes. -/
theorem givesSiblings_before (top : Top) : top.GivesSiblings top.siblingsBefore (· > ·) := by
  refine ⟨fun path other present => ?_, fun place apart => ?_⟩
  · rcases List.eq_nil_or_concat' path with rfl | ⟨base, index, rfl⟩
    · simp [siblingsBefore, splitPath]
    · obtain ⟨parent, bound⟩ := (has_concat_iff top base index).mp present
      rw [siblingsBefore, splitPath_concat, List.mem_reverse, mem_located_iff, List.length_take]
      constructor
      · rintro ⟨more, fewer, rfl⟩
        exact ⟨base, index, 0 + more, rfl, rfl, by omega,
          (has_concat_iff ..).mpr ⟨parent, by omega⟩⟩
      · rintro ⟨common, own, next, same, rfl, less, there⟩
        obtain ⟨rfl, ⟨⟩⟩ := List.append_inj' same rfl
        exact ⟨next, by omega, by rw [Nat.zero_add]⟩
  · cases place with
    | inner path => exact absurd rfl (apart path)
    | origin | attributeAt | bindingAt => rfl

/-- An item and what is above it within the tree are the beginnings of its path. -/
theorem inner_mem_ancestorsOrSelf_iff (present : top.Has (.inner path)) {upper : List Nat}
    : .inner upper ∈ .inner path :: top.ancestors stamp (.inner path) ↔ upper <+: path := by
  rw [List.mem_cons, mem_ancestors_iff present, Place.inner.injEq, Place.IsAbove]
  constructor
  · rintro (rfl | ⟨-, leads, -⟩)
    · exact List.prefix_refl _
    · exact leads
  · intro leads
    by_cases same : upper = path
    · exact .inl same
    · obtain ⟨more, rfl⟩ := leads
      exact .inr ⟨⟨has_of_append more present, by simp⟩, List.prefix_append _ _, same⟩

/-- An item and what is below it are those with paths that go on from its own. -/
theorem mem_descendantsOrSelf_iff (present : top.Has (.inner path))
    : other ∈ .inner path :: top.descendants (.inner path)
      ↔ ∃ lower, other = .inner lower ∧ top.Has other ∧ path <+: lower := by
  rw [List.mem_cons, mem_descendants_iff present]
  constructor
  · rintro (rfl | ⟨there, proper, above⟩)
    · exact ⟨path, rfl, present, List.prefix_refl _⟩
    · cases other with
      | inner lower => exact ⟨lower, rfl, there, above.1⟩
      | origin => exact above.elim
      | attributeAt | bindingAt => exact absurd rfl proper
  · rintro ⟨lower, rfl, there, leads⟩
    by_cases same : path = lower
    · exact .inl (by rw [same])
    · exact .inr ⟨there, by simp [Place.isAttached], leads, same⟩

/-- The items whose paths part from one are in the trees of siblings of the item or of something
above it.
-/
theorem exists_partsBy_iff {siblings : Place → List Place} {related : Nat → Nat → Prop}
    (gives : top.GivesSiblings siblings related) (stamp : Nat) (present : top.Has (.inner path))
    : (∃ lower, other = .inner lower ∧ top.Has other ∧ PartsBy related path lower)
      ↔ ∃ upper ∈ .inner path :: top.ancestors stamp (.inner path),
        ∃ sibling ∈ siblings upper, other ∈ sibling :: top.descendants sibling := by
  obtain ⟨ofItem, none⟩ := gives
  constructor
  · rintro ⟨lower, rfl, there, base, index, next, leads, ⟨more, rfl⟩, holds⟩
    have upperThere : top.Has (.inner (base ++ [index])) := by
      obtain ⟨rest, rfl⟩ := leads
      exact has_of_append rest present
    have siblingThere : top.Has (.inner (base ++ [next])) := has_of_append more there
    refine ⟨_, (inner_mem_ancestorsOrSelf_iff present).mpr leads, .inner (base ++ [next]),
      (ofItem _ _ upperThere).mpr ⟨base, index, next, rfl, rfl, holds, siblingThere⟩, ?_⟩
    exact (mem_descendantsOrSelf_iff siblingThere).mpr ⟨_, rfl, there, List.prefix_append _ _⟩
  · rintro ⟨upper, isUpper, sibling, isSibling, below⟩
    cases upper with
    | inner upper =>
        have leads := (inner_mem_ancestorsOrSelf_iff present).mp isUpper
        have upperThere : top.Has (.inner upper) := by
          obtain ⟨rest, rfl⟩ := leads
          exact has_of_append rest present
        obtain ⟨base, index, next, rfl, rfl, holds, siblingThere⟩ :=
          (ofItem _ _ upperThere).mp isSibling
        obtain ⟨lower, rfl, there, goesOn⟩ := (mem_descendantsOrSelf_iff siblingThere).mp below
        exact ⟨lower, rfl, there, base, index, next, leads, goesOn, holds⟩
    | origin | attributeAt | bindingAt =>
        rw [none _ (by simp)] at isSibling
        exact absurd isSibling List.not_mem_nil

-----------------------------------------------------------------------------------------
-- Several axes
-----------------------------------------------------------------------------------------

/-- A place is on an axis from another one. -/
def OnAxis (top : Top) (stamp : Nat) (axis : Axis) (place other : Place) : Prop :=
  ∃ places, top.onAxis? stamp axis place = some places ∧ other ∈ places

/-- A place is reached from another one over axes, one after the other. -/
def OnAxes (top : Top) (stamp : Nat) : List Axis → Place → Place → Prop
  | [], place, other => place = other
  | axis :: rest, place, other =>
      ∃ next, top.OnAxis stamp axis place next ∧ top.OnAxes stamp rest next other

theorem onAxes_descendant_iff (present : top.Has place)
    : top.OnAxes stamp [.descendant] place other
      ↔ top.OnAxes stamp [.descendantOrSelf, .child] place other := by
  simp only [OnAxes, OnAxis, onAxis?, Option.some.injEq, exists_eq_left', exists_eq_right]
  rw [mem_descendants_iff_transGen present, Relation.TransGen.tail'_iff]
  refine exists_congr fun next => and_congr_left fun _ => ?_
  rw [List.mem_cons, mem_descendants_iff_transGen present,
    Relation.reflTransGen_iff_eq_or_transGen]

theorem onAxes_ancestorOrSelf_iff
    : top.OnAxes stamp [.ancestorOrSelf] place other
      ↔ top.OnAxes stamp [.ancestor] place other ∨ top.OnAxes stamp [.self] place other := by
  simp only [OnAxes, OnAxis, onAxis?, Option.some.injEq, exists_eq_left', exists_eq_right,
    List.mem_cons, List.not_mem_nil, or_false]
  exact or_comm

section Siblings

variable (noLone : ¬ top.isLone) (present : top.Has place) (proper : ¬ place.isAttached)
include noLone present proper

/-- What follows is in trees of siblings after the place or after something above it. -/
theorem onAxes_following_iff
    : top.OnAxes stamp [.following] place other
      ↔ top.OnAxes stamp [.ancestorOrSelf, .followingSibling, .descendantOrSelf] place other := by
  simp only [OnAxes, OnAxis, onAxis?, Option.some.injEq, exists_eq_left', exists_eq_right]
  cases place with
  | inner path =>
      have given : top.following? (.inner path)
          = some ((pathsAfter [] top.content path).map .inner) := by
        simp [following?, noLone]
      rw [given]
      simp only [Option.some.injEq, exists_eq_left']
      rw [mem_itemsAfter_iff_partsBy]
      exact exists_partsBy_iff top.givesSiblings_after stamp present
  | origin => simp [following?, ancestors, siblingsAfter]
  | attributeAt | bindingAt => exact absurd rfl proper

/-- What precedes is in trees of siblings before the place or before something above it. -/
theorem onAxes_preceding_iff
    : top.OnAxes stamp [.preceding] place other
      ↔ top.OnAxes stamp [.ancestorOrSelf, .precedingSibling, .descendantOrSelf] place other := by
  simp only [OnAxes, OnAxis, onAxis?, Option.some.injEq, exists_eq_left', exists_eq_right]
  cases place with
  | inner path =>
      have given : top.preceding? (.inner path)
          = some ((pathsBefore [] top.content path).map .inner) := by
        simp [preceding?, noLone]
      rw [given]
      simp only [Option.some.injEq, exists_eq_left']
      rw [mem_itemsBefore_iff_partsBy]
      exact exists_partsBy_iff top.givesSiblings_before stamp present
  | origin => simp [preceding?, ancestors, siblingsBefore]
  | attributeAt | bindingAt => exact absurd rfl proper

end Siblings

section Attached

variable (noLone : ¬ top.isLone) (attached : place.isAttached)
include noLone attached

/-- What follows something that hangs on an element is below the element or follows it. -/
theorem onAxes_following_attached_iff
    : top.OnAxes stamp [.following] place other
      ↔ top.OnAxes stamp [.parent, .descendant] place other
        ∨ top.OnAxes stamp [.parent, .following] place other := by
  cases place with
  | attributeAt path | bindingAt path =>
      simp [OnAxes, OnAxis, onAxis?, ancestors, above, following?, noLone]
  | inner | origin => cases attached

/-- What precedes something that hangs on an element precedes the element. -/
theorem onAxes_preceding_attached_iff
    : top.OnAxes stamp [.preceding] place other
      ↔ top.OnAxes stamp [.parent, .preceding] place other := by
  cases place with
  | attributeAt path | bindingAt path =>
      simp [OnAxes, OnAxis, onAxis?, ancestors, above, preceding?, noLone]
  | inner | origin => cases attached

end Attached

end Top

-----------------------------------------------------------------------------------------
-- Nodes
-----------------------------------------------------------------------------------------

namespace Forest

variable {forest : Forest} {stamp : Nat} {node other : Node} {top : Top}

/-- A node is reached from another one over axes, one after the other. -/
def OnAxes (forest : Forest) (stamp : Nat) : List Axis → Node → Node → Prop
  | [], node, other => node = other
  | axis :: rest, node, other =>
      ∃ next, forest.OnAxis stamp axis node next ∧ forest.OnAxes stamp rest next other

theorem onAxis_iff_place {axis : Axis} (found : forest[node.tree]? = some top)
    : forest.OnAxis stamp axis node other
      ↔ other.tree = node.tree ∧ top.OnAxis stamp axis node.place other.place := by
  constructor
  · rintro ⟨nodes, given, member⟩
    obtain ⟨places, reached, rfl⟩ := exists_places found given
    obtain ⟨place, inside, rfl⟩ := List.mem_map.mp member
    exact ⟨rfl, places, reached, inside⟩
  · rintro ⟨sameTree, places, reached, inside⟩
    exact (onAxis_iff found reached).mpr ⟨sameTree, inside⟩

/-- Axes lead to the places of the tree that they lead to there. -/
theorem onAxes_iff (found : forest[node.tree]? = some top) (axes : List Axis)
    : forest.OnAxes stamp axes node other
      ↔ other.tree = node.tree ∧ top.OnAxes stamp axes node.place other.place := by
  induction axes generalizing node with
  | nil =>
      obtain ⟨tree, place⟩ := node
      obtain ⟨otherTree, otherPlace⟩ := other
      simp [OnAxes, Top.OnAxes, eq_comm]
  | cons axis rest ih =>
      constructor
      · rintro ⟨next, step, further⟩
        obtain ⟨sameTree, inside⟩ := (onAxis_iff_place found).mp step
        obtain ⟨sameAgain, beyond⟩ := (ih (sameTree.symm ▸ found)).mp further
        exact ⟨sameAgain.trans sameTree, next.place, inside, beyond⟩
      · rintro ⟨sameTree, place, inside, beyond⟩
        have further := (@ih ⟨node.tree, place⟩ found).mpr ⟨sameTree, beyond⟩
        exact ⟨⟨node.tree, place⟩, (onAxis_iff_place found).mpr ⟨rfl, inside⟩, further⟩

/-- Axes stay in the tree. -/
theorem HasProper.onAxes {axes : List Axis} (proper : forest.HasProper node)
    (leads : forest.OnAxes stamp axes node other)
    : forest.HasProper other := by
  induction axes generalizing node with
  | nil => exact leads ▸ proper
  | cons axis rest ih =>
      obtain ⟨next, ⟨nodes, given, member⟩, further⟩ := leads
      exact ih (proper.onAxis given member) further

section Proper

variable (proper : forest.HasProper node)
include proper

theorem HasProper.onAxes_descendant_iff
    : forest.OnAxes stamp [.descendant] node other
      ↔ forest.OnAxes stamp [.descendantOrSelf, .child] node other := by
  obtain ⟨top, found, -, present⟩ := proper
  rw [onAxes_iff found, onAxes_iff found]
  exact and_congr_right fun _ => Top.onAxes_descendant_iff present

theorem HasProper.onAxes_ancestorOrSelf_iff
    : forest.OnAxes stamp [.ancestorOrSelf] node other
      ↔ forest.OnAxes stamp [.ancestor] node other ∨ forest.OnAxes stamp [.self] node other := by
  obtain ⟨top, found, -⟩ := proper
  rw [onAxes_iff found, onAxes_iff found, onAxes_iff found, ← and_or_left]
  exact and_congr_right fun _ => Top.onAxes_ancestorOrSelf_iff

theorem HasProper.onAxes_following_iff (unattached : ¬ node.place.isAttached)
    : forest.OnAxes stamp [.following] node other
      ↔ forest.OnAxes stamp [.ancestorOrSelf, .followingSibling, .descendantOrSelf] node other := by
  obtain ⟨top, found, noLone, present⟩ := proper
  rw [onAxes_iff found, onAxes_iff found]
  exact and_congr_right fun _ => Top.onAxes_following_iff noLone present unattached

theorem HasProper.onAxes_preceding_iff (unattached : ¬ node.place.isAttached)
    : forest.OnAxes stamp [.preceding] node other
      ↔ forest.OnAxes stamp [.ancestorOrSelf, .precedingSibling, .descendantOrSelf] node other := by
  obtain ⟨top, found, noLone, present⟩ := proper
  rw [onAxes_iff found, onAxes_iff found]
  exact and_congr_right fun _ => Top.onAxes_preceding_iff noLone present unattached

theorem HasProper.onAxes_following_attached_iff (attached : node.place.isAttached)
    : forest.OnAxes stamp [.following] node other
      ↔ forest.OnAxes stamp [.parent, .descendant] node other
        ∨ forest.OnAxes stamp [.parent, .following] node other := by
  obtain ⟨top, found, noLone, -⟩ := proper
  rw [onAxes_iff found, onAxes_iff found, onAxes_iff found, ← and_or_left]
  exact and_congr_right fun _ => Top.onAxes_following_attached_iff noLone attached

theorem HasProper.onAxes_preceding_attached_iff (attached : node.place.isAttached)
    : forest.OnAxes stamp [.preceding] node other
      ↔ forest.OnAxes stamp [.parent, .preceding] node other := by
  obtain ⟨top, found, noLone, -⟩ := proper
  rw [onAxes_iff found, onAxes_iff found]
  exact and_congr_right fun _ => Top.onAxes_preceding_attached_iff noLone attached

end Proper

end Forest

end PathQuery
