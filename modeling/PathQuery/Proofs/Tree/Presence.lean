import PathQuery.Proofs.Tree.Preorder
import PathQuery.Tree.Axis

/-! Which places a tree has. Walks and axes give the paths that lead to items; a place below the
top is there when its parent is and its index is one of the parent's, and what an axis gives from
a place that is there is there as well.
-/

namespace PathQuery

-----------------------------------------------------------------------------------------
-- Paths that lead to items
-----------------------------------------------------------------------------------------

/-- Whether a path leads to an item in some trees. -/
def Leads (items : List Item) (index : Nat) (path : List Nat) : Prop :=
  (items[index]?.bind (·.at? path)).isSome

theorem leads_cons_iff {items : List Item} {index other : Nat} {path : List Nat}
    : Leads items index (other :: path)
      ↔ ∃ item, items[index]? = some item ∧ Leads item.content other path := by
  simp only [Leads, Option.isSome_bind, Item.at?_cons]
  cases items[index]? <;> simp

theorem leads_drop_iff {items : List Item} {count index : Nat} {path : List Nat}
    : Leads (items.drop count) index path ↔ Leads items (count + index) path := by
  rw [Leads, Leads, List.getElem?_drop]

theorem leads_take_iff {items : List Item} {count index : Nat} {path : List Nat}
    : Leads (items.take count) index path ↔ index < count ∧ Leads items index path := by
  rw [Leads, Leads, List.getElem?_take]
  split
  case isTrue inside => exact (and_iff_right inside).symm
  case isFalse outside => exact iff_of_false (by simp) fun both => outside both.1

/-- The paths of a preorder are those that lead to the items of the trees. -/
theorem mem_map_fst_preorderAll {base : List Nat} {start : Nat} {items : List Item}
    {path : List Nat}
    : path ∈ (Item.preorderAll base start items).map Prod.fst
      ↔ ∃ index more, path = base ++ (start + index) :: more ∧ Leads items index more := by
  simp only [List.mem_map, Item.mem_preorderAll, Leads, Option.isSome_iff_exists]
  constructor
  · rintro ⟨entry, ⟨index, more, same, leads⟩, rfl⟩
    exact ⟨index, more, same, entry.2, leads⟩
  · rintro ⟨index, more, rfl, item, leads⟩
    exact ⟨(_, item), ⟨index, more, rfl, leads⟩, rfl⟩

/-- The paths after one lie in the tree that it leads into, or in one of those that follow. -/
theorem mem_pathsAfter_cons {base : List Nat} {items : List Item} {first : Nat}
    {path other : List Nat}
    : other ∈ pathsAfter base items (first :: path)
      ↔ (∃ item, items[first]? = some item
          ∧ other ∈ pathsAfter (base ++ [first]) item.content path)
        ∨ ∃ index more, first < index ∧ other = base ++ index :: more ∧ Leads items index more := by
  rw [pathsAfter, List.mem_append, walk_located_nil]
  refine or_congr ?_ ?_
  · cases items[first]? <;> simp
  · simp only [mem_map_fst_preorderAll, leads_drop_iff]
    constructor
    · rintro ⟨index, more, rfl, leads⟩
      exact ⟨first + 1 + index, more, by omega, rfl, leads⟩
    · rintro ⟨index, more, later, rfl, leads⟩
      obtain ⟨offset, rfl⟩ := Nat.exists_eq_add_of_le (show first + 1 ≤ index from later)
      exact ⟨offset, more, rfl, leads⟩

/-- The paths before one lie in the tree that it leads into, or in one of those before. -/
theorem mem_pathsBefore_cons {base : List Nat} {items : List Item} {first : Nat}
    {path other : List Nat}
    : other ∈ pathsBefore base items (first :: path)
      ↔ (∃ item, items[first]? = some item
          ∧ other ∈ pathsBefore (base ++ [first]) item.content path)
        ∨ ∃ index more, index < first ∧ other = base ++ index :: more ∧ Leads items index more := by
  rw [pathsBefore, List.mem_append, walkBack_trees_nil]
  refine or_congr ?_ ?_
  · cases items[first]? <;> simp
  · simp only [List.map_reverse, List.mem_reverse, mem_map_fst_preorderAll, leads_take_iff,
      Nat.zero_add]
    constructor
    · rintro ⟨index, more, rfl, earlier, leads⟩
      exact ⟨index, more, earlier, rfl, leads⟩
    · rintro ⟨index, more, earlier, rfl, leads⟩
      exact ⟨index, more, rfl, earlier, leads⟩

/-- The paths after one are those into the trees that are greater and that it does not lead
on to.
-/
theorem mem_pathsAfter_iff {base : List Nat} {items : List Item} {path other : List Nat}
    : other ∈ pathsAfter base items path
      ↔ ∃ index more, other = base ++ index :: more ∧ Leads items index more
        ∧ path < index :: more ∧ ¬ path <+: index :: more := by
  induction path generalizing base items with
  | nil => simp [pathsAfter]
  | cons first path ih =>
      simp only [mem_pathsAfter_cons, List.cons_lt_cons_iff, List.cons_prefix_cons]
      constructor
      · rintro (⟨item, found, inside⟩ | ⟨index, more, later, rfl, leads⟩)
        · obtain ⟨index, more, rfl, leads, less, apart⟩ := ih.mp inside
          exact ⟨first, index :: more, by simp, leads_cons_iff.mpr ⟨item, found, leads⟩,
            .inr ⟨rfl, less⟩, fun both => apart both.2⟩
        · exact ⟨index, more, rfl, leads, .inl later, fun both => by omega⟩
      · rintro ⟨index, more, rfl, leads, later | ⟨rfl, less⟩, apart⟩
        · exact .inr ⟨index, more, later, rfl, leads⟩
        · left
          cases more with
          | nil => exact absurd less (List.not_lt_nil path)
          | cons next more =>
              obtain ⟨item, found, leads⟩ := leads_cons_iff.mp leads
              exact ⟨item, found, ih.mpr
                ⟨next, more, by simp, leads, less, fun leadsOn => apart ⟨rfl, leadsOn⟩⟩⟩

/-- The paths before one are those into the trees that are smaller and do not lead on to it. -/
theorem mem_pathsBefore_iff {base : List Nat} {items : List Item} {path other : List Nat}
    : other ∈ pathsBefore base items path
      ↔ ∃ index more, other = base ++ index :: more ∧ Leads items index more
        ∧ index :: more < path ∧ ¬ index :: more <+: path := by
  induction path generalizing base items with
  | nil => simp [pathsBefore]
  | cons first path ih =>
      simp only [mem_pathsBefore_cons, List.cons_lt_cons_iff, List.cons_prefix_cons]
      constructor
      · rintro (⟨item, found, inside⟩ | ⟨index, more, earlier, rfl, leads⟩)
        · obtain ⟨index, more, rfl, leads, less, apart⟩ := ih.mp inside
          exact ⟨first, index :: more, by simp, leads_cons_iff.mpr ⟨item, found, leads⟩,
            .inr ⟨rfl, less⟩, fun both => apart both.2⟩
        · exact ⟨index, more, rfl, leads, .inl earlier, fun both => by omega⟩
      · rintro ⟨index, more, rfl, leads, earlier | ⟨rfl, less⟩, apart⟩
        · exact .inr ⟨index, more, earlier, rfl, leads⟩
        · left
          cases more with
          | nil => exact absurd ⟨rfl, List.nil_prefix⟩ apart
          | cons next more =>
              obtain ⟨item, found, leads⟩ := leads_cons_iff.mp leads
              exact ⟨item, found, ih.mpr
                ⟨next, more, by simp, leads, less, fun leadsOn => apart ⟨rfl, leadsOn⟩⟩⟩

-----------------------------------------------------------------------------------------
-- Places that are there
-----------------------------------------------------------------------------------------

namespace Top

/-- Something is found at the place. -/
def Has (top : Top) (place : Place) : Prop :=
  (top.view? place).isSome

@[simp] theorem has_origin (top : Top) (stamp : Nat) : top.Has (.origin stamp) := rfl

theorem at?_cons (top : Top) (index : Nat) (path : List Nat)
    : top.at? (index :: path) = top.content[index]?.bind (·.at? path) := by
  cases top with
  | document content => rfl
  | item it => exact Item.at?_cons it index path
  | loneAttribute | loneBinding => rfl

@[simp] theorem has_top (top : Top) : top.Has (.inner []) := by
  cases top <;> rfl

theorem has_cons_iff (top : Top) (index : Nat) (path : List Nat)
    : top.Has (.inner (index :: path)) ↔ Leads top.content index path := by
  have view : top.view? (.inner (index :: path)) = (top.at? (index :: path)).map .item := by
    cases top <;> rfl
  rw [Has, view, Option.isSome_map, at?_cons, Leads]

/-- Where a path leads to an item, a place is there. -/
theorem has_of_at? {top : Top} {path : List Nat} {it : Item} (found : top.at? path = some it)
    : top.Has (.inner path) := by
  cases path with
  | nil => exact has_top top
  | cons index path => exact (has_cons_iff top index path).mpr (by rw [Leads, ← at?_cons, found]; rfl)

theorem contentAt_cons (top : Top) (index : Nat) (path : List Nat)
    : top.contentAt (index :: path)
      = ((top.content[index]?.bind (·.at? path)).map Item.content).getD [] := by
  rw [contentAt, at?_cons]

theorem contentAt_of_at? {top : Top} {path : List Nat} {item : Item}
    (found : top.at? path = some item)
    : top.contentAt path = item.content := by
  cases path with
  | nil =>
      cases top with
      | item it => rw [← Option.some.inj found]; rfl
      | document | loneAttribute | loneBinding => cases found
  | cons => rw [contentAt, found]; rfl

/-- A longer path leads on from what is right below a shorter one. -/
theorem at?_append_cons (top : Top) (path : List Nat) (index : Nat) (more : List Nat)
    : top.at? (path ++ index :: more) = (top.contentAt path)[index]?.bind (·.at? more) := by
  cases path with
  | nil => exact at?_cons top index more
  | cons first path =>
      rw [List.cons_append, at?_cons, contentAt_cons]
      cases top.content[first]? with
      | none => rfl
      | some child =>
          simp only [Option.bind_some, Item.at?_append]
          cases child.at? path with
          | none => rfl
          | some item => exact Item.at?_cons item index more

/-- A place is there when a place above it is and the rest of its path leads into the
content.
-/
theorem has_append_iff (top : Top) (path : List Nat) (index : Nat) (more : List Nat)
    : top.Has (.inner (path ++ index :: more))
      ↔ top.Has (.inner path) ∧ Leads (top.contentAt path) index more := by
  cases path with
  | nil => simp [has_cons_iff, contentAt]
  | cons first path =>
      rw [List.cons_append, has_cons_iff, has_cons_iff, Leads, Leads, Leads, ← at?_cons, ← at?_cons,
        ← List.cons_append, at?_append_cons, contentAt]
      cases top.at? (first :: path) <;> simp

/-- A place is there when its parent is and has an item at its index. -/
theorem has_concat_iff (top : Top) (path : List Nat) (index : Nat)
    : top.Has (.inner (path ++ [index]))
      ↔ top.Has (.inner path) ∧ index < (top.contentAt path).length := by
  rw [has_append_iff, Leads]
  simp [Item.at?]

theorem has_of_append {top : Top} {path : List Nat} (more : List Nat)
    (h : top.Has (.inner (path ++ more)))
    : top.Has (.inner path) := by
  cases more with
  | nil => simpa using h
  | cons index more => exact ((has_append_iff top path index more).mp h).1

theorem has_attributeAt_iff (top : Top) (path : List Nat) (index : Nat)
    : top.Has (.attributeAt path index) ↔ index < (top.attributesAt path).length := by
  simp [Has, view?]

theorem has_bindingAt_iff (top : Top) (path : List Nat) (index : Nat)
    : top.Has (.bindingAt path index) ↔ index < (top.bindingsAt path).length := by
  simp [Has, view?]

theorem has_of_attribute {top : Top} {path : List Nat} {index : Nat}
    (h : top.Has (.attributeAt path index))
    : top.Has (.inner path) := by
  rw [has_attributeAt_iff, attributesAt] at h
  cases found : top.at? path with
  | none => simp [found] at h
  | some it => exact has_of_at? found

theorem has_of_binding {top : Top} {path : List Nat} {index : Nat}
    (h : top.Has (.bindingAt path index))
    : top.Has (.inner path) := by
  rw [has_bindingAt_iff, bindingsAt, scopeAt] at h
  cases found : top.at? path with
  | none => simp [found, sortByQualifier] at h
  | some it => exact has_of_at? found

-----------------------------------------------------------------------------------------
-- Walks
-----------------------------------------------------------------------------------------

/-- The paths of located items lead to them. -/
def Locates (top : Top) (entries : List Located) : Prop :=
  ∀ entry ∈ entries, top.at? entry.1 = some entry.2

theorem locates_located (top : Top) (path : List Nat)
    : top.Locates (located path 0 (top.contentAt path)) := by
  intro entry member
  obtain ⟨index, same, found⟩ := mem_located.mp member
  rw [same, Nat.zero_add, at?_append_cons, found]
  rfl

/-- A step of a walk goes on with items that are located as well. -/
theorem Locates.step {top : Top} {path : List Nat} {item : Item} {pending : List Located}
    (locates : top.Locates ((path, item) :: pending))
    : top.Locates (located path 0 item.content ++ pending) := by
  have leads : top.at? path = some item := locates _ List.mem_cons_self
  have others := (List.forall_mem_cons.mp locates).2
  rw [← contentAt_of_at? leads]
  exact List.forall_mem_append.mpr ⟨top.locates_located path, others⟩

/-- A walk meets what paths lead to. -/
theorem Locates.walk {top : Top} {pending : List Located} (locates : top.Locates pending)
    : top.Locates (walk pending) := by
  fun_induction PathQuery.walk pending with
  | case1 => exact locates
  | case2 path item pending ih =>
      exact List.forall_mem_cons.mpr ⟨locates _ List.mem_cons_self, ih locates.step⟩

-----------------------------------------------------------------------------------------
-- What axes give
-----------------------------------------------------------------------------------------

/-- The places above one that is there are there, those of an element with its dependents. -/
theorem has_of_mem_above {top : Top} {place other : Place} (present : top.Has place)
    (member : other ∈ above place)
    : top.Has other := by
  have upwards {path : List Nat} (present : top.Has (.inner path))
      (member : other ∈ (pathsAbove path).map .inner)
      : top.Has other := by
    simp only [pathsAbove, List.map_map, List.mem_map] at member
    obtain ⟨count, -, rfl⟩ := member
    refine has_of_append (path.drop count) ?_
    rwa [List.take_append_drop]
  cases place with
  | origin stamp => simp [above] at member
  | inner path => exact upwards present member
  | attributeAt path index =>
      rcases List.mem_cons.mp member with rfl | member
      · exact has_of_attribute present
      · exact upwards (has_of_attribute present) member
  | bindingAt path index =>
      rcases List.mem_cons.mp member with rfl | member
      · exact has_of_binding present
      · exact upwards (has_of_binding present) member

/-- Located items below a place that is there are there if it has as many. -/
theorem has_of_mem_content {top : Top} {base : List Nat} {start : Nat}
    (present : top.Has (.inner base)) {items : List Item} {other : Place}
    (fits : start + items.length ≤ (top.contentAt base).length)
    (member : other ∈ (located base start items).map (fun entry => .inner entry.1))
    : top.Has other := by
  obtain ⟨entry, inside, rfl⟩ := List.mem_map.mp member
  obtain ⟨index, bound, same⟩ :=
    (mem_map_fst_located base start items entry.1).mp (List.mem_map.mpr ⟨entry, inside, rfl⟩)
  rw [same]
  exact (has_concat_iff top base _).mpr ⟨present, by omega⟩

theorem has_of_mem_below {top : Top} {place other : Place} (present : top.Has place)
    (member : other ∈ top.below place)
    : top.Has other := by
  cases place with
  | origin stamp =>
      obtain rfl := List.mem_singleton.mp member
      exact has_top top
  | inner path =>
      exact has_of_mem_content present (by simp) member
  | attributeAt | bindingAt => simp [below] at member

/-- The items below some items are those that paths into them lead to. -/
theorem mem_walk_iff {base : List Nat} {items : List Item} {other : Place}
    : other ∈ (walk (located base 0 items)).map (fun entry => .inner entry.1)
      ↔ ∃ index more, other = .inner (base ++ index :: more) ∧ Leads items index more := by
  have paths : (walk (located base 0 items)).map (fun entry => Place.inner entry.1)
      = ((Item.preorderAll base 0 items).map Prod.fst).map .inner := by
    rw [walk_located_nil, List.map_map]
    rfl
  rw [paths, List.mem_map]
  constructor
  · rintro ⟨path, member, rfl⟩
    obtain ⟨index, more, rfl, leads⟩ := mem_map_fst_preorderAll.mp member
    exact ⟨index, more, by rw [Nat.zero_add], leads⟩
  · rintro ⟨index, more, rfl, leads⟩
    exact ⟨_, mem_map_fst_preorderAll.mpr ⟨index, more, by rw [Nat.zero_add], leads⟩, rfl⟩

theorem has_of_mem_descendants {top : Top} {place other : Place} (present : top.Has place)
    (member : other ∈ top.descendants place)
    : top.Has other := by
  cases place with
  | origin stamp =>
      rcases List.mem_cons.mp member with rfl | member
      · exact has_top top
      · obtain ⟨index, more, rfl, leads⟩ := mem_walk_iff.mp member
        exact (has_cons_iff top index more).mpr leads
  | inner path =>
      obtain ⟨index, more, rfl, leads⟩ := mem_walk_iff.mp member
      exact (has_append_iff top path index more).mpr ⟨present, leads⟩
  | attributeAt | bindingAt => simp [descendants] at member

/-- A path is split into the indexes before its last one and that. -/
theorem eq_of_splitPath {path base : List Nat} {index : Nat}
    (split : splitPath path = some (base, index))
    : path = base ++ [index] := by
  induction path generalizing base with
  | nil => simp [splitPath] at split
  | cons first rest ih =>
      cases rest with
      | nil =>
          simp only [splitPath, Option.some.injEq, Prod.mk.injEq] at split
          simp [← split.1, split.2]
      | cons next rest =>
          simp only [splitPath, Option.map_eq_some_iff, Prod.exists, Prod.mk.injEq] at split
          obtain ⟨inner, last, found, rfl, rfl⟩ := split
          rw [ih found, List.cons_append]

theorem has_of_mem_siblings {top : Top} {place other : Place} (present : top.Has place)
    (member : other ∈ top.siblingsAfter place ∨ other ∈ top.siblingsBefore place)
    : top.Has other := by
  cases place with
  | inner path =>
      simp only [siblingsAfter, siblingsBefore] at member
      cases split : splitPath path with
      | none => simp [split] at member
      | some found =>
          obtain ⟨base, index⟩ := found
          obtain rfl := eq_of_splitPath split
          obtain ⟨parent, bound⟩ := (has_concat_iff top base index).mp present
          simp only [split, List.mem_reverse] at member
          rcases member with after | before
          · exact has_of_mem_content parent (by rw [List.length_drop]; omega) after
          · exact has_of_mem_content parent (by rw [List.length_take]; omega) before
  | origin | attributeAt | bindingAt => simp [siblingsAfter, siblingsBefore] at member

theorem has_of_mem_pathsAround {top : Top} {path : List Nat} {other : Place}
    (member : other ∈ (pathsAfter [] top.content path).map .inner
      ∨ other ∈ (pathsBefore [] top.content path).map .inner)
    : top.Has other := by
  rcases member with after | before
  · obtain ⟨found, inside, rfl⟩ := List.mem_map.mp after
    obtain ⟨index, more, rfl, leads, -⟩ := mem_pathsAfter_iff.mp inside
    exact (has_cons_iff top index more).mpr leads
  · obtain ⟨found, inside, rfl⟩ := List.mem_map.mp before
    obtain ⟨index, more, rfl, leads, -⟩ := mem_pathsBefore_iff.mp inside
    exact (has_cons_iff top index more).mpr leads

/-- The places after and before one that is there are there. -/
theorem has_of_mem_around {top : Top} {place other : Place} {places : List Place}
    (present : top.Has place)
    (given : top.following? place = some places ∨ top.preceding? place = some places)
    (member : other ∈ places)
    : top.Has other := by
  cases place with
  | origin stamp =>
      simp only [following?, preceding?, or_self, Option.some.injEq] at given
      simp [← given] at member
  | inner path =>
      simp only [following?, preceding?, Option.ite_none_left_eq_some, Option.some.injEq] at given
      rcases given with ⟨-, rfl⟩ | ⟨-, rfl⟩
      · exact has_of_mem_pathsAround (Or.inl member)
      · exact has_of_mem_pathsAround (Or.inr member)
  | attributeAt path index =>
      simp only [following?, preceding?, Option.some.injEq] at given
      rcases given with rfl | rfl
      · rcases List.mem_append.mp member with inside | after
        · exact has_of_mem_descendants (has_of_attribute present) inside
        · exact has_of_mem_pathsAround (Or.inl after)
      · exact has_of_mem_pathsAround (Or.inr member)
  | bindingAt path index =>
      simp only [following?, preceding?, Option.some.injEq] at given
      rcases given with rfl | rfl
      · rcases List.mem_append.mp member with inside | after
        · exact has_of_mem_descendants (has_of_binding present) inside
        · exact has_of_mem_pathsAround (Or.inl after)
      · exact has_of_mem_pathsAround (Or.inr member)

theorem has_of_mem_ancestors {top : Top} {stamp : Nat} {place other : Place}
    (present : top.Has place) (member : other ∈ top.ancestors stamp place)
    : top.Has other := by
  have upwards (member : other ∈ above place ++ if top.isDocument then [] else [.origin stamp])
      : top.Has other := by
    rcases List.mem_append.mp member with inside | root
    · exact has_of_mem_above present inside
    · split at root
      · simp at root
      · obtain rfl := List.mem_singleton.mp root
        exact has_origin top stamp
  cases place with
  | origin found => simp [ancestors] at member
  | inner | attributeAt | bindingAt => exact upwards member

theorem has_of_mem_dependents {top : Top} {place other : Place}
    (member : other ∈ top.attributePlaces place ∨ other ∈ top.bindingPlaces place)
    : top.Has other := by
  cases place with
  | inner path =>
      simp only [attributePlaces, bindingPlaces, List.mem_map, List.mem_range] at member
      rcases member with ⟨index, bound, rfl⟩ | ⟨index, bound, rfl⟩
      · exact (has_attributeAt_iff top path index).mpr bound
      · exact (has_bindingAt_iff top path index).mpr bound
  | origin | attributeAt | bindingAt => simp [attributePlaces, bindingPlaces] at member

/-- What an axis gives from a place that is there is there. -/
theorem has_of_mem_onAxis {top : Top} {stamp : Nat} {axis : Axis} {place other : Place}
    {places : List Place} (present : top.Has place)
    (given : top.onAxis? stamp axis place = some places) (member : other ∈ places)
    : top.Has other := by
  have orSelf {others : List Place} (below : ∀ found ∈ others, top.Has found)
      (member : other ∈ place :: others)
      : top.Has other := by
    rcases List.mem_cons.mp member with rfl | inside
    · exact present
    · exact below other inside
  cases axis <;> simp only [onAxis?, Option.some.injEq] at given
  case following => exact has_of_mem_around present (Or.inl given) member
  case preceding => exact has_of_mem_around present (Or.inr given) member
  all_goals subst given
  case ancestor => exact has_of_mem_ancestors present member
  case ancestorOrSelf => exact orSelf (fun _ inside => has_of_mem_ancestors present inside) member
  case attributeAxis => exact has_of_mem_dependents (Or.inl member)
  case child => exact has_of_mem_below present member
  case descendant => exact has_of_mem_descendants present member
  case descendantOrSelf =>
      exact orSelf (fun _ inside => has_of_mem_descendants present inside) member
  case followingSibling => exact has_of_mem_siblings present (Or.inl member)
  case namespaceAxis => exact has_of_mem_dependents (Or.inr member)
  case parent => exact has_of_mem_ancestors present (List.mem_of_mem_take member)
  case precedingSibling => exact has_of_mem_siblings present (Or.inr member)
  case self => exact orSelf (by simp) member

end Top

end PathQuery
