import PathQuery.Tree.Traversal

/-! The walks over trees of items agree with the recursive order in which an item comes
before its content, which is the lexicographic order of their paths. What a walk has pending
only adds to what it visits, so each walk is one induction.
-/

namespace PathQuery

namespace Item

mutual

/-- An item and all items below it, each before its content, with their paths. -/
def preorder (path : List Nat) : Item → List Located
  | .element head content => (path, .element head content) :: preorderAll path 0 content
  | .text content => [(path, .text content)]
  | .comment content => [(path, .comment content)]
  | .instruction target content => [(path, .instruction target content)]

/-- The items of trees below a base that are indexed from a start. -/
def preorderAll (base : List Nat) : Nat → List Item → List Located
  | _, [] => []
  | start, item :: rest => item.preorder (base ++ [start]) ++ preorderAll base (start + 1) rest

end

/-- An item comes right before its content. -/
theorem preorder_eq (path : List Nat) (item : Item)
    : item.preorder path = (path, item) :: preorderAll path 0 item.content := by
  cases item <;> simp [preorder, preorderAll, content]

end Item

-----------------------------------------------------------------------------------------
-- Both walks
-----------------------------------------------------------------------------------------

open Item in
mutual

/-- A walk visits the first pending tree in preorder and then goes on. -/
theorem walk_cons (path : List Nat) (item : Item) (pending : List Located)
    : walk ((path, item) :: pending) = item.preorder path ++ walk pending := by
  rw [walk, preorder_eq, List.cons_append]
  cases item with
  | element head content => exact congrArg _ (walk_located path 0 content pending)
  | text | comment | instruction => rfl

/-- A walk over the trees below a base is their preorder. -/
theorem walk_located (base : List Nat) (start : Nat) (items : List Item)
    (pending : List Located)
    : walk (located base start items ++ pending)
      = preorderAll base start items ++ walk pending := by
  cases items with
  | nil => rfl
  | cons item rest =>
      rw [located, List.cons_append, walk_cons, walk_located base (start + 1) rest, preorderAll,
        List.append_assoc]

end

/-- Visits to trees join in the order opposite to that of the trees. -/
theorem Visit.trees_cons (path : List Nat) (item : Item) (pending : List Located)
    : Visit.trees ((path, item) :: pending) = Visit.trees pending ++ [.tree path item] := by
  simp [Visit.trees]

open Item in
mutual

/-- A backward walk visits a pending tree against its preorder and then goes on. -/
theorem walkBack_tree (path : List Nat) (item : Item) (pending : List Visit)
    : walkBack (.tree path item :: pending)
      = (item.preorder path).reverse ++ walkBack pending := by
  rw [walkBack, preorder_eq, List.reverse_cons, List.append_assoc, List.singleton_append,
    ← walkBack.eq_2]
  cases item with
  | element head content => exact walkBack_trees path 0 content _
  | text | comment | instruction => rfl

/-- A backward walk over the trees below a base is their preorder reversed. -/
theorem walkBack_trees (base : List Nat) (start : Nat) (items : List Item)
    (pending : List Visit)
    : walkBack (Visit.trees (located base start items) ++ pending)
      = (preorderAll base start items).reverse ++ walkBack pending := by
  cases items with
  | nil => rfl
  | cons item rest =>
      rw [located, Visit.trees_cons, List.append_assoc, walkBack_trees base (start + 1) rest,
        List.singleton_append, walkBack_tree, preorderAll, List.reverse_append,
        List.append_assoc]

end

theorem walk_located_nil (base : List Nat) (start : Nat) (items : List Item)
    : walk (located base start items) = Item.preorderAll base start items := by
  simpa [walk] using walk_located base start items []

theorem walkBack_trees_nil (base : List Nat) (start : Nat) (items : List Item)
    : walkBack (Visit.trees (located base start items))
      = (Item.preorderAll base start items).reverse := by
  simpa [walkBack] using walkBack_trees base start items []

-----------------------------------------------------------------------------------------
-- Members
-----------------------------------------------------------------------------------------

/-- Items are located below the base with the indexes from the start on. -/
theorem getElem?_located (base : List Nat) (start : Nat) (items : List Item) (index : Nat)
    : (located base start items)[index]? = items[index]?.map (base ++ [start + index], ·) := by
  induction items generalizing start index with
  | nil => rfl
  | cons item rest ih =>
      cases index with
      | zero => rfl
      | succ index => simpa [located, Nat.add_comm, Nat.add_left_comm] using ih (start + 1) index

/-- Located items are those at their indexes. -/
theorem mem_located {base : List Nat} {start : Nat} {items : List Item} {entry : Located}
    : entry ∈ located base start items
      ↔ ∃ index, entry.1 = base ++ [start + index] ∧ items[index]? = some entry.2 := by
  simp only [List.mem_iff_getElem?, getElem?_located, Option.map_eq_some_iff, Prod.ext_iff]
  constructor
  · rintro ⟨index, item, found, same, rfl⟩
    exact ⟨index, same.symm, found⟩
  · rintro ⟨index, same, found⟩
    exact ⟨index, entry.2, found, same.symm, rfl⟩

/-- The paths of located items are those with the indexes from the start on. -/
theorem mem_map_fst_located (base : List Nat) (start : Nat) (items : List Item) (path : List Nat)
    : path ∈ (located base start items).map Prod.fst
      ↔ ∃ index < items.length, path = base ++ [start + index] := by
  simp only [List.mem_iff_getElem?, List.getElem?_map, getElem?_located]
  constructor
  · rintro ⟨index, found⟩
    simp only [Option.map_map, Option.map_eq_some_iff] at found
    obtain ⟨item, inside, rfl⟩ := found
    exact ⟨index, (List.getElem?_eq_some_iff.mp inside).1, rfl⟩
  · rintro ⟨index, bound, rfl⟩
    exact ⟨index, by simp [List.getElem?_eq_getElem bound]⟩

namespace Item

/-- A path with more indexes leads on from where its beginning leads to. -/
theorem at?_append (item : Item) (path more : List Nat)
    : item.at? (path ++ more) = (item.at? path).bind (·.at? more) := by
  induction path generalizing item with
  | nil => simp [at?]
  | cons index path ih =>
      simp only [List.cons_append, at?]
      cases item.content[index]? with
      | none => rfl
      | some child => exact ih child

theorem at?_cons (item : Item) (index : Nat) (path : List Nat)
    : item.at? (index :: path) = item.content[index]?.bind (·.at? path) := by
  rw [at?]
  cases item.content[index]? <;> rfl

mutual

/-- The preorder of an item holds what the paths from it lead to. -/
theorem mem_preorder (path : List Nat) (item : Item) (entry : Located)
    : entry ∈ item.preorder path
      ↔ ∃ more, entry.1 = path ++ more ∧ item.at? more = some entry.2 := by
  have below : entry ∈ preorderAll path 0 item.content
      ↔ ∃ index more, entry.1 = path ++ (0 + index) :: more
        ∧ item.content[index]?.bind (·.at? more) = some entry.2 := by
    cases item with
    | element head content => exact mem_preorderAll path 0 content entry
    | text | comment | instruction => simp [content, preorderAll]
  rw [preorder_eq, List.mem_cons, below]
  constructor
  · rintro (rfl | ⟨index, more, same, found⟩)
    · exact ⟨[], by simp, rfl⟩
    · exact ⟨index :: more, by simpa using same, by rwa [at?_cons]⟩
  · rintro ⟨more, same, found⟩
    cases more with
    | nil =>
        left
        rw [at?, Option.some.injEq] at found
        exact Prod.ext (by simpa using same) found.symm
    | cons index more =>
        right
        exact ⟨index, more, by simpa using same, by rwa [← at?_cons]⟩

/-- The preorder of trees holds what the paths into them lead to. -/
theorem mem_preorderAll (base : List Nat) (start : Nat) (items : List Item) (entry : Located)
    : entry ∈ preorderAll base start items
      ↔ ∃ index more, entry.1 = base ++ (start + index) :: more
        ∧ items[index]?.bind (·.at? more) = some entry.2 := by
  cases items with
  | nil => simp [preorderAll]
  | cons item rest =>
      rw [preorderAll, List.mem_append, mem_preorder, mem_preorderAll base (start + 1) rest]
      constructor
      · rintro (⟨more, same, found⟩ | ⟨index, more, same, found⟩)
        · exact ⟨0, more, by simpa using same, by simpa using found⟩
        · refine ⟨index + 1, more, ?_, by simpa using found⟩
          rw [same, show start + 1 + index = start + (index + 1) by omega]
      · rintro ⟨index, more, same, found⟩
        cases index with
        | zero => exact Or.inl ⟨more, by simpa using same, by simpa using found⟩
        | succ index =>
            refine Or.inr ⟨index, more, ?_, by simpa using found⟩
            rw [same, show start + 1 + index = start + (index + 1) by omega]

end

-----------------------------------------------------------------------------------------
-- The order of paths
-----------------------------------------------------------------------------------------

/-- Paths into trees below a base come before those into trees with greater indexes. -/
theorem path_lt_path (base : List Nat) {index other : Nat} (h : index < other)
    (more further : List Nat)
    : base ++ index :: more < base ++ other :: further :=
  List.append_left_lt (List.cons_lt_cons_iff.mpr (Or.inl h))

mutual

/-- The paths of a preorder increase lexicographically. -/
theorem preorder_pairwise_lt (path : List Nat) (item : Item)
    : ((item.preorder path).map Prod.fst).Pairwise (· < ·) := by
  have below : ((preorderAll path 0 item.content).map Prod.fst).Pairwise (· < ·) := by
    cases item with
    | element head content => exact preorderAll_pairwise_lt path 0 content
    | text | comment | instruction => simp [content, preorderAll]
  rw [preorder_eq, List.map_cons, List.pairwise_cons]
  refine ⟨?_, below⟩
  intro other member
  obtain ⟨entry, inside, rfl⟩ := List.mem_map.mp member
  obtain ⟨index, more, same, -⟩ := (mem_preorderAll path 0 item.content entry).mp inside
  rw [same]
  have longer : path ++ [] < path ++ (0 + index) :: more :=
    List.append_left_lt (List.nil_lt_cons _ _)
  rwa [List.append_nil] at longer

/-- The paths of the preorder of trees increase lexicographically. -/
theorem preorderAll_pairwise_lt (base : List Nat) (start : Nat) (items : List Item)
    : ((preorderAll base start items).map Prod.fst).Pairwise (· < ·) := by
  cases items with
  | nil => simp [preorderAll]
  | cons item rest =>
      rw [preorderAll, List.map_append, List.pairwise_append]
      refine ⟨preorder_pairwise_lt _ item, preorderAll_pairwise_lt base (start + 1) rest, ?_⟩
      intro left leftMember right rightMember
      obtain ⟨first, inside, rfl⟩ := List.mem_map.mp leftMember
      obtain ⟨second, later, rfl⟩ := List.mem_map.mp rightMember
      obtain ⟨more, same, -⟩ := (mem_preorder _ item first).mp inside
      obtain ⟨index, further, other, -⟩ := (mem_preorderAll _ _ rest second).mp later
      rw [same, other, List.append_assoc, List.singleton_append]
      exact path_lt_path base (by omega) more further

end

end Item

end PathQuery
