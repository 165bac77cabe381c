import PathQuery.Proofs.Axis.Translation

/-! A tree without document, and the document that encloses it. Paths in the document begin with the
index of the former top, and the document stands where the tree had an origin: what an evaluation
reaches in the one it reaches in the other.
-/

namespace PathQuery

-----------------------------------------------------------------------------------------
-- Longer paths
-----------------------------------------------------------------------------------------

/-- A located item, where its path has one index more at the start. -/
def Located.below (first : Nat) (entry : Located) : Located :=
  (first :: entry.1, entry.2)

theorem located_cons (first : Nat) (base : List Nat) (start : Nat) (items : List Item)
    : located (first :: base) start items
      = (located base start items).map (Located.below first) := by
  induction items generalizing start with
  | nil => rfl
  | cons item rest ih =>
      rw [located, located, List.map_cons, ih]
      rfl

namespace Item

mutual

theorem preorder_cons (first : Nat) (path : List Nat) (item : Item)
    : item.preorder (first :: path) = (item.preorder path).map (Located.below first) := by
  cases item with
  | element head content =>
      rw [preorder, preorder, List.map_cons, preorderAll_cons first path 0 content]
      rfl
  | text | comment | instruction =>
      simp only [preorder]
      rfl
termination_by sizeOf item

theorem preorderAll_cons (first : Nat) (base : List Nat) (start : Nat) (items : List Item)
    : preorderAll (first :: base) start items
      = (preorderAll base start items).map (Located.below first) := by
  cases items with
  | nil => simp [preorderAll]
  | cons item rest =>
      rw [preorderAll, preorderAll, List.map_append, ← preorderAll_cons first base (start + 1) rest,
        ← preorder_cons first (base ++ [start]) item, List.cons_append]
termination_by sizeOf items

end

end Item

theorem walk_located_cons (first : Nat) (base : List Nat) (start : Nat) (items : List Item)
    : walk (located (first :: base) start items)
      = (walk (located base start items)).map (Located.below first) := by
  rw [walk_located_nil, walk_located_nil, Item.preorderAll_cons]

theorem walkBack_located_cons (first : Nat) (base : List Nat) (start : Nat) (items : List Item)
    : walkBack (Visit.trees (located (first :: base) start items))
      = (walkBack (Visit.trees (located base start items))).map (Located.below first) := by
  rw [walkBack_trees_nil, walkBack_trees_nil, Item.preorderAll_cons, List.map_reverse]

theorem pathsAfter_cons (first : Nat) (base : List Nat) (items : List Item) (path : List Nat)
    : pathsAfter (first :: base) items path
      = (pathsAfter base items path).map (first :: ·) := by
  induction path generalizing base items with
  | nil => rfl
  | cons index path ih =>
      rw [pathsAfter, pathsAfter, List.map_append, walk_located_cons, List.map_map, List.map_map]
      congr 1
      cases items[index]? with
      | none => rfl
      | some item => exact ih (base ++ [index]) item.content

theorem pathsBefore_cons (first : Nat) (base : List Nat) (items : List Item) (path : List Nat)
    : pathsBefore (first :: base) items path
      = (pathsBefore base items path).map (first :: ·) := by
  induction path generalizing base items with
  | nil => rfl
  | cons index path ih =>
      rw [pathsBefore, pathsBefore, List.map_append, walkBack_located_cons, List.map_map,
        List.map_map]
      congr 1
      cases items[index]? with
      | none => rfl
      | some item => exact ih (base ++ [index]) item.content

theorem pathsAbove_cons (first : Nat) (path : List Nat)
    : pathsAbove (first :: path) = (pathsAbove path).map (first :: ·) ++ [[]] := by
  simp [pathsAbove, List.range_succ_eq_map, List.map_map, Function.comp_def]

theorem splitPath_concat (path : List Nat) (index : Nat)
    : splitPath (path ++ [index]) = some (path, index) := by
  induction path with
  | nil => rfl
  | cons first path ih =>
      cases path with
      | nil => rfl
      | cons second path =>
          rw [List.cons_append, List.cons_append, splitPath, ← List.cons_append, ih]
          rfl

-----------------------------------------------------------------------------------------
-- Enclosed places
-----------------------------------------------------------------------------------------

/-- A place of a tree without document as a place of the document that encloses it. The document
stands for the origin.
-/
def Place.enclosed : Place → Place
  | .origin _ => .inner []
  | .inner path => .inner (0 :: path)
  | .attributeAt path index => .attributeAt (0 :: path) index
  | .bindingAt path index => .bindingAt (0 :: path) index

theorem Place.key_enclosed {place : Place} (noOrigin : ∀ own, place ≠ .origin own)
    : ∃ rest, place.key = 0 :: rest ∧ place.enclosed.key = 0 :: 2 :: 0 :: rest := by
  cases place with
  | origin own => exact absurd rfl (noOrigin own)
  | inner | attributeAt | bindingAt => exact ⟨_, rfl, rfl⟩

/-- Counterparts stand in the same order. -/
theorem Place.key_lt_iff_enclosed (place another : Place)
    : place.key < another.key ↔ place.enclosed.key < another.enclosed.key := by
  by_cases first : ∃ own, place = .origin own
  · obtain ⟨own, rfl⟩ := first
    by_cases second : ∃ other, another = .origin other
    · obtain ⟨other, rfl⟩ := second
      exact iff_of_false (lt_irrefl _) (lt_irrefl _)
    · obtain ⟨rest, key, image⟩ := key_enclosed fun other same => second ⟨other, same⟩
      rw [key, image]
      simp [Place.key, enclosed, pathKey, List.cons_lt_cons_iff]
  · obtain ⟨rest, key, image⟩ := key_enclosed fun own same => first ⟨own, same⟩
    rw [key, image]
    by_cases second : ∃ other, another = .origin other
    · obtain ⟨other, rfl⟩ := second
      simp [Place.key, enclosed, pathKey, List.cons_lt_cons_iff, -not_lt]
    · obtain ⟨more, key, image⟩ := key_enclosed fun other same => second ⟨other, same⟩
      rw [key, image]
      simp

theorem Place.map_inner_enclosed (paths : List (List Nat))
    : (paths.map (0 :: ·)).map Place.inner = (paths.map Place.inner).map Place.enclosed := by
  rw [List.map_map, List.map_map]
  rfl

namespace Top

variable (item : Item) (path : List Nat)

@[simp] theorem at?_enclosed : (document [item]).at? (0 :: path) = (Top.item item).at? path := rfl

@[simp] theorem headsAlong_enclosed
    : (document [item]).headsAlong (0 :: path) = (Top.item item).headsAlong path := rfl

@[simp] theorem scopeAt_enclosed
    : (document [item]).scopeAt (0 :: path) = (Top.item item).scopeAt path := rfl

@[simp] theorem bindingsAt_enclosed
    : (document [item]).bindingsAt (0 :: path) = (Top.item item).bindingsAt path := rfl

@[simp] theorem attributesAt_enclosed
    : (document [item]).attributesAt (0 :: path) = (Top.item item).attributesAt path := rfl

@[simp] theorem contentAt_enclosed
    : (document [item]).contentAt (0 :: path) = (Top.item item).contentAt path := by
  cases path <;> rfl

theorem below_enclosed (place : Place)
    : (document [item]).below place.enclosed
      = ((Top.item item).below place).map Place.enclosed := by
  cases place with
  | origin => rfl
  | inner path =>
      simp only [below, Place.enclosed, contentAt_enclosed, located_cons, List.map_map]
      rfl
  | attributeAt | bindingAt => rfl

theorem ancestors_enclosed (stamp further : Nat) (place : Place)
    : (document [item]).ancestors further place.enclosed
      = ((Top.item item).ancestors stamp place).map Place.enclosed := by
  cases place with
  | origin => rfl
  | inner | attributeAt | bindingAt =>
      simp [ancestors, above, isDocument, Place.enclosed, pathsAbove_cons, Function.comp_def]

theorem descendants_enclosed (place : Place)
    : (document [item]).descendants place.enclosed
      = ((Top.item item).descendants place).map Place.enclosed := by
  cases place with
  | origin =>
      simp only [descendants, Place.enclosed, located, contentAt, content, List.nil_append]
      rw [walk, List.append_nil, walk_located_cons, List.map_cons, List.map_cons, List.map_map,
        List.map_map]
      rfl
  | inner path =>
      simp only [descendants, Place.enclosed, contentAt_enclosed, walk_located_cons, List.map_map]
      rfl
  | attributeAt | bindingAt => rfl

theorem siblingsAfter_enclosed (place : Place)
    : (document [item]).siblingsAfter place.enclosed
      = ((Top.item item).siblingsAfter place).map Place.enclosed := by
  cases place with
  | inner path =>
      cases path using List.reverseRecOn with
      | nil => rfl
      | append_singleton path index =>
          simp only [siblingsAfter, Place.enclosed, ← List.cons_append, splitPath_concat,
            contentAt_enclosed, located_cons, List.map_map]
          rfl
  | origin | attributeAt | bindingAt => rfl

theorem siblingsBefore_enclosed (place : Place)
    : (document [item]).siblingsBefore place.enclosed
      = ((Top.item item).siblingsBefore place).map Place.enclosed := by
  cases place with
  | inner path =>
      cases path using List.reverseRecOn with
      | nil => rfl
      | append_singleton path index =>
          simp only [siblingsBefore, Place.enclosed, ← List.cons_append, splitPath_concat,
            contentAt_enclosed, located_cons, List.map_reverse, List.map_map]
          rfl
  | origin | attributeAt | bindingAt => rfl

theorem pathsAfter_enclosed
    : pathsAfter [] (document [item]).content (0 :: path)
      = (pathsAfter [] (Top.item item).content path).map (0 :: ·) := by
  rw [← pathsAfter_cons]
  simp [pathsAfter, content, walk, located]

theorem pathsBefore_enclosed
    : pathsBefore [] (document [item]).content (0 :: path)
      = (pathsBefore [] (Top.item item).content path).map (0 :: ·) := by
  rw [← pathsBefore_cons]
  simp [pathsBefore, content, walkBack, located, Visit.trees]

theorem following?_enclosed (place : Place)
    : (document [item]).following? place.enclosed
      = ((Top.item item).following? place).map (List.map Place.enclosed) := by
  cases place with
  | origin => rfl
  | inner path =>
      simp only [following?, Place.enclosed, pathsAfter_enclosed, isLone, Bool.and_false,
        Bool.false_eq_true, if_false, Place.map_inner_enclosed, Option.map_some]
  | attributeAt path | bindingAt path =>
      have below := descendants_enclosed item (.inner path)
      simp only [Place.enclosed] at below
      simp only [following?, Place.enclosed, pathsAfter_enclosed, Place.map_inner_enclosed, below,
        Option.map_some, List.map_append]

theorem preceding?_enclosed (place : Place)
    : (document [item]).preceding? place.enclosed
      = ((Top.item item).preceding? place).map (List.map Place.enclosed) := by
  cases place with
  | origin => rfl
  | inner path | attributeAt path | bindingAt path =>
      simp [preceding?, Place.enclosed, pathsBefore_enclosed, isLone]

/-- From the counterpart of a place, an axis leads to the counterparts of what it leads to from
the place.
-/
theorem onAxis?_enclosed (stamp further : Nat) (axis : Axis) (place : Place)
    : (document [item]).onAxis? further axis place.enclosed
      = ((Top.item item).onAxis? stamp axis place).map (List.map Place.enclosed) := by
  cases axis with
  | ancestor => exact congrArg some (ancestors_enclosed item stamp further place)
  | ancestorOrSelf =>
      exact congrArg (some <| place.enclosed :: ·) (ancestors_enclosed item stamp further place)
  | attributeAxis | namespaceAxis =>
      cases place with
      | origin =>
          simp [onAxis?, attributePlaces, bindingPlaces, Place.enclosed, attributesAt, bindingsAt,
            scopeAt, at?, sortByQualifier]
      | inner | attributeAt | bindingAt =>
          simp [onAxis?, attributePlaces, bindingPlaces, Place.enclosed]
  | child => exact congrArg some (below_enclosed item place)
  | descendant => exact congrArg some (descendants_enclosed item place)
  | descendantOrSelf =>
      exact congrArg (some <| place.enclosed :: ·) (descendants_enclosed item place)
  | following => exact following?_enclosed item place
  | followingSibling => exact congrArg some (siblingsAfter_enclosed item place)
  | parent =>
      simp only [onAxis?, ancestors_enclosed item stamp further, Option.map_some, List.map_take]
  | preceding => exact preceding?_enclosed item place
  | precedingSibling => exact congrArg some (siblingsBefore_enclosed item place)
  | self => rfl

/-- Where the text items below some items stand does not matter to their texts. -/
theorem textBelow_singleton (head : Head) (content : List Item)
    : View.textBelow [.element head content] = View.textBelow content := by
  simp only [View.textBelow, located, List.nil_append]
  rw [walk, List.append_nil, walk_located_cons]
  simp only [List.filterMap_cons, Item.text?, List.filterMap_map]
  rfl

/-- A tree of an item translates into the document that encloses it if the item has the text below
the document as its string-value.
-/
theorem translation_of_text (same : View.textBelow [item] = View.itemText item)
    (stamp further : Nat)
    : (Top.item item).Translation (document [item]) (· = stamp) stamp further Place.enclosed where
  known := rfl
  injective place another inside also same := by
    obtain ⟨_, rfl, -, root⟩ := inside
    obtain ⟨_, rfl, -, rootAlso⟩ := also
    cases place <;> cases another <;>
      simp only [Place.enclosed, Place.inner.injEq, Place.attributeAt.injEq, Place.bindingAt.injEq,
        List.cons.injEq, reduceCtorEq, true_and] at same
    case origin.origin first second => rw [(root first rfl).1, (rootAlso second rfl).1]
    all_goals simp [same]
  key_lt place another _ _ := Place.key_lt_iff_enclosed place another
  onAxis axis place _ := onAxis?_enclosed _ stamp further axis place
  rootOf place _ := by cases place <;> rfl
  view place inside := by
    obtain ⟨_, -, present, -⟩ := inside
    obtain ⟨view, found⟩ := Option.isSome_iff_exists.mp present
    cases place with
    | origin => exact ⟨_, _, rfl, rfl, .inr ⟨_, _, rfl, rfl, same.symm⟩⟩
    | inner path => exact ⟨view, view, found, by rw [← found]; cases path <;> rfl, .inl rfl⟩
    | attributeAt | bindingAt => exact ⟨view, view, found, found, .inl rfl⟩
  scope place _ := by cases place <;> rfl

end Top

end PathQuery
