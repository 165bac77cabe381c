import PathQuery.Tree.Basic

/-! Walks over trees of items in document order and backwards. What is still to be visited is kept
in a list, so that no results are joined on the way; a walk ends because that list holds fewer
items with each step.
-/

namespace PathQuery

/-- An item with the path that leads to it. -/
abbrev Located :=
  List Nat × Item

/-- Items with their paths below a base, indexed from a start. -/
def located (base : List Nat) : Nat → List Item → List Located
  | _, [] => []
  | start, item :: rest => (base ++ [start], item) :: located base (start + 1) rest

/-- The number of items in located trees. -/
def locatedSize (pending : List Located) : Nat :=
  Item.sizeAll (pending.map Prod.snd)

/-- Locating items keeps them. -/
theorem map_snd_located (base : List Nat) (start : Nat) (items : List Item)
    : (located base start items).map Prod.snd = items := by
  induction items generalizing start with
  | nil => rfl
  | cons item rest ih => simp [located, ih]

/-- Sizes add up over concatenation. -/
theorem sizeAll_append (left right : List Item)
    : Item.sizeAll (left ++ right) = Item.sizeAll left + Item.sizeAll right := by
  induction left with
  | nil => simp [Item.sizeAll]
  | cons item rest ih => simp [Item.sizeAll, ih, Nat.add_assoc]

/-- An item has one more item than its content. -/
theorem sizeAll_content_lt (item : Item) : Item.sizeAll item.content < item.size := by
  cases item <;> simp [Item.content, Item.size, Item.sizeAll]

/-- Visits the pending trees in document order: each item before its content, and that before
the items that follow.
-/
def walk : List Located → List Located
  | [] => []
  | (path, item) :: pending =>
      (path, item) :: walk (located path 0 item.content ++ pending)
termination_by pending => locatedSize pending
decreasing_by
  simp only [locatedSize, List.map_append, map_snd_located, sizeAll_append, List.map_cons,
    Item.sizeAll]
  have := sizeAll_content_lt item
  omega

/-- What a backward walk has still to visit: a whole tree, or only the item at its top, whose
content was visited before.
-/
inductive Visit where
  | tree (path : List Nat) (item : Item)
  | itemOnly (path : List Nat) (item : Item)

namespace Visit

/-- The number of steps that a visit takes. -/
def cost : Visit → Nat
  | .tree _ item => 2 * item.size
  | .itemOnly _ _ => 1

/-- The number of steps that some visits take. -/
def costAll : List Visit → Nat
  | [] => 0
  | visit :: rest => visit.cost + costAll rest

/-- Costs add up over concatenation. -/
theorem costAll_append (left right : List Visit)
    : costAll (left ++ right) = costAll left + costAll right := by
  induction left with
  | nil => simp [costAll]
  | cons visit rest ih => simp [costAll, ih, Nat.add_assoc]

/-- The visits to whole trees, the last of them first. -/
def trees (pending : List Located) : List Visit :=
  pending.reverse.map (fun entry => .tree entry.1 entry.2)

/-- Visits to trees cost two steps for each item, in any order. -/
theorem costAll_trees (pending : List Located)
    : costAll (trees pending) = 2 * locatedSize pending := by
  induction pending with
  | nil => rfl
  | cons entry rest ih =>
      simp only [trees] at ih ⊢
      simp only [List.reverse_cons, List.map_append, costAll_append, ih, List.map_cons,
        List.map_nil, costAll, cost, locatedSize, Item.sizeAll]
      omega

end Visit

/-- Visits the pending trees against document order: the content of an item from its end, and
then the item.
-/
def walkBack : List Visit → List Located
  | [] => []
  | .itemOnly path item :: pending => (path, item) :: walkBack pending
  | .tree path item :: pending =>
      walkBack (Visit.trees (located path 0 item.content) ++ .itemOnly path item :: pending)
termination_by pending => Visit.costAll pending
decreasing_by
  · simp [Visit.costAll, Visit.cost]
  · have size := sizeAll_content_lt item
    simp only [Visit.costAll_append, Visit.costAll_trees, Visit.costAll, Visit.cost, locatedSize,
      map_snd_located]
    omega

end PathQuery
