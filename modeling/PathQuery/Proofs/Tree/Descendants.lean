import PathQuery.Proofs.Tree.Collected
import PathQuery.Proofs.Tree.Stacks

/-! What is below the nodes of a forest. The descendants of a node are in preorder, so that visits
with a stack give them, and the string-value of a document or an element is made of the texts among
them, which is what its children add to it one by one.
-/

namespace PathQuery

-----------------------------------------------------------------------------------------
-- Nodes of a forest
-----------------------------------------------------------------------------------------

namespace Top

variable {top : Top} {path : List Nat}

theorem backwards_eq (top : Top) (place : Place)
    : top.backwards place = (place :: top.descendants place).reverse := by
  cases place with
  | origin stamp => simp [backwards, descendants, walkBack_trees_nil, walk_located_nil]
  | inner path => simp [backwards, descendants, walkBack_trees_nil, walk_located_nil]
  | attributeAt | bindingAt => rfl

/-- The string-value of a document or an element is the text below it. -/
theorem stringValue_of_isParent {view : View} (found : top.view? (.inner path) = some view)
    (isParent : view.kind = .document ∨ view.kind = .element)
    : view.stringValue = View.textBelow (top.contentAt path) := by
  have ofItem (found : (top.at? path).map View.item = some view)
      : view.stringValue = View.textBelow (top.contentAt path) := by
    obtain ⟨item, leads, rfl⟩ := Option.map_eq_some_iff.mp found
    rw [contentAt_of_at? leads]
    cases item with
    | element => rfl
    | text | comment | instruction => simp [View.kind] at isParent
  cases path with
  | cons => cases top <;> exact ofItem found
  | nil =>
      cases top with
      | item => exact ofItem found
      | document => cases found; rfl
      | loneAttribute | loneBinding => cases found; simp [View.kind] at isParent

end Top

namespace Forest

variable {forest : Forest} {tree : Nat} {top : Top}

/-- The node of a located item. -/
def nodeOf (tree : Nat) (entry : Located) : Node :=
  ⟨tree, .inner entry.1⟩

theorem below_inner (planted : forest[tree]? = some top) (path : List Nat)
    : forest.below ⟨tree, .inner path⟩
      = (located path 0 (top.contentAt path)).map (nodeOf tree) := by
  simp only [below, planted, Top.below, nodesAt, List.map_map]
  rfl

theorem descendants_inner (planted : forest[tree]? = some top) (path : List Nat)
    : forest.descendants ⟨tree, .inner path⟩
      = (walk (located path 0 (top.contentAt path))).map (nodeOf tree) := by
  simp only [descendants, planted, Top.descendants, nodesAt, List.map_map]
  rfl

/-- A walk visits pending trees in preorder. -/
theorem inPreorder_walk (planted : forest[tree]? = some top) (pending : List Located)
    (locates : top.Locates pending)
    : InPreorder forest.below (pending.map (nodeOf tree)) ((walk pending).map (nodeOf tree)) := by
  fun_induction walk pending with
  | case1 => exact .nil
  | case2 path item pending ih =>
      have content := Top.contentAt_of_at? (locates _ List.mem_cons_self)
      have ordered := ih locates.step
      rw [List.map_append] at ordered
      obtain ⟨inside, after, same, below, further⟩ := ordered.exists_of_append
      rw [List.map_cons, List.map_cons, same]
      refine .cons ?_ further
      rwa [nodeOf, below_inner planted, content]

/-- What is below a node is in preorder. -/
theorem inPreorder_descendants (forest : Forest) (node : Node)
    : InPreorder forest.below (forest.below node) (forest.descendants node) := by
  obtain ⟨tree, place⟩ := node
  cases planted : forest[tree]? with
  | none =>
      simp only [below, descendants, planted]
      exact .nil
  | some top =>
      have inner (path : List Nat)
          : InPreorder forest.below (forest.below ⟨tree, .inner path⟩)
            (forest.descendants ⟨tree, .inner path⟩) := by
        rw [below_inner planted, descendants_inner planted]
        exact inPreorder_walk planted _ (top.locates_located path)
      cases place with
      | inner path => exact inner path
      | origin stamp =>
          have whole := InPreorder.cons (inner []) .nil
          rw [List.append_nil] at whole
          simpa [below, descendants, planted, Top.below, Top.descendants, nodesAt, Top.contentAt]
            using whole
      | attributeAt | bindingAt =>
          simp only [below, descendants, planted]
          exact .nil

-----------------------------------------------------------------------------------------
-- String-values
-----------------------------------------------------------------------------------------

/-- The characters of a node that is a text. -/
def text? (forest : Forest) (node : Node) : Option String :=
  match forest.view? node with
  | some (.item it) => it.text?
  | _ => none

/-- What a child adds to the string-value of its parent: the characters of a text, the string-value
of an element.
-/
def childText (forest : Forest) (child : Node) : String :=
  match forest.view? child with
  | some (.item (.text content)) => content
  | some (.item (.element _ _)) => forest.stringValue child
  | _ => ""

theorem join_map_childText (planted : forest[tree]? = some top) {entries : List Located}
    (locates : top.Locates entries)
    : String.join ((entries.map (nodeOf tree)).map forest.childText)
      = View.textBelow (entries.map Prod.snd) := by
  induction entries with
  | nil => exact View.textBelow_nil.symm
  | cons entry entries ih =>
      obtain ⟨leads, others⟩ := List.forall_mem_cons.mp locates
      have seen := view?_of_at? planted leads
      have adds : forest.childText (nodeOf tree entry)
          = entry.2.text?.getD "" ++ View.textBelow entry.2.content := by
        rw [childText, stringValue, nodeOf, seen]
        cases entry.2 with
        | element head content => exact String.empty_append.symm
        | text content => simp [Item.text?, Item.content]
        | comment | instruction => simp [Item.text?, Item.content]
      rw [List.map_cons, List.map_cons, List.map_cons, String.join_cons, ih others, adds,
        View.textBelow_cons, String.append_assoc]

theorem join_filterMap_text? (planted : forest[tree]? = some top) (path : List Nat)
    : String.join ((forest.descendants ⟨tree, .inner path⟩).filterMap forest.text?)
      = View.textBelow (top.contentAt path) := by
  rw [View.textBelow_eq, descendants_inner planted, List.filterMap_map]
  have same : ∀ entry ∈ walk (located path 0 (top.contentAt path)),
      (forest.text? ∘ nodeOf tree) entry = entry.2.text? := by
    intro entry member
    have seen := view?_of_at? planted ((top.locates_located path).walk entry member)
    rw [Function.comp_apply, text?, nodeOf, seen]
  rw [List.filterMap_congr same, filterMap_walk, map_snd_located]

/-- The string-value of a document or an element is made of the characters of all texts below it,
and also of what its children add to it.
-/
theorem stringValue_eq_join {node : Node} {view : View} (found : forest.view? node = some view)
    (isParent : view.kind = .document ∨ view.kind = .element)
    : forest.stringValue node = String.join ((forest.descendants node).filterMap forest.text?)
      ∧ forest.stringValue node = String.join ((forest.below node).map forest.childText) := by
  obtain ⟨tree, place⟩ := node
  obtain ⟨top, planted, seen⟩ := Option.bind_eq_some_iff.mp found
  cases place with
  | inner path =>
      have value : forest.stringValue ⟨tree, .inner path⟩
          = View.textBelow (top.contentAt path) := by
        rw [stringValue, found]
        exact Top.stringValue_of_isParent seen isParent
      rw [value, join_filterMap_text? planted, below_inner planted,
        join_map_childText planted (top.locates_located path), map_snd_located]
      exact ⟨rfl, rfl⟩
  | origin =>
      cases seen
      simp [View.kind] at isParent
  | attributeAt | bindingAt =>
      obtain ⟨it, -, rfl⟩ := Option.map_eq_some_iff.mp seen
      simp [View.kind] at isParent

end Forest

-----------------------------------------------------------------------------------------
-- The loops on trees
-----------------------------------------------------------------------------------------

/-- On any node of any tree both loops come to an end, after at most two rounds for each node below
it and one more. The one that goes on with siblings yields the nodes below the node in preorder, the
one that takes children yields the same and then the node itself, backwards, and these are the nodes
that lookups and axes take. So the string-value of a document or an element consists of what its
children add to it.
-/
theorem Forest.loops_inPreorder (forest : Forest) (node : Node)
    : (∀ order, InPreorder forest.below (forest.below node) order
        ↔ order = forest.descendants node)
      ∧ (∀ other, other ∈ forest.descendants node
        ↔ Relation.TransGen (fun upper lower => lower ∈ forest.below upper) node other)
      ∧ (∀ limit, 2 * (forest.descendants node).length + 1 < limit →
        Siblings.visitBelow? forest.below limit node = some (forest.descendants node)
        ∧ Opened.visitBack? forest.below limit node
          = some (node :: forest.descendants node).reverse)
      ∧ (∀ top, forest[node.tree]? = some top →
        nodesAt node.tree (top.backwards node.place) = (node :: forest.descendants node).reverse)
      ∧ ∀ view, forest.view? node = some view → view.kind = .document ∨ view.kind = .element →
        forest.stringValue node = String.join ((forest.descendants node).filterMap forest.text?)
        ∧ forest.stringValue node = String.join ((forest.below node).map forest.childText) := by
  have ordered := forest.inPreorder_descendants node
  refine ⟨fun order => ⟨ordered.unique, ?_⟩, fun other => ?_, fun limit enough => ?_, ?_, ?_⟩
  · rintro rfl
    exact ordered
  · rw [ordered.mem_iff, Relation.TransGen.head'_iff]
  · exact ⟨Siblings.visitBelow?_eq ordered enough, Opened.visitBack?_eq ordered enough⟩
  · intro top planted
    simp [Top.backwards_eq, descendants, planted, nodesAt]
  · exact fun view => stringValue_eq_join

/-- A document with an element that has a text and a comment, and a text after it. -/
example :
    let forest : Forest :=
      [.document [.element ⟨⟨none, "a"⟩, none, [], []⟩ [.text "t", .comment "c"], .text "u"]]
    Siblings.visitBelow? forest.below 10 ⟨0, .inner []⟩
        = some [⟨0, .inner [0]⟩, ⟨0, .inner [0, 0]⟩, ⟨0, .inner [0, 1]⟩, ⟨0, .inner [1]⟩]
      ∧ Opened.visitBack? forest.below 10 ⟨0, .inner [0]⟩
        = some [⟨0, .inner [0, 1]⟩, ⟨0, .inner [0, 0]⟩, ⟨0, .inner [0]⟩] := by
  decide

end PathQuery
