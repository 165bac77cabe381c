import PathQuery.Proofs.Tree.Presence
import PathQuery.Proofs.Xml.Namespaces

/-! What is collected from the items of trees, at all depths and in document order. Walks collect
what a recursion over the items collects, whatever that is, so that string-values and the heads of
elements can be found by the recursion.
-/

namespace PathQuery

-----------------------------------------------------------------------------------------
-- Collecting
-----------------------------------------------------------------------------------------

mutual

/-- An item and all items below it in document order. -/
def Item.all : Item → List Item
  | .element head content => .element head content :: allOf content
  | .text content => [.text content]
  | .comment content => [.comment content]
  | .instruction target content => [.instruction target content]

/-- Several items and all items below them. -/
def allOf : List Item → List Item
  | [] => []
  | item :: rest => item.all ++ allOf rest

end

theorem Item.all_eq (item : Item) : item.all = item :: allOf item.content := by
  cases item <;> rfl

theorem allOf_append (left right : List Item)
    : allOf (left ++ right) = allOf left ++ allOf right := by
  induction left with
  | nil => rfl
  | cons item rest ih => rw [List.cons_append, allOf, allOf, ih, List.append_assoc]

theorem map_snd_walk (pending : List Located)
    : (walk pending).map Prod.snd = allOf (pending.map Prod.snd) := by
  fun_induction walk pending with
  | case1 => rfl
  | case2 path item pending ih =>
      rw [List.map_cons, ih, List.map_append, map_snd_located, allOf_append, List.map_cons, allOf,
        Item.all_eq, List.cons_append]

section

variable {β : Type} {pick : Item → Option β}

/-- What is picked from the items of several trees. -/
def collected (pick : Item → Option β) (items : List Item) : List β :=
  (allOf items).filterMap pick

theorem collected_append (left right : List Item)
    : collected pick (left ++ right) = collected pick left ++ collected pick right := by
  rw [collected, allOf_append, List.filterMap_append]
  rfl

theorem collected_cons (item : Item) (rest : List Item)
    : collected pick (item :: rest)
      = (pick item).toList ++ (collected pick item.content ++ collected pick rest) := by
  rw [collected, allOf, Item.all_eq, List.cons_append, List.filterMap_cons, List.filterMap_append]
  cases pick item <;> rfl

/-- Where only elements are picked from, only elements matter. -/
theorem collected_filter (only : ∀ item, item.head? = none → pick item = none) (items : List Item)
    : collected pick (items.filter (·.head?.isSome)) = collected pick items := by
  induction items with
  | nil => rfl
  | cons item rest ih =>
      cases item with
      | element head content =>
          rw [List.filter_cons_of_pos rfl, collected_cons, collected_cons, ih]
      | text | comment | instruction =>
          rw [List.filter_cons_of_neg (by simp [Item.head?]), collected_cons, only _ rfl, ih]
          rfl

theorem filterMap_walk (pick : Item → Option β) (pending : List Located)
    : (walk pending).filterMap (fun entry => pick entry.2)
      = collected pick (pending.map Prod.snd) := by
  rw [collected, ← map_snd_walk, List.filterMap_map]
  rfl

end

theorem map_snd_elementsIn (pending : List Located)
    : (elementsIn pending).map Prod.snd = collected Item.head? (pending.map Prod.snd) := by
  rw [← filterMap_walk, elementsIn, List.map_filterMap]
  refine List.filterMap_congr ?_
  intro entry _
  rw [Option.map_map]
  exact Option.map_id'

-----------------------------------------------------------------------------------------
-- Texts
-----------------------------------------------------------------------------------------

namespace View

theorem textBelow_eq (content : List Item)
    : textBelow content = String.join (collected Item.text? content) := by
  rw [textBelow, filterMap_walk, map_snd_located]

theorem textBelow_append (left right : List Item)
    : textBelow (left ++ right) = textBelow left ++ textBelow right := by
  rw [textBelow_eq, collected_append, String.join_append, ← textBelow_eq, ← textBelow_eq]

@[simp] theorem textBelow_nil : textBelow [] = "" := by
  rw [textBelow_eq]
  rfl

theorem textBelow_cons (item : Item) (rest : List Item)
    : textBelow (item :: rest)
      = item.text?.getD "" ++ (textBelow item.content ++ textBelow rest) := by
  rw [textBelow_eq, collected_cons, String.join_append, String.join_append, ← textBelow_eq,
    ← textBelow_eq]
  cases item.text? <;> simp

theorem textBelow_cons_text (content : String) (rest : List Item)
    : textBelow (.text content :: rest) = content ++ textBelow rest := by
  have inside : textBelow (Item.text content).content = "" := textBelow_nil
  rw [textBelow_cons, inside, String.empty_append]
  rfl

end View

/-- The text in an item that is an element. -/
def Item.elementText? : Item → Option String
  | .element _ content => some (View.textBelow content)
  | _ => none

theorem Item.elementText?_of_head? (item : Item) (noElement : item.head? = none)
    : item.elementText? = none := by
  cases item with
  | element head content => cases noElement
  | text | comment | instruction => rfl

-----------------------------------------------------------------------------------------
-- String-values
-----------------------------------------------------------------------------------------

namespace Top

/-- The trees that a walk through a whole tree begins with. -/
def pending : Top → List Located
  | .document content => located [] 0 content
  | .item it => [([], it)]
  | _ => []

/-- The outermost items of a tree. -/
def items : Top → List Item
  | .document content => content
  | .item it => [it]
  | _ => []

theorem map_snd_pending (top : Top) : top.pending.map Prod.snd = top.items := by
  cases top with
  | document content => exact map_snd_located [] 0 content
  | item | loneAttribute | loneBinding => rfl

theorem elements_eq (top : Top) : top.elements = elementsIn top.pending := by
  cases top with
  | document | item => rfl
  | loneAttribute | loneBinding => exact elementsIn_nil.symm

theorem locates_pending (top : Top) : top.Locates top.pending := by
  cases top with
  | document content => exact (document content).locates_located []
  | item it => exact List.forall_mem_singleton.mpr rfl
  | loneAttribute | loneBinding => exact List.forall_mem_nil _

end Top

/-- An item that a path leads to is seen there. -/
theorem Forest.view?_of_at? {forest : Forest} {tree : Nat} {top : Top} {path : List Nat}
    {item : Item} (planted : forest[tree]? = some top) (found : top.at? path = some item)
    : forest.view? ⟨tree, .inner path⟩ = some (.item item) := by
  rw [Forest.view?, planted]
  cases top <;> cases path <;> simp_all [Top.view?, Top.at?]

/-- The string-values of a tree's elements are the texts in them. -/
theorem Forest.map_stringValue_elements {forest : Forest} {tree : Nat} {top : Top}
    (planted : forest[tree]? = some top)
    : top.elements.map (fun element => forest.stringValue ⟨tree, .inner element.1⟩)
      = collected Item.elementText? top.items := by
  rw [← Top.map_snd_pending, ← filterMap_walk, Top.elements_eq, elementsIn, List.map_filterMap]
  refine List.filterMap_congr ?_
  intro entry visited
  have found := top.locates_pending.walk entry visited
  obtain ⟨path, item⟩ := entry
  cases item with
  | text | comment | instruction => rfl
  | element head content =>
      simp [Item.head?, Item.elementText?, Forest.stringValue, Forest.view?_of_at? planted found,
        View.stringValue, View.itemText]

end PathQuery
