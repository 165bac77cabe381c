import PathQuery.Construction.Session
import PathQuery.Proofs.Construction.Histories
import PathQuery.Proofs.Tree.Declarations

/-! The trees of made nodes. The way up from a node, from parent to parent, is the way back along the
path that leads to it from the top of its tree; so what is in scope of an element goes by the
declarations on that way.
-/

namespace PathQuery

variable {store : Store} {entry : Entry} {id parent : Nat} {head : Head}

-----------------------------------------------------------------------------------------
-- Items
-----------------------------------------------------------------------------------------

/-- Of values that all are there, each one is at its place. -/
theorem getElem?_filterMap_of_isSome {α β : Type} {f : α → Option β} {items : List α}
    (there : ∀ item ∈ items, (f item).isSome) (index : Nat)
    : (items.filterMap f)[index]? = items[index]?.bind f := by
  induction items generalizing index with
  | nil => rfl
  | cons first rest ih =>
      obtain ⟨here, others⟩ := List.forall_mem_cons.mp there
      obtain ⟨value, found⟩ := Option.isSome_iff_exists.mp here
      rw [List.filterMap_cons_some found]
      cases index with
      | zero => exact found.symm
      | succ index => exact ih others index

namespace Store

theorem isSome_item?_of_isChild (found : store.get? id = some entry) (isChild : entry.label.isChild)
    : (store.item? id).isSome := by
  obtain ⟨label, attachment, children, attributes⟩ := entry
  rw [item?, found]
  cases label with
  | document | attributeLabel | binding => cases isChild
  | element | text | comment | instruction => rfl

theorem item?_bind_head? (store : Store) (id : Nat)
    : (store.item? id).bind Item.head? = store.head? id := by
  rw [item?, head?]
  cases store.get? id with
  | none => rfl
  | some entry =>
      obtain ⟨label, attachment, children, attributes⟩ := entry
      cases label <;> rfl

/-- A made node with the children that it has. -/
theorem Sound.item?_content (sound : store.Sound) (found : store.get? id = some entry)
    {item : Item} (made : store.item? id = some item)
    : item.content = entry.children.filterMap store.item? := by
  obtain ⟨label, attachment, children, attributes⟩ := entry
  have parts := (sound.proper found).holder
  rw [item?, found] at made
  cases label with
  | document | attributeLabel | binding => cases made
  | element =>
      cases made
      refine List.filterMap_congr fun child member => ?_
      exact if_pos (sound.lt_of_contains ⟨_, found, List.mem_append_left _ member⟩)
  | text | comment | instruction =>
      obtain ⟨empty, -⟩ := parts (by simp [Label.IsHolder])
      obtain ⟨rfl, -⟩ := List.append_eq_nil_iff.mp empty
      cases made
      rfl

theorem Sound.isChild (sound : store.Sound) {holder : Entry}
    (around : store.get? parent = some holder) (member : id ∈ holder.children)
    : ∃ child, store.get? id = some child ∧ child.label.isChild := by
  obtain ⟨label, known, isChild⟩ := (sound.proper around).children id member
  obtain ⟨child, there, rfl⟩ := Option.map_eq_some_iff.mp known
  exact ⟨child, there, isChild⟩

/-- Children are where they are listed. -/
theorem Sound.getElem?_children (sound : store.Sound) (found : store.get? parent = some entry)
    (index : Nat)
    : (entry.children.filterMap store.item?)[index]? = entry.children[index]?.bind store.item? := by
  refine getElem?_filterMap_of_isSome (fun id member => ?_) index
  obtain ⟨child, there, isChild⟩ := sound.isChild found member
  exact isSome_item?_of_isChild there isChild

/-- What is in another node without being an attribute is a child of a node that can have some. -/
theorem Sound.mem_children (sound : store.Sound) (inside : store.parent? id = some parent)
    (found : store.get? id = some entry) (noAttribute : ∀ it, entry.label ≠ .attributeLabel it)
    : ∃ holder, store.get? parent = some holder ∧ holder.label.IsHolder
      ∧ id ∈ holder.children := by
  obtain ⟨holder, around, part⟩ := (sound.contains_iff parent id).mpr inside
  have proper := sound.proper around
  refine ⟨holder, around, ?_, (List.mem_append.mp part).resolve_right fun member => ?_⟩
  · refine Classical.byContradiction fun noHolder => ?_
    rw [(proper.holder noHolder).1] at part
    cases part
  · obtain ⟨names, named, -⟩ := proper.attributes
    have known : store.attributeName? id ∈ names.map some := named ▸ List.mem_map_of_mem member
    obtain ⟨name, -, same⟩ := List.mem_map.mp known
    rw [attributeName?, found] at same
    obtain ⟨label, attachment, children, attributes⟩ := entry
    cases label with
    | attributeLabel it => exact noAttribute it rfl
    | document | element | binding | text | comment | instruction => cases same

-----------------------------------------------------------------------------------------
-- Places
-----------------------------------------------------------------------------------------

theorem place_of_top (outermost : store.parent? id = none) : store.place id = (id, []) := by
  rw [place, outermost]

theorem Sound.place_of_parent (sound : store.Sound) (inside : store.parent? id = some parent)
    : store.place id
      = ((store.place parent).1, (store.place parent).2 ++ [store.indexIn parent id]) := by
  obtain ⟨holder, found, part⟩ := (sound.contains_iff parent id).mpr inside
  rw [place, inside]
  exact if_pos ⟨sound.lt_of_contains ⟨holder, found, part⟩, lt_of_get? found⟩

/-- The tree that a node is in, as it is seen from the node: the node is there, so are its children,
and the elements on the path from the top are the node and those above it that are elements.
-/
structure Placed (store : Store) (id : Nat) (entry : Entry) (ancestors : List Nat) (top : Top)
    (path : List Nat) : Prop where
  at?_eq : top.at? path = store.item? id
  contentAt_eq : top.contentAt path = entry.children.filterMap store.item?
  upwards : (path :: pathsAbove path).filterMap top.headAt? = (id :: ancestors).filterMap store.head?

variable {ancestors path : List Nat} {top : Top}

theorem headAt?_eq (at?_eq : top.at? path = store.item? id) : top.headAt? path = store.head? id := by
  rw [Top.headAt?, at?_eq, item?_bind_head?]

/-- A node that is in no other one is the top of its tree. -/
theorem Sound.placed_top (sound : store.Sound) (found : store.get? id = some entry)
    : ∃ top, store.top? id = some top ∧ store.Placed id entry [] top [] := by
  have placed (top : Top) (at?_eq : top.at? [] = store.item? id)
      (content : top.content = entry.children.filterMap store.item?)
      : store.Placed id entry [] top [] := by
    refine ⟨at?_eq, content, ?_⟩
    rw [show pathsAbove [] = [] from rfl, List.filterMap_cons, List.filterMap_cons,
      headAt?_eq at?_eq]
    rfl
  obtain ⟨label, attachment, children, attributes⟩ := entry
  have empty (noHolder : ¬label.IsHolder) : children = [] :=
    (List.append_eq_nil_iff.mp ((sound.proper found).holder noHolder).1).1
  cases label with
  | document => exact ⟨_, by rw [top?, found], placed _ (by rw [item?, found]; rfl) rfl⟩
  | attributeLabel it =>
      obtain rfl := empty (by simp [Label.IsHolder])
      exact ⟨_, by rw [top?, found], placed _ (by rw [item?, found]; rfl) rfl⟩
  | binding qualifier uri =>
      obtain rfl := empty (by simp [Label.IsHolder])
      exact ⟨_, by rw [top?, found], placed _ (by rw [item?, found]; rfl) rfl⟩
  | element | text | comment | instruction =>
      obtain ⟨item, made⟩ := Option.isSome_iff_exists.mp (isSome_item?_of_isChild found rfl)
      refine ⟨.item item, by rw [top?, found, made]; rfl, placed _ made.symm ?_⟩
      exact sound.item?_content found made

/-- A child is placed one step further down. -/
theorem Sound.placed_child (sound : store.Sound) {holder : Entry}
    (placed : store.Placed parent holder ancestors top path)
    (around : store.get? parent = some holder) (member : id ∈ holder.children)
    (found : store.get? id = some entry)
    : store.Placed id entry (parent :: ancestors) top (path ++ [store.indexIn parent id]) := by
  have at?_eq : top.at? (path ++ [store.indexIn parent id]) = store.item? id := by
    have index : store.indexIn parent id = holder.children.idxOf id := by
      rw [indexIn, around]
      rfl
    rw [Top.at?_append_cons, placed.contentAt_eq, sound.getElem?_children around, index,
      List.getElem?_idxOf member, Option.bind_some]
    exact Option.bind_fun_some _
  refine ⟨at?_eq, ?_, ?_⟩
  · obtain ⟨child, there, isChild⟩ := sound.isChild around member
    obtain ⟨item, made⟩ := Option.isSome_iff_exists.mp (isSome_item?_of_isChild there isChild)
    rw [Top.contentAt_of_at? (at?_eq.trans made), sound.item?_content found made]
  · rw [pathsAbove_concat, List.filterMap_cons, headAt?_eq at?_eq, placed.upwards,
      ← List.filterMap_cons]

/-- A node that is no attribute is at its place, by induction on the way up from it. -/
theorem Sound.placed (sound : store.Sound) (climbs : store.Climbs id ancestors)
    (found : store.get? id = some entry) (noAttribute : ∀ it, entry.label ≠ .attributeLabel it)
    : ∃ top, store.top? (store.place id).1 = some top
      ∧ store.Placed id entry ancestors top (store.place id).2 := by
  induction climbs generalizing entry with
  | top outermost =>
      rw [place_of_top outermost]
      exact sound.placed_top found
  | up inside _ ih =>
      obtain ⟨holder, around, isHolder, member⟩ := sound.mem_children inside found noAttribute
      have noAttribute (it : Attribute) : holder.label ≠ .attributeLabel it := by
        rintro same
        obtain isDocument | ⟨_, isElement, -⟩ := isHolder
        · cases same.symm.trans isDocument
        · cases same.symm.trans isElement
      obtain ⟨top, made, placed⟩ := ih around noAttribute
      rw [sound.place_of_parent inside]
      exact ⟨top, made, sound.placed_child placed around member found⟩

-----------------------------------------------------------------------------------------
-- Namespaces in scope
-----------------------------------------------------------------------------------------

theorem exists_of_head? (isElement : store.head? id = some head)
    : ∃ entry own, store.get? id = some entry ∧ entry.label = .element own
      ∧ head.declarations = own.declarations := by
  rw [head?] at isElement
  cases found : store.get? id with
  | none => simp [found] at isElement
  | some entry =>
      obtain ⟨label, attachment, children, attributes⟩ := entry
      rw [found] at isElement
      cases label with
      | element own =>
          cases isElement
          exact ⟨_, own, rfl, rfl, rfl⟩
      | document | attributeLabel | binding | text | comment | instruction => cases isElement

theorem Sound.declaresOnce (sound : store.Sound) (isElement : store.head? id = some head)
    : head.DeclaresOnce := by
  obtain ⟨entry, own, found, label, same⟩ := exists_of_head? isElement
  rw [Head.DeclaresOnce, same]
  refine Classical.byContradiction fun twice => ?_
  refine ((sound.proper found).holder ?_).2 own label
  rintro (isDocument | ⟨other, isOther, once⟩)
  · cases label.symm.trans isDocument
  · cases label.symm.trans isOther
    exact twice once

theorem Sound.declareOnce (sound : store.Sound) {ids : List Nat}
    : ∀ it ∈ ids.filterMap store.head?, it.DeclaresOnce := by
  intro it member
  obtain ⟨other, -, isOther⟩ := List.mem_filterMap.mp member
  exact sound.declaresOnce isOther

/-- Elements are at their places, with their scopes. -/
theorem Sound.placed_element (sound : store.Sound) (climbs : store.Climbs id ancestors)
    (isElement : store.head? id = some head)
    : ∃ top, store.top? (store.place id).1 = some top ∧ top.headAt? (store.place id).2 = some head
      ∧ (top.headsAlong (store.place id).2).reverse = (id :: ancestors).filterMap store.head? := by
  obtain ⟨entry, own, found, label, -⟩ := exists_of_head? isElement
  obtain ⟨top, made, placed⟩ := sound.placed climbs found (by simp [label])
  refine ⟨top, made, (headAt?_eq placed.at?_eq).trans isElement, ?_⟩
  rw [Top.reverse_headsAlong, placed.upwards]

/-- The scope of an element is that of the elements on the way up from it. -/
theorem Sound.scope_eq (sound : store.Sound) (climbs : store.Climbs id ancestors)
    (isElement : store.head? id = some head)
    : store.scope id = scopeOf ((id :: ancestors).filterMap store.head?).reverse := by
  obtain ⟨top, made, here, upwards⟩ := sound.placed_element climbs isElement
  have there : (top.at? (store.place id).2).bind Item.head? = some head := here
  rw [scope, made, ← upwards, List.reverse_reverse, Option.map_some, Option.getD_some, Top.scopeAt,
    there]

theorem bindings_eq (store : Store) (id : Nat)
    : store.bindings id = sortByQualifier (store.scope id) := by
  rw [bindings, scope]
  cases store.top? (store.place id).1 with
  | none => simp [sortByQualifier]
  | some top => rfl

/-- The namespaces in scope of an element are those that the nearest declarations give. -/
theorem Sound.mem_scope_iff (sound : store.Sound) (climbs : store.Climbs id ancestors)
    (isElement : store.head? id = some head) (qualifier uri : String)
    : (qualifier, uri) ∈ store.scope id
      ↔ StandsFor ((id :: ancestors).filterMap store.head?) qualifier uri := by
  rw [sound.scope_eq climbs isElement]
  exact mem_scopeOf_iff sound.declareOnce

-----------------------------------------------------------------------------------------
-- Forests
-----------------------------------------------------------------------------------------

/-- A node of a forest is a made node in the tree that this is in. -/
def Shows (store : Store) (forest : Forest) (node : Node) (id : Nat) : Prop :=
  ∃ top, forest[node.tree]? = some top ∧ store.top? (store.place id).1 = some top
    ∧ node.place = .inner (store.place id).2

/-- What a forest has of an element that it shows. -/
theorem Sound.shown (sound : store.Sound) (climbs : store.Climbs id ancestors)
    (isElement : store.head? id = some head) {forest : Forest} {node : Node}
    (isShown : store.Shows forest node id)
    : forest.head? node = some head ∧ forest.scope node = store.scope id
      ∧ forest.headsUpwards node = (id :: ancestors).filterMap store.head? := by
  obtain ⟨tree, place⟩ := node
  obtain ⟨top, found, made, isInner⟩ := isShown
  obtain rfl : place = .inner (store.place id).2 := isInner
  have found : forest[tree]? = some top := found
  obtain ⟨again, same, here, upwards⟩ := sound.placed_element climbs isElement
  cases made.symm.trans same
  refine ⟨(Forest.head?_inner found _).trans here, ?_, ?_⟩
  · rw [Forest.scope, found, scope, made]
    rfl
  · rw [Forest.headsUpwards_inner found, upwards]

-----------------------------------------------------------------------------------------
-- What namespaces stand for
-----------------------------------------------------------------------------------------

/-- The namespaces in scope of an element in a store, and the names that it is found by. Each
qualifier stands for what the nearest declaration says, and if undeclared qualifiers are put up with,
a name with one that is not bound is that of an element whose namespace is its nearest declaration.
-/
structure InScope (store : Store) (id : Nat) (head : Head) (ancestors : List Nat) : Prop where
  distinct : ((store.scope id).map Prod.fst).Nodup
  mem_iff (qualifier uri : String)
    : (qualifier, uri) ∈ store.scope id
      ↔ StandsFor ((id :: ancestors).filterMap store.head?) qualifier uri
  holds_iff {context : Context} {node : Node} (isShown : store.Shows context.forest node id)
    {declarations : List (Option String × Datum)} {qualifier : String} (localPart : String)
    (binds : Bindings.ofDeclarations? declarations = .ok context.bindings)
    (lenient : context.options.strictNamespaces = false) (named : qualifier ≠ "")
    (unbound : ¬ context.bindings.contains qualifier)
    : (NodeTest.name (some qualifier) localPart).undeclared? context = none
      ∧ ((NodeTest.name (some qualifier) localPart).holds context .element node = .ok true
        ↔ head.name.localPart = localPart
          ∧ ∃ uri, DeclaredNearest ((id :: ancestors).filterMap store.head?) qualifier uri
            ∧ head.name.uri = some uri)

/-- The namespace nodes of an element in a store stand for entries: one for each namespace in scope,
with increasing qualifiers and the element as their parent.
-/
structure NodesFor (store : Store) (id : Nat) (entries : List (String × String)) : Prop where
  perm : entries.Perm (store.scope id)
  increasing : entries.Pairwise fun left right => left.1 < right.1
  nodes {context : Context} {node : Node} (isShown : store.Shows context.forest node id)
    : ∃ nodes, context.onAxis? .namespaceAxis node = some nodes
      ∧ nodes.map context.forest.view?
        = entries.map (fun entry => some (.bindingView entry.1 entry.2))
      ∧ ∀ it ∈ nodes, context.onAxis? .parent it = some [node]

theorem Sound.inScope (sound : store.Sound) (climbs : store.Climbs id ancestors)
    (isElement : store.head? id = some head)
    : store.InScope id head ancestors where
  distinct := by
    rw [sound.scope_eq climbs isElement]
    exact nodup_scopeOf _
  mem_iff := sound.mem_scope_iff climbs isElement
  holds_iff {context node} isShown declarations qualifier localPart binds lenient named unbound := by
    obtain ⟨there, -, upwards⟩ := sound.shown climbs isElement isShown
    have once : ∀ it ∈ context.forest.headsUpwards node, it.DeclaresOnce := by
      rw [upwards]
      exact sound.declareOnce
    obtain ⟨-, -, -, tests⟩ := Context.scope_standsFor there once
    rw [← upwards]
    exact tests declarations qualifier localPart binds lenient named unbound

theorem Sound.nodesFor (sound : store.Sound) (isElement : store.head? id = some head)
    : store.NodesFor id (store.bindings id) := by
  obtain ⟨ancestors, climbs⟩ := sound.exists_climbs id
  rw [bindings_eq]
  refine ⟨List.mergeSort_perm .., sortByQualifier_pairwise ?_, fun {context node} isShown => ?_⟩
  · exact (sound.inScope climbs isElement).distinct
  · obtain ⟨there, scope, -⟩ := sound.shown climbs isElement isShown
    rw [← scope]
    exact Forest.exists_namespaceNodes there context.stamp

end Store

end PathQuery
