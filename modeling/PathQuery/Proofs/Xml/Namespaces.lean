import Mathlib.Data.List.Forall2
import PathQuery.Proofs.Tree.Preorder
import PathQuery.Proofs.Xml.Scope

/-! Namespaces in trees that are made from documents. Each element of a tree comes from an element of
the document, and has its scope there: what the elements around it and it itself declare adds up to
that. So the qualifiers of names keep their meaning.
-/

namespace PathQuery

variable {top : Top} {outer : List Head} {base : List Nat} {item : Item}

-----------------------------------------------------------------------------------------
-- Elements of trees
-----------------------------------------------------------------------------------------

/-- The elements of located trees in document order, with the paths that lead to them. -/
def elementsIn (pending : List Located) : List (List Nat × Head) :=
  (walk pending).filterMap fun entry => entry.2.head?.map (entry.1, ·)

namespace Top

/-- The elements of a tree in document order, with the paths that lead to them. -/
def elements : Top → List (List Nat × Head)
  | .document content => elementsIn (located [] 0 content)
  | .item it => elementsIn [([], it)]
  | _ => []

/-- A path leads to an item that stands below elements with the given heads. -/
structure Holds (top : Top) (outer : List Head) (base : List Nat) (item : Item) : Prop where
  at?_eq (more : List Nat) : top.at? (base ++ more) = item.at? more
  headsAlong_eq (more : List Nat) : top.headsAlong (base ++ more) = outer ++ item.headsAlong more

end Top

theorem elementsIn_nil : elementsIn [] = [] := by
  rw [elementsIn, walk]
  rfl

theorem elementsIn_cons (entry : Located) (pending : List Located)
    : elementsIn (entry :: pending) = elementsIn [entry] ++ elementsIn pending := by
  rw [elementsIn, elementsIn, elementsIn, ← List.filterMap_append, walk_cons, walk_cons, walk,
    List.append_nil]

theorem elementsIn_element (path : List Nat) (head : Head) (content : List Item)
    : elementsIn [(path, .element head content)]
      = (path, head) :: elementsIn (located path 0 content) := by
  rw [elementsIn, walk, List.append_nil]
  rfl

/-- Items other than elements contain no elements. -/
theorem elementsIn_filter (pending : List Located)
    : elementsIn (pending.filter (·.2.head?.isSome)) = elementsIn pending := by
  induction pending with
  | nil => rfl
  | cons entry rest ih =>
      obtain ⟨path, item⟩ := entry
      rw [elementsIn_cons, ← ih]
      cases item with
      | element head content => exact elementsIn_cons ..
      | text | comment | instruction => simp [elementsIn, walk, located, Item.content, Item.head?]

theorem map_snd_filter_located (base : List Nat) (start : Nat) (items : List Item)
    : ((located base start items).filter (·.2.head?.isSome)).map Prod.snd
      = items.filter (·.head?.isSome) := by
  conv_rhs => rw [← map_snd_located base start items, List.filter_map]
  rfl

theorem mem_elementsIn_iff {pending : List Located} {path : List Nat} {head : Head}
    : (path, head) ∈ elementsIn pending
      ↔ ∃ content, (path, .element head content) ∈ walk pending := by
  simp only [elementsIn, List.mem_filterMap, Option.map_eq_some_iff, Prod.mk.injEq]
  constructor
  · rintro ⟨⟨path, item⟩, visited, _, isHead, rfl, rfl⟩
    cases item with
    | element head content => exact ⟨content, Option.some.inj isHead ▸ visited⟩
    | text | comment | instruction => cases isHead
  · rintro ⟨content, visited⟩
    exact ⟨_, visited, head, rfl, rfl, rfl⟩

/-- The elements of a tree are what paths lead to. -/
theorem Top.mem_elements_iff {path : List Nat} {head : Head}
    : (path, head) ∈ top.elements ↔ ∃ content, top.at? path = some (.element head content) := by
  cases top with
  | document content =>
      rw [elements, mem_elementsIn_iff, walk_located_nil]
      refine exists_congr fun below => ?_
      rw [Item.mem_preorderAll]
      cases path with
      | nil => simp [at?]
      | cons index more => simp [at?]
  | item it =>
      rw [elements, mem_elementsIn_iff, walk_cons, walk, List.append_nil]
      refine exists_congr fun below => ?_
      simp [Item.mem_preorder, at?]
  | loneAttribute | loneBinding => simp [elements, at?]

theorem Top.Holds.child {head : Head} {content : List Item}
    (holds : top.Holds outer base (.element head content)) {entry : Located}
    (member : entry ∈ located base 0 content)
    : top.Holds (outer ++ [head]) entry.1 entry.2 := by
  obtain ⟨index, found⟩ := List.mem_iff_getElem?.mp member
  rw [getElem?_located, Nat.zero_add] at found
  obtain ⟨child, there, rfl⟩ := Option.map_eq_some_iff.mp found
  constructor
  · intro more
    rw [List.append_assoc, List.singleton_append, holds.at?_eq, Item.at?_cons]
    simp [Item.content, there]
  · intro more
    rw [List.append_assoc, List.singleton_append, holds.headsAlong_eq, List.append_assoc]
    simp [Item.headsAlong, Item.content, Item.head?, there]

theorem Top.holds_item (it : Item) : (Top.item it).Holds [] [] it :=
  ⟨fun _ => rfl, fun _ => rfl⟩

theorem Top.holds_document {content : List Item} {entry : Located}
    (member : entry ∈ located [] 0 content)
    : (Top.document content).Holds [] entry.1 entry.2 := by
  obtain ⟨index, found⟩ := List.mem_iff_getElem?.mp member
  rw [getElem?_located, Nat.zero_add] at found
  obtain ⟨child, there, rfl⟩ := Option.map_eq_some_iff.mp found
  constructor <;> simp [at?, headsAlong, there]

theorem Top.Holds.scopeAt_eq {head : Head} {content : List Item}
    (holds : top.Holds outer base (.element head content))
    : top.scopeAt base = scopeOf (outer ++ [head]) := by
  have found := holds.at?_eq []
  have along := holds.headsAlong_eq []
  rw [List.append_nil] at found along
  rw [scopeAt, found, along]
  rfl

namespace Xml

-----------------------------------------------------------------------------------------
-- Elements of documents
-----------------------------------------------------------------------------------------

mutual

/-- The elements of some content in document order, each as its tag and the scope below it. -/
def Content.elements (around : Scope) : Content → List (Tag × Scope)
  | .element tag content => (tag, tag.scope around) :: elementsOf (tag.scope around) content
  | _ => []

/-- The elements of several contents. -/
def elementsOf (around : Scope) : List Content → List (Tag × Scope)
  | [] => []
  | it :: rest => it.elements around ++ elementsOf around rest

end

/-- The elements of what is found on a path from the outermost element. -/
def Document.elementsAt (document : Document) (path : List Nat) : List (Tag × Scope) :=
  match document.root.at? [] path with
  | some (around, it) => it.elements around
  | none => []

-----------------------------------------------------------------------------------------
-- Elements that keep their scope
-----------------------------------------------------------------------------------------

/-- An element of a tree that comes from a tag and has the scope below it, so that the qualifiers
of its name and of its attributes stand for their namespaces.
-/
structure Keeps (top : Top) (element : List Nat × Head) (source : Tag × Scope) : Prop where
  name_eq : element.2.name = source.2.elementName source.1.name
  attributes_eq : element.2.attributes.map Attribute.name
    = source.1.attributes.map (source.2.attributeName ·.name)
  nodup : ((top.scopeAt element.1).map Prod.fst).Nodup
  lookup_eq (qualifier : String)
    : (top.scopeAt element.1).lookup qualifier = source.2.binding? qualifier
  lookup_element : (top.scopeAt element.1).lookup (element.2.qualifier.getD "")
    = element.2.name.uri
  lookup_attribute {it : Attribute} (member : it ∈ element.2.attributes) {uri : String}
    (names : it.name.uri = some uri)
    : ∃ qualifier, it.qualifier = some qualifier
      ∧ (top.scopeAt element.1).lookup qualifier = some uri

variable {options : TreeOptions} {around scope : Scope} {tag : Tag} {content : List Content}

theorem Scope.AmountsTo.lookup_scopeOf {heads : List Head}
    (amounts : AmountsTo (declaredBy heads) scope) (qualifier : String)
    : (scopeOf heads).lookup qualifier = scope.binding? qualifier := by
  rw [PathQuery.lookup_scopeOf, amounts qualifier, binding?, key]
  by_cases isXml : qualifier = xmlQualifier
  · subst isXml
    rfl
  · rw [if_neg isXml, if_neg isXml]
    by_cases isDefault : qualifier = ""
    · subst isDefault
      rw [if_pos rfl, if_pos rfl]
      cases scope.lookup none with
      | none => rfl
      | some uri => by_cases empty : uri = "" <;> simp [uriOf, empty, Option.filter_some]
    · rw [if_neg isDefault, if_neg isDefault]
      cases scope.lookup (some qualifier) <;> simp [isDefault, Option.filter_some]

theorem keeps_toHead {items : List Item}
    (holds : top.Holds outer base (.element (tag.toHead around scope) items))
    (amounts : Scope.AmountsTo (declaredBy outer) around) (regular : scope.IsRegular)
    (inherits : ∀ qualifier, scope.lookup qualifier = none → around.lookup qualifier = none)
    (bound : scope.binds tag.name.qualifier)
    : Scope.AmountsTo (declaredBy (outer ++ [tag.toHead around scope])) scope
      ∧ Keeps top (base, tag.toHead around scope) (tag, scope) := by
  have inside : Scope.AmountsTo (declaredBy (outer ++ [tag.toHead around scope])) scope := by
    rw [declaredBy_concat]
    exact amounts.assignAll_changes regular inherits
  have lookup_eq (qualifier : String)
      : (top.scopeAt base).lookup qualifier = scope.binding? qualifier := by
    rw [holds.scopeAt_eq, inside.lookup_scopeOf]
  refine ⟨inside, ?_⟩
  constructor
  · rfl
  · simp [Tag.toHead, WrittenAttribute.toAttribute]
  · rw [holds.scopeAt_eq]
    exact nodup_scopeOf _
  · exact lookup_eq
  · exact (lookup_eq _).trans (regular.binding?_getD bound)
  · intro it member uri names
    obtain ⟨written, -, rfl⟩ := List.mem_map.mp member
    obtain ⟨qualifier, same, stands⟩ := regular.binding?_toAttribute written names
    exact ⟨qualifier, same, (lookup_eq qualifier).trans stands⟩

-----------------------------------------------------------------------------------------
-- Whole trees
-----------------------------------------------------------------------------------------

theorem filter_mergeTexts (items : List Item)
    : (mergeTexts items).filter (·.head?.isSome) = items.filter (·.head?.isSome) := by
  fun_induction mergeTexts items with
  | case1 => rfl
  | case2 first rest second more merged ih => simpa [merged, Item.head?] using ih
  | case3 first rest unmerged ih => simpa [Item.head?] using ih
  | case4 item rest noText ih => rw [List.filter_cons, List.filter_cons, ih]

/-- What is left of the content of an element has all its elements. -/
theorem filter_tidy (options : TreeOptions) (items : List Item)
    : (tidy options items).filter (·.head?.isSome) = items.filter (·.head?.isSome) := by
  rw [tidy]
  split
  case isFalse => exact filter_mergeTexts items
  case isTrue =>
      rw [List.filter_filter, ← filter_mergeTexts]
      refine List.filter_congr fun item _ => ?_
      cases item <;> simp [isBlankText, Item.head?]

/-- The item of an element where some scope is in force. -/
def Tag.toItem (options : TreeOptions) (inForce around : Scope) (tag : Tag) (content : List Content)
    : Item :=
  .element (tag.toHead inForce (tag.scope around))
    (tidy options (itemsOf options (tag.scope around) content))

mutual

/-- An element and those below it keep their scopes, if the declarations around it amount to what
is in force there.
-/
theorem keeps_element (tag : Tag) (content : List Content) {outer : List Head}
    {inForce around : Scope} {path : List Nat}
    (holds : top.Holds outer path (tag.toItem options inForce around content))
    (amounts : Scope.AmountsTo (declaredBy outer) inForce)
    (inherits : ∀ qualifier, (tag.scope around).lookup qualifier = none →
      inForce.lookup qualifier = none)
    (regular : around.IsRegular)
    (regularOnes : ∀ source ∈ (Content.element tag content).elements around,
      source.1.declarations.IsRegular)
    (fits : (Content.element tag content).fault? options around = none)
    : List.Forall₂ (Keeps top) (elementsIn [(path, tag.toItem options inForce around content)])
        ((Content.element tag content).elements around) := by
  rw [Content.fault?] at fits
  split at fits
  case isFalse => cases fits
  case isTrue usable =>
  have bound : (tag.scope around).binds tag.name.qualifier = true := by
    simp only [Scope.isUsable, Bool.and_eq_true] at usable
    exact usable.1.1
  rw [Content.elements] at regularOnes ⊢
  obtain ⟨tagRegular, innerRegular⟩ := List.forall_mem_cons.mp regularOnes
  have scopeRegular : (tag.scope around).IsRegular := tagRegular.below regular
  obtain ⟨amountsInside, keeps⟩ := keeps_toHead holds amounts scopeRegular inherits bound
  rw [Tag.toItem, elementsIn_element, ← elementsIn_filter]
  refine .cons keeps ?_
  refine keeps_elementsOf content ?_ ?_ amountsInside scopeRegular innerRegular
    (Option.or_eq_none_iff.mp fits).1
  · rw [map_snd_filter_located, filter_tidy]
  · intro entry member
    exact holds.child (List.mem_of_mem_filter member)
termination_by sizeOf (Content.element tag content)

/-- Elements below some heads keep their scopes, by induction on the contents that they come from:
the pending trees are what became of the elements among these.
-/
theorem keeps_elementsOf (content : List Content) {outer : List Head} {around : Scope}
    {pending : List Located}
    (comesFrom : pending.map Prod.snd
      = (itemsOf options around content).filter (·.head?.isSome))
    (holds : ∀ entry ∈ pending, top.Holds outer entry.1 entry.2)
    (amounts : Scope.AmountsTo (declaredBy outer) around) (regular : around.IsRegular)
    (regularOnes : ∀ source ∈ elementsOf around content, source.1.declarations.IsRegular)
    (fits : faultOf? options around content = none)
    : List.Forall₂ (Keeps top) (elementsIn pending) (elementsOf around content) := by
  cases content with
  | nil =>
      obtain rfl := List.map_eq_nil_iff.mp comesFrom
      rw [elementsIn_nil]
      exact .nil
  | cons it rest =>
      rw [faultOf?, Option.or_eq_none_iff] at fits
      rw [elementsOf] at regularOnes ⊢
      have restKeeps (pending : List Located)
          (comesFrom : pending.map Prod.snd
            = (itemsOf options around rest).filter (·.head?.isSome))
          (holds : ∀ entry ∈ pending, top.Holds outer entry.1 entry.2)
          : List.Forall₂ (Keeps top) (elementsIn pending) (elementsOf around rest) :=
        keeps_elementsOf rest comesFrom holds amounts regular
          (fun source member => regularOnes source (List.mem_append_right _ member)) fits.2
      rw [itemsOf, List.filter_append] at comesFrom
      cases it with
      | leaf it =>
          refine restKeeps pending ?_ holds
          rw [comesFrom, Content.toItem?]
          cases it <;> rw [Leaf.toItem?] <;> split <;> rfl
      | text content =>
          refine restKeeps pending ?_ holds
          rw [comesFrom, Content.toItem?]
          split <;> rfl
      | reference entity =>
          refine restKeeps pending ?_ holds
          rw [comesFrom, Content.toItem?]
          rfl
      | element tag inner =>
          obtain ⟨⟨path, item⟩, later, rfl, same, laterFrom⟩ := List.map_eq_cons_iff.mp comesFrom
          obtain rfl : item = tag.toItem options around around inner := same
          obtain ⟨holdsHere, holdsLater⟩ := List.forall_mem_cons.mp holds
          have inherits (qualifier : Option String)
              (absent : (tag.scope around).lookup qualifier = none)
              : around.lookup qualifier = none := by
            rw [Tag.scope, Scope.lookup_below regular.distinct, Option.or_eq_none_iff] at absent
            exact absent.2
          rw [elementsIn_cons]
          refine List.rel_append ?_ (restKeeps later laterFrom holdsLater)
          exact keeps_element tag inner holdsHere amounts inherits regular
            (fun source member => regularOnes source (List.mem_append_left _ member)) fits.1
termination_by sizeOf content

end

theorem elementsOf_eq_flatMap (around : Scope) (content : List Content)
    : elementsOf around content = content.flatMap (·.elements around) := by
  induction content with
  | nil => rfl
  | cons it rest ih => rw [elementsOf, ih, List.flatMap_cons]

/-- What is found on a path in regular surroundings has regular surroundings itself, and its
elements are among those that were there.
-/
theorem regular_of_at? {it found : Content} {path : List Nat}
    (there : it.at? scope path = some (around, found)) (regular : scope.IsRegular)
    (regularOnes : ∀ source ∈ it.elements scope, source.1.declarations.IsRegular)
    : around.IsRegular ∧ ∀ source ∈ found.elements around, source.1.declarations.IsRegular := by
  induction path generalizing it scope with
  | nil =>
      cases it <;> cases there <;> exact ⟨regular, regularOnes⟩
  | cons index path ih =>
      cases it with
      | element tag content =>
          rw [Content.at?] at there
          split at there
          case h_1 child isChild =>
              rw [Content.elements] at regularOnes
              obtain ⟨tagRegular, innerRegular⟩ := List.forall_mem_cons.mp regularOnes
              have inside : child ∈ content := List.mem_of_mem_filter (List.mem_of_getElem? isChild)
              refine ih there (tagRegular.below regular) fun source member => ?_
              rw [elementsOf_eq_flatMap] at innerRegular
              exact innerRegular source (List.mem_flatMap.mpr ⟨child, inside, member⟩)
          case h_2 => cases there
      | leaf | text | reference => cases there

theorem filter_leaves (options : TreeOptions) (leaves : List Leaf)
    : (leaves.filterMap (·.toItem? options)).filter (·.head?.isSome) = [] := by
  refine List.filter_eq_nil_iff.mpr fun item member => ?_
  obtain ⟨leaf, -, made⟩ := List.mem_filterMap.mp member
  cases leaf <;> rw [Leaf.toItem?] at made <;> split at made <;> cases made <;> simp [Item.head?]

/-- Of the items right below the top of a document's tree only one is an element. -/
theorem Document.filter_content_toTree (options : TreeOptions) (document : Document)
    : (document.toTree options).top.content.filter (·.head?.isSome)
      = (document.root.toItem? options []).toList := by
  rw [toTree, Top.content, List.filter_append, List.filter_append, filter_leaves, filter_leaves,
    List.append_nil, List.nil_append]
  rfl

theorem Built.orFault_eq_ok_iff {built other : Built} {fault : Option ConstructionFault}
    : built.orFault fault = .ok other ↔ fault = none ∧ built = other := by
  cases fault <;> simp [Built.orFault]

/-- Every element of a tree comes from an element of the part of the document that the tree was made
of, and has its scope there. They correspond one by one, in document order.
-/
theorem Document.treeAt_keeps {document : Document} {path : List Nat} {built : Built}
    (regular : ∀ source ∈ document.root.elements [], source.1.declarations.IsRegular)
    (made : document.treeAt options path = .ok built)
    : List.Forall₂ (Keeps built.top) built.top.elements (document.elementsAt path) := by
  rw [treeAt] at made
  split at made
  case isTrue whole =>
      obtain rfl := List.isEmpty_iff.mp whole
      obtain ⟨fits, rfl⟩ := Built.orFault_eq_ok_iff.mp made
      rw [Document.fault?, Option.or_eq_none_iff, Option.or_eq_none_iff] at fits
      have root_eq : document.elementsAt [] = elementsOf [] [document.root] :=
        (List.append_nil _).symm
      rw [root_eq]
      show List.Forall₂ _ (elementsIn (located [] 0 _)) _
      rw [← elementsIn_filter]
      refine keeps_elementsOf [document.root] ?_ ?_ Scope.amountsTo_declaredBy_nil .nil
        (by rwa [← root_eq]) (Option.or_eq_none_iff.mpr ⟨fits.2.1, rfl⟩)
      · rw [map_snd_filter_located, List.filter_append, List.filter_append, filter_leaves,
          filter_leaves, List.append_nil, List.nil_append, itemsOf, itemsOf, List.append_nil]
      · intro entry member
        exact Top.holds_document (List.mem_of_mem_filter member)
  case isFalse =>
      rw [elementsAt]
      split at made
      case h_1 around tag content found =>
          obtain ⟨fits, rfl⟩ := Built.orFault_eq_ok_iff.mp made
          obtain ⟨aroundRegular, regularOnes⟩ := regular_of_at? found .nil regular
          rw [found]
          exact keeps_element tag content (Top.holds_item _) Scope.amountsTo_declaredBy_nil
            (fun _ _ => rfl) aroundRegular regularOnes fits
      case h_2 => cases made
      case h_3 => cases made

/-- A document where an inner element has no default namespace although an outer one declares it, and
where the innermost declares it and a qualifier once more.
-/
def Document.nested : Document where
  before := []
  tag := ⟨⟨none, "a"⟩, [], [(none, "d"), (some "p", "u")]⟩
  content := [.element ⟨⟨some "p", "b"⟩, [⟨⟨some "p", "x"⟩, "1"⟩], [(none, "")]⟩
    [.text " ",
      .element ⟨⟨none, "c"⟩, [⟨⟨some "p", "y"⟩, "2"⟩, ⟨⟨some "xml", "lang"⟩, "en"⟩],
        [(some "p", "v"), (none, "e")]⟩ []]]
  after := []

theorem Document.nested_treeAt_keeps
    : ∃ built, Document.nested.treeAt ⟨false, false, true⟩ [0] = .ok built
      ∧ List.Forall₂ (Keeps built.top) built.top.elements (Document.nested.elementsAt [0]) := by
  have regular : ∀ source ∈ Document.nested.root.elements [], source.1.declarations.IsRegular := by
    intro source member
    simp only [nested, root, Content.elements, elementsOf, List.append_nil, List.nil_append,
      List.mem_cons, List.not_mem_nil, or_false] at member
    rcases member with rfl | rfl | rfl <;> constructor <;> simp [xmlQualifier]
  exact ⟨_, rfl, Document.treeAt_keeps regular rfl⟩

example
    : ((Document.nested.treeAt ⟨false, false, true⟩ [0]).toOption.map fun built =>
        [built.top.scopeAt [], built.top.scopeAt [0]])
      = some [[("xml", xmlUri), ("p", "u")], [("xml", xmlUri), ("", "e"), ("p", "v")]] :=
  rfl

end Xml

end PathQuery
