import PathQuery.Proofs.Axis.Relatives
import PathQuery.Proofs.Function.Core
import PathQuery.Proofs.Text.Words

/-! Elements selected by identifiers. A value names the elements of the context node's tree that have
one of its words as the value of an identifying attribute. Of the two such attributes the one of
the XML namespace conceals the other one.
-/

namespace PathQuery

-----------------------------------------------------------------------------------------
-- Words and attributes
-----------------------------------------------------------------------------------------

/-- A word of the string of a value, or of the string-value of any of its nodes. -/
def Value.HasWord (forest : Forest) (value : Value) (word : List Char) : Prop :=
  match value with
  | .nodes set => ∃ node ∈ set.items, word ∈ wordsOf (forest.stringValue node)
  | other => word ∈ wordsOf (other.toText forest)
where
  /-- What stands between the spaces of a text. -/
  wordsOf (text : String) : List (List Char) :=
    (text.toList.splitOnP Text.isSpace).filter (!·.isEmpty)

namespace Head

/-- Some attribute with a name has a value of some kind. -/
def HasValue (head : Head) (name : ExpandedName) (isWanted : List Char → Prop) : Prop :=
  ∃ it ∈ head.attributes, it.name = name ∧ isWanted it.value.toList

/-- An element is named by words that are the value of one of its two identifying attributes. -/
def IsNamedBy (head : Head) (isWord : List Char → Prop) : Prop :=
  head.HasValue ⟨some xmlUri, "id"⟩ isWord ∨ head.HasValue ⟨none, "id"⟩ isWord

/-- An element is concealed from words if they are not the value of `xml:id`, which it has. -/
def IsConcealedFrom (head : Head) (isWord : List Char → Prop) : Prop :=
  head.HasValue ⟨some xmlUri, "id"⟩ (¬ isWord ·)

/-- Attributes of an element have different names. -/
def IsDistinct (head : Head) : Prop :=
  (head.attributes.map Attribute.name).Nodup

variable {head : Head} {name : ExpandedName} {it : Attribute} {isWanted : List Char → Prop}

/-- The attribute with a name is the only one that has it. -/
theorem attribute?_eq_some_iff (distinct : head.IsDistinct)
    : head.attribute? name = some it ↔ it ∈ head.attributes ∧ it.name = name := by
  rw [attribute?]
  constructor
  · intro found
    exact ⟨List.mem_of_find?_eq_some found, by simpa using List.find?_some found⟩
  · intro ⟨member, named⟩
    cases found : head.attributes.find? (·.name = name) with
    | none => exact absurd named (by simpa using List.find?_eq_none.mp found it member)
    | some other =>
        have same : other.name = it.name := by
          rw [named]
          simpa using List.find?_some found
        rw [List.inj_on_of_nodup_map distinct (List.mem_of_find?_eq_some found) member same]

theorem hasValue_iff (distinct : head.IsDistinct)
    : head.HasValue name isWanted
      ↔ ∃ it, head.attribute? name = some it ∧ isWanted it.value.toList := by
  simp only [HasValue, attribute?_eq_some_iff distinct, and_assoc]

end Head

namespace Core

variable {context : Context}

theorem mem_idWords_iff {value : Value} {word : List Char}
    : word ∈ idWords context value ↔ value.HasWord context.forest word := by
  cases value with
  | nodes set =>
      simp only [idWords, List.mem_flatMap, Text.words_eq]
      rfl
  | string | number | boolean =>
      rw [idWords, Text.words_eq]
      · rfl
      · intro set same
        cases same

/-- The attribute that identifies an element is `xml:id`, or else the one without namespace. -/
theorem isIdentified_iff {head : Head} (distinct : head.IsDistinct) (isWord : List Char → Prop)
    : (∃ it, idAttribute? head = some it ∧ isWord it.value.toList)
      ↔ head.IsNamedBy isWord ∧ ¬ head.IsConcealedFrom isWord := by
  rw [Head.IsNamedBy, Head.IsConcealedFrom, Head.hasValue_iff distinct, Head.hasValue_iff distinct,
    Head.hasValue_iff distinct, idAttribute?]
  cases head.attribute? ⟨some xmlUri, "id"⟩ with
  | none => simp
  | some first => by_cases isOne : isWord first.value.toList <;> simp [isOne]

theorem isIdentifiedBy_iff {words : List (List Char)} {node : Node}
    : isIdentifiedBy context words node
      ↔ ∃ head, context.forest.head? node = some head
        ∧ ∃ it, idAttribute? head = some it ∧ it.value.toList ∈ words := by
  rw [isIdentifiedBy]
  cases context.forest.head? node with
  | none => simp
  | some head => cases found : idAttribute? head <;> simp [found]

end Core

-----------------------------------------------------------------------------------------
-- Elements below a root
-----------------------------------------------------------------------------------------

namespace Forest

variable {forest : Forest} {node other : Node} {head : Head}

/-- An element is an item of its tree. -/
theorem exists_of_head? (isElement : forest.head? node = some head)
    : ∃ top path content, forest[node.tree]? = some top ∧ node.place = .inner path
      ∧ top.at? path = some (.element head content) := by
  obtain ⟨view, seen, isHead⟩ := Option.bind_eq_some_iff.mp isElement
  obtain ⟨top, found, atPlace⟩ := Option.bind_eq_some_iff.mp seen
  obtain ⟨it, rfl⟩ : ∃ it, view = .item it := by
    cases view with
    | item it => exact ⟨it, rfl⟩
    | origin | document | attributeView | bindingView => cases isHead
  obtain ⟨content, rfl⟩ : ∃ content, it = .element head content := by
    cases it with
    | element other content => exact ⟨content, by rw [Option.some.inj isHead]⟩
    | text | comment | instruction => cases isHead
  obtain ⟨tree, place⟩ := node
  cases place with
  | inner path =>
      refine ⟨top, path, content, found, rfl, ?_⟩
      cases top <;> cases path <;> simp_all [Top.view?]
  | origin => cases atPlace
  | attributeAt path index | bindingAt path index =>
      obtain ⟨_, _, same⟩ := Option.map_eq_some_iff.mp atPlace
      cases same

/-- The root of a tree is a document or an origin. -/
theorem rootOf_cases (forest : Forest) (stamp : Nat) (other : Node)
    : (∃ own, forest.rootOf stamp other = ⟨other.tree, .origin own⟩)
      ∨ forest.rootOf stamp other = ⟨other.tree, .inner []⟩
        ∧ ∃ content, forest[other.tree]? = some (.document content) := by
  obtain ⟨tree, place⟩ := other
  rw [rootOf]
  split
  case h_1 own isOrigin => exact .inl ⟨own, congrArg (Node.mk tree) isOrigin⟩
  case h_2 =>
      split
      case isFalse => exact .inl ⟨stamp, rfl⟩
      case isTrue isDocument =>
          refine .inr ⟨rfl, ?_⟩
          cases found : forest[tree]? with
          | none => simp [found] at isDocument
          | some top =>
              cases top with
              | document content => exact ⟨content, rfl⟩
              | item | loneAttribute | loneBinding => simp [found, Top.isDocument] at isDocument

/-- Below the root of a tree are all elements of the tree and those of no other. -/
theorem mem_descendants_rootOf_iff (isElement : forest.head? node = some head) (stamp : Nat)
    (other : Node)
    : node ∈ forest.descendants (forest.rootOf stamp other) ↔ node.tree = other.tree := by
  obtain ⟨top, path, content, found, isInner, there⟩ := exists_of_head? isElement
  obtain ⟨tree, place⟩ := node
  obtain rfl : place = .inner path := isInner
  have below {root : Place} (same : tree = other.tree) (present : top.Has root)
      (above : root.IsAbove (.inner path))
      : ⟨tree, .inner path⟩ ∈ forest.descendants ⟨other.tree, root⟩ := by
    rw [descendants, ← same, found]
    refine List.mem_map_of_mem ((Top.mem_descendants_iff present).mpr ?_)
    exact ⟨Top.has_of_at? there, by simp [Place.isAttached], above⟩
  constructor
  · intro member
    rw [descendants] at member
    split at member
    case h_1 =>
        obtain ⟨place, -, same⟩ := List.mem_map.mp member
        rcases forest.rootOf_cases stamp other with ⟨own, isRoot⟩ | ⟨isRoot, -⟩
        all_goals
          rw [isRoot] at same
          exact (congrArg Node.tree same).symm
    case h_2 => cases member
  · intro same
    rcases forest.rootOf_cases stamp other with ⟨own, isRoot⟩ | ⟨isRoot, content, document⟩
    · rw [isRoot]
      exact below same (top.has_origin own) trivial
    · rw [isRoot]
      refine below same top.has_top ⟨List.nil_prefix, ?_⟩
      rintro rfl
      have same : tree = other.tree := same
      rw [← same, found, Option.some.injEq] at document
      subst document
      cases there

/-- What is below a node has increasing keys. -/
theorem descendants_pairwise (forest : Forest) (node : Node)
    : (forest.descendants node).Pairwise fun left right =>
      left.key numbered < right.key numbered := by
  rw [descendants]
  split
  case h_2 => exact .nil
  case h_1 top _ =>
      rw [nodesAt, List.pairwise_map]
      refine (top.descendants_pairwise node.place).imp ?_
      intro left right before
      exact List.cons_lt_cons_iff.mpr (.inr ⟨rfl, before⟩)

end Forest

-----------------------------------------------------------------------------------------
-- Selection
-----------------------------------------------------------------------------------------

namespace Core

variable {context : Context}

/-- The elements that a value selects: those of the tree that it names. -/
theorem exists_id (context : Context) (value : Value)
    : ∃ set, id context [value] = .ok (.nodes set)
      ∧ set.items.Pairwise (fun left right =>
        left.key Forest.numbered < right.key Forest.numbered)
      ∧ ∀ node, node ∈ set.items ↔ node.tree = context.node.tree
        ∧ ∃ head, context.forest.head? node = some head
          ∧ ∃ it, idAttribute? head = some it ∧ value.HasWord context.forest it.value.toList := by
  have ordered := context.forest.descendants_pairwise (context.rootOf context.node)
  let named := isIdentifiedBy context (idWords context value)
  have members (node : Node)
      : node ∈ (context.forest.descendants (context.rootOf context.node)).filter named
        ↔ node.tree = context.node.tree ∧ ∃ head, context.forest.head? node = some head
          ∧ ∃ it, idAttribute? head = some it ∧ value.HasWord context.forest it.value.toList := by
    rw [List.mem_filter, isIdentifiedBy_iff]
    simp only [mem_idWords_iff]
    constructor
    · intro ⟨below, head, isElement, isNamed⟩
      exact ⟨(Forest.mem_descendants_rootOf_iff isElement _ _).mp below, head, isElement, isNamed⟩
    · intro ⟨same, head, isElement, isNamed⟩
      exact ⟨(Forest.mem_descendants_rootOf_iff isElement _ _).mpr same, head, isElement, isNamed⟩
  rw [id]
  dsimp only
  split
  case isFalse => exact ⟨_, rfl, ordered.filter _, members⟩
  case isTrue wordless =>
      refine ⟨_, rfl, .nil, ?_⟩
      intro node
      rw [← members node, List.mem_filter, isIdentifiedBy_iff, List.isEmpty_iff.mp wordless]
      simp

end Core

namespace Library

/-- The function `id` is called with any value for the elements of the context node's tree that the
value names and that are not concealed from it, in document order and each once. A node-set
selects what the string-values of its nodes select one by one.
-/
theorem call_id_selects {context : Context}
    (distinct : ∀ node head, context.forest.head? node = some head → head.IsDistinct)
    (value : Value)
    : ∃ function set, core.find? "id" = some function
      ∧ function.call context [value] = .ok (.nodes set)
      ∧ set.items.Pairwise (fun left right =>
        left.key Forest.numbered < right.key Forest.numbered)
      ∧ set.items.Nodup
      ∧ (∀ node, node ∈ set.items ↔ node.tree = context.node.tree
        ∧ ∃ head, context.forest.head? node = some head
          ∧ head.IsNamedBy (value.HasWord context.forest)
          ∧ ¬ head.IsConcealedFrom (value.HasWord context.forest))
      ∧ ∀ given, value = .nodes given → ∀ node, node ∈ set.items ↔ ∃ member ∈ given.items,
        ∃ others, function.call context [.string (context.forest.stringValue member)]
            = .ok (.nodes others)
          ∧ node ∈ others.items := by
  obtain ⟨set, selected, ordered, members⟩ := Core.exists_id context value
  refine ⟨.ofValue (.required [none]) Core.id, set, rfl, ?_, ordered, ?_, ?_, ?_⟩
  · rw [Function.call_ofValue, selected]
  · refine ordered.imp ?_
    intro left right before same
    rw [same] at before
    exact lt_irrefl _ before
  · intro node
    rw [members]
    refine and_congr_right fun _ => exists_congr fun head => and_congr_right fun isElement => ?_
    exact Core.isIdentified_iff (distinct node head isElement) _
  · intro given isSet node
    subst isSet
    simp only [Function.call_ofValue]
    rw [members]
    constructor
    · intro ⟨same, head, isElement, it, identifies, member, inside, isWord⟩
      obtain ⟨others, selected, -, members⟩ :=
        Core.exists_id context (.string (context.forest.stringValue member))
      refine ⟨member, inside, others, selected, (members node).mpr ?_⟩
      exact ⟨same, head, isElement, it, identifies, isWord⟩
    · intro ⟨member, inside, others, returned, selects⟩
      obtain ⟨found, selected, -, members⟩ :=
        Core.exists_id context (.string (context.forest.stringValue member))
      rw [returned, Except.ok.injEq, Value.nodes.injEq] at selected
      subst selected
      obtain ⟨same, head, isElement, it, identifies, isWord⟩ := (members node).mp selects
      exact ⟨same, head, isElement, it, identifies, member, inside, isWord⟩

/-- The text of a document in which one element has an identifier without namespace and another one
both identifiers.
-/
def amongIdentified : Context :=
  { forest := [.document [.element ⟨⟨none, "r"⟩, none, [], []⟩
      [.element ⟨⟨none, "a"⟩, none, [⟨⟨none, "id"⟩, none, "p"⟩], []⟩ [.text "q \t p"],
        .element ⟨⟨none, "b"⟩, none,
          [⟨⟨some xmlUri, "id"⟩, some xmlQualifier, "q"⟩, ⟨⟨none, "id"⟩, none, "s"⟩], []⟩ []]]]
    stamp := 7, node := ⟨0, .inner [0, 0, 0]⟩, position := 1, size := 1, bindings := .initial
    values := [], options := .standard }

theorem isDistinct_amongIdentified {node : Node} {head : Head}
    (isElement : amongIdentified.forest.head? node = some head)
    : head.IsDistinct := by
  obtain ⟨top, path, content, found, -, there⟩ := Forest.exists_of_head? isElement
  obtain ⟨tree, place⟩ := node
  cases tree with
  | succ tree => cases found
  | zero =>
      cases found
      cases path with
      | nil => cases there
      | cons index path =>
          have visited := (Item.mem_preorderAll [] 0 _ (index :: path, .element head content)).mpr
            ⟨index, path, by simp, there⟩
          simp only [Item.preorderAll, Item.preorder, List.append_nil, List.nil_append,
            List.cons_append, List.mem_cons, List.not_mem_nil, or_false, Prod.mk.injEq,
            Item.element.injEq] at visited
          rw [Head.IsDistinct]
          rcases visited with ⟨-, rfl, -⟩ | ⟨-, rfl, -⟩ | ⟨-, isText⟩ | ⟨-, rfl, -⟩
          · decide
          · decide
          · cases isText
          · decide

/-- The text names both elements by the identifiers that are not concealed. -/
theorem call_id_selects_text
    : ∃ function set, core.find? "id" = some function
      ∧ function.call amongIdentified [.nodes ⟨[amongIdentified.node]⟩] = .ok (.nodes set)
      ∧ set.items = [⟨0, .inner [0, 0]⟩, ⟨0, .inner [0, 1]⟩]
      ∧ set.items.Nodup := by
  have distinct (node : Node) (head : Head)
      (found : amongIdentified.forest.head? node = some head) : head.IsDistinct :=
    isDistinct_amongIdentified found
  obtain ⟨function, set, found, selected, -, nodup, -⟩ :=
    call_id_selects distinct (.nodes ⟨[amongIdentified.node]⟩)
  refine ⟨function, set, found, selected, ?_, nodup⟩
  have same : Core.id amongIdentified [.nodes ⟨[amongIdentified.node]⟩]
      = .ok (.nodes ⟨[⟨0, .inner [0, 0]⟩, ⟨0, .inner [0, 1]⟩]⟩) := by cbv
  cases found
  rw [Function.call_ofValue, same] at selected
  cases selected
  rfl

/-- The identifier without namespace does not count where the element has another one. -/
theorem call_id_misses
    : ∃ function head, core.find? "id" = some function
      ∧ amongIdentified.forest.head? ⟨0, .inner [0, 1]⟩ = some head
      ∧ head.IsNamedBy ((Value.string "s").HasWord amongIdentified.forest)
      ∧ function.call amongIdentified [.string "s"] = .ok (.nodes ⟨[]⟩) := by
  refine ⟨_, _, rfl, rfl, .inr ⟨⟨⟨none, "id"⟩, none, "s"⟩, by simp, rfl, ?_⟩, ?_⟩
  · show "s".toList ∈ Value.HasWord.wordsOf "s"
    decide
  · rw [Function.call_ofValue]
    cbv

end Library

end PathQuery
