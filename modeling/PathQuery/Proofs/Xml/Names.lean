import PathQuery.Proofs.Function.Core
import PathQuery.Proofs.Tree.Collected
import PathQuery.Xml.Source

/-! Names in trees that are made from documents. An element is called what its tag spells. The
qualifier of an attribute is found anew through its namespace, so that an attribute is called what
the document spells unless another qualifier for the namespace comes first in scope.
-/

namespace PathQuery

-----------------------------------------------------------------------------------------
-- Names of nodes
-----------------------------------------------------------------------------------------

/-- The name of a node with its qualifier, which the function `name` gives from the node and from
sets that begin with it.
-/
structure Forest.IsCalled (forest : Forest) (node : Node) (text : String) : Prop where
  view : (forest.view? node).map View.qualifiedName = some text
  call {context : Context} (inForest : context.forest = forest) (here : context.node = node)
    : (Library.core.find? "name").map (·.call context []) = some (.ok (.string text))
  callWith {context : Context} (inForest : context.forest = forest) {set : NodeSet}
    (begins : set.first? = some node)
    : (Library.core.find? "name").map (·.call context [.nodes set]) = some (.ok (.string text))

theorem Forest.isCalled_iff {forest : Forest} {node : Node} {text : String}
    : forest.IsCalled node text ↔ (forest.view? node).map View.qualifiedName = some text := by
  constructor
  · exact IsCalled.view
  · intro view
    refine ⟨view, ?_, ?_⟩
    · intro context inForest here
      subst inForest here
      show some ((Function.ofValue _ _).call context []) = _
      rw [Function.call_ofValue, Core.nameText, view]
      rfl
    · intro context inForest set begins
      subst inForest
      show some ((Function.ofValue _ _).call context [.nodes set]) = _
      rw [Function.call_ofValue, Core.nameText, Core.firstView?, begins, Option.bind_some, view]
      rfl

theorem qualified_inj {first second : String} (localPart : String) (filled : first ≠ "")
    (other : second ≠ "")
    : qualified (some first) localPart = qualified (some second) localPart ↔ first = second := by
  simp only [qualified, String.isEmpty_iff, filled, other, if_false]
  constructor
  · intro same
    have characters := congrArg String.toList same
    simp only [String.toList_append, List.append_assoc] at characters
    exact String.toList_inj.mp (List.append_cancel_right characters)
  · exact fun same => by rw [same]

namespace Xml

variable {options : TreeOptions} {around scope : Scope}

/-- A head without its declarations. -/
def undeclared (head : Head) : Head :=
  { head with declarations := [] }

/-- The head that a tag stands for in its scope, without its declarations. -/
def headOf (source : Tag × Scope) : Head :=
  undeclared (source.1.toHead [] source.2)

/-- The heads of the elements of several items in document order. -/
def headsOf (items : List Item) : List Head :=
  collected Item.head? items

theorem headsOf_filter (items : List Item)
    : headsOf (items.filter (·.head?.isSome)) = headsOf items :=
  collected_filter (fun _ noHead => noHead) items

theorem headsOf_tidy (options : TreeOptions) (items : List Item)
    : headsOf (tidy options items) = headsOf items := by
  rw [← headsOf_filter, filter_tidy, headsOf_filter]

mutual

/-- The elements of some content keep their heads, by induction on the content. -/
theorem heads_toItem? (options : TreeOptions) (around : Scope) (it : Content)
    : (headsOf (it.toItem? options around).toList).map undeclared
      = (it.elements around).map headOf := by
  cases it with
  | element tag content =>
      have inside := heads_itemsOf options (tag.scope around) content
      rw [← headsOf_tidy options, headsOf] at inside
      rw [Content.toItem?, Content.elements, Option.toList_some, headsOf, collected_cons,
        List.map_append, List.map_append, Item.content, inside]
      exact congrArg _ (List.append_nil _)
  | leaf it =>
      rw [Content.toItem?]
      cases it <;> rw [Leaf.toItem?] <;> split <;> rfl
  | text content =>
      rw [Content.toItem?]
      split <;> rfl
  | reference entity => rfl

theorem heads_itemsOf (options : TreeOptions) (around : Scope) (content : List Content)
    : (headsOf (itemsOf options around content)).map undeclared
      = (elementsOf around content).map headOf := by
  cases content with
  | nil => rfl
  | cons it rest =>
      rw [itemsOf, elementsOf, headsOf, collected_append, List.map_append, List.map_append,
        ← heads_toItem? options around it, ← heads_itemsOf options around rest]
      rfl

end

/-- The elements of a document's tree have the heads that the tags stand for. -/
theorem Document.heads_toTree (options : TreeOptions) (document : Document)
    : (document.toTree options).top.elements.map (undeclared ·.2)
      = (document.root.elements []).map headOf := by
  have root : (document.toTree options).top.elements.map Prod.snd
      = headsOf (document.root.toItem? options []).toList := by
    rw [← filter_content_toTree, headsOf_filter, Top.elements_eq, map_snd_elementsIn,
      Top.map_snd_pending]
    rfl
  rw [← heads_toItem? options, ← root, List.map_map]
  rfl

-----------------------------------------------------------------------------------------
-- What documents grant
-----------------------------------------------------------------------------------------

mutual

/-- The attributes of elements that fit into a tree have usable names. -/
theorem isUsable_of_fault? (it : Content) {around : Scope} (fits : it.fault? options around = none)
    {source : Tag × Scope} (member : source ∈ it.elements around)
    {written : WrittenAttribute} (inside : written ∈ source.1.attributes)
    : source.2.isUsable written.name (source.2.attributeName written.name) := by
  cases it with
  | element tag content =>
      rw [Content.fault?] at fits
      split at fits
      case isFalse => cases fits
      case isTrue =>
          obtain ⟨fitsInside, fitsHere⟩ := Option.or_eq_none_iff.mp fits
          rw [Content.elements] at member
          rcases List.mem_cons.mp member with same | below
          · subst same
            rw [Tag.attributesFault?] at fitsHere
            split at fitsHere
            case isTrue usable => exact List.all_eq_true.mp usable written inside
            case isFalse => cases fitsHere
          · exact isUsable_of_faultOf? content fitsInside below inside
  | leaf | text | reference => cases member

theorem isUsable_of_faultOf? (content : List Content) {around : Scope}
    (fits : faultOf? options around content = none)
    {source : Tag × Scope} (member : source ∈ elementsOf around content)
    {written : WrittenAttribute} (inside : written ∈ source.1.attributes)
    : source.2.isUsable written.name (source.2.attributeName written.name) := by
  cases content with
  | nil => cases member
  | cons it rest =>
      obtain ⟨fitsFirst, fitsRest⟩ := Option.or_eq_none_iff.mp fits
      rcases List.mem_append.mp member with first | later
      · exact isUsable_of_fault? it fitsFirst first inside
      · exact isUsable_of_faultOf? rest fitsRest later inside

end

mutual

/-- Regular declarations make regular scopes. -/
theorem isRegular_of_elements (it : Content) {around : Scope} (regular : around.IsRegular)
    (regularOnes : ∀ source ∈ it.elements around, source.1.declarations.IsRegular)
    {source : Tag × Scope} (member : source ∈ it.elements around)
    : source.2.IsRegular := by
  cases it with
  | element tag content =>
      rw [Content.elements] at member regularOnes
      obtain ⟨tagRegular, innerRegular⟩ := List.forall_mem_cons.mp regularOnes
      rcases List.mem_cons.mp member with same | below
      · subst same
        exact tagRegular.below regular
      · exact isRegular_of_elementsOf content (tagRegular.below regular) innerRegular below
  | leaf | text | reference => cases member

theorem isRegular_of_elementsOf (content : List Content) {around : Scope}
    (regular : around.IsRegular)
    (regularOnes : ∀ source ∈ elementsOf around content, source.1.declarations.IsRegular)
    {source : Tag × Scope} (member : source ∈ elementsOf around content)
    : source.2.IsRegular := by
  cases content with
  | nil => cases member
  | cons it rest =>
      obtain ⟨firstRegular, restRegular⟩ := List.forall_mem_append.mp regularOnes
      rcases List.mem_append.mp member with first | later
      · exact isRegular_of_elements it regular firstRegular first
      · exact isRegular_of_elementsOf rest regular restRegular later

end

-----------------------------------------------------------------------------------------
-- Qualifiers of attributes
-----------------------------------------------------------------------------------------

/-- Another qualifier for the namespace of an attribute comes before its own one in a scope. -/
def Scope.Overtakes (scope : Scope) (name : SpelledName) : Prop :=
  ∃ other uri, (scope.attributeName name).uri = some uri
    ∧ (some other, uri) ∈ scope.takeWhile (·.1 ≠ name.qualifier)

namespace Scope

/-- The namespace of an attribute whose qualifier is in scope. -/
theorem IsRegular.exists_uri (regular : scope.IsRegular) {qualifier : String} (localPart : String)
    (bound : scope.binds (some qualifier))
    : qualifier ≠ "" ∧ ∃ uri, (scope.attributeName ⟨some qualifier, localPart⟩).uri = some uri
      ∧ (∀ other, (some qualifier, other) ∈ scope → other = uri)
      ∧ ((∀ other, (some qualifier, other) ∉ scope) → qualifier = xmlQualifier ∧ uri = xmlUri) := by
  by_cases isXml : qualifier = xmlQualifier
  · subst isXml
    exact ⟨by decide, xmlUri, rfl, fun _ => regular.xml, fun _ => ⟨rfl, rfl⟩⟩
  · obtain ⟨uri, found⟩ : ∃ uri, scope.lookup (some qualifier) = some uri := by
      simpa [binds, isXml, Option.isSome_iff_exists] using bound
    have member := mem_of_lookup_eq found
    obtain ⟨filled, stands⟩ := regular.ne_empty member
    refine ⟨filled, uri, ?_, ?_, ?_⟩
    · simp [attributeName, uri?, isXml, found, uriOf, stands]
    · intro other again
      have same := lookup_eq_of_mem regular.distinct again
      rw [found, Option.some.injEq] at same
      exact same.symm
    · intro absent
      exact absurd member (absent uri)

theorem qualifier_toAttribute {written : WrittenAttribute} {uri : String}
    (names : (scope.attributeName written.name).uri = some uri)
    : (written.toAttribute scope).qualifier
      = (scope.qualifierOf? uri).or (if uri = xmlUri then some xmlQualifier else none) := by
  rw [WrittenAttribute.toAttribute]
  dsimp only
  rw [names]

/-- A qualifier that comes first in scope is found for its namespace. -/
theorem qualifierOf?_append {before after : Scope} {uri : String}
    : (∃ other, (some other, uri) ∈ before ∧ qualifierOf? (before ++ after) uri = some other)
      ∨ (∀ other, (some other, uri) ∉ before)
        ∧ qualifierOf? (before ++ after) uri = qualifierOf? after uri := by
  rw [qualifierOf?, qualifierOf?, List.find?_append]
  cases found : before.find? fun entry => entry.1.isSome && entry.2 == uri with
  | some entry =>
      obtain ⟨other, meant⟩ := entry
      have member := List.mem_of_find?_eq_some found
      have stands := List.find?_some found
      rw [Bool.and_eq_true, Option.isSome_iff_exists, beq_iff_eq] at stands
      obtain ⟨⟨other, rfl⟩, rfl⟩ := stands
      exact .inl ⟨other, member, rfl⟩
  | none =>
      refine .inr ⟨?_, rfl⟩
      intro other member
      simpa using List.find?_eq_none.mp found _ member

/-- From its own entry on the spelled qualifier of an attribute is the first for its namespace. -/
theorem qualifierOf?_dropWhile {qualifier uri : String}
    (only : ∀ other, (some qualifier, other) ∈ scope → other = uri)
    (absent : (∀ other, (some qualifier, other) ∉ scope) → qualifier = xmlQualifier ∧ uri = xmlUri)
    : (qualifierOf? (scope.dropWhile (·.1 ≠ some qualifier)) uri).or
        (if uri = xmlUri then some xmlQualifier else none) = some qualifier := by
  have ends := List.head?_dropWhile_not (·.1 ≠ some qualifier) scope
  cases left : scope.dropWhile (·.1 ≠ some qualifier) with
  | nil =>
      obtain ⟨rfl, rfl⟩ := absent fun other member => by
        simpa using List.dropWhile_eq_nil_iff.mp left _ member
      rfl
  | cons entry rest =>
      obtain ⟨key, meant⟩ := entry
      rw [left] at ends
      obtain rfl : key = some qualifier := by simpa using ends
      have member := (List.dropWhile_sublist (·.1 ≠ some qualifier)).subset
        (left ▸ List.mem_cons_self : (some qualifier, meant) ∈ scope.dropWhile _)
      rw [only meant member]
      simp [qualifierOf?]

/-- The first qualifier for a namespace is the spelled one unless another one comes before it. -/
theorem IsRegular.qualified_toAttribute_iff (regular : scope.IsRegular)
    {written : WrittenAttribute}
    (usable : scope.isUsable written.name (scope.attributeName written.name))
    : qualified (written.toAttribute scope).qualifier (written.toAttribute scope).name.localPart
        = written.name.text ↔ ¬ scope.Overtakes written.name := by
  obtain ⟨⟨qualifier, localPart⟩, value⟩ := written
  cases qualifier with
  | none => simp [WrittenAttribute.toAttribute, attributeName, Overtakes, SpelledName.text]
  | some qualifier =>
      have bound : scope.binds (some qualifier) := by
        simp only [isUsable, Bool.and_eq_true] at usable
        exact usable.1.1
      obtain ⟨filled, uri, names, only, absent⟩ := regular.exists_uri localPart bound
      rw [qualifier_toAttribute names]
      have overtakes : scope.Overtakes ⟨some qualifier, localPart⟩
          ↔ ∃ other, (some other, uri) ∈ scope.takeWhile (·.1 ≠ some qualifier) := by
        simp [Overtakes, names]
      rw [overtakes]
      have parts : scope.takeWhile (·.1 ≠ some qualifier) ++ scope.dropWhile (·.1 ≠ some qualifier)
          = scope := List.takeWhile_append_dropWhile
      have first : qualifierOf? (scope.takeWhile (·.1 ≠ some qualifier)
            ++ scope.dropWhile (·.1 ≠ some qualifier)) uri = scope.qualifierOf? uri := by
        rw [parts]
      rcases qualifierOf?_append with ⟨other, earlier, found⟩ | ⟨noOther, found⟩
      · rw [← first, found]
        have apart : other ≠ qualifier := by
          simpa using List.mem_takeWhile_imp earlier
        have otherFilled := (regular.ne_empty ((List.takeWhile_sublist _).subset earlier)).1
        have differs := (qualified_inj localPart otherFilled filled).not.mpr apart
        exact iff_of_false differs (not_not.mpr ⟨other, earlier⟩)
      · rw [← first, found, qualifierOf?_dropWhile only absent]
        refine iff_of_true rfl ?_
        intro overtaken
        obtain ⟨other, earlier⟩ := overtaken
        exact noOther other earlier

end Scope

-----------------------------------------------------------------------------------------
-- Names in trees of documents
-----------------------------------------------------------------------------------------

/-- An element is called what its tag spells, and each of its attributes too unless the qualifier is
overtaken.
-/
structure KeepsNames (forest : Forest) (tree : Nat) (element : List Nat × Head)
    (source : Tag × Scope) : Prop where
  element_called : forest.IsCalled ⟨tree, .inner element.1⟩ source.1.name.text
  attributes_length : element.2.attributes.length = source.1.attributes.length
  attribute_called {index : Nat} {written : WrittenAttribute}
    (found : source.1.attributes[index]? = some written)
    : forest.IsCalled ⟨tree, .attributeAt element.1 index⟩ written.name.text
      ↔ ¬ source.2.Overtakes written.name

/-- A head that a tag stands for keeps its names wherever it is in a tree. -/
theorem keepsNames_of_undeclared_eq {forest : Forest} {tree : Nat} {top : Top} {path : List Nat}
    {head : Head} {source : Tag × Scope} (planted : forest[tree]? = some top)
    (member : (path, head) ∈ top.elements) (same : undeclared head = headOf source)
    (regular : source.2.IsRegular)
    (usable : ∀ written ∈ source.1.attributes,
      source.2.isUsable written.name (source.2.attributeName written.name))
    : KeepsNames forest tree (path, head) source := by
  obtain ⟨content, there⟩ := Top.mem_elements_iff.mp member
  have attributes_eq : head.attributes = source.1.attributes.map (·.toAttribute source.2) :=
    congrArg Head.attributes same
  have view_inner := Forest.view?_of_at? planted there
  have view_attribute (index : Nat)
      : forest.view? ⟨tree, .attributeAt path index⟩
        = source.1.attributes[index]?.map (.attributeView <| ·.toAttribute source.2) := by
    rw [Forest.view?, planted, Option.bind_some, Top.view?, Top.attributesAt, there]
    show head.attributes[index]?.map _ = _
    rw [attributes_eq, List.getElem?_map, Option.map_map]
    rfl
  constructor
  · rw [Forest.isCalled_iff, view_inner]
    have name_eq : head.name = source.2.elementName source.1.name := congrArg Head.name same
    have qualifier_eq : head.qualifier = source.1.name.qualifier := congrArg Head.qualifier same
    simp [View.qualifiedName, name_eq, qualifier_eq, Scope.elementName, SpelledName.text]
  · simp [attributes_eq]
  · intro index written found
    rw [Forest.isCalled_iff, view_attribute, found, Option.map_some, Option.map_some,
      Option.some.injEq]
    exact regular.qualified_toAttribute_iff (usable written (List.mem_of_getElem? found))

/-- Every element of a document's tree comes from an element of the document and keeps its names. They
correspond one by one, in document order.
-/
theorem Document.treeAt_called {document : Document} {built : Built} {forest : Forest} {tree : Nat}
    (regular : ∀ source ∈ document.root.elements [], source.1.declarations.IsRegular)
    (made : document.treeAt options [] = .ok built) (planted : forest[tree]? = some built.top)
    : List.Forall₂ (KeepsNames forest tree) built.top.elements (document.root.elements []) := by
  obtain ⟨fits, rfl⟩ := Built.orFault_eq_ok_iff.mp made
  rw [Document.fault?, Option.or_eq_none_iff, Option.or_eq_none_iff] at fits
  have heads := document.heads_toTree options
  rw [← List.forall₂_eq_eq_eq, List.forall₂_map_left_iff, List.forall₂_map_right_iff,
    List.forall₂_iff_zip] at heads
  rw [List.forall₂_iff_zip]
  refine ⟨heads.1, ?_⟩
  intro element source paired
  obtain ⟨inTree, inDocument⟩ := List.of_mem_zip paired
  refine keepsNames_of_undeclared_eq planted inTree (heads.2 paired) ?_ ?_
  · exact isRegular_of_elements document.root .nil regular inDocument
  · intro written inside
    exact isUsable_of_fault? document.root fits.2.1 inDocument inside

/-- A document with a default namespace, which the inner element changes, and a qualifier that it
declares once more.
-/
def Document.redeclared : Document where
  before := []
  tag := ⟨⟨some "p", "a"⟩,
    [⟨⟨some "p", "x"⟩, "1"⟩, ⟨⟨none, "y"⟩, "2"⟩, ⟨⟨some "xml", "lang"⟩, "en"⟩],
    [(none, "d"), (some "p", "u")]⟩
  content := [.text "t",
    .element ⟨⟨none, "b"⟩, [⟨⟨some "p", "z"⟩, "3"⟩], [(some "p", "d"), (none, "u")]⟩ []]
  after := []

theorem Document.redeclared_treeAt_called
    : ∃ built, Document.redeclared.treeAt ⟨false, false, false⟩ [] = .ok built
      ∧ List.Forall₂ (KeepsNames [built.top] 0) built.top.elements
          (Document.redeclared.root.elements [])
      ∧ ∀ source ∈ Document.redeclared.root.elements [], ∀ written ∈ source.1.attributes,
        ¬ source.2.Overtakes written.name := by
  have regular : ∀ source ∈ Document.redeclared.root.elements [],
      source.1.declarations.IsRegular := by
    intro source member
    simp only [redeclared, root, Content.elements, elementsOf, List.append_nil, List.nil_append,
      List.mem_cons, List.not_mem_nil, or_false] at member
    rcases member with rfl | rfl <;> constructor <;> simp [xmlQualifier]
  refine ⟨_, rfl, Document.treeAt_called regular rfl rfl, ?_⟩
  intro source member written inside overtaken
  obtain ⟨other, uri, names, earlier⟩ := overtaken
  simp only [redeclared, root, Content.elements, elementsOf, List.append_nil, List.nil_append,
    List.mem_cons, List.not_mem_nil, or_false] at member
  rcases member with rfl | rfl
  · simp only [List.mem_cons, List.not_mem_nil, or_false] at inside
    rcases inside with rfl | rfl | rfl <;>
      simp_all [Scope.attributeName, Scope.uri?, Tag.scope, Scope.below, uriOf, xmlQualifier,
        xmlUri]
  · simp_all [Scope.attributeName, Scope.uri?, Tag.scope, Scope.below]

/-- The attribute of an element that declares two qualifiers for its namespace, of which it has the
second, is called by the first.
-/
theorem Document.treeAt_requalified
    : ∃ document built, Document.ofText? "<a xmlns:p='http://u' xmlns:q='http://u' q:x='1'/>"
        = some document
      ∧ document.treeAt ⟨false, false, false⟩ [] = .ok built
      ∧ document.tag.attributes.map (·.name.text) = ["q:x"]
      ∧ Forest.IsCalled [built.top] ⟨0, .attributeAt [0] 0⟩ "p:x" := by
  have names : (do
      let document ← Document.ofText? "<a xmlns:p='http://u' xmlns:q='http://u' q:x='1'/>"
      let built ← (document.treeAt ⟨false, false, false⟩ []).toOption
      let view ← Forest.view? [built.top] ⟨0, .attributeAt [0] 0⟩
      return (document.tag.attributes.map (·.name.text), view.qualifiedName))
      = some (["q:x"], "p:x") := by decide +kernel
  obtain ⟨document, read, names⟩ := Option.bind_eq_some_iff.mp names
  obtain ⟨built, made, names⟩ := Option.bind_eq_some_iff.mp names
  obtain ⟨view, seen, names⟩ := Option.bind_eq_some_iff.mp names
  obtain ⟨written, called⟩ := Prod.mk.inj (Option.some.inj names)
  refine ⟨document, built, read, ?_, written, ?_⟩
  · cases found : document.treeAt ⟨false, false, false⟩ [] with
    | ok other =>
        rw [found] at made
        exact congrArg Except.ok (Option.some.inj made)
    | error fault => simp [found, Except.toOption] at made
  · rw [Forest.isCalled_iff, seen, Option.map_some, called]

end Xml

end PathQuery
