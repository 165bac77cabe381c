import PathQuery.Proofs.Xml.Merging

/-! Documents whose texts hang on nodes, as a text before the first node of an element and one after
each node. What becomes of them does not depend on how texts are cut, and a leaf that is removed
from the result can as well be deleted before, if the text after it is added to the one before it.
-/

namespace PathQuery.Xml

variable {options other : TreeOptions} {content counterpart : List Content}

-----------------------------------------------------------------------------------------
-- Texts between nodes
-----------------------------------------------------------------------------------------

/-- What an element contains, where a text, possibly empty, stands before each node and after the
last one. The first text belongs to the element and each other one to the node before it.
-/
inductive Strand where
  | text (content : String)
  | element (before : String) (tag : Tag) (inside rest : Strand)
  | leaf (before : String) (it : Leaf) (rest : Strand)
  | reference (before : String) (entity : String) (rest : Strand)
deriving DecidableEq, Repr

namespace Strand

/-- Adds to the text before the first node. -/
def prepend (content : String) : Strand → Strand
  | .text next => .text (content ++ next)
  | .element before tag inside rest => .element (content ++ before) tag inside rest
  | .leaf before it rest => .leaf (content ++ before) it rest
  | .reference before entity rest => .reference (content ++ before) entity rest

/-- The texts and nodes as contents in order. -/
def contents : Strand → List Content
  | .text content => [.text content]
  | .element before tag inside rest =>
      .text before :: .element tag inside.contents :: rest.contents
  | .leaf before it rest => .text before :: .leaf it :: rest.contents
  | .reference before entity rest => .text before :: .reference entity :: rest.contents

/-- Deletes leaves at every depth; the text after a deleted one is added to the text before it. -/
def without (isGone : Leaf → Bool) : Strand → Strand
  | .text content => .text content
  | .element before tag inside rest =>
      .element before tag (inside.without isGone) (rest.without isGone)
  | .leaf before it rest =>
      if isGone it then (rest.without isGone).prepend before
      else .leaf before it (rest.without isGone)
  | .reference before entity rest => .reference before entity (rest.without isGone)

/-- All texts at every depth in document order, as one. -/
def textInside : Strand → String
  | .text content => content
  | .element before _ inside rest => before ++ (inside.textInside ++ rest.textInside)
  | .leaf before _ rest => before ++ rest.textInside
  | .reference before _ rest => before ++ rest.textInside

/-- All texts in each element at any depth, the elements in document order. -/
def elementTexts : Strand → List String
  | .text _ => []
  | .element _ _ inside rest => inside.textInside :: (inside.elementTexts ++ rest.elementTexts)
  | .leaf _ _ rest => rest.elementTexts
  | .reference _ _ rest => rest.elementTexts

end Strand

mutual

/-- Hangs some content before a strand. -/
def Content.hang (rest : Strand) : Content → Strand
  | .element tag content => .element "" tag (hangAll content) rest
  | .leaf it => .leaf "" it rest
  | .text content => rest.prepend content
  | .reference entity => .reference "" entity rest

/-- The strand of several contents. -/
def hangAll : List Content → Strand
  | [] => .text ""
  | it :: rest => it.hang (hangAll rest)

end

/-- What a tree is made of: a document, or an element in the scope around it. -/
inductive Part where
  | document (before : List Leaf) (tag : Tag) (inside : Strand) (after : List Leaf)
  | element (around : Scope) (tag : Tag) (inside : Strand)
deriving DecidableEq, Repr

namespace Part

/-- The tree that is made of a part. -/
def tree (options : TreeOptions) : Part → Except SelectionFault Built
  | .document before tag inside after =>
      Document.treeAt options ⟨before, tag, inside.contents, after⟩ []
  | .element around tag inside =>
      (elementTree options around tag inside.contents).orFault
        ((Content.element tag inside.contents).fault? options around)

/-- Deletes leaves inside the outermost element and around it. -/
def without (isGone : Leaf → Bool) : Part → Part
  | .document before tag inside after =>
      .document (before.filter (!isGone ·)) tag (inside.without isGone) (after.filter (!isGone ·))
  | .element around tag inside => .element around tag (inside.without isGone)

/-- All texts in each element, the elements in document order. -/
def elementTexts : Part → List String
  | .document _ _ inside _ => inside.textInside :: inside.elementTexts
  | .element _ _ inside => inside.textInside :: inside.elementTexts

end Part

/-- The part of a document that a path selects: all of it, or what is found there if that is an
element.
-/
def Document.part (document : Document) (path : List Nat) : Except SelectionFault Part :=
  if path.isEmpty then
    .ok (.document document.before document.tag (hangAll document.content) document.after)
  else
    match document.root.at? [] path with
    | some (around, .element tag content) => .ok (.element around tag (hangAll content))
    | some _ => .error .noElement
    | none => .error .notFound

/-- Whether a leaf is a comment. -/
def Leaf.isComment : Leaf → Bool
  | .comment _ => true
  | .instruction _ _ => false

/-- Whether a leaf is a processing instruction. -/
def Leaf.isInstruction : Leaf → Bool
  | .comment _ => false
  | .instruction _ _ => true

-----------------------------------------------------------------------------------------
-- Contents that are converted alike
-----------------------------------------------------------------------------------------

/-- Contents become under some options what others become under other ones, whatever scope is around
them.
-/
structure Alike (options other : TreeOptions) (content counterpart : List Content) : Prop where
  items (around : Scope)
    : mergeTexts (itemsOf options around content) = mergeTexts (itemsOf other around counterpart)
  fault (around : Scope) : faultOf? options around content = faultOf? other around counterpart
  references : referencesOf content = referencesOf counterpart

namespace Alike

theorem refl (options : TreeOptions) (content : List Content)
    : Alike options options content content :=
  ⟨fun _ => rfl, fun _ => rfl, rfl⟩

theorem symm (alike : Alike options other content counterpart)
    : Alike other options counterpart content :=
  ⟨fun around => (alike.items around).symm, fun around => (alike.fault around).symm,
    alike.references.symm⟩

theorem trans {first second third : TreeOptions} {left middle right : List Content}
    (alike : Alike first second left middle) (more : Alike second third middle right)
    : Alike first third left right :=
  ⟨fun around => (alike.items around).trans (more.items around),
    fun around => (alike.fault around).trans (more.fault around),
    alike.references.trans more.references⟩

theorem cons {it its : Content} (alike : Alike options other content counterpart)
    (item : ∀ around, it.toItem? options around = its.toItem? other around)
    (fault : ∀ around, it.fault? options around = its.fault? other around)
    (references : it.references = its.references)
    : Alike options other (it :: content) (its :: counterpart) := by
  constructor
  · intro around
    rw [itemsOf, itemsOf, item]
    exact mergeTexts_append_congr _ (alike.items around)
  · intro around
    rw [faultOf?, faultOf?, fault, alike.fault]
  · rw [referencesOf, referencesOf, references, alike.references]

theorem tidy_eq (alike : Alike options other content counterpart)
    (blanks : options.stripBlanks = other.stripBlanks) (around : Scope)
    : tidy options (itemsOf options around content)
      = tidy other (itemsOf other around counterpart) := by
  rw [tidy, tidy, blanks, alike.items]

theorem toItem?_element (alike : Alike options other content counterpart)
    (blanks : options.stripBlanks = other.stripBlanks) (tag : Tag) (around : Scope)
    : (Content.element tag content).toItem? options around
      = (Content.element tag counterpart).toItem? other around := by
  rw [Content.toItem?, Content.toItem?, alike.tidy_eq blanks]

theorem fault?_element (alike : Alike options other content counterpart) (tag : Tag)
    (around : Scope)
    : (Content.element tag content).fault? options around
      = (Content.element tag counterpart).fault? other around := by
  rw [Content.fault?, Content.fault?, alike.fault]

theorem references_element (alike : Alike options other content counterpart) (tag : Tag)
    : (Content.element tag content).references = (Content.element tag counterpart).references := by
  rw [Content.references, Content.references, alike.references]

theorem element {inside insides : List Content} (alike : Alike options other content counterpart)
    (blanks : options.stripBlanks = other.stripBlanks) (tag : Tag)
    (below : Alike options other inside insides)
    : Alike options other (.element tag inside :: content) (.element tag insides :: counterpart) :=
  alike.cons (below.toItem?_element blanks tag) (below.fault?_element tag)
    (below.references_element tag)

theorem text (alike : Alike options other content counterpart) (it : String)
    : Alike options other (.text it :: content) (.text it :: counterpart) :=
  alike.cons (fun _ => rfl) (fun _ => rfl) rfl

theorem leaf {it : Leaf} (alike : Alike options other content counterpart)
    (item : it.toItem? options = it.toItem? other) (fault : it.fault? options = it.fault? other)
    : Alike options other (.leaf it :: content) (.leaf it :: counterpart) :=
  alike.cons (fun _ => item) (fun _ => fault) rfl

theorem reference (alike : Alike options other content counterpart) (entity : String)
    : Alike options other (.reference entity :: content) (.reference entity :: counterpart) :=
  alike.cons (fun _ => rfl) (fun _ => rfl) rfl

/-- A leaf that is removed and does no harm can be left out. -/
theorem skip {it : Leaf} (alike : Alike options other content counterpart)
    (removed : it.toItem? options = none) (harmless : it.fault? options = none)
    : Alike options other (.leaf it :: content) counterpart := by
  constructor
  · intro around
    rw [itemsOf, Content.toItem?, removed]
    exact alike.items around
  · intro around
    rw [faultOf?, Content.fault?, harmless]
    exact alike.fault around
  · exact alike.references

theorem text_empty (options : TreeOptions) (content : List Content)
    : Alike options options (.text "" :: content) content :=
  ⟨fun _ => rfl, fun _ => rfl, rfl⟩

/-- Where a text is cut does not matter. -/
theorem text_append (options : TreeOptions) (first second : String) (content : List Content)
    : Alike options options (.text (first ++ second) :: content)
        (.text first :: .text second :: content) := by
  refine ⟨?_, fun _ => rfl, rfl⟩
  intro around
  simp only [itemsOf, Content.toItem?, String.isEmpty_iff, String.append_eq_empty_iff]
  by_cases noFirst : first = ""
  · by_cases noSecond : second = "" <;> simp [noFirst, noSecond]
  · by_cases noSecond : second = ""
    · simp [noFirst, noSecond]
    · simp [noFirst, noSecond, mergeTexts_text, joinText_append]

end Alike

theorem Strand.alike_prepend (options : TreeOptions) (content : String) (strand : Strand)
    : Alike options options (strand.prepend content).contents
        (.text content :: strand.contents) := by
  cases strand <;> exact .text_append options ..

-----------------------------------------------------------------------------------------
-- Hung texts
-----------------------------------------------------------------------------------------

mutual

theorem alike_hang (options : TreeOptions) (rest : Strand) (it : Content)
    : Alike options options (it.hang rest).contents (it :: rest.contents) := by
  cases it with
  | element tag content =>
      refine (Alike.text_empty options _).trans ?_
      exact (Alike.refl options _).element rfl tag (alike_hangAll options content)
  | leaf | reference => exact .text_empty options _
  | text content => exact rest.alike_prepend options content

/-- Contents become what their strand becomes. -/
theorem alike_hangAll (options : TreeOptions) (content : List Content)
    : Alike options options (hangAll content).contents content := by
  cases content with
  | nil => exact .text_empty options []
  | cons it rest =>
      refine (alike_hang options (hangAll rest) it).trans ?_
      exact (alike_hangAll options rest).cons (fun _ => rfl) (fun _ => rfl) rfl

end

/-- Leaves become under some options what others become under other ones. -/
structure LeavesAlike (options other : TreeOptions) (leaves counterparts : List Leaf) : Prop where
  items : leaves.filterMap (·.toItem? options) = counterparts.filterMap (·.toItem? other)
  fault : leaves.findSome? (·.fault? options) = counterparts.findSome? (·.fault? other)

theorem Alike.treeAt_nil {before befores after afters : List Leaf}
    (alike : Alike options other content counterpart)
    (blanks : options.stripBlanks = other.stripBlanks) (tag : Tag)
    (front : LeavesAlike options other before befores)
    (back : LeavesAlike options other after afters)
    : Document.treeAt options ⟨before, tag, content, after⟩ []
      = Document.treeAt other ⟨befores, tag, counterpart, afters⟩ [] := by
  simp only [Document.treeAt, List.isEmpty_nil, if_true, Document.toTree, Document.fault?,
    Document.root, front.items, front.fault, back.items, back.fault,
    alike.toItem?_element blanks, alike.fault?_element, alike.references_element]

theorem Alike.elementTree_orFault (alike : Alike options other content counterpart)
    (blanks : options.stripBlanks = other.stripBlanks) (around : Scope) (tag : Tag)
    : (elementTree options around tag content).orFault
        ((Content.element tag content).fault? options around)
      = (elementTree other around tag counterpart).orFault
        ((Content.element tag counterpart).fault? other around) := by
  rw [elementTree, elementTree, alike.tidy_eq blanks, alike.references, alike.fault?_element]

/-- A selected part has the tree that the document has at the path. -/
theorem Document.treeAt_part {document : Document} {path : List Nat} {part : Part}
    (selected : document.part path = .ok part) (options : TreeOptions)
    : document.treeAt options path = part.tree options := by
  rw [Document.part] at selected
  split at selected
  case isTrue whole =>
      obtain rfl := List.isEmpty_iff.mp whole
      cases selected
      exact (alike_hangAll options document.content).symm.treeAt_nil rfl document.tag ⟨rfl, rfl⟩
        ⟨rfl, rfl⟩
  case isFalse nested =>
      rw [treeAt, if_neg nested]
      cases found : document.root.at? [] path with
      | none =>
          rw [found] at selected
          cases selected
      | some place =>
          rw [found] at selected
          obtain ⟨around, it⟩ := place
          cases it with
          | element tag content =>
              cases selected
              exact (alike_hangAll options content).symm.elementTree_orFault rfl around tag
          | leaf | text | reference => cases selected

-----------------------------------------------------------------------------------------
-- Deleted leaves
-----------------------------------------------------------------------------------------

/-- Options that remove some leaves and treat all others as other options do. -/
structure Removes (options other : TreeOptions) (isGone : Leaf → Bool) : Prop where
  blanks : options.stripBlanks = other.stripBlanks
  gone {it : Leaf} (isIt : isGone it = true)
    : it.toItem? options = none ∧ it.fault? options = none
  kept {it : Leaf} (isNot : isGone it = false)
    : it.toItem? options = it.toItem? other ∧ it.fault? options = it.fault? other

theorem removes_comments (options : TreeOptions)
    : Removes { options with removeComments := true } { options with removeComments := false }
        Leaf.isComment where
  blanks := rfl
  gone {it} isIt := by
    cases it with
    | comment content => exact ⟨rfl, rfl⟩
    | instruction target content => cases isIt
  kept {it} isNot := by
    cases it with
    | comment content => cases isNot
    | instruction target content => exact ⟨rfl, rfl⟩

theorem removes_instructions (options : TreeOptions)
    : Removes { options with removeInstructions := true }
        { options with removeInstructions := false } Leaf.isInstruction where
  blanks := rfl
  gone {it} isIt := by
    cases it with
    | comment content => cases isIt
    | instruction target content => exact ⟨rfl, rfl⟩
  kept {it} isNot := by
    cases it with
    | comment content => exact ⟨rfl, rfl⟩
    | instruction target content => cases isNot

namespace Removes

variable {isGone : Leaf → Bool}

/-- By induction on the strand: the text after a deleted leaf joins the one before it either way. -/
theorem alike_without (removes : Removes options other isGone) (strand : Strand)
    : Alike options other strand.contents (strand.without isGone).contents := by
  induction strand with
  | text content => exact ⟨fun _ => rfl, fun _ => rfl, rfl⟩
  | element before tag inside rest insideAlike restAlike =>
      exact (restAlike.element removes.blanks tag insideAlike).text before
  | reference before entity rest restAlike => exact (restAlike.reference entity).text before
  | leaf before it rest restAlike =>
      rw [Strand.without]
      split
      case isTrue isIt =>
          obtain ⟨removed, harmless⟩ := removes.gone isIt
          exact ((restAlike.skip removed harmless).text before).trans
            (Strand.alike_prepend other before _).symm
      case isFalse isNot =>
          obtain ⟨item, fault⟩ := removes.kept (Bool.eq_false_iff.mpr isNot)
          exact (restAlike.leaf item fault).text before

theorem leavesAlike (removes : Removes options other isGone) (leaves : List Leaf)
    : LeavesAlike options other leaves (leaves.filter (!isGone ·)) := by
  induction leaves with
  | nil => exact ⟨rfl, rfl⟩
  | cons it rest ih =>
      cases isIt : isGone it with
      | true =>
          obtain ⟨removed, harmless⟩ := removes.gone isIt
          constructor
          · simp [isIt, removed, ih.items]
          · simp [isIt, harmless, ih.fault]
      | false =>
          obtain ⟨item, fault⟩ := removes.kept isIt
          constructor
          · simp [isIt, item, List.filterMap_cons, ih.items]
          · simp [isIt, fault, List.findSome?_cons, ih.fault]

/-- Removed leaves can as well be deleted before. -/
theorem tree_without (removes : Removes options other isGone) (part : Part)
    : part.tree options = (part.without isGone).tree other := by
  cases part with
  | document before tag inside after =>
      exact (removes.alike_without inside).treeAt_nil removes.blanks tag
        (removes.leavesAlike before) (removes.leavesAlike after)
  | element around tag inside =>
      exact (removes.alike_without inside).elementTree_orFault removes.blanks around tag

end Removes

example : (Strand.leaf "x" (.comment "1") (.text "y")).without Leaf.isComment = .text "xy" :=
  rfl

-----------------------------------------------------------------------------------------
-- Texts of elements
-----------------------------------------------------------------------------------------

theorem textBelow_text (options : TreeOptions) (around : Scope) (content : String)
    : View.textBelow ((Content.text content).toItem? options around).toList = content := by
  rw [Content.toItem?]
  split
  case isTrue empty => exact View.textBelow_nil.trans (String.isEmpty_iff.mp empty).symm
  case isFalse =>
      rw [Option.toList_some, View.textBelow_cons_text, View.textBelow_nil, String.append_empty]

theorem elementTexts_text (options : TreeOptions) (around : Scope) (content : String)
    : collected Item.elementText? ((Content.text content).toItem? options around).toList = [] := by
  rw [Content.toItem?]
  split <;> rfl

/-- A leaf has neither texts nor elements. -/
theorem Leaf.collected_toItem? (options : TreeOptions) (it : Leaf)
    : View.textBelow (it.toItem? options).toList = ""
      ∧ collected Item.elementText? (it.toItem? options).toList = [] := by
  rw [View.textBelow_eq]
  cases it <;> rw [Leaf.toItem?] <;> split <;> exact ⟨rfl, rfl⟩

theorem tidy_eq_mergeTexts (keeps : options.stripBlanks = false) (items : List Item)
    : tidy options items = mergeTexts items := by
  rw [tidy, keeps, if_neg Bool.false_ne_true]

namespace Strand

/-- Unless blank texts are removed, an element keeps all texts inside it. -/
theorem textBelow_itemsOf (keeps : options.stripBlanks = false) (strand : Strand) (around : Scope)
    : View.textBelow (itemsOf options around strand.contents) = strand.textInside := by
  induction strand generalizing around with
  | text content =>
      rw [contents, itemsOf, itemsOf, List.append_nil, textBelow_text, textInside]
  | element before tag inside rest ihInside ihRest =>
      rw [contents, itemsOf, itemsOf, View.textBelow_append, View.textBelow_append, textBelow_text,
        ihRest, Content.toItem?, Option.toList_some, View.textBelow_cons, Item.content,
        tidy_eq_mergeTexts keeps, textBelow_mergeTexts, ihInside, View.textBelow_nil,
        String.append_empty, textInside]
      simp [Item.text?]
  | leaf before it rest ih =>
      rw [contents, itemsOf, itemsOf, View.textBelow_append, View.textBelow_append, textBelow_text,
        ih, Content.toItem?, (it.collected_toItem? options).1, String.empty_append, textInside]
  | reference before entity rest ih =>
      rw [contents, itemsOf, itemsOf, View.textBelow_append, textBelow_text, textInside, ← ih]
      rfl

theorem elementTexts_itemsOf (keeps : options.stripBlanks = false) (strand : Strand)
    (around : Scope)
    : collected Item.elementText? (itemsOf options around strand.contents)
      = strand.elementTexts := by
  induction strand generalizing around with
  | text content =>
      rw [contents, itemsOf, itemsOf, List.append_nil, elementTexts_text, elementTexts]
  | element before tag inside rest ihInside ihRest =>
      rw [contents, itemsOf, itemsOf, collected_append, collected_append, elementTexts_text,
        ihRest, Content.toItem?, Option.toList_some, collected_cons, Item.elementText?,
        Item.content, tidy_eq_mergeTexts keeps, textBelow_mergeTexts, elementTexts_mergeTexts,
        ihInside, inside.textBelow_itemsOf keeps, elementTexts]
      simp [collected, allOf]
  | leaf before it rest ih =>
      rw [contents, itemsOf, itemsOf, collected_append, collected_append, elementTexts_text, ih,
        Content.toItem?, (it.collected_toItem? options).2, elementTexts]
      rfl
  | reference before entity rest ih =>
      rw [contents, itemsOf, itemsOf, collected_append, elementTexts_text, elementTexts, ← ih]
      rfl

theorem elementTexts_tidy (keeps : options.stripBlanks = false) (strand : Strand)
    (around : Scope) (head : Head)
    : collected Item.elementText?
        [.element head (tidy options (itemsOf options around strand.contents))]
      = strand.textInside :: strand.elementTexts := by
  rw [collected_cons, Item.elementText?, Item.content, tidy_eq_mergeTexts keeps,
    textBelow_mergeTexts, elementTexts_mergeTexts, strand.textBelow_itemsOf keeps,
    strand.elementTexts_itemsOf keeps]
  exact congrArg _ (List.append_nil _)

end Strand

-----------------------------------------------------------------------------------------
-- Texts of whole trees
-----------------------------------------------------------------------------------------

namespace Part

variable {part : Part} {built : Built}

theorem isMerged_tree (made : part.tree options = .ok built) {path : List Nat} {head : Head}
    {content : List Item} (found : built.top.at? path = some (.element head content))
    : IsMerged content := by
  cases part with
  | document before tag inside after =>
      obtain ⟨-, rfl⟩ := Built.orFault_eq_ok_iff.mp made
      exact Document.isMerged_toTree options _ found
  | element around tag inside =>
      obtain ⟨-, rfl⟩ := Built.orFault_eq_ok_iff.mp made
      exact isMerged_elementTree options around tag _ found

theorem map_stringValue_elements (keeps : options.stripBlanks = false)
    (made : part.tree options = .ok built) {forest : Forest} {tree : Nat}
    (planted : forest[tree]? = some built.top)
    : built.top.elements.map (fun element => forest.stringValue ⟨tree, .inner element.1⟩)
      = part.elementTexts := by
  rw [Forest.map_stringValue_elements planted]
  cases part with
  | document before tag inside after =>
      obtain ⟨-, rfl⟩ := Built.orFault_eq_ok_iff.mp made
      show collected Item.elementText? (Document.toTree options _).top.content = _
      rw [← collected_filter Item.elementText?_of_head?, Document.filter_content_toTree]
      exact inside.elementTexts_tidy keeps _ _
  | element around tag inside =>
      obtain ⟨-, rfl⟩ := Built.orFault_eq_ok_iff.mp made
      exact inside.elementTexts_tidy keeps _ _

theorem tree_stripBlanks (options : TreeOptions) (part : Part)
    : part.tree { options with stripBlanks := true }
      = (part.tree { options with stripBlanks := false }).map Built.stripped := by
  have map_orFault (built : Built) (fault : Option ConstructionFault)
      : (built.orFault fault).map Built.stripped = built.stripped.orFault fault := by
    cases fault <;> rfl
  cases part with
  | document before tag inside after =>
      simp only [tree, Document.treeAt, List.isEmpty_nil, if_true, map_orFault,
        Document.toTree_stripBlanks, Document.fault?_stripBlanks]
  | element around tag inside =>
      rw [tree, tree, map_orFault, elementTree_stripBlanks,
        (toItem?_stripBlanks options around _).2]

/-- The texts of what is made of a document or of an element. How texts are cut does not matter; a
removed comment or processing instruction could as well have been deleted before, if the text after
it were added to the one before it; stripping removes the blank ones among the joined texts, those
of spaces, tabs, line feeds and carriage returns alone, and nothing else. No element contains
adjacent texts or an empty one, and unless blank texts are removed the string-value of each element
is made of all texts that hang inside it.
-/
theorem tree_texts (part : Part) (options : TreeOptions)
    : (∀ (document : Document) path, document.part path = .ok part →
          document.treeAt options path = part.tree options)
      ∧ part.tree { options with removeComments := true }
        = (part.without Leaf.isComment).tree { options with removeComments := false }
      ∧ part.tree { options with removeInstructions := true }
        = (part.without Leaf.isInstruction).tree { options with removeInstructions := false }
      ∧ part.tree { options with stripBlanks := true }
        = (part.tree { options with stripBlanks := false }).map Built.stripped
      ∧ (∀ item, isBlankText item
        ↔ ∃ content, item = .text content
          ∧ ∀ c ∈ content.toList, c = ' ' ∨ c = '\t' ∨ c = '\n' ∨ c = '\r')
      ∧ ∀ built, part.tree options = .ok built →
          (∀ path head content, built.top.at? path = some (.element head content) →
              IsMerged content)
          ∧ (options.stripBlanks = false → ∀ forest tree, forest[tree]? = some built.top →
              built.top.elements.map
                  (fun element => Forest.stringValue forest ⟨tree, .inner element.1⟩)
                = part.elementTexts) := by
  refine ⟨?_, ?_, ?_, ?_, isBlankText_iff, ?_⟩
  · intro document path selected
    exact Document.treeAt_part selected options
  · exact (removes_comments options).tree_without part
  · exact (removes_instructions options).tree_without part
  · exact tree_stripBlanks options part
  · intro built made
    constructor
    · intro path head content found
      exact isMerged_tree made found
    · intro keeps forest tree planted
      exact map_stringValue_elements keeps made planted

end Part

/-- A document with leaves and a reference between its texts. -/
def Document.interrupted : Document where
  before := [.comment "0"]
  tag := ⟨⟨none, "a"⟩, [], []⟩
  content := [.text "x", .leaf (.comment "1"), .text "y",
    .element ⟨⟨none, "b"⟩, [], []⟩ [.text " ", .leaf (.instruction "p" "i"), .text "  "],
    .reference "e", .text "z"]
  after := []

theorem Document.interrupted_tree_texts
    : ∃ part built, Document.interrupted.part [] = .ok part
      ∧ Document.interrupted.treeAt ⟨true, false, false⟩ [] = .ok built
      ∧ (∃ head content, built.top.at? [0] = some (.element head content) ∧ IsMerged content)
      ∧ built.top.elements.map
          (fun element => Forest.stringValue [built.top] ⟨0, .inner element.1⟩)
        = ["xy   z", "   "] := by
  have selected : Document.interrupted.part [] = .ok (.document [.comment "0"] ⟨⟨none, "a"⟩, [], []⟩
      (hangAll Document.interrupted.content) []) := rfl
  obtain ⟨converted, -, -, -, -, made⟩ := Part.tree_texts (.document [.comment "0"]
    ⟨⟨none, "a"⟩, [], []⟩ (hangAll Document.interrupted.content) []) ⟨true, false, false⟩
  obtain ⟨merged, texts⟩ := made _ rfl
  exact ⟨_, _, selected, converted _ _ selected, ⟨_, _, rfl, merged [0] _ _ rfl⟩,
    texts rfl _ 0 rfl⟩

end PathQuery.Xml
