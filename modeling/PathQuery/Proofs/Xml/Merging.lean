import Mathlib.Data.List.Chain
import PathQuery.Proofs.Tree.Collected

/-! Joined texts. Joining neighbours loses no text and leaves neither adjacent nor empty ones; texts
that are left out afterwards leave no others adjacent.
-/

namespace PathQuery

theorem Item.text?_eq_some_iff {item : Item} {content : String}
    : item.text? = some content ↔ item = .text content := by
  cases item <;> simp [text?]

namespace Xml

variable {options : TreeOptions} {items others : List Item}

-----------------------------------------------------------------------------------------
-- Joining
-----------------------------------------------------------------------------------------

/-- Puts a text before items, of which the first one may be a text as well. -/
def joinText (content : String) : List Item → List Item
  | .text next :: rest => .text (content ++ next) :: rest
  | items => .text content :: items

theorem mergeTexts_text (content : String) (items : List Item)
    : mergeTexts (.text content :: items) = joinText content (mergeTexts items) := by
  rw [mergeTexts]
  cases mergeTexts items with
  | nil => rfl
  | cons item rest => cases item <;> rfl

theorem mergeTexts_cons {item : Item} (noText : item.text? = none) (items : List Item)
    : mergeTexts (item :: items) = item :: mergeTexts items := by
  cases item with
  | text content => cases noText
  | element | comment | instruction => rw [mergeTexts]; simp

theorem joinText_cons {item : Item} (noText : item.text? = none) (content : String)
    (items : List Item)
    : joinText content (item :: items) = .text content :: item :: items := by
  cases item with
  | text content => cases noText
  | element | comment | instruction => rfl

theorem joinText_append (first second : String) (items : List Item)
    : joinText (first ++ second) items = joinText first (joinText second items) := by
  cases items with
  | nil => rfl
  | cons item rest => cases item <;> simp [joinText, String.append_assoc]

/-- What comes after some items can be joined on its own. -/
theorem mergeTexts_append_congr (before : List Item) (same : mergeTexts items = mergeTexts others)
    : mergeTexts (before ++ items) = mergeTexts (before ++ others) := by
  induction before with
  | nil => exact same
  | cons item rest ih => cases item <;> simp only [List.cons_append, mergeTexts, ih]

/-- Changing items other than texts and joining texts do not depend on each other. -/
theorem mergeTexts_map {change : Item → Item} (keeps : ∀ item, (change item).text? = item.text?)
    (items : List Item)
    : mergeTexts (items.map change) = (mergeTexts items).map change := by
  have change_text (content : String) : change (.text content) = .text content :=
    Item.text?_eq_some_iff.mp (keeps _)
  have map_joinText (content : String) (items : List Item)
      : joinText content (items.map change) = (joinText content items).map change := by
    cases items with
    | nil => simp [joinText, change_text]
    | cons item rest =>
        cases found : item.text? with
        | some next =>
            obtain rfl := Item.text?_eq_some_iff.mp found
            simp [joinText, change_text]
        | none =>
            rw [List.map_cons, joinText_cons ((keeps item).trans found), joinText_cons found,
              List.map_cons, List.map_cons, change_text]
  induction items with
  | nil => rfl
  | cons item rest ih =>
      cases found : item.text? with
      | some content =>
          obtain rfl := Item.text?_eq_some_iff.mp found
          rw [List.map_cons, change_text, mergeTexts_text, mergeTexts_text, ih, map_joinText]
      | none =>
          rw [List.map_cons, mergeTexts_cons ((keeps item).trans found), mergeTexts_cons found, ih,
            List.map_cons]

theorem textBelow_joinText (content : String) (items : List Item)
    : View.textBelow (joinText content items) = content ++ View.textBelow items := by
  cases items with
  | nil => exact View.textBelow_cons_text content []
  | cons item rest =>
      cases found : item.text? with
      | some next =>
          obtain rfl := Item.text?_eq_some_iff.mp found
          rw [joinText, View.textBelow_cons_text, View.textBelow_cons_text, String.append_assoc]
      | none => rw [joinText_cons found, View.textBelow_cons_text]

/-- No text is lost. -/
theorem textBelow_mergeTexts (items : List Item)
    : View.textBelow (mergeTexts items) = View.textBelow items := by
  induction items with
  | nil => rfl
  | cons item rest ih =>
      cases found : item.text? with
      | some content =>
          obtain rfl := Item.text?_eq_some_iff.mp found
          rw [mergeTexts_text, textBelow_joinText, ih, View.textBelow_cons_text]
      | none => rw [mergeTexts_cons found, View.textBelow_cons, View.textBelow_cons, ih]

theorem elementTexts_mergeTexts (items : List Item)
    : collected Item.elementText? (mergeTexts items) = collected Item.elementText? items := by
  rw [← collected_filter Item.elementText?_of_head?, filter_mergeTexts,
    collected_filter Item.elementText?_of_head?]

-----------------------------------------------------------------------------------------
-- Neither adjacent nor empty texts
-----------------------------------------------------------------------------------------

/-- No two texts are adjacent and none is empty. -/
structure IsMerged (items : List Item) : Prop where
  apart : items.IsChain fun left right => left.text? = none ∨ right.text? = none
  filled : .text "" ∉ items

namespace IsMerged

theorem nil : IsMerged [] :=
  ⟨.nil, List.not_mem_nil⟩

theorem cons_iff {item : Item} (noText : item.text? = none)
    : IsMerged (item :: items) ↔ IsMerged items := by
  have other : .text "" ≠ item := by
    intro same
    rw [← same] at noText
    cases noText
  constructor
  · intro merged
    exact ⟨(List.isChain_cons.mp merged.apart).2, List.not_mem_of_not_mem_cons merged.filled⟩
  · intro merged
    exact ⟨List.isChain_cons.mpr ⟨fun _ _ => .inl noText, merged.apart⟩,
      List.not_mem_cons_of_ne_of_not_mem other merged.filled⟩

/-- Texts that are not empty come before no other texts. -/
theorem text_cons_iff {content : String}
    : IsMerged (.text content :: items)
      ↔ content ≠ "" ∧ (∀ item ∈ items.head?, item.text? = none) ∧ IsMerged items := by
  constructor
  · intro merged
    obtain ⟨apart, rest⟩ := List.isChain_cons.mp merged.apart
    refine ⟨?_, ?_, rest, List.not_mem_of_not_mem_cons merged.filled⟩
    · intro empty
      exact List.ne_of_not_mem_cons merged.filled (congrArg Item.text empty.symm)
    · intro item first
      exact (apart item first).resolve_left nofun
  · intro ⟨filled, apart, merged⟩
    refine ⟨List.isChain_cons.mpr ⟨fun item first => .inr (apart item first), merged.apart⟩, ?_⟩
    refine List.not_mem_cons_of_ne_of_not_mem ?_ merged.filled
    intro same
    exact filled (Item.text.inj same).symm

theorem joinText {content : String} (merged : IsMerged items) (filled : content ≠ "")
    : IsMerged (joinText content items) := by
  cases items with
  | nil => exact text_cons_iff.mpr ⟨filled, nofun, nil⟩
  | cons item rest =>
      cases found : item.text? with
      | some next =>
          obtain rfl := Item.text?_eq_some_iff.mp found
          refine text_cons_iff.mpr ⟨?_, (text_cons_iff.mp merged).2⟩
          intro empty
          exact filled (String.append_eq_empty_iff.mp empty).1
      | none =>
          rw [joinText_cons found]
          exact text_cons_iff.mpr ⟨filled, by simp [found], merged⟩

/-- Texts that are left out leave no others adjacent. -/
theorem filter {keeps : Item → Bool} (merged : IsMerged items)
    (keeps_others : ∀ item, item.text? = none → keeps item) : IsMerged (items.filter keeps) := by
  induction items with
  | nil => exact nil
  | cons item rest ih =>
      cases found : item.text? with
      | none =>
          rw [List.filter_cons_of_pos (keeps_others item found), cons_iff found]
          exact ih ((cons_iff found).mp merged)
      | some content =>
          obtain rfl := Item.text?_eq_some_iff.mp found
          obtain ⟨filled, apart, mergedRest⟩ := text_cons_iff.mp merged
          rw [List.filter_cons]
          split
          case isFalse => exact ih mergedRest
          case isTrue =>
              refine text_cons_iff.mpr ⟨filled, ?_, ih mergedRest⟩
              cases rest with
              | nil => nofun
              | cons next more =>
                  have stays := apart next rfl
                  rw [List.filter_cons_of_pos (keeps_others next stays)]
                  simpa using stays

end IsMerged

theorem isMerged_mergeTexts (filled : .text "" ∉ items) : IsMerged (mergeTexts items) := by
  induction items with
  | nil => exact .nil
  | cons item rest ih =>
      have merged := ih (List.not_mem_of_not_mem_cons filled)
      cases found : item.text? with
      | some content =>
          obtain rfl := Item.text?_eq_some_iff.mp found
          rw [mergeTexts_text]
          refine merged.joinText ?_
          intro empty
          exact List.ne_of_not_mem_cons filled (congrArg Item.text empty.symm)
      | none => rwa [mergeTexts_cons found, IsMerged.cons_iff found]

theorem isMerged_tidy (options : TreeOptions) (filled : .text "" ∉ items)
    : IsMerged (tidy options items) := by
  rw [tidy]
  split
  · refine (isMerged_mergeTexts filled).filter ?_
    intro item noText
    cases item with
    | text content => cases noText
    | element | comment | instruction => rfl
  · exact isMerged_mergeTexts filled

-----------------------------------------------------------------------------------------
-- All elements
-----------------------------------------------------------------------------------------

/-- The contents of all elements of some items are merged. -/
def MergedInside (items : List Item) : Prop :=
  ∀ item ∈ items, ∀ {path head content}, item.at? path = some (.element head content) →
    IsMerged content

namespace MergedInside

theorem nil : MergedInside [] :=
  nofun

theorem append (left : MergedInside items) (right : MergedInside others)
    : MergedInside (items ++ others) := by
  intro item member
  rcases List.mem_append.mp member with first | second
  · exact left item first
  · exact right item second

/-- Only elements matter. -/
theorem filter_iff : MergedInside (items.filter (·.head?.isSome)) ↔ MergedInside items := by
  constructor
  · intro merged item member path head content found
    cases item with
    | element outer inside =>
        exact merged _ (List.mem_filter.mpr ⟨member, rfl⟩) found
    | text | comment | instruction => cases path <;> cases found
  · intro merged item member
    exact merged item (List.mem_of_mem_filter member)

theorem tidy (options : TreeOptions) (merged : MergedInside items)
    : MergedInside (tidy options items) := by
  rwa [← filter_iff, filter_tidy, filter_iff]

theorem of_element {head : Head} (merged : IsMerged items) (inside : MergedInside items)
    : MergedInside [.element head items] := by
  intro item member path inner content found
  obtain rfl := List.mem_singleton.mp member
  cases path with
  | nil =>
      cases found
      exact merged
  | cons index path =>
      rw [Item.at?_cons] at found
      obtain ⟨child, there, found⟩ := Option.bind_eq_some_iff.mp found
      exact inside child (List.mem_of_getElem? there) found

end MergedInside

theorem text_not_mem_itemsOf (options : TreeOptions) (around : Scope) (content : List Content)
    : .text "" ∉ itemsOf options around content := by
  induction content with
  | nil => exact List.not_mem_nil
  | cons it rest ih =>
      rw [itemsOf, List.mem_append, not_or]
      refine ⟨?_, ih⟩
      rw [Option.mem_toList]
      cases it with
      | element | reference => simp [Content.toItem?]
      | leaf it =>
          rw [Content.toItem?]
          cases it <;> simp [Leaf.toItem?]
      | text content =>
          rw [Content.toItem?]
          split
          case isTrue => nofun
          case isFalse filled =>
              intro same
              cases same
              exact filled rfl

mutual

theorem mergedInside_toItem? (options : TreeOptions) (around : Scope) (it : Content)
    : MergedInside (it.toItem? options around).toList := by
  cases it with
  | element tag content =>
      rw [Content.toItem?, Option.toList_some]
      refine .of_element (isMerged_tidy options (text_not_mem_itemsOf _ _ _)) (.tidy options ?_)
      exact mergedInside_itemsOf options (tag.scope around) content
  | leaf it =>
      rw [Content.toItem?, ← MergedInside.filter_iff]
      cases it <;> rw [Leaf.toItem?] <;> split <;> exact .nil
  | text content =>
      rw [Content.toItem?, ← MergedInside.filter_iff]
      split <;> exact .nil
  | reference entity => exact .nil

theorem mergedInside_itemsOf (options : TreeOptions) (around : Scope) (content : List Content)
    : MergedInside (itemsOf options around content) := by
  cases content with
  | nil => exact .nil
  | cons it rest =>
      rw [itemsOf]
      exact (mergedInside_toItem? options around it).append
        (mergedInside_itemsOf options around rest)

end

theorem Document.isMerged_toTree (options : TreeOptions) (document : Document) {path : List Nat}
    {head : Head} {content : List Item}
    (found : (document.toTree options).top.at? path = some (.element head content))
    : IsMerged content := by
  have merged : MergedInside (document.toTree options).top.content := by
    rw [← MergedInside.filter_iff, filter_content_toTree]
    exact mergedInside_toItem? options [] document.root
  cases path with
  | nil => cases found
  | cons index path =>
      obtain ⟨child, there, found⟩ := Option.bind_eq_some_iff.mp found
      exact merged child (List.mem_of_getElem? there) found

theorem isMerged_elementTree (options : TreeOptions) (around : Scope) (tag : Tag)
    (inside : List Content) {path : List Nat} {head : Head} {content : List Item}
    (found : (elementTree options around tag inside).top.at? path = some (.element head content))
    : IsMerged content := by
  have merged := mergedInside_itemsOf options (tag.scope around) inside
  have root : MergedInside [.element (tag.toHead [] (tag.scope around)) _] :=
    .of_element (isMerged_tidy options (text_not_mem_itemsOf _ _ _)) (merged.tidy options)
  exact root _ List.mem_cons_self found

end Xml

-----------------------------------------------------------------------------------------
-- Blank texts
-----------------------------------------------------------------------------------------

mutual

/-- An item without the blank texts inside it. -/
def Item.stripped : Item → Item
  | .element head content => .element head (strippedAll content)
  | .text content => .text content
  | .comment content => .comment content
  | .instruction target content => .instruction target content

/-- Several items without the blank texts among and inside them. -/
def strippedAll : List Item → List Item
  | [] => []
  | item :: rest =>
      if Xml.isBlankText item then strippedAll rest else item.stripped :: strippedAll rest

end

/-- A tree without the blank texts in its elements. -/
def Top.stripped : Top → Top
  | .document content => .document (content.map Item.stripped)
  | .item it => .item it.stripped
  | top => top

theorem Item.text?_stripped (item : Item) : item.stripped.text? = item.text? := by
  cases item <;> rfl

namespace Xml

theorem isBlankText_stripped (item : Item) : isBlankText item.stripped = isBlankText item := by
  cases item <;> rfl

theorem strippedAll_eq (items : List Item)
    : strippedAll items = (items.filter (!isBlankText ·)).map Item.stripped := by
  induction items with
  | nil => rfl
  | cons item rest ih =>
      rw [strippedAll, List.filter_cons]
      cases isBlankText item <;> simp [ih]

/-- Blank texts inside elements do not change which texts are joined. -/
theorem tidy_map_stripped (options : TreeOptions) (items : List Item)
    : tidy { options with stripBlanks := true } (items.map Item.stripped)
      = strippedAll (tidy { options with stripBlanks := false } items) := by
  rw [tidy, tidy, if_pos rfl, if_neg Bool.false_ne_true, mergeTexts_map Item.text?_stripped,
    List.filter_map, strippedAll_eq]
  refine congrArg _ (List.filter_congr ?_)
  intro item _
  rw [Function.comp_apply, isBlankText_stripped]

theorem Leaf.stripped_toItem? (options : TreeOptions) (it : Leaf)
    : (it.toItem? options).map Item.stripped = it.toItem? options := by
  cases it <;> rw [toItem?] <;> split <;> rfl

mutual

/-- What is stripped as it is converted is what can be stripped afterwards. -/
theorem toItem?_stripBlanks (options : TreeOptions) (around : Scope) (it : Content)
    : it.toItem? { options with stripBlanks := true } around
        = (it.toItem? { options with stripBlanks := false } around).map Item.stripped
      ∧ it.fault? { options with stripBlanks := true } around
        = it.fault? { options with stripBlanks := false } around := by
  cases it with
  | element tag content =>
      obtain ⟨items, fault⟩ := itemsOf_stripBlanks options (tag.scope around) content
      constructor
      · rw [Content.toItem?, Content.toItem?, items, tidy_map_stripped]
        rfl
      · rw [Content.fault?, Content.fault?, fault]
  | leaf it => exact ⟨(Leaf.stripped_toItem? _ it).symm, by cases it <;> rfl⟩
  | text content =>
      refine ⟨?_, rfl⟩
      rw [Content.toItem?, Content.toItem?]
      split <;> rfl
  | reference entity => exact ⟨rfl, rfl⟩

theorem itemsOf_stripBlanks (options : TreeOptions) (around : Scope) (content : List Content)
    : itemsOf { options with stripBlanks := true } around content
        = (itemsOf { options with stripBlanks := false } around content).map Item.stripped
      ∧ faultOf? { options with stripBlanks := true } around content
        = faultOf? { options with stripBlanks := false } around content := by
  cases content with
  | nil => exact ⟨rfl, rfl⟩
  | cons it rest =>
      obtain ⟨firstItem, firstFault⟩ := toItem?_stripBlanks options around it
      obtain ⟨items, fault⟩ := itemsOf_stripBlanks options around rest
      constructor
      · rw [itemsOf, itemsOf, firstItem, items, List.map_append, Option.toList_map]
      · rw [faultOf?, faultOf?, firstFault, fault]

end

/-- A tree without the blank texts in its elements, and the entities that were left out. -/
def Built.stripped (built : Built) : Built :=
  { built with top := built.top.stripped }

theorem map_stripped_leaves (options : TreeOptions) (leaves : List Leaf)
    : (leaves.filterMap (·.toItem? options)).map Item.stripped
      = leaves.filterMap (·.toItem? options) := by
  rw [List.map_filterMap]
  exact List.filterMap_congr fun it _ => it.stripped_toItem? options

/-- Stripping removes the blank ones among the joined texts of each element and nothing else. -/
theorem Document.toTree_stripBlanks (options : TreeOptions) (document : Document)
    : document.toTree { options with stripBlanks := true }
      = (document.toTree { options with stripBlanks := false }).stripped := by
  rw [toTree, (toItem?_stripBlanks options [] document.root).1, Built.stripped, toTree,
    Top.stripped, List.map_append, List.map_append, map_stripped_leaves, map_stripped_leaves,
    Option.toList_map]
  rfl

theorem Document.fault?_stripBlanks (options : TreeOptions) (document : Document)
    : document.fault? { options with stripBlanks := true }
      = document.fault? { options with stripBlanks := false } := by
  rw [fault?, fault?, (toItem?_stripBlanks options [] document.root).2]
  rfl

theorem elementTree_stripBlanks (options : TreeOptions) (around : Scope) (tag : Tag)
    (content : List Content)
    : elementTree { options with stripBlanks := true } around tag content
      = (elementTree { options with stripBlanks := false } around tag content).stripped := by
  rw [elementTree, (itemsOf_stripBlanks options (tag.scope around) content).1, tidy_map_stripped]
  rfl

end Xml

end PathQuery
