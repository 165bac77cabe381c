import PathQuery.Proofs.Evaluation.Enclosure

/-! Trees that consist of one item, next to documents with nothing else in them. Whether the item is
an element, a text or anything else, queries tell such a tree from the document only by the
string-value of its root: that of an origin is the string-value of the top, that of a document is
the text below. Both are the same unless the top is a comment or an instruction with some content.
-/

namespace PathQuery

-----------------------------------------------------------------------------------------
-- Text of items
-----------------------------------------------------------------------------------------

/-- Whether an item has content that is no text of what contains it. -/
def Item.hidesText : Item → Bool
  | .comment content => content != ""
  | .instruction _ content => content != ""
  | _ => false

/-- The text below a document with one item that has no content. -/
theorem View.textBelow_leaf {item : Item} (leaf : item.content = [])
    : textBelow [item] = item.text?.getD "" := by
  have alone : walk (located [] 0 [item]) = [([0], item)] := by
    rw [located, located, walk, leaf, located, List.append_nil, walk]
    rfl
  rw [textBelow, alone, List.filterMap_cons]
  cases item.text? <;> simp [String.join]

/-- An item is all the text of a document around it, unless it hides some. -/
theorem View.textBelow_eq_itemText_iff (item : Item)
    : textBelow [item] = itemText item ↔ ¬item.hidesText := by
  cases item with
  | element head content => simp [Top.textBelow_singleton, itemText, Item.hidesText]
  | text content =>
      rw [textBelow_leaf rfl]
      simp [itemText, Item.hidesText, Item.text?]
  | comment content | instruction target content =>
      rw [textBelow_leaf rfl, itemText, Item.hidesText, Bool.not_eq_true, bne_eq_false_iff_eq]
      exact eq_comm

-----------------------------------------------------------------------------------------
-- Queries
-----------------------------------------------------------------------------------------

/-- The string-value of the root. -/
def Expr.rootText : Expr :=
  .call "string" [.path true []]

theorem Query.evaluateIn_rootText (forest : Forest) (stamp : Nat) {around : Surroundings}
    {node : Node} (start : around.nodes = [node])
    : evaluateIn Library.core forest stamp around .rootText
      = .ok (.string (forest.stringValue (forest.rootOf stamp node))) := by
  rw [evaluateIn_cons start, start]
  have root : (Expr.path true []).evaluate .core (around.contextAt forest stamp node) [node]
      = .ok (.nodes ⟨[forest.rootOf stamp node]⟩) := by
    have sorted : forest.sorted? [forest.rootOf stamp node] = some [forest.rootOf stamp node] := rfl
    simp [Expr.evaluate, Step.follow, startNodes, inOrder, Context.rootOf, Surroundings.contextAt,
      sorted, bind, Except.bind]
  have text : Expr.rootText.evaluate .core (around.contextAt forest stamp node) [node]
      = .ok (.string (forest.stringValue (forest.rootOf stamp node))) := by
    have found : Library.core.findFor "string" 1
        = .ok (.ofValue (Signature.withOptional [] none) Core.string) := rfl
    rw [Expr.rootText, Expr.evaluate, List.length_singleton, found]
    simp only [Expr.arguments, root, bind, Except.bind]
    rfl
  rw [text]
  rfl

/-- Queries in a tree of an item give the counterparts of what they give in the document with the
item as its only child: the same string, number, boolean or fault, or the counterparts of the same
nodes, where the document is that of the origin that the query has made.
-/
def Item.BehavesAsDocument (item : Item) : Prop :=
  ∀ (forest : Forest) (index stamp further : Nat) (around : Query.Surroundings) (expression : Expr),
    forest[index]? = some (.item item) →
    (∀ node ∈ around.nodes, forest.HasCounterpart index stamp further node) →
    (∀ name set, (name, Value.nodes set) ∈ around.values →
      ∀ node ∈ set.items, forest.HasCounterpart index stamp further node) →
    Query.evaluateIn Library.core (forest.set index (.document [item])) further
        (around.translated (Node.counterpart index stamp further)) expression
      = (Query.evaluateIn Library.core forest stamp around expression).map
        (Value.translated (Node.counterpart index stamp further))
    ∧ ∀ set, Query.evaluateIn Library.core forest stamp around expression = .ok (.nodes set) →
      ∀ node ∈ set.items, forest.HasCounterpart index stamp further node

namespace Query

variable {forest : Forest} {index stamp further : Nat} {around : Surroundings}

theorem Surroundings.paired_translated
    (nodes : ∀ node ∈ around.nodes, forest.HasCounterpart index stamp further node)
    : List.Forall₂ (forest.Enclosed index stamp further) around.nodes
        (around.translated (Node.counterpart index stamp further)).nodes := by
  rw [Surroundings.translated, List.forall₂_map_right_iff, List.forall₂_same]
  exact fun node member => ⟨nodes node member, rfl⟩

theorem Surroundings.related_translated
    (values : ∀ name set, (name, Value.nodes set) ∈ around.values →
      ∀ node ∈ set.items, forest.HasCounterpart index stamp further node) (name : String)
    : Option.Rel (Value.Related (forest.Enclosed index stamp further)) (around.valueOf? name)
        ((around.translated (Node.counterpart index stamp further)).valueOf? name) := by
  rw [valueOf?_translated]
  cases bound : around.valueOf? name with
  | none => exact .none
  | some value =>
      obtain ⟨name, member⟩ := Surroundings.mem_of_valueOf? bound
      exact .some (Value.related_translated fun set same node inside =>
        ⟨values name set (same ▸ member) node inside, rfl⟩)

end Query

/-- An item behaves as in a document if it is all the text of the document. -/
theorem Item.behavesAsDocument_of_text {item : Item}
    (sameText : View.textBelow [item] = View.itemText item)
    : item.BehavesAsDocument := by
  intro forest index stamp further around expression detached nodes values
  have alike : Alike (Value.Related (forest.Enclosed index stamp further))
      (Query.evaluateIn Library.core forest stamp around expression)
      (Query.evaluateIn Library.core (forest.set index (.document [item])) further
        (around.translated (Node.counterpart index stamp further)) expression) :=
    Query.evaluateIn_alike Library.respects_core
      (Forest.correspondence_of_text detached sameText stamp further)
      (Query.Surroundings.paired_translated nodes) rfl rfl
      fun name _ => Query.Surroundings.related_translated values name
  refine ⟨alike.eq_map fun value other related => (Forest.Enclosed.eq_translated related).1,
    fun set given => ?_⟩
  obtain ⟨other, -, related⟩ := alike.exists_ok given
  exact (Forest.Enclosed.eq_translated related).2 set rfl

/-- The string-value of the root tells whether an item behaves as in a document. -/
theorem Item.text_of_behavesAsDocument {item : Item} (behaves : item.BehavesAsDocument)
    : View.textBelow [item] = View.itemText item := by
  let around : Query.Surroundings :=
    { nodes := [⟨0, .inner []⟩], bindings := .initial, values := [], options := .standard }
  have here : Forest.HasCounterpart [.item item] 0 0 0 ⟨0, .inner []⟩ :=
    ⟨_, rfl, Top.hasAmong_of_has rfl (by simp) (.inl rfl)⟩
  have outcome := (behaves [.item item] 0 0 0 around .rootText rfl (by simpa [around] using here)
    (by simp [around])).1
  rw [Query.evaluateIn_rootText _ _ rfl, Query.evaluateIn_rootText _ _ rfl] at outcome
  exact Value.string.inj (Except.ok.inj outcome)

/-- A tree of an item behaves as the document with that item unless the item hides text, a comment or
an instruction with some content. The string-values of the roots decide, where that of a document
is the text below it.
-/
theorem Item.behavesAsDocument_iff (item : Item)
    : (item.BehavesAsDocument ↔ ¬item.hidesText)
      ∧ (item.BehavesAsDocument ↔ (View.origin (.item item)).stringValue = View.textBelow [item]) := by
  have iff : item.BehavesAsDocument ↔ View.textBelow [item] = View.itemText item :=
    ⟨text_of_behavesAsDocument, behavesAsDocument_of_text⟩
  exact ⟨iff.trans (View.textBelow_eq_itemText_iff item), iff.trans eq_comm⟩

/-- The root of a lone comment equals the content of the comment, that of a document with the comment
does not.
-/
theorem Query.evaluateIn_loneComment
    : ¬(Item.comment "c").BehavesAsDocument
      ∧ ∃ expression, Expression.ofText Library.core.arityOf "/ = 'c'" = .ok expression
        ∧ evaluateIn Library.core [.item (.comment "c")] 7
            { nodes := [⟨0, .inner []⟩], bindings := .initial, values := [], options := .standard }
            expression.root
          = .ok (.boolean true)
        ∧ evaluateIn Library.core [.document [.comment "c"]] 8
            { nodes := [⟨0, .inner [0]⟩], bindings := .initial, values := [], options := .standard }
            expression.root
          = .ok (.boolean false) := by
  have read : Expression.ofText Library.core.arityOf "/ = 'c'"
      = .ok ⟨.binary "=" (.path true []) (.string "c"), "/ = 'c'"⟩ := by cbv
  refine ⟨fun behaves => ?_, _, read, by cbv, by cbv⟩
  exact (View.textBelow_eq_itemText_iff _).mp (Item.text_of_behavesAsDocument behaves) (by decide)

end PathQuery
