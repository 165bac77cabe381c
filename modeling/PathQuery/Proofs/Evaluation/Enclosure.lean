import Mathlib
import PathQuery.Proofs.Axis.Enclosure
import PathQuery.Proofs.Function.Correspondence

/-! Queries in a tree without document and in the document that encloses it. They have the same
value or fault, or node-sets in which each node has its counterpart at the same position; the
counterpart of the one origin that the query has made is the document.
-/

namespace PathQuery

-----------------------------------------------------------------------------------------
-- Counterparts
-----------------------------------------------------------------------------------------

/-- The place of a counterpart: enclosed in the tree at an index, and the same in other trees but
for the origin that the evaluation has made.
-/
def Place.counterpart (index stamp further tree : Nat) (place : Place) : Place :=
  if tree = index then place.enclosed else place.renewed stamp further

/-- The counterpart of a node where the tree at an index is enclosed in a document. -/
def Node.counterpart (index stamp further : Nat) (node : Node) : Node :=
  ⟨node.tree, node.place.counterpart index stamp further node.tree⟩

/-- A node that has a counterpart. Trees other than the enclosed one may have origins that other
evaluations have made, but not the evaluation of the counterpart.
-/
def Forest.HasCounterpart (forest : Forest) (index stamp further : Nat) (node : Node) : Prop :=
  forest.HasAmong (fun own => own = stamp ∨ node.tree ≠ index ∧ own ≠ further) node

/-- A node and its counterpart. -/
def Forest.Enclosed (forest : Forest) (index stamp further : Nat) (node peer : Node) : Prop :=
  forest.HasCounterpart index stamp further node ∧ peer = node.counterpart index stamp further

/-- Surroundings of which each node is translated. -/
def Query.Surroundings.translated (translate : Node → Node) (around : Surroundings)
    : Surroundings :=
  { around with
    nodes := around.nodes.map translate
    values := around.values.map fun entry => (entry.1, entry.2.translated translate) }

/-- Nodes correspond to their counterparts if the enclosed item has the text below the document as
its string-value.
-/
theorem Forest.correspondence_of_text {forest : Forest} {index : Nat} {item : Item}
    (detached : forest[index]? = some (.item item))
    (sameText : View.textBelow [item] = View.itemText item) (stamp further : Nat)
    : Correspondence forest (forest.set index (.document [item])) stamp further
        (forest.Enclosed index stamp further) := by
  have trees (tree : Nat) (top : Top) (found : forest[tree]? = some top)
      : ∃ image, (forest.set index (.document [item]))[tree]? = some image
        ∧ top.Translation image (fun own => own = stamp ∨ tree ≠ index ∧ own ≠ further) stamp
          further (Place.counterpart index stamp further tree) := by
    by_cases same : tree = index
    · subst same
      obtain rfl := Option.some.inj (detached.symm.trans found)
      obtain ⟨inside, -⟩ := List.getElem?_eq_some_iff.mp found
      have translate : Place.counterpart tree stamp further tree = Place.enclosed := by
        funext place
        exact if_pos rfl
      refine ⟨_, List.getElem?_set_self inside, ?_⟩
      simpa [translate] using Top.translation_of_text item sameText stamp further
    · have translate : Place.counterpart index stamp further tree = Place.renewed stamp further := by
        funext place
        exact if_neg same
      refine ⟨top, by rwa [List.getElem?_set_ne (Ne.symm same)], ?_⟩
      simpa [translate, same] using top.translation_renewed stamp further
  exact correspondence_of_translations trees

/-- Nodes correspond to their counterparts. -/
theorem Forest.correspondence_enclosed {forest : Forest} {index : Nat} {head : Head}
    {content : List Item} (detached : forest[index]? = some (.item (.element head content)))
    (stamp further : Nat)
    : Correspondence forest (forest.set index (.document [.element head content])) stamp further
        (forest.Enclosed index stamp further) :=
  correspondence_of_text detached (Top.textBelow_singleton head content) stamp further

-----------------------------------------------------------------------------------------
-- Queries
-----------------------------------------------------------------------------------------

theorem Query.valueOf?_translated (translate : Node → Node) (around : Surroundings) (name : String)
    : (around.translated translate).valueOf? name
      = (around.valueOf? name).map (Value.translated translate) := by
  rw [Surroundings.valueOf?, Surroundings.valueOf?, Surroundings.translated, List.find?_map,
    Option.map_map, Option.map_map]
  rfl

theorem Forest.Enclosed.eq_translated {forest : Forest} {index stamp further : Nat}
    {value other : Value} (related : Value.Related (forest.Enclosed index stamp further) value other)
    : other = value.translated (Node.counterpart index stamp further)
      ∧ ∀ set, value = .nodes set →
        ∀ node ∈ set.items, forest.HasCounterpart index stamp further node := by
  refine ⟨related.eq_translated fun node peer also => also.2, ?_⟩
  rintro set rfl
  cases related with
  | nodes paired => exact (forall_of_forall₂ paired fun node peer also => ⟨also.1, trivial⟩).1
  | scalar noNodes => exact absurd rfl noNodes

/-- A query in the enclosed tree gives the counterpart of what it gives in the tree by itself: the
same string, number, boolean or fault, or the counterparts of the same nodes. Each of these has
one, so that the document is the counterpart of the origin that the query has made only. The
document takes the place of the tree in the order of trees.
-/
theorem Query.evaluateIn_enclosed {forest : Forest} {index : Nat} {head : Head}
    {content : List Item} (detached : forest[index]? = some (.item (.element head content)))
    (stamp further : Nat) {around : Surroundings}
    (nodes : ∀ node ∈ around.nodes, forest.HasCounterpart index stamp further node)
    (values : ∀ name set, (name, Value.nodes set) ∈ around.values →
      ∀ node ∈ set.items, forest.HasCounterpart index stamp further node)
    (expression : Expr)
    : evaluateIn Library.core (forest.set index (.document [.element head content])) further
        (around.translated (Node.counterpart index stamp further)) expression
      = (evaluateIn Library.core forest stamp around expression).map
        (Value.translated (Node.counterpart index stamp further))
    ∧ ∀ set, evaluateIn Library.core forest stamp around expression = .ok (.nodes set) →
      ∀ node ∈ set.items, forest.HasCounterpart index stamp further node := by
  have paired : List.Forall₂ (forest.Enclosed index stamp further) around.nodes
      (around.nodes.map (Node.counterpart index stamp further)) := by
    rw [List.forall₂_map_right_iff, List.forall₂_same]
    exact fun node member => ⟨nodes node member, rfl⟩
  have agree (name : String)
      : Option.Rel (Value.Related (forest.Enclosed index stamp further)) (around.valueOf? name)
        ((around.translated (Node.counterpart index stamp further)).valueOf? name) := by
    rw [valueOf?_translated]
    cases bound : around.valueOf? name with
    | none => exact .none
    | some value =>
        obtain ⟨name, member⟩ := Surroundings.mem_of_valueOf? bound
        exact .some (Value.related_translated fun set same node inside =>
          ⟨values name set (same ▸ member) node inside, rfl⟩)
  have alike : Alike (Value.Related (forest.Enclosed index stamp further))
      (evaluateIn Library.core forest stamp around expression)
      (evaluateIn Library.core (forest.set index (.document [.element head content])) further
        (around.translated (Node.counterpart index stamp further)) expression) :=
    evaluateIn_alike Library.respects_core
      (Forest.correspondence_enclosed detached stamp further) paired rfl rfl
      fun name _ => agree name
  refine ⟨alike.eq_map fun value other related => (Forest.Enclosed.eq_translated related).1,
    fun set given => ?_⟩
  obtain ⟨other, -, related⟩ := alike.exists_ok given
  exact (Forest.Enclosed.eq_translated related).2 set rfl

/-- The way up from a comment to the origin, and to the document in its place. -/
theorem Query.evaluateIn_enclosed_small
    : (∀ node ∈ [⟨0, .inner [1]⟩], Forest.small.HasCounterpart 0 7 8 node)
      ∧ evaluateIn Library.core
          (Forest.small.set 0 (.document [.element ⟨⟨none, "a"⟩, none, [⟨⟨none, "k"⟩, none, "v"⟩], []⟩
            [.text "t", .comment "c"]])) 8
          { nodes := [⟨0, .inner [0, 1]⟩], bindings := .initial, values := [], options := .standard }
          (.path false [.mk "ancestor-or-self" (.nodeType "node") []])
        = .ok (.nodes ⟨[⟨0, .inner []⟩, ⟨0, .inner [0]⟩, ⟨0, .inner [0, 1]⟩]⟩) := by
  have nodes : ∀ node ∈ [⟨0, .inner [1]⟩], Forest.small.HasCounterpart 0 7 8 node := by
    intro node member
    cases List.mem_singleton.mp member
    exact ⟨_, rfl, Top.hasAmong_of_has rfl (by simp) (.inl rfl)⟩
  have value : evaluateIn Library.core .small 7
      { nodes := [⟨0, .inner [1]⟩], bindings := .initial, values := [], options := .standard }
      (.path false [.mk "ancestor-or-self" (.nodeType "node") []])
      = .ok (.nodes ⟨[⟨0, .origin 7⟩, ⟨0, .inner []⟩, ⟨0, .inner [1]⟩]⟩) := by cbv
  have detached : Forest.small[0]? = some (.item (.element
    ⟨⟨none, "a"⟩, none, [⟨⟨none, "k"⟩, none, "v"⟩], []⟩ [.text "t", .comment "c"])) := rfl
  let around : Surroundings :=
    { nodes := [⟨0, .inner [1]⟩], bindings := .initial, values := [], options := .standard }
  have enclosed := (@evaluateIn_enclosed _ _ _ _ detached 7 8 around nodes (by simp [around])
    (.path false [.mk "ancestor-or-self" (.nodeType "node") []])).1
  rw [value] at enclosed
  exact ⟨nodes, enclosed⟩

end PathQuery
