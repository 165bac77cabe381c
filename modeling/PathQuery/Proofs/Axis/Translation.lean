import PathQuery.Proofs.Evaluation.Counterparts
import PathQuery.Proofs.Order.NodeSets

/-! Translations of the places of a tree into those of another one. Where each tree of a forest is
translated into the one at its position, the nodes of both forests correspond. The origin that one
evaluation has made translates into the one of another evaluation.
-/

namespace PathQuery

-----------------------------------------------------------------------------------------
-- Roots and scopes of places
-----------------------------------------------------------------------------------------

namespace Top

/-- The root of a tree as it is reached from a place. -/
def rootOf (top : Top) (stamp : Nat) : Place → Place
  | .origin own => .origin own
  | _ => if top.isDocument then .inner [] else .origin stamp

/-- The namespaces in scope of a place that is an element. -/
def scope (top : Top) : Place → List (String × String)
  | .inner path => top.scopeAt path
  | _ => []

end Top

namespace Forest

variable {forest : Forest} {node : Node} {top : Top}

theorem rootOf_eq (found : forest[node.tree]? = some top) (stamp : Nat)
    : forest.rootOf stamp node = ⟨node.tree, top.rootOf stamp node.place⟩ := by
  obtain ⟨tree, place⟩ := node
  simp only at found
  cases place with
  | origin => rfl
  | inner | attributeAt | bindingAt =>
      simp only [rootOf, Top.rootOf, found, Option.map_some, Option.getD_some]
      split <;> rfl

theorem scope_eq (found : forest[node.tree]? = some top)
    : forest.scope node = top.scope node.place := by
  obtain ⟨tree, place⟩ := node
  simp only at found
  cases place <;> simp [scope, Top.scope, found]

end Forest

-----------------------------------------------------------------------------------------
-- Translations
-----------------------------------------------------------------------------------------

/-- A translation of the places of a tree, where some evaluations may have made origins, into those
of another one. What an evaluation reaches in one tree it reaches translated in the other.
-/
structure Top.Translation (top other : Top) (stamps : Nat → Prop) (stamp further : Nat)
    (translate : Place → Place) : Prop where
  known : stamps stamp
  injective (place another : Place) (inside : top.HasAmong stamps place)
    (also : top.HasAmong stamps another) (same : translate place = translate another)
    : place = another
  key_lt (place another : Place) (inside : top.HasAmong stamps place)
    (also : top.HasAmong stamps another)
    : place.key < another.key ↔ (translate place).key < (translate another).key
  onAxis (axis : Axis) (place : Place) (inside : top.HasAmong stamps place)
    : other.onAxis? further axis (translate place)
      = (top.onAxis? stamp axis place).map (List.map translate)
  rootOf (place : Place) (inside : top.HasAmong stamps place)
    : other.rootOf further (translate place) = translate (top.rootOf stamp place)
  view (place : Place) (inside : top.HasAmong stamps place)
    : ∃ view seen, top.view? place = some view ∧ other.view? (translate place) = some seen
      ∧ view.Resembles seen
  scope (place : Place) (inside : top.HasAmong stamps place)
    : top.scope place = other.scope (translate place)

/-- A node of the forest and its translation, where the stamps of origins depend on the tree. -/
def Forest.Translated (forest : Forest) (stamps : Nat → Nat → Prop) (translate : Nat → Place → Place)
    (node peer : Node) : Prop :=
  forest.HasAmong (stamps node.tree) node ∧ peer = ⟨node.tree, translate node.tree node.place⟩

/-- Translations of all trees make the nodes of two forests correspond. -/
theorem Forest.correspondence_of_translations {forest other : Forest} {stamp further : Nat}
    {stamps : Nat → Nat → Prop} {translate : Nat → Place → Place}
    (trees : ∀ (tree : Nat) (top : Top), forest[tree]? = some top →
      ∃ image, other[tree]? = some image
        ∧ top.Translation image (stamps tree) stamp further (translate tree))
    : Correspondence forest other stamp further (forest.Translated stamps translate) where
  unique := by
    constructor
    · rintro ⟨tree, place⟩ ⟨second, another⟩ _ ⟨⟨top, found, inside⟩, rfl⟩ ⟨⟨_, again, also⟩, same⟩
      obtain ⟨rfl, same⟩ := (Node.mk.injEq ..).mp same
      obtain ⟨image, -, translation⟩ := trees tree top found
      obtain rfl := Option.some.inj (found.symm.trans again)
      rw [translation.injective place another inside also same]
    · rintro node _ _ ⟨-, rfl⟩ ⟨-, rfl⟩
      rfl
  key_lt := by
    rintro ⟨tree, place⟩ _ ⟨⟨top, found, inside⟩, rfl⟩ ⟨second, another⟩ _ ⟨⟨_, again, also⟩, rfl⟩
    simp only [Node.key, List.cons_lt_cons_iff]
    refine or_congr_right (and_congr_right fun sameMark => ?_)
    obtain rfl : tree = second := Int.natCast_inj.mp sameMark
    obtain ⟨image, -, translation⟩ := trees tree top found
    obtain rfl := Option.some.inj (found.symm.trans again)
    exact translation.key_lt place another inside also
  onAxis := by
    rintro ⟨tree, place⟩ _ ⟨⟨top, found, inside⟩, rfl⟩ axis
    obtain ⟨image, foundImage, translation⟩ := trees tree top found
    simp only at found inside
    simp only [onAxis?, found, foundImage, translation.onAxis axis place inside, Option.map_map]
    cases given : top.onAxis? stamp axis place with
    | none => exact .none
    | some places =>
        refine .some ?_
        simp only [Function.comp_apply, nodesAt, List.map_map, List.forall₂_map_left_iff,
          List.forall₂_map_right_iff, List.forall₂_same]
        exact fun reached member =>
          ⟨⟨top, found, inside.onAxis translation.known given member⟩, rfl⟩
  rootOf := by
    rintro node _ ⟨among, rfl⟩
    obtain ⟨top, found, inside⟩ := id among
    obtain ⟨image, foundImage, translation⟩ := trees node.tree top found
    have root := among.rootOf translation.known
    rw [rootOf_eq found] at root ⊢
    rw [rootOf_eq (by exact foundImage), translation.rootOf node.place inside]
    exact ⟨root, rfl⟩
  view := by
    rintro node _ ⟨⟨top, found, inside⟩, rfl⟩
    obtain ⟨image, foundImage, translation⟩ := trees node.tree top found
    obtain ⟨view, seen, there, thereImage, resembles⟩ := translation.view node.place inside
    refine ⟨view, seen, ?_, ?_, resembles⟩
    · rw [view?, found, Option.bind_some, there]
    · rw [view?, foundImage, Option.bind_some, thereImage]
  scope := by
    rintro node _ ⟨⟨top, found, inside⟩, rfl⟩
    obtain ⟨image, foundImage, translation⟩ := trees node.tree top found
    rw [scope_eq found, scope_eq (by exact foundImage), translation.scope node.place inside]

-----------------------------------------------------------------------------------------
-- Origins of other evaluations
-----------------------------------------------------------------------------------------

/-- A place, where the origin that one evaluation has made gives way to that of another one. -/
def Place.renewed (stamp further : Nat) : Place → Place
  | .origin own => .origin (if own = stamp then further else own)
  | place => place

namespace Top

variable {top : Top} {stamp further : Nat} {place another : Place}

theorem ancestors_renewed (top : Top) (stamp further : Nat) (place : Place)
    : top.ancestors further (place.renewed stamp further)
      = (top.ancestors stamp place).map (Place.renewed stamp further) := by
  cases place <;> cases document : top.isDocument <;>
    simp [ancestors, above, Place.renewed, document]

/-- Origins apart, an axis does not depend on the evaluation. -/
theorem onAxis?_renewed (top : Top) (stamp further : Nat) (axis : Axis) (place : Place)
    : top.onAxis? further axis (place.renewed stamp further)
      = (top.onAxis? stamp axis place).map (List.map (Place.renewed stamp further)) := by
  have descendants : top.descendants (place.renewed stamp further)
      = (top.descendants place).map (Place.renewed stamp further) := by
    cases place <;> simp [descendants, Place.renewed]
  cases axis with
  | ancestor => exact congrArg some (ancestors_renewed top stamp further place)
  | ancestorOrSelf =>
      exact congrArg (some <| place.renewed stamp further :: ·)
        (ancestors_renewed top stamp further place)
  | parent =>
      simp only [onAxis?, ancestors_renewed, Option.map_some, List.map_take]
  | self => rfl
  | descendant => exact congrArg some descendants
  | descendantOrSelf => exact congrArg (some <| place.renewed stamp further :: ·) descendants
  | child | attributeAxis | namespaceAxis =>
      cases place <;> simp [onAxis?, below, attributePlaces, bindingPlaces, Place.renewed]
  | followingSibling | precedingSibling =>
      cases place with
      | inner path =>
          simp only [onAxis?, siblingsAfter, siblingsBefore, Place.renewed]
          cases splitPath path <;> simp [Place.renewed]
      | origin | attributeAt | bindingAt => rfl
  | following | preceding =>
      cases place with
      | inner path =>
          simp only [onAxis?, following?, preceding?, Place.renewed]
          split <;> simp [Place.renewed]
      | origin | attributeAt | bindingAt =>
          simp [onAxis?, following?, preceding?, Place.renewed, Top.descendants, Function.comp_def]

/-- A tree translates into itself for another evaluation that is new to it. -/
theorem translation_renewed (top : Top) (stamp further : Nat)
    : top.Translation top (fun own => own = stamp ∨ own ≠ further) stamp further
        (Place.renewed stamp further) where
  known := .inl rfl
  injective place another inside also same := by
    obtain ⟨_, known, -, root⟩ := inside
    obtain ⟨_, knownAlso, -, rootAlso⟩ := also
    cases place <;> cases another <;> simp only [Place.renewed, Place.origin.injEq, reduceCtorEq] at same
    case origin.origin first second =>
      obtain rfl := (root first rfl).1
      obtain rfl := (rootAlso second rfl).1
      grind
    all_goals exact same
  key_lt place another _ _ := by
    cases place <;> cases another <;> rfl
  onAxis axis place _ := top.onAxis?_renewed stamp further axis place
  rootOf place _ := by
    cases place with
    | origin => rfl
    | inner | attributeAt | bindingAt =>
        simp only [rootOf, Place.renewed]
        split
        · rfl
        · simp
  view place inside := by
    obtain ⟨own, -, present, -⟩ := inside
    obtain ⟨view, found⟩ := Option.isSome_iff_exists.mp present
    refine ⟨view, view, found, ?_, .inl rfl⟩
    rw [← found]
    cases place <;> rfl
  scope place _ := by cases place <;> rfl

end Top

namespace Forest

/-- A node and what it is in another evaluation, which is new to the forest. -/
def Renewed (forest : Forest) (stamp further : Nat) : Node → Node → Prop :=
  forest.Translated (fun _ own => own = stamp ∨ own ≠ further) (fun _ => Place.renewed stamp further)

variable {forest : Forest} {stamp further : Nat} {node peer : Node}

theorem correspondence_renewed (forest : Forest) (stamp further : Nat)
    : Correspondence forest forest stamp further (forest.Renewed stamp further) :=
  correspondence_of_translations fun _ top found =>
    ⟨top, found, top.translation_renewed stamp further⟩

/-- Nodes of older evaluations stay what they are. -/
theorem renewed_of_older {older : Nat → Prop} (among : forest.HasAmong older node)
    (new : ¬ older stamp) (also : ¬ older further)
    : forest.Renewed stamp further node node := by
  have apart {own other : Nat} (isOlder : older own) (isNew : ¬ older other) : own ≠ other :=
    fun same => isNew (same ▸ isOlder)
  refine ⟨among.imp fun own isOlder => .inr (apart isOlder also), ?_⟩
  obtain ⟨tree, place⟩ := node
  obtain ⟨_, -, _, isOlder, -, root⟩ := among
  cases place with
  | origin own =>
      obtain rfl := (root own rfl).1
      simp [Place.renewed, apart isOlder new]
  | inner | attributeAt | bindingAt => rfl

end Forest

end PathQuery
