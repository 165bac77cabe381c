import Mathlib.Data.String.Basic
import PathQuery.Proofs.Axis.Enclosure
import PathQuery.Proofs.Bindings
import PathQuery.Proofs.Function.Identifiers

/-! The namespaces in scope of an element, seen from the element upwards: a qualifier stands for
what the nearest element that declares it says. The namespace nodes and the tests for names with
undeclared qualifiers go by the same declarations.
-/

namespace PathQuery

variable {heads : List Head} {qualifier uri : String}

-----------------------------------------------------------------------------------------
-- Nearest declarations
-----------------------------------------------------------------------------------------

/-- An element declares a qualifier. -/
def Head.Declares (head : Head) (qualifier : String) : Prop :=
  qualifier ∈ head.declarations.map Prod.fst

/-- An element declares each qualifier once at most. -/
def Head.DeclaresOnce (head : Head) : Prop :=
  (head.declarations.map Prod.fst).Nodup

/-- The nearest declaration of a qualifier by elements with the given heads, the nearest of which
comes first.
-/
def DeclaredNearest (heads : List Head) (qualifier uri : String) : Prop :=
  ∃ nearer head further, heads = nearer ++ head :: further
    ∧ (∀ other ∈ nearer, ¬ other.Declares qualifier) ∧ (qualifier, uri) ∈ head.declarations

/-- What a qualifier stands for: its nearest declaration, which must not be empty for the default
namespace, and for `xml` without any declaration its own namespace.
-/
def StandsFor (heads : List Head) (qualifier uri : String) : Prop :=
  DeclaredNearest heads qualifier uri ∧ (qualifier = "" → uri ≠ "")
    ∨ qualifier = xmlQualifier ∧ uri = xmlUri ∧ ∀ head ∈ heads, ¬ head.Declares qualifier

theorem declaredNearest_cons_iff {head : Head}
    : DeclaredNearest (head :: heads) qualifier uri
      ↔ (qualifier, uri) ∈ head.declarations
        ∨ ¬ head.Declares qualifier ∧ DeclaredNearest heads qualifier uri := by
  constructor
  · rintro ⟨nearer, other, further, same, undeclared, declared⟩
    cases nearer with
    | nil =>
        obtain ⟨rfl, -⟩ := List.cons.inj same
        exact .inl declared
    | cons first nearer =>
        obtain ⟨rfl, rfl⟩ := List.cons.inj same
        obtain ⟨here, before⟩ := List.forall_mem_cons.mp undeclared
        exact .inr ⟨here, nearer, other, further, rfl, before, declared⟩
  · rintro (declared | ⟨here, nearer, other, further, rfl, before, declared⟩)
    · exact ⟨[], head, heads, rfl, by simp, declared⟩
    · exact ⟨head :: nearer, other, further, rfl, List.forall_mem_cons.mpr ⟨here, before⟩, declared⟩

theorem Head.lookup_eq_some_iff {head : Head} (once : head.DeclaresOnce)
    : head.declarations.lookup qualifier = some uri ↔ (qualifier, uri) ∈ head.declarations :=
  ⟨mem_of_lookup_eq, lookup_eq_of_mem once⟩

theorem Head.lookup_eq_none_iff {head : Head}
    : head.declarations.lookup qualifier = none ↔ ¬ head.Declares qualifier := by
  refine ⟨fun none member => ?_, lookup_eq_none_of_not_mem⟩
  obtain ⟨entry, inside, rfl⟩ := List.mem_map.mp member
  exact bne_iff_ne.mp (List.lookup_eq_none_iff.mp none entry inside) rfl

/-- Merging declarations from the outermost element inwards leaves the nearest ones. The outermost
one of all is that of `xml`.
-/
theorem lookup_declaredBy_iff (once : ∀ head ∈ heads, head.DeclaresOnce)
    : (declaredBy heads.reverse).lookup qualifier = some uri
      ↔ DeclaredNearest heads qualifier uri
        ∨ qualifier = xmlQualifier ∧ uri = xmlUri ∧ ∀ head ∈ heads, ¬ head.Declares qualifier := by
  induction heads with
  | nil =>
      rw [List.reverse_nil, declaredBy, List.foldl_nil, lookup_cons_eq_ite]
      rw [@eq_comm _ uri]
      simp [DeclaredNearest]
  | cons head rest ih =>
      obtain ⟨here, others⟩ := List.forall_mem_cons.mp once
      rw [List.reverse_cons, declaredBy_concat, lookup_assignAll _ here, Option.or_eq_some_iff,
        head.lookup_eq_some_iff here, head.lookup_eq_none_iff, ih others, declaredNearest_cons_iff,
        List.forall_mem_cons]
      tauto

/-- The scope of an element holds what qualifiers stand for. -/
theorem mem_scopeOf_iff (once : ∀ head ∈ heads, head.DeclaresOnce)
    : (qualifier, uri) ∈ scopeOf heads.reverse ↔ StandsFor heads qualifier uri := by
  have found : (qualifier, uri) ∈ scopeOf heads.reverse
      ↔ (scopeOf heads.reverse).lookup qualifier = some uri :=
    ⟨lookup_eq_of_mem (nodup_scopeOf _), mem_of_lookup_eq⟩
  rw [found, lookup_scopeOf, Option.filter_eq_some_iff, lookup_declaredBy_iff once, StandsFor]
  have filled : (!(qualifier.isEmpty && uri.isEmpty)) = true ↔ (qualifier = "" → uri ≠ "") := by
    simp [imp_iff_not_or]
  rw [filled, or_and_right]
  refine or_congr_right (and_iff_left_of_imp ?_)
  rintro ⟨rfl, -⟩ none
  exact absurd none (by decide)

-----------------------------------------------------------------------------------------
-- Elements from a node upwards
-----------------------------------------------------------------------------------------

/-- The head of the element that a path from an item leads to. -/
def Item.headAt? (item : Item) (path : List Nat) : Option Head :=
  (item.at? path).bind Item.head?

/-- The head of the element that a path from the top leads to. -/
def Top.headAt? (top : Top) (path : List Nat) : Option Head :=
  (top.at? path).bind Item.head?

/-- The elements on the way up from below a node are those up to the child, then the node itself. -/
theorem filterMap_upwards {headAt? : List Nat → Option Head} {items : List Item} {index : Nat}
    (below : ∀ path, headAt? (index :: path) = items[index]?.bind (·.headAt? path))
    (path : List Nat)
    : ((index :: path) :: pathsAbove (index :: path)).filterMap headAt?
      = ((items[index]?.map fun child => (path :: pathsAbove path).filterMap child.headAt?).getD [])
        ++ (headAt? []).toList := by
  have upwards : (index :: path) :: pathsAbove (index :: path)
      = (path :: pathsAbove path).map (index :: ·) ++ [[]] := by
    rw [pathsAbove_cons]
    rfl
  have through : headAt? ∘ (index :: ·) = fun path => items[index]?.bind (·.headAt? path) :=
    funext below
  rw [upwards, List.filterMap_append, List.filterMap_map, through]
  congr 1
  cases items[index]? with
  | none => exact List.filterMap_eq_nil_iff.mpr fun _ _ => rfl
  | some child => rfl

/-- The heads on the way to an item, read backwards, are those of the elements on the way up. -/
theorem Item.reverse_headsAlong (item : Item) (path : List Nat)
    : (item.headsAlong path).reverse = (path :: pathsAbove path).filterMap item.headAt? := by
  induction path generalizing item with
  | nil => cases item <;> rfl
  | cons index path ih =>
      have below (path : List Nat)
          : item.headAt? (index :: path) = item.content[index]?.bind (·.headAt? path) := by
        rw [headAt?, at?_cons]
        cases item.content[index]? <;> rfl
      rw [filterMap_upwards below, headsAlong, List.reverse_append]
      congr 1
      · cases item.content[index]? with
        | none => rfl
        | some child => exact ih child
      · cases item <;> rfl

theorem Top.reverse_headsAlong (top : Top) (path : List Nat)
    : (top.headsAlong path).reverse = (path :: pathsAbove path).filterMap top.headAt? := by
  cases top with
  | item it => exact it.reverse_headsAlong path
  | document content =>
      cases path with
      | nil => rfl
      | cons index path =>
          have below (path : List Nat) : (document content).headAt? (index :: path)
              = content[index]?.bind (·.headAt? path) := by
            rw [headAt?, at?]
            cases content[index]? <;> rfl
          rw [filterMap_upwards below, headsAlong]
          simp only [← Item.reverse_headsAlong]
          cases content[index]? <;> simp [headAt?, at?]
  | loneAttribute | loneBinding =>
      rw [headsAlong, List.reverse_nil, eq_comm]
      · exact List.filterMap_eq_nil_iff.mpr fun _ _ => rfl
      all_goals simp

namespace Forest

variable {forest : Forest} {node : Node} {head : Head}

/-- The heads of a node and those above it, if they are elements, the nearest first. -/
def headsUpwards (forest : Forest) (node : Node) : List Head :=
  (node :: above node).filterMap forest.head?

theorem head?_inner {tree : Nat} {top : Top} (found : forest[tree]? = some top) (path : List Nat)
    : forest.head? ⟨tree, .inner path⟩ = top.headAt? path := by
  have isItem (other : Top) (path : List Nat)
      : ((other.at? path).map View.item).bind View.head? = other.headAt? path := by
    rw [Option.bind_map]
    rfl
  rw [head?, view?, found, Option.bind_some]
  cases top with
  | item it => exact isItem _ path
  | document content =>
      cases path with
      | nil => rfl
      | cons index path => exact isItem _ (index :: path)
  | loneAttribute | loneBinding => cases path <;> rfl

theorem headsUpwards_inner {tree : Nat} {top : Top} (found : forest[tree]? = some top)
    (path : List Nat)
    : forest.headsUpwards ⟨tree, .inner path⟩ = (top.headsAlong path).reverse := by
  have upwards : (⟨tree, .inner path⟩ : Node) :: above ⟨tree, .inner path⟩
      = (path :: pathsAbove path).map fun path => ⟨tree, .inner path⟩ := by
    rw [above, Top.above, nodesAt, List.map_map]
    rfl
  rw [headsUpwards, upwards, List.filterMap_map, Top.reverse_headsAlong]
  exact congrArg (List.filterMap · _) (funext (head?_inner found))

/-- The scope of an element is that of the heads on the way up from it. -/
theorem scope_eq_scopeOf (isElement : forest.head? node = some head)
    : forest.scope node = scopeOf (forest.headsUpwards node).reverse := by
  obtain ⟨top, path, content, found, isInner, there⟩ := exists_of_head? isElement
  obtain ⟨tree, place⟩ := node
  obtain rfl : place = .inner path := isInner
  have found : forest[tree]? = some top := found
  have inScope : forest.scope ⟨tree, .inner path⟩ = top.scopeAt path := by
    rw [scope, found]
  rw [headsUpwards_inner found, List.reverse_reverse, inScope, Top.scopeAt, there]
  rfl

end Forest

-----------------------------------------------------------------------------------------
-- Namespace nodes
-----------------------------------------------------------------------------------------

/-- Entries with different qualifiers are sorted strictly. -/
theorem sortByQualifier_pairwise {entries : List (String × String)}
    (distinct : (entries.map Prod.fst).Nodup)
    : (sortByQualifier entries).Pairwise fun left right => left.1 < right.1 := by
  have upTo (left right : String × String)
      : (!decide (right.1 < left.1)) = true ↔ left.1 ≤ right.1 := by
    rw [Bool.not_eq_true', decide_eq_false_iff_not, not_lt]
  have sorted : (sortByQualifier entries).Pairwise fun left right => left.1 ≤ right.1 := by
    refine (List.pairwise_mergeSort ?_ ?_ entries).imp fun {left right} => (upTo left right).mp
    · intro left middle right
      simp only [upTo]
      exact le_trans
    · intro left right
      rw [Bool.or_eq_true, upTo, upTo]
      exact le_total _ _
  have apart : (sortByQualifier entries).Pairwise fun left right => left.1 ≠ right.1 :=
    List.pairwise_map.mp (((List.mergeSort_perm entries _).map Prod.fst).nodup_iff.mpr distinct)
  exact (sorted.and apart).imp fun both => lt_of_le_of_ne both.1 both.2

namespace Forest

variable {forest : Forest} {node : Node} {head : Head}

/-- An element has one namespace node for each entry of its scope, in the order of qualifiers. -/
theorem exists_namespaceNodes (isElement : forest.head? node = some head) (stamp : Nat)
    : ∃ nodes, forest.onAxis? stamp .namespaceAxis node = some nodes
      ∧ nodes.map forest.view? = (sortByQualifier (forest.scope node)).map
        (fun entry => some (.bindingView entry.1 entry.2))
      ∧ ∀ it ∈ nodes, forest.onAxis? stamp .parent it = some [node] := by
  obtain ⟨top, path, content, found, isInner, there⟩ := exists_of_head? isElement
  obtain ⟨tree, place⟩ := node
  obtain rfl : place = .inner path := isInner
  have found : forest[tree]? = some top := found
  refine ⟨nodesAt tree (top.bindingPlaces (.inner path)), ?_, ?_, ?_⟩
  · rw [onAxis?, found]
    rfl
  · rw [scope, found, nodesAt, Top.bindingPlaces, List.map_map, List.map_map]
    refine List.ext_getElem (by simp [Top.bindingsAt]) fun index _ inside => ?_
    rw [List.length_map] at inside
    simp [view?, found, Top.view?, Top.bindingsAt, inside]
  · intro it member
    obtain ⟨place, isBinding, rfl⟩ := List.mem_map.mp member
    obtain ⟨index, -, rfl⟩ := List.mem_map.mp isBinding
    rw [onAxis?, found]
    rfl

end Forest

-----------------------------------------------------------------------------------------
-- Tests for names
-----------------------------------------------------------------------------------------

section
variable {context : Context} {node : Node} {head : Head}

/-- A qualifier that is not bound is looked up in the scope of an element. -/
theorem namespaceMatches_iff {view : View} (isElement : view.kind = .element)
    (unbound : ¬ context.bindings.contains qualifier)
    : namespaceMatches context (some qualifier) node view
      ↔ ∃ uri, (context.forest.scope node).lookup qualifier = some uri ∧ view.uri = some uri := by
  have noAttribute : view.kind ≠ .attributeKind := by
    rw [isElement]
    decide
  rw [namespaceMatches, Bindings.get?_eq_none_of_not_contains unbound, if_neg noAttribute]
  dsimp only [Option.bind_some]
  rw [← map_find?_eq_lookup]
  cases (context.forest.scope node).find? (·.1 == qualifier) <;> simp

theorem NodeTest.holds_name_iff (isElement : context.forest.head? node = some head)
    (unbound : ¬ context.bindings.contains qualifier) (localPart : String)
    : (NodeTest.name (some qualifier) localPart).holds context .element node = .ok true
      ↔ head.name.localPart = localPart
        ∧ ∃ uri, (context.forest.scope node).lookup qualifier = some uri
          ∧ head.name.uri = some uri := by
  obtain ⟨view, seen, isHead⟩ := Option.bind_eq_some_iff.mp isElement
  obtain ⟨content, rfl⟩ : ∃ content, view = .item (.element head content) := by
    cases view with
    | item it =>
        cases it with
        | element other content => exact ⟨content, by rw [Option.some.inj isHead]⟩
        | text | comment | instruction => cases isHead
    | origin | document | attributeView | bindingView => cases isHead
  have matching : namespaceMatches context (some qualifier) node (.item (.element head content))
      ↔ ∃ uri, (context.forest.scope node).lookup qualifier = some uri ∧ head.name.uri = some uri :=
    namespaceMatches_iff rfl unbound
  rw [holds, seen]
  simp only [passes, Except.ok.injEq, Bool.and_eq_true, beq_iff_eq, decide_eq_true_eq, matching]
  exact and_congr_left fun _ => and_iff_right rfl

end

namespace Context

/-- The scope of an element holds what qualifiers stand for, each once. Its namespace nodes stand
for the entries of the scope one by one, with increasing qualifiers, and the element is their
parent. If undeclared qualifiers are put up with, a name with one that is not bound is that of an
element whose namespace is the nearest declaration of the qualifier.
-/
theorem scope_standsFor {context : Context} {node : Node} {head : Head}
    (isElement : context.forest.head? node = some head)
    (once : ∀ it ∈ context.forest.headsUpwards node, it.DeclaresOnce)
    : ((context.forest.scope node).map Prod.fst).Nodup
      ∧ (∀ qualifier uri, (qualifier, uri) ∈ context.forest.scope node
        ↔ StandsFor (context.forest.headsUpwards node) qualifier uri)
      ∧ (∃ (entries : List (String × String)) (nodes : List Node),
        entries.Perm (context.forest.scope node)
        ∧ entries.Pairwise (fun left right => left.1 < right.1)
        ∧ context.onAxis? .namespaceAxis node = some nodes
        ∧ nodes.map context.forest.view?
          = entries.map (fun entry => some (.bindingView entry.1 entry.2))
        ∧ ∀ it ∈ nodes, context.onAxis? .parent it = some [node])
      ∧ ∀ declarations qualifier localPart,
        Bindings.ofDeclarations? declarations = .ok context.bindings →
        context.options.strictNamespaces = false →
        qualifier ≠ "" → ¬ context.bindings.contains qualifier →
        (NodeTest.name (some qualifier) localPart).undeclared? context = none
          ∧ ((NodeTest.name (some qualifier) localPart).holds context .element node = .ok true
            ↔ head.name.localPart = localPart
              ∧ ∃ uri, DeclaredNearest (context.forest.headsUpwards node) qualifier uri
                ∧ head.name.uri = some uri) := by
  have distinct : ((context.forest.scope node).map Prod.fst).Nodup := by
    rw [Forest.scope_eq_scopeOf isElement]
    exact nodup_scopeOf _
  have members (qualifier uri : String) : (qualifier, uri) ∈ context.forest.scope node
      ↔ StandsFor (context.forest.headsUpwards node) qualifier uri := by
    rw [Forest.scope_eq_scopeOf isElement]
    exact mem_scopeOf_iff once
  obtain ⟨nodes, given, views, parents⟩ := Forest.exists_namespaceNodes isElement context.stamp
  refine ⟨distinct, members, ?_, ?_⟩
  · have increasing := sortByQualifier_pairwise distinct
    exact ⟨_, nodes, List.mergeSort_perm .., increasing, given, views, parents⟩
  · intro declarations qualifier localPart binds lenient named unbound
    refine ⟨by simp [NodeTest.undeclared?, lenient], ?_⟩
    rw [NodeTest.holds_name_iff isElement unbound]
    refine and_congr_right fun _ => exists_congr fun uri => and_congr_left fun _ => ?_
    have looked : (context.forest.scope node).lookup qualifier = some uri
        ↔ (qualifier, uri) ∈ context.forest.scope node :=
      ⟨mem_of_lookup_eq, lookup_eq_of_mem distinct⟩
    rw [looked, members, StandsFor]
    constructor
    · rintro (⟨nearest, -⟩ | ⟨rfl, -⟩)
      · exact nearest
      · exact absurd (Bindings.contains_xml binds) unbound
    · exact fun nearest => .inl ⟨nearest, fun none => absurd none named⟩

end Context

end PathQuery
