import PathQuery.Proofs.Order.NodeSets

/-! How the places of a tree stand to each other. A place is above the ones that its path leads
on to, and those come after it in document order. Of two places without this relation, one comes
after the other, and the axes that leave both relations out are told by paths alone.
-/

namespace PathQuery

-----------------------------------------------------------------------------------------
-- Places above others
-----------------------------------------------------------------------------------------

namespace Place

/-- Attributes and namespace bindings hang on an element and are not part of its content. -/
def isAttached : Place → Bool
  | .attributeAt _ _ => true
  | .bindingAt _ _ => true
  | _ => false

/-- A place is above another one: an origin above all other places of its tree, and an item
above what hangs on it and on the items that its path leads on to, and above these.
-/
def IsAbove : Place → Place → Prop
  | .origin _, .origin _ => False
  | .origin _, _ => True
  | .inner path, .inner other => path <+: other ∧ path ≠ other
  | .inner path, .attributeAt other _ => path <+: other
  | .inner path, .bindingAt other _ => path <+: other
  | _, _ => False

theorem key_inner_lt_iff {path other : List Nat}
    : (inner path).key < (inner other).key ↔ path < other := by
  refine ⟨fun before => ?_, key_inner_lt⟩
  rcases lt_trichotomy path other with less | same | greater
  · exact less
  · exact absurd (same ▸ before) (lt_irrefl _)
  · exact absurd before (lt_asymm (key_inner_lt greater))

/-- What hangs on an element comes before the items that come after the element. -/
theorem dependent_lt_inner {path other : List Nat} (location : Location)
    (attached : location.rank ≠ .content) (before : path < other)
    : (dependent path location).key < (inner other).key := by
  have early : Early location.toKey := by
    obtain ⟨rank, index⟩ := location
    cases rank with
    | content => exact absurd rfl attached
    | attributes | bindings => simp [Early, Location.toKey, Rank.toInt]
  have lower : pathKey path ++ location.toKey < pathKey other ++ [] :=
    pathKey_append_lt before early
  rw [key_dependent, key, key, List.cons_append, List.cons_lt_cons_iff]
  exact .inr ⟨rfl, by rwa [List.append_nil] at lower⟩

/-- What hangs on an element comes before an item just if the element does. -/
theorem dependent_lt_inner_iff {path other : List Nat} (location : Location)
    (attached : location.rank ≠ .content)
    : (dependent path location).key < (inner other).key ↔ path < other := by
  refine ⟨fun before => ?_, dependent_lt_inner location attached⟩
  exact key_inner_lt_iff.mp (lt_trans (key_lt_dependent path location) before)

theorem inner_lt_dependent_iff {path other : List Nat} (location : Location)
    (attached : location.rank ≠ .content)
    : (inner other).key < (dependent path location).key ↔ other ≤ path := by
  constructor
  · intro before
    by_contra later
    exact lt_asymm before (dependent_lt_inner location attached (not_le.mp later))
  · intro notAfter
    rcases lt_or_eq_of_le notAfter with less | rfl
    · exact lt_trans (key_inner_lt less) (key_lt_dependent path location)
    · exact key_lt_dependent other location

/-- An origin comes first in its tree. -/
theorem origin_lt {stamp : Nat} {place : Place} (noOrigin : ∀ found, place ≠ .origin found)
    : (origin stamp).key < place.key := by
  cases place with
  | origin found => exact absurd rfl (noOrigin found)
  | inner | attributeAt | bindingAt => exact List.cons_lt_cons_iff.mpr (.inl (by decide))

theorem not_lt_origin (stamp : Nat) (place : Place) : ¬ place.key < (origin stamp).key := by
  cases place with
  | origin => exact lt_irrefl _
  | inner | attributeAt | bindingAt => exact lt_asymm (origin_lt (by simp))

/-- A path comes before those that it leads on to. -/
theorem lt_of_isPrefix {path other : List Nat} (leads : path <+: other) (apart : path ≠ other)
    : path < other := by
  obtain ⟨more, rfl⟩ := leads
  cases more with
  | nil => simp at apart
  | cons index more =>
      have longer : path ++ [] < path ++ index :: more :=
        List.append_left_lt (List.nil_lt_cons _ _)
      rwa [List.append_nil] at longer

theorem le_of_isPrefix {path other : List Nat} (leads : path <+: other) : path ≤ other := by
  by_cases same : path = other
  · exact le_of_eq same
  · exact le_of_lt (lt_of_isPrefix leads same)

/-- What is above another place comes before it. -/
theorem IsAbove.key_lt {upper lower : Place} (above : upper.IsAbove lower)
    : upper.key < lower.key := by
  cases upper with
  | origin =>
      cases lower with
      | origin => exact above.elim
      | inner | attributeAt | bindingAt => exact origin_lt (by simp)
  | inner path =>
      cases lower with
      | origin => exact above.elim
      | inner other => exact key_inner_lt (lt_of_isPrefix above.1 above.2)
      | attributeAt other index =>
          exact (inner_lt_dependent_iff ⟨.attributes, index⟩ (by simp)).mpr
            (le_of_isPrefix above)
      | bindingAt other index =>
          exact (inner_lt_dependent_iff ⟨.bindings, index⟩ (by simp)).mpr
            (le_of_isPrefix above)
  | attributeAt | bindingAt => cases lower <;> exact above.elim

end Place

-----------------------------------------------------------------------------------------
-- What axes lead to
-----------------------------------------------------------------------------------------

theorem mem_pathsAbove_iff {path other : List Nat}
    : other ∈ pathsAbove path ↔ other <+: path ∧ other ≠ path := by
  simp only [pathsAbove, List.mem_map, List.mem_reverse, List.mem_range]
  constructor
  · rintro ⟨count, shorter, rfl⟩
    refine ⟨List.take_prefix count path, fun same => ?_⟩
    have length := congrArg List.length same
    rw [List.length_take] at length
    omega
  · rintro ⟨leads, apart⟩
    have shorter := leads.length_le
    have notSame : other.length ≠ path.length := fun same => apart (leads.eq_of_length same)
    exact ⟨other.length, by omega, (List.prefix_iff_eq_take.mp leads).symm⟩

namespace Top

variable {top : Top} {stamp : Nat} {place other : Place} {places : List Place}

/-- The paths of all items are those that lead into the trees below the top. -/
theorem has_inner_iff {path : List Nat}
    : top.Has (.inner path) ↔ path = [] ∨ ∃ index more, path = index :: more
      ∧ Leads top.content index more := by
  cases path with
  | nil => simp
  | cons index more => simp [has_cons_iff]

/-- The nodes above a place within the tree are the items that are above it. -/
theorem mem_above_iff
    : other ∈ above place ↔ other.IsAbove place ∧ ∀ found, other ≠ .origin found := by
  have upwards {path : List Nat} : other ∈ (pathsAbove path).map .inner
      ↔ ∃ upper, other = .inner upper ∧ upper <+: path ∧ upper ≠ path := by
    simp only [List.mem_map, mem_pathsAbove_iff, eq_comm, and_comm]
  have orSelf {path : List Nat} : other ∈ .inner path :: (pathsAbove path).map .inner
      ↔ ∃ upper, other = .inner upper ∧ upper <+: path := by
    rw [List.mem_cons, upwards]
    constructor
    · rintro (rfl | ⟨upper, rfl, leads, -⟩)
      · exact ⟨path, rfl, List.prefix_refl path⟩
      · exact ⟨upper, rfl, leads⟩
    · rintro ⟨upper, rfl, leads⟩
      by_cases same : upper = path
      · exact .inl (by rw [same])
      · exact .inr ⟨upper, rfl, leads, same⟩
  cases place with
  | origin => cases other <;> simp [above, Place.IsAbove]
  | inner => cases other <;> simp [above, upwards, Place.IsAbove]
  | attributeAt | bindingAt => cases other <;> simp [above, orSelf, Place.IsAbove]

/-- The ancestors of a place are the places of the tree that are above it, in which the origin
has the stamp.
-/
theorem mem_ancestors_iff (present : top.Has place)
    : other ∈ top.ancestors stamp place ↔ top.HasWithin stamp other ∧ other.IsAbove place := by
  have upwards (noOrigin : ∀ found, place ≠ .origin found)
      : other ∈ above place ++ (if top.isDocument then [] else [.origin stamp])
        ↔ top.HasWithin stamp other ∧ other.IsAbove place := by
    rw [List.mem_append, mem_above_iff]
    cases other with
    | origin found =>
        have root : (Place.origin found).IsAbove place := by
          cases place with
          | origin own => exact absurd rfl (noOrigin own)
          | inner | attributeAt | bindingAt => trivial
        by_cases document : top.isDocument <;> simp [document, HasWithin, root]
    | inner path =>
        have present : (Place.inner path).IsAbove place → top.Has (.inner path) := fun above =>
          has_of_mem_above present (mem_above_iff.mpr ⟨above, by simp⟩)
        by_cases document : top.isDocument <;> simpa [document, HasWithin] using present
    | attributeAt | bindingAt =>
        by_cases document : top.isDocument <;> simp [document, Place.IsAbove]
  cases place with
  | origin => cases other <;> simp [ancestors, Place.IsAbove]
  | inner | attributeAt | bindingAt => exact upwards (by simp)

/-- An item is above those that longer paths lead to. -/
theorem isAbove_inner_iff {path other : List Nat}
    : (Place.inner path).IsAbove (.inner other) ↔ ∃ index more, other = path ++ index :: more := by
  constructor
  · rintro ⟨⟨more, rfl⟩, apart⟩
    cases more with
    | nil => simp at apart
    | cons index more => exact ⟨index, more, rfl⟩
  · rintro ⟨index, more, rfl⟩
    exact ⟨List.prefix_append path _, by simp⟩

/-- The descendants of a place are the items of the tree that it is above. -/
theorem mem_descendants_iff (present : top.Has place)
    : other ∈ top.descendants place
      ↔ top.Has other ∧ ¬ other.isAttached ∧ place.IsAbove other := by
  cases place with
  | origin stamp =>
      have all : top.descendants (.origin stamp) = top.paths.map .inner := by
        rw [descendants, walk_located_nil, paths, List.map_cons, List.map_map]
        rfl
      rw [all, List.mem_map]
      cases other <;> simp [mem_paths_iff, Place.isAttached, Place.IsAbove]
  | inner path =>
      rw [descendants, mem_walk_iff]
      cases other with
      | inner lower =>
          simp only [Place.inner.injEq, isAbove_inner_iff, Place.isAttached]
          constructor
          · rintro ⟨index, more, rfl, leads⟩
            exact ⟨(has_append_iff top path index more).mpr ⟨present, leads⟩, by simp, _, _, rfl⟩
          · rintro ⟨present, -, index, more, rfl⟩
            exact ⟨index, more, rfl, ((has_append_iff top path index more).mp present).2⟩
      | origin | attributeAt | bindingAt => simp [Place.isAttached, Place.IsAbove]
  | attributeAt | bindingAt => cases other <;> simp [descendants, Place.IsAbove]

/-- The items after an item are those that it comes before without being above them. -/
theorem mem_itemsAfter_iff {path : List Nat}
    : other ∈ (pathsAfter [] top.content path).map .inner
      ↔ top.Has other ∧ ¬ other.isAttached ∧ (Place.inner path).key < other.key
        ∧ ¬ (Place.inner path).IsAbove other := by
  cases other with
  | inner lower =>
      have apart : path < lower → ((Place.inner path).IsAbove (.inner lower) ↔ path <+: lower) :=
        fun less => and_iff_left (ne_of_lt less)
      simp only [List.mem_map, Place.inner.injEq, exists_eq_right, mem_pathsAfter_iff,
        List.nil_append, has_inner_iff, Place.isAttached, Place.key_inner_lt_iff]
      constructor
      · rintro ⟨index, more, rfl, leads, less, noPrefix⟩
        exact ⟨.inr ⟨index, more, rfl, leads⟩, by simp, less, mt (apart less).mp noPrefix⟩
      · rintro ⟨rfl | ⟨index, more, rfl, leads⟩, -, less, notAbove⟩
        · exact absurd less (List.not_lt_nil path)
        · exact ⟨index, more, rfl, leads, less, mt (apart less).mpr notAbove⟩
  | origin => simp [Place.not_lt_origin]
  | attributeAt | bindingAt => simp [Place.isAttached]

/-- The items before an item are those that come before it without being above it. -/
theorem mem_itemsBefore_iff {path : List Nat}
    : other ∈ (pathsBefore [] top.content path).map .inner
      ↔ top.Has other ∧ ¬ other.isAttached ∧ other.key < (Place.inner path).key
        ∧ ¬ other.IsAbove (.inner path) := by
  cases other with
  | inner upper =>
      have apart : upper < path → ((Place.inner upper).IsAbove (.inner path) ↔ upper <+: path) :=
        fun less => and_iff_left (ne_of_lt less)
      simp only [List.mem_map, Place.inner.injEq, exists_eq_right, mem_pathsBefore_iff,
        List.nil_append, has_inner_iff, Place.isAttached, Place.key_inner_lt_iff]
      constructor
      · rintro ⟨index, more, rfl, leads, less, noPrefix⟩
        exact ⟨.inr ⟨index, more, rfl, leads⟩, by simp, less, mt (apart less).mp noPrefix⟩
      · rintro ⟨rfl | ⟨index, more, rfl, leads⟩, -, less, notAbove⟩
        · exact absurd ((apart less).mpr List.nil_prefix) notAbove
        · exact ⟨index, more, rfl, leads, less, mt (apart less).mpr notAbove⟩
  | origin => simp [Place.IsAbove]
  | attributeAt | bindingAt => simp [Place.isAttached]

/-- What follows something that hangs on an element is what is below or after the element. -/
theorem mem_afterAttached_iff {path : List Nat} (location : Location)
    (attached : location.rank ≠ .content) (present : top.Has (.inner path))
    : other ∈ top.descendants (.inner path) ++ (pathsAfter [] top.content path).map .inner
      ↔ top.Has other ∧ ¬ other.isAttached ∧ (Place.dependent path location).key < other.key
        ∧ ¬ (Place.dependent path location).IsAbove other := by
  have noneBelow : ¬ (Place.dependent path location).IsAbove other := by
    obtain ⟨rank, index⟩ := location
    cases rank with
    | content => exact absurd rfl attached
    | attributes | bindings => cases other <;> exact id
  have later (proper : ¬ other.isAttached)
      : (Place.dependent path location).key < other.key ↔ (Place.inner path).key < other.key := by
    cases other with
    | inner lower => rw [Place.dependent_lt_inner_iff location attached, Place.key_inner_lt_iff]
    | origin => simp [Place.not_lt_origin]
    | attributeAt | bindingAt => exact absurd rfl proper
  rw [List.mem_append, mem_descendants_iff present, mem_itemsAfter_iff]
  constructor
  · rintro (⟨present, proper, above⟩ | ⟨present, proper, after, -⟩)
    · exact ⟨present, proper, (later proper).mpr above.key_lt, noneBelow⟩
    · exact ⟨present, proper, (later proper).mpr after, noneBelow⟩
  · rintro ⟨present, proper, after, -⟩
    by_cases above : (Place.inner path).IsAbove other
    · exact .inl ⟨present, proper, above⟩
    · exact .inr ⟨present, proper, (later proper).mp after, above⟩

/-- What precedes something that hangs on an element is what precedes the element. -/
theorem mem_beforeAttached_iff {path : List Nat} (location : Location)
    (attached : location.rank ≠ .content)
    : other ∈ (pathsBefore [] top.content path).map .inner
      ↔ top.Has other ∧ ¬ other.isAttached ∧ other.key < (Place.dependent path location).key
        ∧ ¬ other.IsAbove (.dependent path location) := by
  have above {upper : List Nat}
      : (Place.inner upper).IsAbove (.dependent path location) ↔ upper <+: path := by
    obtain ⟨rank, index⟩ := location
    cases rank with
    | content => exact absurd rfl attached
    | attributes | bindings => exact Iff.rfl
  rw [mem_itemsBefore_iff]
  cases other with
  | inner upper =>
      rw [Place.inner_lt_dependent_iff location attached, Place.key_inner_lt_iff, above]
      refine and_congr_right fun _ => and_congr_right fun _ => ?_
      constructor
      · rintro ⟨less, notAbove⟩
        exact ⟨le_of_lt less, fun leads => notAbove ⟨leads, ne_of_lt less⟩⟩
      · rintro ⟨notAfter, noPrefix⟩
        have apart : upper ≠ path := fun same => noPrefix (same ▸ List.prefix_refl _)
        exact ⟨lt_of_le_of_ne notAfter apart, fun both => noPrefix both.1⟩
  | origin stamp =>
      have root : (Place.origin stamp).IsAbove (.dependent path location) := by
        obtain ⟨rank, index⟩ := location
        cases rank <;> trivial
      have item : (Place.origin stamp).IsAbove (.inner path) := trivial
      simp [root, item]
  | attributeAt | bindingAt => simp [Place.isAttached]

/-- What follows a place is what comes after it and is not below it. -/
theorem mem_following_iff (given : top.following? place = some places) (present : top.Has place)
    : other ∈ places ↔ top.Has other ∧ ¬ other.isAttached ∧ place.key < other.key
      ∧ ¬ place.IsAbove other := by
  cases place with
  | origin =>
      cases given
      cases other <;> simp [Place.IsAbove, Place.isAttached, Place.not_lt_origin]
  | inner path =>
      obtain ⟨-, ⟨⟩⟩ := Option.ite_none_left_eq_some.mp given
      exact mem_itemsAfter_iff
  | attributeAt path index =>
      cases given
      exact mem_afterAttached_iff ⟨.attributes, index⟩ (by simp)
        (has_of_attribute present)
  | bindingAt path index =>
      cases given
      exact mem_afterAttached_iff ⟨.bindings, index⟩ (by simp)
        (has_of_binding present)

/-- What precedes a place is what comes before it and is not above it. -/
theorem mem_preceding_iff (given : top.preceding? place = some places)
    : other ∈ places ↔ top.Has other ∧ ¬ other.isAttached ∧ other.key < place.key
      ∧ ¬ other.IsAbove place := by
  cases place with
  | origin =>
      cases given
      simp [Place.not_lt_origin]
  | inner path =>
      obtain ⟨-, ⟨⟩⟩ := Option.ite_none_left_eq_some.mp given
      exact mem_itemsBefore_iff
  | attributeAt path index =>
      cases given
      exact mem_beforeAttached_iff ⟨.attributes, index⟩ (by simp)
  | bindingAt path index =>
      cases given
      exact mem_beforeAttached_iff ⟨.bindings, index⟩ (by simp)

end Top

end PathQuery
