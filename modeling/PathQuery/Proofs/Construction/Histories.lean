import PathQuery.Proofs.Construction.Adoption
import PathQuery.Proofs.Tree.Scope

/-! Stores that calls lead to. Whatever nodes were asked for, and whichever of the calls failed: a
node is in the node that contains it and in no other one, names of attributes are unique within an
element, and the way up from a node ends.
-/

namespace PathQuery

/-- Qualifiers differ in a mapping. -/
theorem GivenDeclarations.nodup_of_entries? {given : GivenDeclarations}
    {entries : List (String × String)} (read : given.entries? = some entries)
    : (entries.map Prod.fst).Nodup := by
  cases given with
  | pairs pairs =>
      cases read
      exact nodup_assignAll (by simp) pairs
  | other => cases read

/-- What can contain nodes: a document, or an element with declarations of different qualifiers. -/
def Label.IsHolder (label : Label) : Prop :=
  label = .document ∨ ∃ head, label = .element head ∧ (head.declarations.map Prod.fst).Nodup

namespace Store

variable {store later : Store} {entry : Entry} {label : Label} {id parent : Nat}
  {children attributes : List Nat}

-----------------------------------------------------------------------------------------
-- What holds between calls
-----------------------------------------------------------------------------------------

/-- A node contains another one. -/
def Contains (store : Store) (parent id : Nat) : Prop :=
  ∃ entry, store.get? parent = some entry ∧ id ∈ entry.parts

/-- A node contains none twice, its children can be children and its attributes have different
names. It contains none if it is neither a document nor an element.
-/
structure Proper (store : Store) (entry : Entry) : Prop where
  nodup : entry.parts.Nodup
  children (id : Nat) (member : id ∈ entry.children) : store.IsChild id
  attributes : ∃ names, store.Named entry.attributes names
  holder (noHolder : ¬entry.label.IsHolder)
    : entry.parts = [] ∧ ∀ head, entry.label ≠ .element head

/-- Nodes are in the nodes that contain them, which were made later, and nowhere else. -/
structure Sound (store : Store) : Prop where
  contains_iff (parent id : Nat) : store.Contains parent id ↔ store.parent? id = some parent
  lt_of_contains {parent id : Nat} (contains : store.Contains parent id) : id < parent
  proper {parent : Nat} {entry : Entry} (found : store.get? parent = some entry)
    : store.Proper entry

theorem Proper.of_remembers (remembers : store.Remembers later) (proper : store.Proper entry)
    : later.Proper entry where
  nodup := proper.nodup
  children id member := remembers.isChild (proper.children id member)
  attributes := proper.attributes.imp fun _ => remembers.named
  holder := proper.holder

theorem Proper.of_empty (empty : entry.parts = []) (noElement : ∀ head, entry.label ≠ .element head)
    : store.Proper entry := by
  obtain ⟨noChildren, noAttributes⟩ := List.append_eq_nil_iff.mp empty
  exact ⟨empty ▸ .nil, by simp [noChildren], ⟨[], by simp [noAttributes], .nil⟩,
    fun _ => ⟨empty, noElement⟩⟩

theorem sound_empty : Sound .empty := by
  constructor <;> simp [Contains, Store.empty, get?, parent?]

/-- What happens in the course of a call leaves a store sound. -/
theorem Sound.of_leads (sound : store.Sound) (leads : store.Leads later) : later.Sound := by
  have contains_iff (parent id : Nat) : later.Contains parent id ↔ store.Contains parent id := by
    constructor
    · rintro ⟨entry, found, member⟩
      cases there : store.get? parent with
      | none => simp [(leads.added found there).1] at member
      | some old =>
          obtain ⟨attachment, last, -⟩ := leads.kept there
          cases found.symm.trans last
          exact ⟨old, there, member⟩
    · rintro ⟨entry, found, member⟩
      obtain ⟨attachment, last, -⟩ := leads.kept found
      exact ⟨_, last, member⟩
  constructor
  · intro parent id
    rw [contains_iff, leads.parent?_eq, sound.contains_iff]
  · intro parent id contains
    exact sound.lt_of_contains ((contains_iff parent id).mp contains)
  · intro parent entry found
    cases there : store.get? parent with
    | none => exact .of_empty (leads.added found there).1 (leads.noElement found there)
    | some old =>
        obtain ⟨attachment, last, -⟩ := leads.kept there
        cases found.symm.trans last
        have proper := (sound.proper there).of_remembers leads.remembers
        exact ⟨proper.nodup, proper.children, proper.attributes, proper.holder⟩

-----------------------------------------------------------------------------------------
-- Completed nodes
-----------------------------------------------------------------------------------------

section

variable {base : Store}

theorem complete_eq (store : Store) (label : Label) (children attributes : List Nat)
    : (store.complete label children attributes).1
      = (children ++ attributes).foldl (attach · (.to store.entries.length))
          (store.add ⟨label, .free, children, attributes⟩).1 :=
  rfl

/-- A node that is completed contains what was taken for it. -/
theorem get?_complete_self (inside : ∀ id ∈ children ++ attributes, id < store.entries.length)
    : (store.complete label children attributes).1.get? store.entries.length
      = some ⟨label, .free, children, attributes⟩ := by
  have apart : store.entries.length ∉ children ++ attributes := fun member =>
    Nat.lt_irrefl _ (inside _ member)
  rw [complete_eq, get?_attachAll, if_neg apart, get?_add_self]

/-- Nodes that were taken for a completed one are in it, and the others stay as they are. -/
theorem get?_complete_of_ne (apart : id ≠ store.entries.length)
    : (store.complete label children attributes).1.get? id
      = (store.get? id).map fun entry =>
          if id ∈ children ++ attributes then { entry with attachment := .to store.entries.length }
          else entry := by
  rw [complete_eq, get?_attachAll, get?_add, if_neg apart]
  split
  · rfl
  · exact Option.map_id'.symm

theorem remembers_complete : store.Remembers (store.complete label children attributes).1 := by
  intro id entry found
  rw [get?_complete_of_ne (Nat.ne_of_lt (lt_of_get? found)), found]
  dsimp only [Option.map_some]
  split <;> rfl

theorem contains_complete_iff
    (inside : ∀ id ∈ children ++ attributes, id < store.entries.length)
    : (store.complete label children attributes).1.Contains parent id
      ↔ if parent = store.entries.length then id ∈ children ++ attributes
        else store.Contains parent id := by
  rw [Contains]
  split
  case isTrue same =>
      subst same
      simp [get?_complete_self inside, Entry.parts]
  case isFalse apart =>
      rw [get?_complete_of_ne apart, Contains]
      cases store.get? parent with
      | none => simp
      | some entry =>
          dsimp only [Option.map_some]
          split <;> simp [Entry.parts]

theorem parent?_complete (takes : base.Takes store (children ++ attributes))
    : (store.complete label children attributes).1.parent? id
      = if id ∈ children ++ attributes then some store.entries.length else store.parent? id := by
  by_cases same : id = store.entries.length
  · have absent : store.get? id = none := List.getElem?_eq_none (Nat.le_of_eq same.symm)
    subst same
    rw [if_neg fun member => Nat.lt_irrefl _ (takes.lt member), parent?, parent?, absent,
      get?_complete_self fun _ => takes.lt]
    rfl
  · rw [parent?, parent?, get?_complete_of_ne same]
    by_cases member : id ∈ children ++ attributes
    · obtain ⟨entry, found, -⟩ := takes.held member
      simp only [found, member, Option.map_some, if_true]
    · simp only [member, if_false, Option.map_id']

/-- A store stays sound when nodes are put into the one that they were taken for. -/
theorem Sound.complete (sound : store.Sound) (takes : base.Takes store (children ++ attributes))
    (areChildren : ∀ id ∈ children, store.IsChild id)
    (named : ∃ names, store.Named attributes names)
    (isHolder : label.IsHolder)
    : (store.complete label children attributes).1.Sound where
  contains_iff parent id := by
    rw [contains_complete_iff fun _ => takes.lt, parent?_complete takes]
    -- What was taken was in no node, and the completed node was in none as it was not there.
    by_cases same : parent = store.entries.length <;> by_cases member : id ∈ children ++ attributes
    · simp [same, member]
    · have outside : store.parent? id ≠ some store.entries.length := by
        intro inside
        obtain ⟨entry, found, -⟩ := (sound.contains_iff _ _).mpr inside
        exact Nat.lt_irrefl _ (lt_of_get? found)
      simp [same, member, outside]
    · have outside : store.parent? id ≠ some parent := by
        intro inside
        obtain ⟨entry, found, attached⟩ := parent?_eq_some_iff.mp inside
        obtain ⟨held, there, lost⟩ := takes.held member
        cases found.symm.trans there
        cases lost.symm.trans attached
      simp [same, member, sound.contains_iff, outside, Ne.symm same]
    · simp [same, member, sound.contains_iff]
  lt_of_contains {parent id} contains := by
    rw [contains_complete_iff fun _ => takes.lt] at contains
    split at contains
    case isTrue same => exact same ▸ takes.lt contains
    case isFalse => exact sound.lt_of_contains contains
  proper {parent entry} found := by
    by_cases same : parent = store.entries.length
    · subst same
      rw [get?_complete_self fun _ => takes.lt] at found
      cases found
      exact ⟨takes.nodup, fun id member => remembers_complete.isChild (areChildren id member),
        named.imp fun _ => remembers_complete.named, absurd isHolder⟩
    · rw [get?_complete_of_ne same] at found
      obtain ⟨old, there, rfl⟩ := Option.map_eq_some_iff.mp found
      have proper : (store.complete label children attributes).1.Proper old :=
        (sound.proper there).of_remembers remembers_complete
      split
      · exact ⟨proper.nodup, proper.children, proper.attributes, proper.holder⟩
      · exact proper

end

-----------------------------------------------------------------------------------------
-- Calls
-----------------------------------------------------------------------------------------

/-- What contains no other nodes is no element. -/
theorem leafLabel_ne_element {kind : LeafKind} {arguments : List Datum}
    (made : leafLabel kind arguments = .ok label) (head : Head)
    : label ≠ .element head := by
  rintro rfl
  unfold leafLabel at made
  split at made
  case h_6 =>
      split at made
      · cases made
      · simp [map_eq_ok] at made
  all_goals simp [map_eq_ok] at made

/-- The course of a call: it takes and adds nodes, and if it takes all that it needs, it completes a
node with them.
-/
inductive Course (store : Store) : Store → Prop where
  | stops {later : Store} (leads : store.Leads later) : store.Course later
  | completes {mid : Store} {label : Label} {children attributes : List Nat}
      (leads : store.Leads mid) (takes : store.Takes mid (children ++ attributes))
      (areChildren : ∀ id ∈ children, mid.IsChild id)
      (named : ∃ names, mid.Named attributes names) (isHolder : label.IsHolder)
      : store.Course (mid.complete label children attributes).1

theorem makeDocument_course (store : Store) (children : List Child)
    : store.Course (store.makeDocument children).1 := by
  obtain ⟨leads, takes⟩ := adoptChildren_leads store children
  rw [makeDocument]
  generalize store.adoptChildren children = attempt at leads takes
  obtain ⟨later, outcome⟩ := attempt
  cases outcome with
  | error fault => exact .stops leads
  | ok ids =>
      obtain ⟨taken, areChildren⟩ := takes ids rfl
      exact .completes leads (by rwa [List.append_nil]) areChildren ⟨[], rfl, .nil⟩ (.inl rfl)

theorem makeElement_course (store : Store) (localPart uri qualifier : Datum)
    (children : List Child) (declarations : GivenDeclarations) (given : List GivenAttribute)
    : store.Course (store.makeElement localPart uri qualifier children declarations given).1 := by
  rw [makeElement]
  cases Construction.head localPart uri qualifier [] with
  | error fault => exact .stops (.refl store)
  | ok head =>
      obtain ⟨leads, takes⟩ := adoptChildren_leads store children
      dsimp only
      generalize store.adoptChildren children = attempt at leads takes
      obtain ⟨mid, outcome⟩ := attempt
      cases outcome with
      | error fault => exact .stops leads
      | ok ids =>
          obtain ⟨taken, areChildren⟩ := takes ids rfl
          cases declared? : declarations.entries? with
          | none => exact .stops leads
          | some declared =>
              obtain ⟨further, more⟩ := adoptAttributes_leads mid [] given
              dsimp only
              generalize mid.adoptAttributes [] given = attempt at further more
              obtain ⟨later, outcome⟩ := attempt
              cases outcome with
              | error fault => exact .stops (leads.trans further)
              | ok others =>
                  obtain ⟨takenToo, names, named, -⟩ := more others rfl
                  exact .completes (leads.trans further) (taken.append leads further takenToo)
                    (fun id member => further.remembers.isChild (areChildren id member))
                    ⟨names, named⟩ (.inr ⟨_, rfl, GivenDeclarations.nodup_of_entries? declared?⟩)

theorem perform_course (store : Store) (call : Call) : store.Course (call.perform store).1 := by
  cases call with
  | document children => exact makeDocument_course store children
  | element localPart uri qualifier children declarations attributes =>
      exact makeElement_course store localPart uri qualifier children declarations attributes
  | leaf kind arguments =>
      rw [Call.perform, makeLeaf]
      cases made : leafLabel kind arguments with
      | error fault => exact .stops (.refl store)
      | ok label => exact .stops (leads_add store (by simp) (leafLabel_ne_element made))

theorem Sound.of_course (sound : store.Sound) (course : store.Course later) : later.Sound := by
  cases course with
  | stops leads => exact sound.of_leads leads
  | completes leads takes areChildren named isHolder =>
      exact (sound.of_leads leads).complete takes areChildren named isHolder

/-- A call leaves a sound store, whether it makes its node or fails. -/
theorem Sound.perform (sound : store.Sound) (call : Call) : (call.perform store).1.Sound :=
  sound.of_course (perform_course store call)

/-- Calls lead to sound stores, by induction on their sequence. -/
theorem Sound.after (sound : store.Sound) (calls : List Call) : (store.after calls).Sound := by
  induction calls generalizing store with
  | nil => exact sound
  | cons call rest ih => exact ih (sound.perform call)

-----------------------------------------------------------------------------------------
-- Consistent stores
-----------------------------------------------------------------------------------------

/-- The nodes that a node is in, the nearest first, up to one that is in no other. -/
inductive Climbs (store : Store) : Nat → List Nat → Prop where
  | top {id : Nat} (outermost : store.parent? id = none) : store.Climbs id []
  | up {id parent : Nat} {ancestors : List Nat} (inside : store.parent? id = some parent)
      (further : store.Climbs parent ancestors) : store.Climbs id (parent :: ancestors)

/-- What can be relied on with nodes that were made. -/
structure Consistent (store : Store) : Prop where
  parent?_of_part {parent id : Nat} {entry : Entry} (found : store.get? parent = some entry)
    (part : id ∈ entry.parts)
    : store.parent? id = some parent
  /-- No node is a part twice, be it of one node or of two. -/
  nodup : (store.entries.flatMap Entry.parts).Nodup
  part_of_parent? {parent id : Nat} (inside : store.parent? id = some parent)
    : ∃ entry, store.get? parent = some entry ∧ id ∈ entry.parts
  children {parent id : Nat} {entry : Entry} (found : store.get? parent = some entry)
    (child : id ∈ entry.children)
    : ∃ part, store.get? id = some part ∧ part.label.isChild
  /-- What is found under the name of an attribute is this attribute. -/
  attribute?_eq {parent id : Nat} {entry : Entry} (found : store.get? parent = some entry)
    (member : id ∈ entry.attributes)
    : ∃ name, store.attributeName? id = some name ∧ store.attribute? parent name = some id
  distinct {parent : Nat} {entry : Entry} (found : store.get? parent = some entry)
    : (entry.attributes.map store.attributeName?).Nodup
  /-- The way up from a node ends, and there is one way only. -/
  climbs (id : Nat) : ∃! ancestors, store.Climbs id ancestors

theorem Climbs.unique {ancestors others : List Nat} (climbs : store.Climbs id ancestors)
    (again : store.Climbs id others)
    : ancestors = others := by
  induction climbs generalizing others with
  | top outermost =>
      cases again with
      | top => rfl
      | up inside => cases outermost.symm.trans inside
  | up inside _ ih =>
      cases again with
      | top outermost => cases outermost.symm.trans inside
      | up same further =>
          cases same.symm.trans inside
          rw [ih further]

/-- The way up leads to nodes that were made later, of which there are finitely many. -/
theorem Sound.exists_climbs (sound : store.Sound) (id : Nat)
    : ∃ ancestors, store.Climbs id ancestors := by
  induction bound : store.entries.length - id using Nat.strongRecOn generalizing id with
  | ind bound ih =>
      cases inside : store.parent? id with
      | none => exact ⟨[], .top inside⟩
      | some parent =>
          have contains := (sound.contains_iff parent id).mpr inside
          have later : id < parent := sound.lt_of_contains contains
          obtain ⟨entry, found, -⟩ := contains
          have known : parent < store.entries.length := lt_of_get? found
          obtain ⟨ancestors, further⟩ := ih _ (by omega) parent rfl
          exact ⟨parent :: ancestors, .up inside further⟩

theorem Sound.nodup_parts (sound : store.Sound) : (store.entries.flatMap Entry.parts).Nodup := by
  refine List.nodup_flatMap.mpr ⟨fun entry member => ?_, ?_⟩
  · obtain ⟨parent, found⟩ := List.mem_iff_getElem?.mp member
    exact (sound.proper found).nodup
  · refine List.pairwise_iff_getElem.mpr fun first second inFirst inSecond less => ?_
    intro id member again
    have inside := (sound.contains_iff first id).mp ⟨_, List.getElem?_eq_getElem inFirst, member⟩
    have inside' := (sound.contains_iff second id).mp ⟨_, List.getElem?_eq_getElem inSecond, again⟩
    exact Nat.ne_of_lt less (Option.some.inj (inside.symm.trans inside'))

theorem Named.nodup_map {names : List ExpandedName} (named : store.Named attributes names)
    : (attributes.map store.attributeName?).Nodup :=
  named.1 ▸ named.2.map fun _ _ => Option.some.inj

/-- Among attributes of different names, each one is the first with its name. -/
theorem Named.find?_eq {names : List ExpandedName} {name : ExpandedName}
    (named : store.Named attributes names) (member : id ∈ attributes)
    (same : store.attributeName? id = some name)
    : attributes.find? (fun it => store.attributeName? it == some name) = some id := by
  have unique : ∀ it ∈ attributes, store.attributeName? it = some name → it = id :=
    fun it other again =>
      List.inj_on_of_nodup_map named.nodup_map other member (again.trans same.symm)
  obtain ⟨it, found⟩ : ∃ it, attributes.find? (store.attributeName? · == some name) = some it :=
    Option.isSome_iff_exists.mp (List.find?_isSome.mpr ⟨id, member, by simp [same]⟩)
  rw [found, unique it (List.mem_of_find?_eq_some found) (by simpa using List.find?_some found)]

/-- Whatever nodes are asked for one after another, and whichever of the calls fail, the nodes that
were made are consistent.
-/
theorem consistent_after (calls : List Call) : (Store.empty.after calls).Consistent := by
  have sound : (Store.empty.after calls).Sound := sound_empty.after calls
  generalize Store.empty.after calls = store at sound
  exact {
    parent?_of_part := fun found part => (sound.contains_iff _ _).mp ⟨_, found, part⟩
    nodup := sound.nodup_parts
    part_of_parent? := fun inside => (sound.contains_iff _ _).mpr inside
    children := fun found child => by
      obtain ⟨label, known, allowed⟩ := (sound.proper found).children _ child
      obtain ⟨part, there, rfl⟩ := Option.map_eq_some_iff.mp known
      exact ⟨part, there, allowed⟩
    attribute?_eq := fun {parent id entry} found member => by
      obtain ⟨names, named⟩ := (sound.proper found).attributes
      have known : store.attributeName? id ∈ names.map some :=
        named.1 ▸ List.mem_map_of_mem member
      obtain ⟨name, -, same⟩ := List.mem_map.mp known
      refine ⟨name, same.symm, ?_⟩
      rw [attribute?, found]
      exact named.find?_eq member same.symm
    distinct := fun found => by
      obtain ⟨names, named⟩ := (sound.proper found).attributes
      exact named.nodup_map
    climbs := fun id =>
      (sound.exists_climbs id).imp fun _ climbs => ⟨climbs, fun _ again => again.unique climbs⟩ }

end Store

end PathQuery
