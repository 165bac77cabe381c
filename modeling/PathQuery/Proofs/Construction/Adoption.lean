import Mathlib.Data.List.Nodup
import PathQuery.Construction.Store
import PathQuery.Proofs.Outcome

/-! What calls that make nodes take into their hands. A node is taken at most once, whatever
becomes of the call, and all that was made before keeps what it contains.
-/

namespace PathQuery

/-- The nodes that a node contains. -/
def Entry.parts (entry : Entry) : List Nat :=
  entry.children ++ entry.attributes

namespace Store

variable {store mid later : Store} {entry : Entry} {id parent : Nat} {ids others : List Nat}

-----------------------------------------------------------------------------------------
-- Entries
-----------------------------------------------------------------------------------------

theorem get?_add (store : Store) (entry : Entry) (id : Nat)
    : (store.add entry).1.get? id
      = if id = store.entries.length then some entry else store.get? id := by
  rw [add, get?, get?]
  rcases Nat.lt_trichotomy id store.entries.length with less | rfl | greater
  · rw [List.getElem?_append_left less, if_neg (Nat.ne_of_lt less)]
  · rw [List.getElem?_concat_length, if_pos rfl]
  · rw [if_neg (Nat.ne_of_gt greater), List.getElem?_eq_none (Nat.le_of_lt greater)]
    exact List.getElem?_eq_none (by rw [List.length_append]; exact greater)

theorem get?_attach (store : Store) (attachment : Attachment) (id other : Nat)
    : (store.attach attachment id).get? other
      = if other = id then (store.get? id).map (fun entry => { entry with attachment })
        else store.get? other := by
  rw [attach, get?, get?, get?, List.getElem?_modify]
  by_cases same : other = id
  · subst same
    simp
  · simp [same, Ne.symm same]

/-- Attaching several nodes to one changes nothing else. -/
theorem get?_attachAll (store : Store) (attachment : Attachment) (ids : List Nat) (id : Nat)
    : (ids.foldl (attach · attachment) store).get? id
      = if id ∈ ids then (store.get? id).map (fun entry => { entry with attachment })
        else store.get? id := by
  induction ids generalizing store with
  | nil => simp
  | cons first rest ih =>
      rw [List.foldl_cons, ih, get?_attach]
      by_cases inRest : id ∈ rest
      · by_cases same : id = first
        · subst same
          rw [if_pos inRest, if_pos rfl, if_pos List.mem_cons_self]
          cases store.get? id <;> rfl
        · rw [if_pos inRest, if_neg same, if_pos (List.mem_cons_of_mem _ inRest)]
      · by_cases same : id = first
        · subst same
          rw [if_neg inRest, if_pos rfl, if_pos List.mem_cons_self]
        · rw [if_neg inRest, if_neg same, if_neg (by simp [same, inRest])]

theorem lt_of_get? (found : store.get? id = some entry) : id < store.entries.length :=
  (List.getElem?_eq_some_iff.mp found).1

theorem parent?_eq_some_iff
    : store.parent? id = some parent
      ↔ ∃ entry, store.get? id = some entry ∧ entry.attachment = .to parent := by
  rw [parent?]
  cases store.get? id with
  | none => simp
  | some entry =>
      obtain ⟨label, attachment, children, attributes⟩ := entry
      cases attachment <;> simp

-----------------------------------------------------------------------------------------
-- What nodes are
-----------------------------------------------------------------------------------------

/-- The node of a name can be a child. -/
def IsChild (store : Store) (id : Nat) : Prop :=
  ∃ label, (store.get? id).map Entry.label = some label ∧ label.isChild

/-- Attributes have the given names, none of them twice. -/
def Named (store : Store) (ids : List Nat) (names : List ExpandedName) : Prop :=
  ids.map store.attributeName? = names.map some ∧ names.Nodup

theorem Named.cons {ids : List Nat} {name : ExpandedName} {names : List ExpandedName}
    (named : store.Named ids names) (here : store.attributeName? id = some name)
    (unseen : name ∉ names)
    : store.Named (id :: ids) (name :: names) :=
  ⟨by rw [List.map_cons, List.map_cons, here, named.1], List.nodup_cons.mpr ⟨unseen, named.2⟩⟩

/-- Nodes of the store are still what they were in a later one. -/
def Remembers (store later : Store) : Prop :=
  ∀ id entry, store.get? id = some entry → (later.get? id).map Entry.label = some entry.label

namespace Remembers

theorem attributeName?_eq (remembers : store.Remembers later) (found : store.get? id = some entry)
    : later.attributeName? id = store.attributeName? id := by
  rw [attributeName?, attributeName?, remembers id entry found, found]
  rfl

theorem isChild (remembers : store.Remembers later) (isChild : store.IsChild id)
    : later.IsChild id := by
  obtain ⟨label, known, allowed⟩ := isChild
  obtain ⟨entry, found, rfl⟩ := Option.map_eq_some_iff.mp known
  exact ⟨entry.label, remembers id entry found, allowed⟩

theorem named (remembers : store.Remembers later) {names : List ExpandedName}
    (named : store.Named ids names)
    : later.Named ids names := by
  refine ⟨?_, named.2⟩
  rw [← named.1]
  refine List.map_congr_left fun id member => ?_
  have known : store.attributeName? id ∈ names.map some := named.1 ▸ List.mem_map_of_mem member
  obtain ⟨name, -, same⟩ := List.mem_map.mp known
  cases found : store.get? id with
  | none => simp [attributeName?, found] at same
  | some entry => exact remembers.attributeName?_eq found

end Remembers

-----------------------------------------------------------------------------------------
-- Stores in the course of a call
-----------------------------------------------------------------------------------------

/-- A later store in the course of a call: some free nodes are taken, and the nodes that were added
are no elements, contain nothing and are in no other one.
-/
structure Leads (store later : Store) : Prop where
  kept {id : Nat} {entry : Entry} (found : store.get? id = some entry)
    : ∃ attachment, later.get? id = some { entry with attachment }
      ∧ (attachment = entry.attachment ∨ entry.attachment = .free ∧ attachment = .lost)
  added {id : Nat} {entry : Entry} (found : later.get? id = some entry)
    (new : store.get? id = none)
    : entry.parts = [] ∧ ∀ parent, entry.attachment ≠ .to parent
  noElement {id : Nat} {entry : Entry} (found : later.get? id = some entry)
    (new : store.get? id = none) (head : Head)
    : entry.label ≠ .element head

namespace Leads

theorem refl (store : Store) : store.Leads store :=
  ⟨fun found => ⟨_, found, .inl rfl⟩, fun found new => by simp [found] at new,
    fun found new => by simp [found] at new⟩

theorem trans (first : store.Leads mid) (second : mid.Leads later) : store.Leads later where
  kept found := by
    obtain ⟨attachment, there, change⟩ := first.kept found
    obtain ⟨further, last, again⟩ := second.kept there
    refine ⟨further, last, ?_⟩
    rcases again with rfl | ⟨free, rfl⟩
    · exact change
    · rcases change with same | ⟨-, lost⟩
      · exact .inr ⟨same ▸ free, rfl⟩
      · cases lost.symm.trans free
  added {id entry} found new := by
    cases there : mid.get? id with
    | none => exact second.added found there
    | some old =>
        obtain ⟨empty, apart⟩ := first.added there new
        obtain ⟨attachment, last, change⟩ := second.kept there
        cases found.symm.trans last
        refine ⟨empty, fun parent same => ?_⟩
        rcases change with rfl | ⟨-, rfl⟩
        · exact apart parent same
        · cases same
  noElement {id entry} found new := by
    cases there : mid.get? id with
    | none => exact second.noElement found there
    | some old =>
        obtain ⟨attachment, last, -⟩ := second.kept there
        cases found.symm.trans last
        exact fun head same => first.noElement there new head same

/-- A node that was taken before stays as it is. -/
theorem get?_of_taken (leads : store.Leads later) (found : store.get? id = some entry)
    (taken : entry.attachment ≠ .free)
    : later.get? id = some entry := by
  obtain ⟨attachment, there, rfl | ⟨free, -⟩⟩ := leads.kept found
  · exact there
  · exact absurd free taken

/-- A node that is in another one was so before. -/
theorem parent?_eq (leads : store.Leads later) (id : Nat) : later.parent? id = store.parent? id := by
  refine Option.ext fun parent => ?_
  rw [parent?_eq_some_iff, parent?_eq_some_iff]
  constructor
  · rintro ⟨entry, found, inside⟩
    cases there : store.get? id with
    | none => exact absurd inside ((leads.added found there).2 parent)
    | some old =>
        obtain ⟨attachment, last, change⟩ := leads.kept there
        cases found.symm.trans last
        rcases change with rfl | ⟨-, rfl⟩
        · exact ⟨old, rfl, inside⟩
        · cases inside
  · rintro ⟨entry, found, inside⟩
    exact ⟨entry, leads.get?_of_taken found (by simp [inside]), inside⟩

theorem remembers (leads : store.Leads later) : store.Remembers later := by
  intro id entry found
  obtain ⟨attachment, there, -⟩ := leads.kept found
  rw [there]
  rfl

end Leads

theorem leads_add (store : Store) {label : Label} {attachment : Attachment}
    (apart : ∀ parent, attachment ≠ .to parent) (noElement : ∀ head, label ≠ .element head)
    : store.Leads (store.add ⟨label, attachment, [], []⟩).1 where
  kept {id entry} found := by
    refine ⟨entry.attachment, ?_, .inl rfl⟩
    rw [get?_add, if_neg (Nat.ne_of_lt (lt_of_get? found)), found]
  added found new := by
    rw [get?_add] at found
    split at found
    · cases found
      exact ⟨rfl, apart⟩
    · cases found.symm.trans new
  noElement found new := by
    rw [get?_add] at found
    split at found
    · cases found
      exact noElement
    · cases found.symm.trans new

/-- A node that was just added is there. -/
theorem get?_add_self (store : Store) (entry : Entry)
    : (store.add entry).1.get? store.entries.length = some entry := by
  rw [get?_add, if_pos rfl]

theorem leads_attach (found : store.get? id = some entry) (free : entry.attachment = .free)
    : store.Leads (store.attach .lost id) where
  kept {other old} there := by
    rw [get?_attach]
    split
    case isTrue same =>
        subst same
        cases found.symm.trans there
        exact ⟨.lost, by rw [found]; rfl, .inr ⟨free, rfl⟩⟩
    case isFalse => exact ⟨old.attachment, there, .inl rfl⟩
  added {other new} there missing := by
    rw [get?_attach] at there
    split at there
    case isTrue same => cases missing.symm.trans (same ▸ found)
    case isFalse => cases missing.symm.trans there
  noElement {other new} there missing := by
    rw [get?_attach] at there
    split at there
    case isTrue same => cases missing.symm.trans (same ▸ found)
    case isFalse => cases missing.symm.trans there

-----------------------------------------------------------------------------------------
-- Nodes that are taken
-----------------------------------------------------------------------------------------

/-- Nodes that a call has taken into its hands: each was free or is new, and none is taken twice. -/
structure Takes (store later : Store) (ids : List Nat) : Prop where
  nodup : ids.Nodup
  untaken {id : Nat} {entry : Entry} (member : id ∈ ids) (found : store.get? id = some entry)
    : entry.attachment = .free
  held {id : Nat} (member : id ∈ ids)
    : ∃ entry, later.get? id = some entry ∧ entry.attachment = .lost

namespace Takes

theorem nil (store later : Store) : store.Takes later [] :=
  ⟨.nil, fun member => absurd member List.not_mem_nil, fun member =>
    absurd member List.not_mem_nil⟩

theorem singleton (untaken : ∀ entry, store.get? id = some entry → entry.attachment = .free)
    (found : later.get? id = some entry) (lost : entry.attachment = .lost)
    : store.Takes later [id] where
  nodup := List.nodup_singleton id
  untaken member found := untaken _ (List.mem_singleton.mp member ▸ found)
  held member := ⟨entry, List.mem_singleton.mp member ▸ found, lost⟩

/-- What is taken first is in hand when further nodes are taken, so that it is none of them. -/
theorem append (first : store.Leads mid) (second : mid.Leads later) (takes : store.Takes mid ids)
    (further : mid.Takes later others)
    : store.Takes later (ids ++ others) where
  nodup := by
    refine List.nodup_append'.mpr ⟨takes.nodup, further.nodup, fun id member again => ?_⟩
    obtain ⟨entry, found, lost⟩ := takes.held member
    cases lost.symm.trans (further.untaken again found)
  untaken member found := by
    rcases List.mem_append.mp member with early | late
    · exact takes.untaken early found
    · obtain ⟨attachment, there, change⟩ := first.kept found
      have free : attachment = .free := further.untaken late there
      rcases change with same | ⟨free, -⟩
      · exact same ▸ free
      · exact free
  held member := by
    rcases List.mem_append.mp member with early | late
    · obtain ⟨entry, found, lost⟩ := takes.held early
      exact ⟨entry, second.get?_of_taken found (by simp [lost]), lost⟩
    · exact further.held late

theorem lt (takes : store.Takes later ids) (member : id ∈ ids) : id < later.entries.length := by
  obtain ⟨entry, found, -⟩ := takes.held member
  exact lt_of_get? found

end Takes

-----------------------------------------------------------------------------------------
-- Taking children and attributes
-----------------------------------------------------------------------------------------

/-- A node is taken if it is free, and nothing changes if it is not. -/
theorem adopt_leads (found : store.get? id = some entry)
    : store.Leads (store.adopt id entry).1
      ∧ ∀ taken, (store.adopt id entry).2 = .ok taken →
        taken = id ∧ store.Takes (store.adopt id entry).1 [id] := by
  rw [adopt]
  split
  case isTrue free =>
      refine ⟨leads_attach found free, fun taken same => ⟨(Except.ok.inj same).symm, ?_⟩⟩
      have there : (store.attach .lost id).get? id = some { entry with attachment := .lost } := by
        rw [get?_attach, if_pos rfl, found]
        rfl
      exact .singleton (fun other same => Option.some.inj (found.symm.trans same) ▸ free) there rfl
  case isFalse => exact ⟨.refl store, fun taken same => nomatch same⟩

theorem adoptChild_leads (store : Store) (child : Child)
    : store.Leads (store.adoptChild child).1
      ∧ ∀ id, (store.adoptChild child).2 = .ok id →
        store.Takes (store.adoptChild child).1 [id] ∧ (store.adoptChild child).1.IsChild id := by
  cases child with
  | text content =>
      refine ⟨leads_add store (by simp) (by simp), fun id same => ?_⟩
      obtain rfl : store.entries.length = id := Except.ok.inj same
      have there := get?_add_self store ⟨.text content, .lost, [], []⟩
      refine ⟨.singleton (fun entry found => ?_) there rfl, ⟨_, congrArg _ there, rfl⟩⟩
      exact absurd (lt_of_get? found) (Nat.lt_irrefl _)
  | node id =>
      rw [adoptChild]
      split
      case h_1 entry found =>
          split
          case isTrue allowed =>
              obtain ⟨leads, takes⟩ := adopt_leads found
              refine ⟨leads, fun taken same => ?_⟩
              obtain ⟨rfl, takes⟩ := takes taken same
              exact ⟨takes, entry.label, leads.remembers _ _ found, allowed⟩
          case isFalse => exact ⟨.refl store, fun taken same => nomatch same⟩
      case h_2 => exact ⟨.refl store, fun taken same => nomatch same⟩
  | other datum => exact ⟨.refl store, fun taken same => nomatch same⟩

/-- Children are taken in order, by induction on them. -/
theorem adoptChildren_leads (store : Store) (children : List Child)
    : store.Leads (store.adoptChildren children).1
      ∧ ∀ ids, (store.adoptChildren children).2 = .ok ids →
        store.Takes (store.adoptChildren children).1 ids
          ∧ ∀ id ∈ ids, (store.adoptChildren children).1.IsChild id := by
  induction children generalizing store with
  | nil =>
      refine ⟨.refl store, fun ids same => ?_⟩
      obtain rfl := Except.ok.inj same
      exact ⟨.nil _ _, by simp⟩
  | cons child rest ih =>
      obtain ⟨leads, takes⟩ := adoptChild_leads store child
      rw [adoptChildren]
      generalize store.adoptChild child = attempt at leads takes
      obtain ⟨mid, outcome⟩ := attempt
      cases outcome with
      | error fault => exact ⟨leads, fun ids same => nomatch same⟩
      | ok id =>
          obtain ⟨first, isChild⟩ := takes id rfl
          obtain ⟨further, more⟩ := ih mid
          refine ⟨leads.trans further, fun ids same => ?_⟩
          obtain ⟨others, succeeds, rfl⟩ := map_eq_ok.mp same
          obtain ⟨later, areChildren⟩ := more others succeeds
          exact ⟨.append leads further first later,
            List.forall_mem_cons.mpr ⟨further.remembers.isChild isChild, areChildren⟩⟩

/-- What is given as an attribute is one in the store, which has added it if it is new. -/
theorem attributeEntry_leads (store : Store) (given : GivenAttribute)
    : store.Leads (store.attributeEntry given).1
      ∧ ∀ id it, (store.attributeEntry given).2 = .ok (id, it) →
        (store.attributeEntry given).1.attributeName? id = some it.name := by
  cases given with
  | named name value =>
      rw [attributeEntry]
      cases namedAttribute name value with
      | error fault => exact ⟨.refl store, fun id it same => nomatch same⟩
      | ok it =>
          refine ⟨leads_add store (by simp) (by simp), fun id other same => ?_⟩
          cases same
          rw [attributeName?]
          dsimp only [addFree]
          rw [get?_add_self]
          rfl
  | node id =>
      rw [attributeEntry]
      split
      case h_1 it attachment children attributes found =>
          refine ⟨.refl store, fun other again same => ?_⟩
          cases same
          simp [attributeName?, found]
      case h_2 => exact ⟨.refl store, fun other it same => nomatch same⟩
  | other => exact ⟨.refl store, fun id it same => nomatch same⟩

/-- Attributes are taken in order, and their names differ from each other and from those that were
there before, by induction on them.
-/
theorem adoptAttributes_leads (store : Store) (seen : List ExpandedName)
    (given : List GivenAttribute)
    : store.Leads (store.adoptAttributes seen given).1
      ∧ ∀ ids, (store.adoptAttributes seen given).2 = .ok ids →
        store.Takes (store.adoptAttributes seen given).1 ids
          ∧ ∃ names, (store.adoptAttributes seen given).1.Named ids names
            ∧ ∀ name ∈ names, name ∉ seen := by
  induction given generalizing store seen with
  | nil =>
      refine ⟨.refl store, fun ids same => ?_⟩
      obtain rfl := Except.ok.inj same
      exact ⟨.nil _ _, [], ⟨rfl, .nil⟩, by simp⟩
  | cons first rest ih =>
      obtain ⟨leads, known⟩ := attributeEntry_leads store first
      rw [adoptAttributes]
      generalize store.attributeEntry first = attempt at leads known
      obtain ⟨made, outcome⟩ := attempt
      cases outcome with
      | error fault => exact ⟨leads, fun ids same => nomatch same⟩
      | ok both =>
          obtain ⟨id, it⟩ := both
          have name : made.attributeName? id = some it.name := known id it rfl
          dsimp only
          split
          case isTrue => exact ⟨leads, fun ids same => nomatch same⟩
          case isFalse unseen =>
          split
          case h_1 => exact ⟨leads, fun ids same => nomatch same⟩
          case h_2 entry found =>
              obtain ⟨taken, takes⟩ := adopt_leads found
              generalize made.adopt id entry = attempt at taken takes
              obtain ⟨mid, outcome⟩ := attempt
              cases outcome with
              | error fault => exact ⟨leads.trans taken, fun ids same => nomatch same⟩
              | ok again =>
                  obtain ⟨rfl, takesFirst⟩ := takes again rfl
                  obtain ⟨further, more⟩ := ih mid (it.name :: seen)
                  refine ⟨(leads.trans taken).trans further, fun ids same => ?_⟩
                  obtain ⟨others, succeeds, rfl⟩ := map_eq_ok.mp same
                  obtain ⟨later, names, named, unseenNames⟩ := more others succeeds
                  have nowTaken : store.Takes mid [again] :=
                    (Takes.nil store made).append leads taken takesFirst
                  obtain ⟨held, there, -⟩ := takesFirst.held (List.mem_singleton.mpr rfl)
                  refine ⟨nowTaken.append (leads.trans taken) further later, it.name :: names,
                    named.cons ?_ fun member => unseenNames _ member List.mem_cons_self, ?_⟩
                  · rw [further.remembers.attributeName?_eq there,
                      taken.remembers.attributeName?_eq found, name]
                  · refine List.forall_mem_cons.mpr ⟨fun member => unseen (by simpa using member), ?_⟩
                    exact fun other member before =>
                      unseenNames other member (List.mem_cons_of_mem _ before)

end Store

end PathQuery
