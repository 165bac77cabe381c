import PathQuery.Proofs.Construction.Adoption

/-! What a failed call leaves behind. It has taken what was given up to the first thing that it
could not take; these nodes are lost, and all others are what they were.
-/

namespace PathQuery

-----------------------------------------------------------------------------------------
-- What is reached in order
-----------------------------------------------------------------------------------------

section
variable {α : Type} {fits : List α → α → Prop} {first item : α} {items rest : List α}

/-- Each item fits after those before it. -/
def EachFits (fits : List α → α → Prop) (items : List α) : Prop :=
  ∀ before item after, items = before ++ item :: after → fits before item

/-- An item that fits, as do all those before it. -/
def Reached (fits : List α → α → Prop) (items : List α) (item : α) : Prop :=
  ∃ before after, items = before ++ item :: after ∧ EachFits fits (before ++ [item])

theorem eachFits_nil : EachFits fits [] := by
  intro before item after same
  simp at same

theorem eachFits_cons_iff
    : EachFits fits (first :: rest)
      ↔ fits [] first ∧ EachFits (fun before => fits (first :: before)) rest := by
  constructor
  · intro each
    refine ⟨each [] first rest rfl, fun before item after same => ?_⟩
    exact each (first :: before) item after (by rw [same, List.cons_append])
  · rintro ⟨here, each⟩ before item after same
    cases before with
    | nil =>
        cases same
        exact here
    | cons other before =>
        cases same
        exact each before item after rfl

theorem EachFits.reached_iff (each : EachFits fits items) : Reached fits items item ↔ item ∈ items := by
  constructor
  · rintro ⟨before, after, rfl, -⟩
    simp
  · intro member
    obtain ⟨before, after, same⟩ := List.append_of_mem member
    refine ⟨before, after, same, fun start next rest upTo => each start next (rest ++ after) ?_⟩
    rw [same, ← List.singleton_append, ← List.append_assoc, upTo, List.append_assoc, List.cons_append]

theorem reached_cons_iff
    : Reached fits (first :: rest) item
      ↔ fits [] first ∧ (item = first ∨ Reached (fun before => fits (first :: before)) rest item) := by
  constructor
  · rintro ⟨before, after, same, each⟩
    cases before with
    | nil =>
        cases same
        exact ⟨each [] _ [] rfl, .inl rfl⟩
    | cons other before =>
        cases same
        obtain ⟨here, each⟩ := eachFits_cons_iff.mp each
        exact ⟨here, .inr ⟨before, after, rfl, each⟩⟩
  · rintro ⟨here, rfl | ⟨before, after, rfl, each⟩⟩
    · exact ⟨[], _, rfl, eachFits_cons_iff.mpr ⟨here, eachFits_nil⟩⟩
    · exact ⟨first :: before, after, rfl, eachFits_cons_iff.mpr ⟨here, each⟩⟩

end

-----------------------------------------------------------------------------------------
-- What can be taken
-----------------------------------------------------------------------------------------

/-- A child can be taken after others: a text, or a node that can be a child, is in no other node
and was not given before.
-/
def Child.Fits (store : Store) (before : List Child) : Child → Prop
  | .text _ => True
  | .node id =>
      (∃ entry, store.get? id = some entry ∧ entry.label.isChild ∧ entry.attachment = .free)
        ∧ .node id ∉ before
  | .other _ => False

namespace GivenAttribute

/-- The name of what is given as an attribute. -/
def name? (store : Store) : GivenAttribute → Option ExpandedName
  | .named name value => (Store.namedAttribute name value).toOption.map Attribute.name
  | .node id => store.attributeName? id
  | .other => none

/-- An attribute can be taken after others: one that can be made, or a node in no other one, with
a name that none of the others has.
-/
structure Fits (store : Store) (before : List GivenAttribute) (given : GivenAttribute) : Prop where
  named : ∃ name, given.name? store = some name ∧ ∀ earlier ∈ before, earlier.name? store ≠ some name
  free (id : Nat) (same : given = .node id)
    : ∃ entry, store.get? id = some entry ∧ entry.attachment = .free

end GivenAttribute

/-- A node is taken by a call that fails: it is reached among the children, or all of these are
taken, the declarations are a mapping and it is reached among the attributes.
-/
def Call.Spends (store : Store) (id : Nat) : Call → Prop
  | .document children => Reached (Child.Fits store) children (.node id)
  | .element localPart uri qualifier children declarations attributes =>
      (∃ head, Construction.head localPart uri qualifier [] = .ok head)
        ∧ (Reached (Child.Fits store) children (.node id)
          ∨ EachFits (Child.Fits store) children ∧ declarations ≠ .other
            ∧ Reached (GivenAttribute.Fits store) attributes (.node id))
  | .leaf _ _ => False

namespace Store

variable {store mid later : Store} {entry : Entry} {id : Nat} {held base : Nat → Prop}

-----------------------------------------------------------------------------------------
-- Stores that hold some nodes
-----------------------------------------------------------------------------------------

/-- In a later store some nodes are lost and all others are what they were. -/
structure Loses (store later : Store) (held : Nat → Prop) : Prop where
  lost {id : Nat} {entry : Entry} (found : store.get? id = some entry) (isHeld : held id)
    : later.get? id = some { entry with attachment := .lost }
  kept {id : Nat} {entry : Entry} (found : store.get? id = some entry) (notHeld : ¬held id)
    : later.get? id = some entry

/-- As long as all could be taken, no node that was made on the way is free. -/
structure Holds (store later : Store) (held : Nat → Prop) : Prop extends store.Loses later held where
  new {id : Nat} {entry : Entry} (missing : store.get? id = none) (found : later.get? id = some entry)
    : entry.attachment ≠ .free

namespace Loses

theorem congr {other : Nat → Prop} (loses : store.Loses later held) (iff : ∀ id, held id ↔ other id)
    : store.Loses later other :=
  funext (fun id => propext (iff id)) ▸ loses

theorem exists_get? (loses : store.Loses later held) (found : store.get? id = some entry)
    : ∃ attachment, later.get? id = some { entry with attachment } := by
  by_cases isHeld : held id
  · exact ⟨_, loses.lost found isHeld⟩
  · exact ⟨_, loses.kept found isHeld⟩

/-- Nodes that are added are none of those that were there. -/
theorem add (loses : store.Loses later held) (entry : Entry)
    : store.Loses (later.add entry).1 held where
  lost found isHeld := by
    have there := loses.lost found isHeld
    rw [get?_add, if_neg (Nat.ne_of_lt (lt_of_get? there)), there]
  kept found notHeld := by
    have there := loses.kept found notHeld
    rw [get?_add, if_neg (Nat.ne_of_lt (lt_of_get? there)), there]

end Loses

namespace Holds

theorem refl (store : Store) (none : ∀ id, ¬held id) : store.Holds store held where
  lost _ isHeld := absurd isHeld (none _)
  kept found _ := found
  new missing found := by cases missing.symm.trans found

theorem congr {other : Nat → Prop} (holds : store.Holds later held) (iff : ∀ id, held id ↔ other id)
    : store.Holds later other :=
  funext (fun id => propext (iff id)) ▸ holds

theorem add (holds : store.Holds later held) (apart : entry.attachment ≠ .free)
    : store.Holds (later.add entry).1 held where
  toLoses := holds.toLoses.add entry
  new missing found := by
    rw [get?_add] at found
    split at found
    · cases found
      exact apart
    · exact holds.new missing found

/-- A node that is free was so before and is not among those that are held. -/
theorem of_free (holds : store.Holds later held) (found : later.get? id = some entry)
    (free : entry.attachment = .free)
    : store.get? id = some entry ∧ ¬held id := by
  cases there : store.get? id with
  | none => exact absurd free (holds.new there found)
  | some old =>
      by_cases isHeld : held id
      · cases found.symm.trans (holds.lost there isHeld)
        cases free
      · cases found.symm.trans (holds.kept there isHeld)
        exact ⟨rfl, isHeld⟩

/-- A free node is taken, and a node that is not free is left as it is. -/
theorem adopt (holds : store.Holds mid held) (found : mid.get? id = some entry)
    : (entry.attachment = .free ∧ (mid.adopt id entry).2 = .ok id
        ∧ store.Holds (mid.adopt id entry).1 (fun other => held other ∨ other = id))
      ∨ entry.attachment ≠ .free ∧ ∃ fault, mid.adopt id entry = (mid, .error fault) := by
  rw [Store.adopt]
  split
  case isFalse taken => exact .inr ⟨taken, _, rfl⟩
  case isTrue free =>
      obtain ⟨there, notHeld⟩ := holds.of_free found free
      refine .inl ⟨free, rfl, ⟨⟨fun {other old} known isHeld => ?_, fun {other old} known notHeld => ?_⟩,
        fun {other new} missing now => ?_⟩⟩
      · rw [get?_attach]
        split
        case isTrue same =>
            subst same
            rw [found]
            cases known.symm.trans there
            rfl
        case isFalse differs => exact holds.lost known (isHeld.resolve_right differs)
      · rw [get?_attach, if_neg fun same => notHeld (.inr same)]
        exact holds.kept known fun isHeld => notHeld (.inl isHeld)
      · rw [get?_attach] at now
        split at now
        case isTrue same =>
            subst same
            cases missing.symm.trans there
        case isFalse => exact holds.new missing now

end Holds

-----------------------------------------------------------------------------------------
-- Children
-----------------------------------------------------------------------------------------

/-- A child is taken if it fits after those before it, and nothing changes if it does not. -/
theorem Holds.adoptChild {earlier : List Child} (holds : store.Holds mid (.node · ∈ earlier))
    (child : Child)
    : (child.Fits store earlier ∧ (∃ id, (mid.adoptChild child).2 = .ok id)
        ∧ store.Holds (mid.adoptChild child).1 (.node · ∈ earlier ++ [child]))
      ∨ ¬child.Fits store earlier ∧ ∃ fault, mid.adoptChild child = (mid, .error fault) := by
  cases child with
  | text content =>
      have same (id : Nat) : .node id ∈ earlier ↔ .node id ∈ earlier ++ [.text content] := by simp
      exact .inl ⟨trivial, ⟨_, rfl⟩, (holds.add (by simp)).congr same⟩
  | other datum => exact .inr ⟨id, _, rfl⟩
  | node id =>
      have fits_of {old : Entry} (fits : Child.Fits store earlier (.node id))
          (found : mid.get? id = some old)
          : old.label.isChild ∧ old.attachment = .free := by
        obtain ⟨⟨entry, there, isChild, free⟩, fresh⟩ := fits
        cases found.symm.trans (holds.kept there fresh)
        exact ⟨isChild, free⟩
      rw [Store.adoptChild]
      split
      case h_1 entry found =>
          split
          case isTrue isChild =>
              obtain ⟨free, ok, now⟩ | ⟨taken, refused⟩ := holds.adopt found
              · obtain ⟨there, fresh⟩ := holds.of_free found free
                exact .inl ⟨⟨⟨entry, there, isChild, free⟩, fresh⟩, ⟨_, ok⟩, now.congr (by simp)⟩
              · exact .inr ⟨fun fits => taken (fits_of fits found).2, refused⟩
          case isFalse noChild => exact .inr ⟨fun fits => noChild (fits_of fits found).1, _, rfl⟩
      case h_2 missing =>
          refine .inr ⟨?_, _, rfl⟩
          rintro ⟨⟨entry, there, -⟩, fresh⟩
          cases missing.symm.trans (holds.kept there fresh)

/-- Children are taken as far as they are reached, by induction on them. -/
theorem Holds.adoptChildren {earlier : List Child} (holds : store.Holds mid (.node · ∈ earlier))
    (children : List Child)
    : (EachFits (fun before => Child.Fits store (earlier ++ before)) children
        ∧ (∃ ids, (mid.adoptChildren children).2 = .ok ids)
        ∧ store.Holds (mid.adoptChildren children).1 (.node · ∈ earlier ++ children))
      ∨ ¬EachFits (fun before => Child.Fits store (earlier ++ before)) children
        ∧ (∃ fault, (mid.adoptChildren children).2 = .error fault)
        ∧ store.Loses (mid.adoptChildren children).1 (fun id => .node id ∈ earlier
          ∨ Reached (fun before => Child.Fits store (earlier ++ before)) children (.node id)) := by
  induction children generalizing mid earlier with
  | nil => exact .inl ⟨eachFits_nil, ⟨_, rfl⟩, by rwa [List.append_nil]⟩
  | cons child rest ih =>
      have step := holds.adoptChild child
      rw [Store.adoptChildren]
      generalize mid.adoptChild child = attempt at step
      simp only [eachFits_cons_iff, reached_cons_iff, List.append_nil]
      obtain ⟨fits, ⟨id, ok⟩, now⟩ | ⟨refused, fault, same⟩ := step
      · obtain ⟨next, outcome⟩ := attempt
        cases ok
        have further := ih now
        simp only [List.append_assoc, List.singleton_append] at further
        dsimp only
        rcases further with ⟨each, ⟨ids, ok⟩, kept⟩ | ⟨refused, ⟨fault, failed⟩, kept⟩
        · refine .inl ⟨⟨fits, each⟩, ⟨id :: ids, by rw [ok]; rfl⟩, kept⟩
        · refine .inr ⟨fun both => refused both.2, ⟨fault, by rw [failed]; rfl⟩, kept.congr ?_⟩
          intro other
          simp [fits, or_assoc]
      · subst same
        refine .inr ⟨fun both => refused both.1, ⟨fault, rfl⟩, holds.toLoses.congr fun id => ?_⟩
        simp [refused]

-----------------------------------------------------------------------------------------
-- Attributes
-----------------------------------------------------------------------------------------

/-- What is given as an attribute is none, or a new one, or one that was made before. -/
theorem attributeEntry_cases (store : Store) (given : GivenAttribute)
    : (given.name? store = none ∧ ∃ fault, store.attributeEntry given = (store, .error fault))
      ∨ ∃ it, given.name? store = some it.name
        ∧ ((∀ id, given ≠ .node id) ∧ (∀ later, given.name? later = some it.name)
            ∧ store.attributeEntry given
              = ((store.addFree (.attributeLabel it)).1, .ok (store.entries.length, it))
          ∨ ∃ id, given = .node id ∧ store.attributeEntry given = (store, .ok (id, it))) := by
  cases given with
  | named name value =>
      rw [attributeEntry, GivenAttribute.name?]
      simp only [GivenAttribute.name?]
      cases namedAttribute name value with
      | error fault => exact .inl ⟨rfl, fault, rfl⟩
      | ok it => exact .inr ⟨it, rfl, .inl ⟨by simp, fun _ => rfl, rfl⟩⟩
  | node id =>
      rw [attributeEntry, GivenAttribute.name?, attributeName?]
      rcases store.get? id with _ | ⟨label, attachment, children, attributes⟩
      · exact .inl ⟨rfl, _, rfl⟩
      · cases label with
        | attributeLabel it => exact .inr ⟨it, rfl, .inr ⟨id, rfl, rfl⟩⟩
        | _ => exact .inl ⟨rfl, _, rfl⟩
  | other => exact .inl ⟨rfl, _, rfl⟩

/-- Taking a node that was just added. -/
theorem attach_add (store : Store) (label : Label)
    : (store.addFree label).1.attach .lost store.entries.length
      = (store.add ⟨label, .lost, [], []⟩).1 := by
  rw [attach, addFree, add, List.modify]
  exact congrArg Store.mk (List.modifyTailIdx_add _ 0 store.entries [_])

/-- What has a name among the nodes of a store has it later on. -/
theorem Loses.name?_eq {given : GivenAttribute} {name : ExpandedName}
    (loses : store.Loses later held) (named : given.name? store = some name)
    : given.name? later = some name := by
  cases given with
  | named => exact named
  | other => cases named
  | node id =>
      rw [GivenAttribute.name?, attributeName?] at named ⊢
      cases found : store.get? id with
      | none => simp [found] at named
      | some entry =>
          obtain ⟨attachment, there⟩ := loses.exists_get? found
          rw [found] at named
          rw [there]
          exact named

/-- An attribute can be no child. -/
theorem not_isChild {name : ExpandedName} (named : store.attributeName? id = some name)
    : ¬store.IsChild id := by
  rintro ⟨label, known, allowed⟩
  rw [attributeName?, known] at named
  cases label <;> simp_all [Label.isChild]

/-- The names that were seen are those of what was given before. -/
def SeenOf (store : Store) (earlier : List GivenAttribute) (seen : List ExpandedName) : Prop :=
  ∀ name, name ∈ seen ↔ ∃ given ∈ earlier, given.name? store = some name

section
variable {earlier : List GivenAttribute} {seen : List ExpandedName} {given : GivenAttribute}
  {it : Attribute} {next after : Store}

theorem SeenOf.fresh {name : ExpandedName} (seenOf : store.SeenOf earlier seen)
    (unseen : name ∉ seen)
    : ∀ first ∈ earlier, first.name? store ≠ some name :=
  fun first before same => unseen ((seenOf name).mpr ⟨first, before, same⟩)

/-- What fits has a name that was not seen. -/
theorem SeenOf.unseen {name : ExpandedName} (seenOf : store.SeenOf earlier seen)
    (loses : store.Loses mid held) (here : given.name? mid = some name)
    (fits : given.Fits store earlier)
    : name ∉ seen := by
  obtain ⟨_, known, fresh⟩ := fits.named
  cases here.symm.trans (loses.name?_eq known)
  intro member
  obtain ⟨first, before, same⟩ := (seenOf name).mp member
  exact fresh first before same

theorem SeenOf.concat {name : ExpandedName} (seenOf : store.SeenOf earlier seen)
    (known : given.name? store = some name)
    : store.SeenOf (earlier ++ [given]) (name :: seen) := by
  intro other
  rw [List.mem_cons, seenOf]
  simp only [List.mem_append, List.mem_singleton, or_and_right, exists_or, exists_eq_left, known,
    Option.some.injEq]
  rw [or_comm, eq_comm]

theorem adoptAttributes_redundant (made : mid.attributeEntry given = (next, .ok (id, it)))
    (member : it.name ∈ seen) (rest : List GivenAttribute)
    : mid.adoptAttributes seen (given :: rest)
      = (next, .error (.redundantAttribute (qualified it.qualifier it.name.localPart))) := by
  rw [Store.adoptAttributes, made]
  simp [member]

theorem adoptAttributes_failed (made : mid.attributeEntry given = (next, .ok (id, it)))
    (unseen : it.name ∉ seen) (found : next.get? id = some entry) {fault : ConstructionFault}
    (failed : next.adopt id entry = (after, .error fault)) (rest : List GivenAttribute)
    : mid.adoptAttributes seen (given :: rest) = (after, .error fault) := by
  rw [Store.adoptAttributes, made]
  simp [unseen, found, failed]

theorem adoptAttributes_taken (made : mid.attributeEntry given = (next, .ok (id, it)))
    (unseen : it.name ∉ seen) (found : next.get? id = some entry) {taken : Nat}
    (adopts : next.adopt id entry = (after, .ok taken)) (rest : List GivenAttribute)
    : mid.adoptAttributes seen (given :: rest)
      = ((after.adoptAttributes (it.name :: seen) rest).1,
        (after.adoptAttributes (it.name :: seen) rest).2.map (taken :: ·)) := by
  rw [Store.adoptAttributes, made]
  simp [unseen, found, adopts]

/-- A step over what is given as an attribute: it is taken if it fits after those before it, else
the call ends.
-/
inductive AttributeStep (store mid : Store) (base : Nat → Prop) (earlier : List GivenAttribute)
    (seen : List ExpandedName) (given : GivenAttribute) (rest : List GivenAttribute) : Prop
  | taken (name : ExpandedName) (id : Nat) (next : Store) (fits : given.Fits store earlier)
      (known : given.name? store = some name)
      (holds : store.Holds next fun id => base id ∨ .node id ∈ earlier ++ [given])
      (same : mid.adoptAttributes seen (given :: rest)
        = ((next.adoptAttributes (name :: seen) rest).1,
          (next.adoptAttributes (name :: seen) rest).2.map (id :: ·)))
  | refused (later : Store) (fault : ConstructionFault) (misfit : ¬given.Fits store earlier)
      (loses : store.Loses later fun id => base id ∨ .node id ∈ earlier)
      (same : mid.adoptAttributes seen (given :: rest) = (later, .error fault))

/-- A new attribute is made, and taken if its name was not seen. -/
theorem Holds.stepOverNew (holds : store.Holds mid fun id => base id ∨ .node id ∈ earlier)
    (seenOf : store.SeenOf earlier seen) (new : ∀ id, given ≠ .node id)
    (everywhere : ∀ later, given.name? later = some it.name)
    (made : mid.attributeEntry given
      = ((mid.addFree (.attributeLabel it)).1, .ok (mid.entries.length, it)))
    (rest : List GivenAttribute)
    : AttributeStep store mid base earlier seen given rest := by
  by_cases member : it.name ∈ seen
  · refine .refused _ _ (fun fits => ?_) ?_ (adoptAttributes_redundant made member rest)
    · exact seenOf.unseen holds.toLoses (everywhere mid) fits member
    · exact holds.toLoses.add _
  · have fits : given.Fits store earlier :=
      ⟨⟨_, everywhere store, seenOf.fresh member⟩, fun id same => absurd same (new id)⟩
    have found := mid.get?_add_self ⟨.attributeLabel it, .free, [], []⟩
    refine .taken it.name _ _ fits (everywhere store) ?_
      (adoptAttributes_taken made member found (by rw [Store.adopt, if_pos rfl]) rest)
    rw [attach_add]
    refine (holds.add (by simp)).congr fun id => ?_
    simp [(new id).symm]

/-- An attribute that was made before is taken if its name was not seen and it is free. -/
theorem Holds.stepOverNode (holds : store.Holds mid fun id => base id ∨ .node id ∈ earlier)
    (isChild : ∀ id, base id → store.IsChild id) (seenOf : store.SeenOf earlier seen)
    (here : (GivenAttribute.node id).name? mid = some it.name)
    (made : mid.attributeEntry (.node id) = (mid, .ok (id, it))) (rest : List GivenAttribute)
    : AttributeStep store mid base earlier seen (.node id) rest := by
  by_cases member : it.name ∈ seen
  · refine .refused _ _ (fun fits => ?_) holds.toLoses (adoptAttributes_redundant made member rest)
    exact seenOf.unseen holds.toLoses here fits member
  cases found : mid.get? id with
  | none => simp [GivenAttribute.name?, attributeName?, found] at here
  | some entry =>
      obtain ⟨free, ok, now⟩ | ⟨taken, fault, failed⟩ := holds.adopt found
      · obtain ⟨there, -⟩ := holds.of_free found free
        have known : (GivenAttribute.node id).name? store = some it.name := by
          rw [← here, GivenAttribute.name?, GivenAttribute.name?, attributeName?, attributeName?,
            there, found]
        have fits : (GivenAttribute.node id).Fits store earlier := by
          refine ⟨⟨_, known, seenOf.fresh member⟩, ?_⟩
          rintro _ ⟨⟩
          exact ⟨entry, there, free⟩
        refine .taken it.name id _ fits known (now.congr fun other => ?_)
          (adoptAttributes_taken made member found (Prod.ext rfl ok) rest)
        simp [or_assoc]
      · refine .refused mid fault (fun fits => ?_) holds.toLoses
          (adoptAttributes_failed made member found failed rest)
        obtain ⟨old, there, free⟩ := fits.free id rfl
        obtain ⟨name, known, fresh⟩ := fits.named
        have notHeld : ¬(base id ∨ .node id ∈ earlier) := by
          rintro (inBase | before)
          · exact not_isChild known (isChild id inBase)
          · exact fresh _ before known
        cases found.symm.trans (holds.kept there notHeld)
        exact taken free

theorem Holds.adoptAttribute (holds : store.Holds mid fun id => base id ∨ .node id ∈ earlier)
    (isChild : ∀ id, base id → store.IsChild id) (seenOf : store.SeenOf earlier seen)
    (given : GivenAttribute) (rest : List GivenAttribute)
    : AttributeStep store mid base earlier seen given rest := by
  obtain ⟨none, fault, failed⟩ | ⟨it, here, cases⟩ := attributeEntry_cases mid given
  · refine .refused mid fault (fun fits => ?_) holds.toLoses (by rw [Store.adoptAttributes, failed])
    obtain ⟨name, known, -⟩ := fits.named
    cases none.symm.trans (holds.name?_eq known)
  · obtain ⟨new, everywhere, made⟩ | ⟨id, rfl, made⟩ := cases
    · exact holds.stepOverNew seenOf new everywhere made rest
    · exact holds.stepOverNode isChild seenOf here made rest

/-- Attributes are taken as far as they are reached, by induction on them. -/
theorem Holds.adoptAttributes (holds : store.Holds mid fun id => base id ∨ .node id ∈ earlier)
    (isChild : ∀ id, base id → store.IsChild id) (seenOf : store.SeenOf earlier seen)
    (attributes : List GivenAttribute)
    : (EachFits (fun before => GivenAttribute.Fits store (earlier ++ before)) attributes
        ∧ ∃ ids, (mid.adoptAttributes seen attributes).2 = .ok ids)
      ∨ ¬EachFits (fun before => GivenAttribute.Fits store (earlier ++ before)) attributes
        ∧ (∃ fault, (mid.adoptAttributes seen attributes).2 = .error fault)
        ∧ store.Loses (mid.adoptAttributes seen attributes).1
          (fun id => (base id ∨ .node id ∈ earlier)
            ∨ Reached (fun before => GivenAttribute.Fits store (earlier ++ before)) attributes
              (.node id)) := by
  induction attributes generalizing mid earlier seen with
  | nil => exact .inl ⟨eachFits_nil, _, rfl⟩
  | cons given rest ih =>
      simp only [eachFits_cons_iff, reached_cons_iff, List.append_nil]
      cases holds.adoptAttribute isChild seenOf given rest with
      | refused later fault misfit loses same =>
          rw [same]
          refine .inr ⟨fun both => misfit both.1, ⟨fault, rfl⟩, loses.congr fun id => ?_⟩
          simp [misfit]
      | taken name id next fits known now same =>
          have further := ih now (seenOf.concat known)
          simp only [List.append_assoc, List.singleton_append] at further
          rw [same]
          obtain ⟨each, ids, ok⟩ | ⟨refused, ⟨fault, failed⟩, loses⟩ := further
          · exact .inl ⟨⟨fits, each⟩, id :: ids, by rw [ok]; rfl⟩
          · refine .inr ⟨fun both => refused both.2, ⟨fault, by rw [failed]; rfl⟩,
              loses.congr fun other => ?_⟩
            simp [fits, or_assoc]

end

-----------------------------------------------------------------------------------------
-- Calls
-----------------------------------------------------------------------------------------

theorem adoptChildren_cases (store : Store) (children : List Child)
    : (EachFits (Child.Fits store) children
        ∧ (∃ ids, (store.adoptChildren children).2 = .ok ids)
        ∧ store.Holds (store.adoptChildren children).1 (.node · ∈ children))
      ∨ ¬EachFits (Child.Fits store) children
        ∧ (∃ fault, (store.adoptChildren children).2 = .error fault)
        ∧ store.Loses (store.adoptChildren children).1
          (fun id => Reached (Child.Fits store) children (.node id)) := by
  have start : store.Holds store (.node · ∈ ([] : List Child)) := .refl store (by simp)
  simpa using start.adoptChildren children

theorem isChild_of_eachFits {children : List Child} (each : EachFits (Child.Fits store) children)
    (member : .node id ∈ children)
    : store.IsChild id := by
  obtain ⟨before, after, same⟩ := List.append_of_mem member
  obtain ⟨⟨entry, found, isChild, -⟩, -⟩ := each before _ after same
  exact ⟨entry.label, by rw [found]; rfl, isChild⟩

theorem makeDocument_loses {children : List Child} {fault : ConstructionFault}
    (failed : (store.makeDocument children).2 = .error fault)
    : store.Loses (store.makeDocument children).1
      (fun id => (Call.document children).Spends store id) := by
  have taken := adoptChildren_cases store children
  rw [makeDocument] at failed ⊢
  generalize store.adoptChildren children = attempt at failed taken ⊢
  obtain ⟨later, outcome⟩ := attempt
  rcases taken with ⟨-, ⟨ids, rfl⟩, -⟩ | ⟨-, ⟨other, rfl⟩, loses⟩
  · cases failed
  · exact loses

theorem makeElement_loses {localPart uri qualifier : Datum} {children : List Child}
    {declarations : GivenDeclarations} {attributes : List GivenAttribute}
    {fault : ConstructionFault}
    (failed : (store.makeElement localPart uri qualifier children declarations attributes).2
      = .error fault)
    : store.Loses (store.makeElement localPart uri qualifier children declarations attributes).1
      (fun id =>
        (Call.element localPart uri qualifier children declarations attributes).Spends
          store id) := by
  rw [makeElement] at failed ⊢
  simp only [Call.Spends]
  generalize Construction.head localPart uri qualifier [] = outcome at failed ⊢
  cases outcome with
  | error other => exact (Holds.refl store (by simp)).toLoses
  | ok head =>
      have taken := adoptChildren_cases store children
      dsimp only at failed ⊢
      generalize store.adoptChildren children = attempt at failed taken ⊢
      obtain ⟨mid, outcome⟩ := attempt
      rcases taken with ⟨each, ⟨ids, rfl⟩, holds⟩ | ⟨refused, ⟨other, rfl⟩, loses⟩
      · cases declarations with
        | other => exact holds.toLoses.congr fun id => by simp [each.reached_iff]
        | pairs entries =>
            have start : store.Holds mid
                fun id => .node id ∈ children ∨ .node id ∈ ([] : List GivenAttribute) :=
              holds.congr (by simp)
            have unseen : store.SeenOf [] [] := by simp [SeenOf]
            have further :=
              start.adoptAttributes (fun id => isChild_of_eachFits each) unseen attributes
            dsimp only [GivenDeclarations.entries?] at failed ⊢
            generalize mid.adoptAttributes [] attributes = attempt at failed further ⊢
            obtain ⟨later, outcome⟩ := attempt
            rcases further with ⟨-, more, rfl⟩ | ⟨-, ⟨other, rfl⟩, loses⟩
            · cases failed
            · refine loses.congr fun id => ?_
              simp [each, each.reached_iff]
      · exact loses.congr fun id => by simp [refused]

/-- A call that fails has lost the nodes that it took before the fault, and those only: any other
node is what it was.
-/
theorem perform_failed {call : Call} {fault : ConstructionFault}
    (failed : (call.perform store).2 = .error fault)
    : store.Loses (call.perform store).1 (fun id => call.Spends store id) := by
  cases call with
  | document children => exact makeDocument_loses failed
  | element localPart uri qualifier children declarations attributes =>
      exact makeElement_loses failed
  | leaf kind arguments =>
      rw [Call.perform, makeLeaf] at failed ⊢
      cases made : leafLabel kind arguments with
      | error other => exact (Holds.refl store (by simp [Call.Spends])).toLoses
      | ok label => simp [made] at failed

/-- A text that is given before something that is no child is lost, and one after it is free. -/
theorem perform_failed_texts
    : ∃ later, (Call.document [.node 0, .other .null, .node 1]).perform
          ⟨[⟨.text "x", .free, [], []⟩, ⟨.text "y", .free, [], []⟩]⟩ = (later, .error (.noChild "None"))
        ∧ later.get? 0 = some ⟨.text "x", .lost, [], []⟩
        ∧ later.get? 1 = some ⟨.text "y", .free, [], []⟩ := by
  refine ⟨_, rfl, ?_⟩
  have failed : ((Call.document [.node 0, .other .null, .node 1]).perform
      ⟨[⟨.text "x", .free, [], []⟩, ⟨.text "y", .free, [], []⟩]⟩).2 = .error (.noChild "None") := rfl
  have loses := perform_failed failed
  constructor
  · have found : Store.get? ⟨[⟨.text "x", .free, [], []⟩, ⟨.text "y", .free, [], []⟩]⟩ 0
        = some ⟨.text "x", .free, [], []⟩ := rfl
    refine loses.lost found ?_
    rw [Call.Spends, reached_cons_iff]
    exact ⟨⟨⟨_, found, rfl, rfl⟩, List.not_mem_nil⟩, .inl rfl⟩
  · refine loses.kept rfl ?_
    rw [Call.Spends, reached_cons_iff, reached_cons_iff]
    simp [Child.Fits]

/-- A failed call takes a free text away, which no later call can use although it is in no node. -/
theorem perform_takesText
    : (Call.element (.text "e") .null .null [.node 0, .other (.integer 0)] (.pairs []) []).perform
          ⟨[⟨.text "x", .free, [], []⟩]⟩
        = (⟨[⟨.text "x", .lost, [], []⟩]⟩, .error (.noChild "0"))
      ∧ Store.parent? ⟨[⟨.text "x", .lost, [], []⟩]⟩ 0 = none
      ∧ ((Call.element (.text "f") .null .null [.node 0] (.pairs []) []).perform
          ⟨[⟨.text "x", .lost, [], []⟩]⟩).2
        = .error (.alreadyAttached (describeText "x")) := by
  exact ⟨rfl, rfl, rfl⟩

end Store

end PathQuery
