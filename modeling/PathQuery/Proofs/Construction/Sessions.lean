import PathQuery.Proofs.Construction.Trees

/-! Namespace nodes in the course of a session. An element keeps the namespace nodes that it gave
first, so that they stand for its scope at that time; they stand for its present scope if it still
is in the nodes that it was in then.
-/

namespace PathQuery

namespace Store

variable {store mid later : Store} {entry : Entry} {id : Nat} {head : Head} {ancestors : List Nat}

-----------------------------------------------------------------------------------------
-- What calls leave as it is
-----------------------------------------------------------------------------------------

/-- Nodes of the store still contain in a later one what they contained. -/
def Retains (store later : Store) : Prop :=
  ∀ id entry, store.get? id = some entry →
    ∃ attachment, later.get? id = some { entry with attachment }

namespace Retains

theorem refl (store : Store) : store.Retains store :=
  fun _ _ found => ⟨_, found⟩

theorem trans (first : store.Retains mid) (second : mid.Retains later) : store.Retains later := by
  intro id entry found
  obtain ⟨attachment, there⟩ := first id entry found
  obtain ⟨further, last⟩ := second id _ there
  exact ⟨further, last⟩

theorem remembers (retains : store.Retains later) : store.Remembers later := by
  intro id entry found
  obtain ⟨attachment, there⟩ := retains id entry found
  rw [there]
  rfl

end Retains

theorem Leads.retains (leads : store.Leads later) : store.Retains later := by
  intro id entry found
  obtain ⟨attachment, there, -⟩ := leads.kept found
  exact ⟨attachment, there⟩

theorem retains_complete (store : Store) (label : Label) (children attributes : List Nat)
    : store.Retains (store.complete label children attributes).1 := by
  intro id entry found
  rw [get?_complete_of_ne (Nat.ne_of_lt (lt_of_get? found)), found, Option.map_some]
  split
  · exact ⟨_, rfl⟩
  · exact ⟨_, rfl⟩

/-- Whether it makes its node or fails, a call changes at most which node a made one is in. -/
theorem Course.retains (course : store.Course later) : store.Retains later := by
  cases course with
  | stops leads => exact leads.retains
  | completes leads => exact leads.retains.trans (retains_complete _ _ _ _)

theorem Retains.attributeOf?_eq (retains : store.Retains later) (found : store.get? id = some entry)
    : later.attributeOf? id = store.attributeOf? id := by
  rw [attributeOf?, attributeOf?, retains.remembers id entry found, found]
  rfl

/-- Made elements stay what they are. -/
theorem Retains.head?_eq (retains : store.Retains later) (sound : store.Sound)
    (found : store.get? id = some entry)
    : later.head? id = store.head? id := by
  obtain ⟨attachment, there⟩ := retains id entry found
  have attributes : entry.attributes.filterMap later.attributeOf?
      = entry.attributes.filterMap store.attributeOf? := by
    obtain ⟨names, named, -⟩ := (sound.proper found).attributes
    refine List.filterMap_congr fun it member => ?_
    have known : store.attributeName? it ∈ names.map some := named ▸ List.mem_map_of_mem member
    cases present : store.get? it with
    | none => simp [attributeName?, present] at known
    | some part => exact retains.attributeOf?_eq present
  obtain ⟨label, _, children, given⟩ := entry
  have attributes : given.filterMap later.attributeOf? = given.filterMap store.attributeOf? :=
    attributes
  rw [head?, head?, found, there]
  cases label with
  | element own => simp only [attributes]
  | document | attributeLabel | binding | text | comment | instruction => rfl

theorem Sound.exists_ancestor (sound : store.Sound) (climbs : store.Climbs id ancestors)
    {above : Nat} (member : above ∈ ancestors)
    : ∃ entry, store.get? above = some entry := by
  induction climbs with
  | top => cases member
  | up inside _ ih =>
      obtain rfl | further := List.mem_cons.mp member
      · obtain ⟨entry, found, -⟩ := (sound.contains_iff _ _).mpr inside
        exact ⟨entry, found⟩
      · exact ih further

/-- The elements on the way up from an element stay the same with the way itself. -/
theorem Retains.upwards_eq (retains : store.Retains later) (sound : store.Sound)
    (climbs : store.Climbs id ancestors) (isElement : store.head? id = some head)
    : (id :: ancestors).filterMap later.head? = (id :: ancestors).filterMap store.head? := by
  refine List.filterMap_congr fun it member => ?_
  obtain rfl | further := List.mem_cons.mp member
  · obtain ⟨entry, -, found, -⟩ := exists_of_head? isElement
    exact retains.head?_eq sound found
  · obtain ⟨entry, found⟩ := sound.exists_ancestor climbs further
    exact retains.head?_eq sound found

end Store

namespace Session

variable {session : Session} {actions : List Action} {id : Nat} {head : Head}
  {entries : List (String × String)}

-----------------------------------------------------------------------------------------
-- Sessions
-----------------------------------------------------------------------------------------

theorem after_append (session : Session) (actions more : List Action)
    : session.after (actions ++ more) = (session.after actions).after more :=
  List.foldl_append ..

theorem after_concat (session : Session) (actions : List Action) (action : Action)
    : session.after (actions ++ [action]) = (session.after actions).perform action :=
  after_append session actions [action]

theorem ask_of_kept (isElement : session.store.head? id = some head)
    (kept : session.kept.lookup id = some entries)
    : session.ask id = (session, some entries) := by
  rw [ask, isElement, kept]

theorem ask_of_not_kept (isElement : session.store.head? id = some head)
    (notKept : session.kept.lookup id = none)
    : session.ask id = (⟨session.store, (id, session.store.bindings id) :: session.kept⟩,
        some (session.store.bindings id)) := by
  rw [ask, isElement, notKept]

theorem ask_of_no_element (noElement : session.store.head? id = none)
    : session.ask id = (session, none) := by
  rw [ask, noElement]

/-- To ask for namespace nodes makes no others. -/
theorem store_ask (session : Session) (id : Nat) : (session.ask id).1.store = session.store := by
  rw [ask]
  split <;> rfl

theorem perform_course (session : Session) (action : Action)
    : session.store.Course (session.perform action).store := by
  cases action with
  | call it => exact Store.perform_course session.store it
  | ask id =>
      rw [perform, store_ask]
      exact .stops (.refl _)

/-- At most, an action adds what an element gives that is asked for the first time. -/
theorem perform_kept (session : Session) (action : Action)
    : (session.perform action).kept = session.kept
      ∨ ∃ id head, action = .ask id ∧ session.store.head? id = some head
        ∧ session.kept.lookup id = none
        ∧ (session.perform action).kept = (id, session.store.bindings id) :: session.kept := by
  cases action with
  | call it => exact .inl rfl
  | ask id =>
      rw [perform]
      cases isElement : session.store.head? id with
      | none => exact .inl (by rw [ask_of_no_element isElement])
      | some head =>
          cases found : session.kept.lookup id with
          | some entries => exact .inl (by rw [ask_of_kept isElement found])
          | none =>
              exact .inr ⟨id, head, rfl, isElement, found, by rw [ask_of_not_kept isElement found]⟩

/-- What was kept by then, an action leaves as it is. -/
theorem kept_perform (kept : session.kept.lookup id = some entries) (action : Action)
    : (session.perform action).kept.lookup id = some entries := by
  obtain same | ⟨other, _, -, -, notKept, added⟩ := session.perform_kept action
  · rwa [same]
  · have apart : id ≠ other := by
      rintro rfl
      cases notKept.symm.trans kept
    rw [added, lookup_cons_eq_ite, if_neg (by simpa using apart)]
    exact kept

theorem kept_after (kept : session.kept.lookup id = some entries) (actions : List Action)
    : (session.after actions).kept.lookup id = some entries := by
  induction actions generalizing session with
  | nil => exact kept
  | cons action rest ih => exact ih (kept_perform kept action)

theorem sound_after (sound : session.store.Sound) (actions : List Action)
    : (session.after actions).store.Sound := by
  induction actions generalizing session with
  | nil => exact sound
  | cons action rest ih => exact ih (sound.of_course (session.perform_course action))

theorem retains_after (session : Session) (actions : List Action)
    : session.store.Retains (session.after actions).store := by
  induction actions generalizing session with
  | nil => exact .refl _
  | cons action rest ih =>
      exact (session.perform_course action).retains.trans (ih (session.perform action))

-----------------------------------------------------------------------------------------
-- First requests
-----------------------------------------------------------------------------------------

/-- What an element keeps was made when it was asked for it, by induction on the actions, the last
one first.
-/
theorem exists_ask_of_kept (kept : (start.after actions).kept.lookup id = some entries)
    : ∃ earlier rest, actions = earlier ++ .ask id :: rest
      ∧ (start.after earlier).kept.lookup id = none
      ∧ (∃ head, (start.after earlier).store.head? id = some head)
      ∧ entries = (start.after earlier).store.bindings id := by
  induction actions using List.reverseRecOn with
  | nil => cases kept
  | append_singleton actions action ih =>
      rw [after_concat] at kept
      cases before : (start.after actions).kept.lookup id with
      | some others =>
          cases (kept_perform before action).symm.trans kept
          obtain ⟨earlier, rest, rfl, notKept, known, same⟩ := ih before
          exact ⟨earlier, rest ++ [action], by simp, notKept, known, same⟩
      | none =>
          obtain same | ⟨other, head, rfl, isElement, -, added⟩ := perform_kept _ action
          · rw [same] at kept
            cases before.symm.trans kept
          · rw [added, lookup_cons_eq_ite] at kept
            split at kept
            case isTrue same =>
                obtain rfl : id = other := by simpa using same
                cases kept
                exact ⟨actions, [], rfl, before, ⟨head, isElement⟩, rfl⟩
            case isFalse => cases before.symm.trans kept

/-- The actions before an element has given its namespace nodes: those up to the first request for
them, or all actions if there is none.
-/
structure Preceding (id : Nat) (actions earlier : List Action) : Prop where
  split : actions = earlier ∨ ∃ rest, actions = earlier ++ .ask id :: rest
  notKept : (start.after earlier).kept.lookup id = none

/-- The namespace nodes that an element gives are those that it has made at the first request. -/
theorem exists_preceding (isElement : (start.after actions).store.head? id = some head)
    : ∃ earlier, Preceding id actions earlier
      ∧ (∃ own, (start.after earlier).store.head? id = some own)
      ∧ ((start.after actions).ask id).2 = some ((start.after earlier).store.bindings id) := by
  cases kept : (start.after actions).kept.lookup id with
  | none =>
      refine ⟨actions, ⟨.inl rfl, kept⟩, ⟨head, isElement⟩, ?_⟩
      rw [ask_of_not_kept isElement kept]
  | some entries =>
      obtain ⟨earlier, rest, split, notKept, known, rfl⟩ := exists_ask_of_kept kept
      exact ⟨earlier, ⟨.inr ⟨rest, split⟩, notKept⟩, known, by rw [ask_of_kept isElement kept]⟩

theorem Preceding.retains {earlier : List Action} (preceding : Preceding id actions earlier)
    : (start.after earlier).store.Retains (start.after actions).store := by
  obtain rfl | ⟨rest, rfl⟩ := preceding.split
  · exact .refl _
  · rw [after_append]
    exact retains_after _ _

theorem sound_start (actions : List Action) : (start.after actions).store.Sound :=
  sound_after Store.sound_empty actions

/-- Elements stay elements. -/
theorem head?_after (isElement : (start.after actions).store.head? id = some head)
    (more : List Action)
    : (start.after (actions ++ more)).store.head? id = some head := by
  obtain ⟨entry, -, found, -⟩ := Store.exists_of_head? isElement
  rw [after_append, (retains_after _ more).head?_eq (sound_start actions) found, isElement]

/-- An element gives the same namespace nodes again, whatever is done in between. -/
theorem ask_again (isElement : (start.after actions).store.head? id = some head)
    (given : ((start.after actions).ask id).2 = some entries) (more : List Action)
    : ((start.after (actions ++ .ask id :: more)).ask id).2 = some entries := by
  have kept : ((start.after actions).ask id).1.kept.lookup id = some entries := by
    cases found : (start.after actions).kept.lookup id with
    | some others =>
        rw [ask_of_kept isElement found] at given ⊢
        cases given
        exact found
    | none =>
        rw [ask_of_not_kept isElement found] at given ⊢
        cases given
        exact List.lookup_cons_self
  have still : (start.after (actions ++ .ask id :: more)).kept.lookup id = some entries := by
    rw [after_append]
    exact kept_after kept more
  rw [ask_of_kept (head?_after isElement _) still]

-----------------------------------------------------------------------------------------
-- Namespaces and the nodes that stand for them
-----------------------------------------------------------------------------------------

/-- Whatever was made and asked for in a session: the qualifiers in scope of an element stand for the
nearest declarations. It gives one namespace node for each namespace that was in scope when it was
asked for the first time, and gives the same nodes ever after; so there is one for each namespace in
scope if the nodes that the element is in are those that it was in then.
-/
theorem namespaces_standFor (actions : List Action) {id : Nat} {head : Head}
    (isElement : (start.after actions).store.head? id = some head)
    : ∃ ancestors, (start.after actions).store.Climbs id ancestors
      ∧ (start.after actions).store.InScope id head ancestors
      ∧ ∃ earlier entries, Preceding id actions earlier
        ∧ ((start.after actions).ask id).2 = some entries
        ∧ (start.after earlier).store.NodesFor id entries
        ∧ ((start.after earlier).store.Climbs id ancestors →
          (start.after actions).store.NodesFor id entries)
        ∧ ∀ more, ((start.after (actions ++ .ask id :: more)).ask id).2 = some entries := by
  have sound := sound_start actions
  obtain ⟨ancestors, climbs⟩ := sound.exists_climbs id
  obtain ⟨earlier, preceding, ⟨own, wasElement⟩, given⟩ := exists_preceding isElement
  have before := sound_start earlier
  refine ⟨ancestors, climbs, sound.inScope climbs isElement, earlier, _, preceding, given,
    before.nodesFor wasElement, fun same => ?_, ask_again isElement given⟩
  have scope : (start.after earlier).store.scope id = (start.after actions).store.scope id := by
    rw [before.scope_eq same wasElement, sound.scope_eq climbs isElement,
      preceding.retains.upwards_eq before same wasElement]
  rw [Store.bindings_eq, scope, ← Store.bindings_eq]
  exact sound.nodesFor isElement

/-- A search in one tree that puts up with undeclared qualifiers. -/
def lenientIn (top : Top) (node : Node) : Context :=
  { forest := [top], stamp := 7, node, position := 1, size := 1, bindings := .initial,
    values := [], options := ⟨false⟩ }

/-- An element is put into another one, asked for its namespace nodes and gets a third one around it.
It declares a qualifier again, and the element in between does away with the default namespace.
-/
def nesting : List Action :=
  [.call (.element (.text "c") (.text "v") (.text "p") [] (.pairs [("p", "v")]) []),
    .call (.element (.text "b") .null .null [.node 0] (.pairs [("", ""), ("q", "w")]) []), .ask 0,
    .call (.element (.text "a") (.text "d") .null [.node 1] (.pairs [("", "d"), ("p", "u")]) [])]

theorem namespaces_standFor_nesting
    : ∃ head top, (start.after nesting).store.head? 0 = some head
      ∧ (start.after nesting).store.Climbs 0 [1, 2]
      ∧ ("q", "w") ∈ (start.after nesting).store.scope 0
      ∧ (∀ uri, ("", uri) ∉ (start.after nesting).store.scope 0)
      ∧ (start.after nesting).store.top? 2 = some top
      ∧ (NodeTest.name (some "p") "c").holds (lenientIn top ⟨0, .inner [0, 0]⟩) .element
        ⟨0, .inner [0, 0]⟩ = .ok true
      ∧ ∃ entries, ((start.after nesting).ask 0).2 = some entries
        ∧ entries.Pairwise fun left right => left.1 < right.1 := by
  have isElement : (start.after nesting).store.head? 0
      = some ⟨⟨some "v", "c"⟩, some "p", [], [("p", "v")]⟩ := rfl
  obtain ⟨ancestors, climbs, inScope, earlier, entries, -, given, nodes, -⟩ :=
    namespaces_standFor nesting isElement
  have upwards : (start.after nesting).store.Climbs 0 [1, 2] := .up rfl (.up rfl (.top rfl))
  obtain rfl := climbs.unique upwards
  have heads : [0, 1, 2].filterMap (start.after nesting).store.head?
      = [⟨⟨some "v", "c"⟩, some "p", [], [("p", "v")]⟩,
        ⟨⟨none, "b"⟩, none, [], [("", ""), ("q", "w")]⟩,
        ⟨⟨some "d", "a"⟩, none, [], [("", "d"), ("p", "u")]⟩] := rfl
  have made : ∃ top, (start.after nesting).store.top? 2 = some top
      ∧ (start.after nesting).store.place 0 = (2, [0, 0]) := ⟨_, by cbv, by cbv⟩
  obtain ⟨top, made, place⟩ := made
  refine ⟨_, top, isElement, climbs, ?_, fun uri member => ?_, made, ?_, entries, given,
    nodes.increasing⟩
  · refine (inScope.mem_iff "q" "w").mpr (.inl ⟨?_, by simp⟩)
    rw [heads]
    simp [declaredNearest_cons_iff, Head.Declares]
  · obtain ⟨nearest, filled⟩ | ⟨isXml, -⟩ := (inScope.mem_iff "" uri).mp member
    · rw [heads] at nearest
      refine filled rfl ?_
      simpa [declaredNearest_cons_iff, Head.Declares] using nearest
    · exact absurd isXml (by decide)
  · have isShown : (start.after nesting).store.Shows
        (lenientIn top ⟨0, .inner [0, 0]⟩).forest ⟨0, .inner [0, 0]⟩ 0 :=
      ⟨top, rfl, by rw [place, made], by rw [place]⟩
    have binds : Bindings.ofDeclarations? [] = .ok .initial := rfl
    have unbound : ¬Bindings.initial.contains "p" := by decide
    obtain ⟨-, holds_iff⟩ := inScope.holds_iff isShown "c" binds rfl (by decide) unbound
    refine holds_iff.mpr ⟨rfl, "v", ?_, rfl⟩
    rw [heads]
    simp [declaredNearest_cons_iff]

/-- An element is asked for its namespace nodes before it is put into one with a declaration. -/
def askingFirst : List Action :=
  [.call (.element (.text "b") .null .null [] (.pairs []) []), .ask 0,
    .call (.element (.text "a") .null .null [.node 0] (.pairs [("p", "http://u")]) [])]

/-- An element without namespace declares a qualifier to stand for the empty one. -/
def declaringEmpty : List Action :=
  [.call (.element (.text "a") (.text "") .null [] (.pairs [("p", "")]) [])]

/-- The namespace nodes that an element made by itself do not stand for the declarations of the element
that it is put into later. And an element without namespace is not found by a qualifier that it
declares to stand for the empty one.
-/
theorem ask_outdated
    : ((start.after askingFirst).store.Climbs 0 [1]
        ∧ (start.after askingFirst).store.scope 0 = [("xml", xmlUri), ("p", "http://u")]
        ∧ ((start.after askingFirst).ask 0).2 = some [("xml", xmlUri)])
      ∧ (start.after declaringEmpty).store.scope 0 = [("xml", xmlUri), ("p", "")]
        ∧ ∃ top, (start.after declaringEmpty).store.top? 0 = some top
          ∧ (NodeTest.name (some "p") "a").holds (lenientIn top ⟨0, .inner []⟩) .element
            ⟨0, .inner []⟩ = .ok false :=
  ⟨⟨.up rfl (.top rfl), by cbv, by cbv⟩, by cbv, _, by cbv, by cbv⟩

end Session

end PathQuery
