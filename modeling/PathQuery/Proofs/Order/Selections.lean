import PathQuery.Proofs.Evaluation.Totality
import PathQuery.Proofs.Tree.Scope

/-! Sets taken from a set by slices and conditions, one after another. No node gets lost between two
others that stay, so that forward slices and conditions keep document order. A slice that runs
backwards turns the order around, and a second one turns it back.
-/

namespace PathQuery

-----------------------------------------------------------------------------------------
-- Indexes of slices
-----------------------------------------------------------------------------------------

namespace Slice

variable {start stop step : Int} {count length : Nat}

/-- The distance from one index to the next. -/
def stride (slice : Slice) : Int :=
  slice.step.getD 1

theorem indexesFrom_pairwise_lt (begins : 0 ≤ start) (forwards : 0 < step) (count : Nat)
    : (indexesFrom start step count).Pairwise (· < ·) := by
  rw [indexesFrom, List.pairwise_map]
  refine List.pairwise_lt_range.imp ?_
  intro left right before
  have apart : (left : Int) * step < right * step :=
    Int.mul_lt_mul_of_pos_right (Int.ofNat_lt.mpr before) forwards
  have kept : 0 ≤ (left : Int) * step := Int.mul_nonneg (Int.natCast_nonneg left) forwards.le
  omega

/-- Backward indexes fall as long as they stay above the end. -/
theorem indexesFrom_pairwise_gt (backwards : step < 0)
    (above : ∀ index < count, 0 ≤ start + index * step)
    : (indexesFrom start step count).Pairwise (· > ·) := by
  rw [indexesFrom, List.pairwise_map]
  refine List.pairwise_lt_range.imp_of_mem ?_
  intro left right _ member before
  have apart : (right : Int) * step < left * step :=
    Int.mul_lt_mul_of_neg_right (Int.ofNat_lt.mpr before) backwards
  have kept := above right (List.mem_range.mp member)
  omega

theorem le_clamp {least greatest : Int} (ordered : least ≤ greatest) (index : Int)
    : least ≤ clamp length least greatest index := by
  dsimp only [clamp]
  split_ifs <;> omega

/-- A backward slice stops before it leaves the list. -/
theorem le_of_lt_count {index : Nat} (backwards : step < 0)
    (inside : index < ((start - stop - step - 1) / (-step)).toNat)
    : stop + 1 ≤ start + index * step := by
  have positive : 0 < -step := by omega
  have bound : (index : Int) + 1 ≤ (start - stop - step - 1) / (-step) := by omega
  have steps := (Int.le_ediv_iff_mul_le positive).mp bound
  rw [Int.add_mul, Int.mul_neg] at steps
  omega

/-- The indexes of a forward slice rise. -/
theorem exists_rising_indexes {slice : Slice} (forwards : 0 < slice.stride) (length : Nat)
    : ∃ indexes, slice.indexes? length = some indexes ∧ indexes.Pairwise (· < ·) := by
  rw [stride] at forwards
  rw [indexes?, if_neg (by omega), if_pos forwards]
  refine ⟨_, rfl, indexesFrom_pairwise_lt ?_ forwards _⟩
  cases slice.start with
  | none => exact le_refl _
  | some start => exact le_clamp (Int.natCast_nonneg length) start

/-- The indexes of a backward slice fall. -/
theorem exists_falling_indexes {slice : Slice} (backwards : slice.stride < 0) (length : Nat)
    : ∃ indexes, slice.indexes? length = some indexes ∧ indexes.Pairwise (· > ·) := by
  rw [stride] at backwards
  rw [indexes?, if_neg (by omega), if_neg (by omega)]
  refine ⟨_, rfl, indexesFrom_pairwise_gt backwards ?_⟩
  intro index inside
  have stays := le_of_lt_count backwards inside
  have bound : -1 ≤ (slice.stop.map (clamp length (-1) (length - 1))).getD (-1) := by
    cases slice.stop with
    | none => exact le_refl _
    | some stop => exact le_clamp (by omega) stop
  omega

end Slice

-----------------------------------------------------------------------------------------
-- What stands at some indexes
-----------------------------------------------------------------------------------------

/-- What stands at rising indexes from a bound on is taken from a list in order. -/
theorem filterMap_getElem?_sublist_drop {α : Type} (items : List α) {indexes : List Nat}
    (rising : indexes.Pairwise (· < ·)) (bound : Nat) (above : ∀ index ∈ indexes, bound ≤ index)
    : (indexes.filterMap (items[·]?)).Sublist (items.drop bound) := by
  induction indexes generalizing bound with
  | nil => exact List.nil_sublist _
  | cons first rest ih =>
      rw [List.pairwise_cons] at rising
      have later := ih rising.2 (first + 1) rising.1
      have start : bound ≤ first := above first List.mem_cons_self
      refine .trans ?_ (List.drop_sublist_drop_left items start)
      rw [List.filterMap_cons, List.drop_eq_getElem?_toList_append]
      cases items[first]? with
      | none => exact later
      | some item => exact later.cons_cons item

/-- What stands at rising indexes is taken from a list in order. -/
theorem filterMap_getElem?_sublist {α : Type} (items : List α) {indexes : List Nat}
    (rising : indexes.Pairwise (· < ·))
    : (indexes.filterMap (items[·]?)).Sublist items :=
  filterMap_getElem?_sublist_drop items rising 0 (fun index _ => Nat.zero_le index)

-----------------------------------------------------------------------------------------
-- Selections
-----------------------------------------------------------------------------------------

/-- A way to take nodes from a set: those at the indexes of a slice, or those that all of some
conditions hold of.
-/
inductive Selection where
  | slice (it : Slice)
  | filter (conditions : List (Node → Bool))

namespace Selection

/-- A selection that takes something: only a slice with a step of zero does not. -/
def IsProper : Selection → Prop
  | .slice it => it.stride ≠ 0
  | .filter _ => True

/-- Whether the nodes are met from the last one on. -/
def runsBackwards : Selection → Bool
  | .slice it => it.stride < 0
  | .filter _ => false

/-- Whether an odd number of selections run backwards. -/
def turn (selections : List Selection) : Bool :=
  selections.countP runsBackwards % 2 = 1

theorem turn_cons (selection : Selection) (rest : List Selection)
    : turn (selection :: rest) = (turn rest ^^ selection.runsBackwards) := by
  rw [turn, turn, List.countP_cons]
  cases selection.runsBackwards with
  | false => simp
  | true => cases Nat.mod_two_eq_zero_or_one (rest.countP runsBackwards) <;> simp_all <;> omega

end Selection

namespace NodeSet

/-- The set with its nodes the other way around. -/
def reverse (set : NodeSet) : NodeSet :=
  ⟨set.items.reverse⟩

/-- The set that a selection takes. -/
def select? (set : NodeSet) : Selection → Option NodeSet
  | .slice it => set.slice? it
  | .filter conditions => some (set.filter fun node => conditions.all (· node))

/-- The set that is left of a set after several selections. -/
def selectAll? (set : NodeSet) : List Selection → Option NodeSet
  | [] => some set
  | selection :: rest => (set.select? selection).bind (·.selectAll? rest)

/-- A set that runs forwards or backwards. -/
def turned (set : NodeSet) (backwards : Bool) : NodeSet :=
  if backwards then set.reverse else set

variable {set : NodeSet}

theorem turned_turned (set : NodeSet) (first second : Bool)
    : (set.turned first).turned second = set.turned (first ^^ second) := by
  cases first <;> cases second <;> simp [turned, reverse]

/-- Turning two sets around keeps that one is taken from the other in order. -/
theorem turned_sublist {fewer : NodeSet} (contained : fewer.items.Sublist set.items)
    (backwards : Bool)
    : (fewer.turned backwards).items.Sublist (set.turned backwards).items := by
  cases backwards with
  | false => exact contained
  | true => exact contained.reverse

/-- A selection takes nodes in order, from the end if it runs backwards. -/
theorem exists_select {selection : Selection} (proper : selection.IsProper) (set : NodeSet)
    : ∃ result, set.select? selection = some result
      ∧ (result.turned selection.runsBackwards).items.Sublist set.items := by
  cases selection with
  | filter conditions => exact ⟨_, rfl, List.filter_sublist⟩
  | slice it =>
      rw [select?, slice?]
      rcases lt_or_gt_of_ne proper with backwards | forwards
      · obtain ⟨indexes, given, falling⟩ := Slice.exists_falling_indexes backwards set.size
        refine ⟨_, by rw [given]; rfl, ?_⟩
        have taken := filterMap_getElem?_sublist set.items (List.pairwise_reverse.mpr falling)
        rw [List.filterMap_reverse] at taken
        simpa [Selection.runsBackwards, backwards, turned, reverse] using taken
      · obtain ⟨indexes, given, rising⟩ := Slice.exists_rising_indexes forwards set.size
        refine ⟨_, by rw [given]; rfl, ?_⟩
        have taken := filterMap_getElem?_sublist set.items rising
        simpa [Selection.runsBackwards, not_lt.mpr forwards.le, turned] using taken

/-- Several selections take nodes in order, from the end if an odd number of them runs backwards, by
induction on the selections.
-/
theorem exists_selectAll {selections : List Selection}
    (proper : ∀ selection ∈ selections, selection.IsProper) (set : NodeSet)
    : ∃ result, set.selectAll? selections = some result
      ∧ (result.turned (Selection.turn selections)).items.Sublist set.items := by
  induction selections generalizing set with
  | nil => exact ⟨set, rfl, .refl _⟩
  | cons selection rest ih =>
      rw [List.forall_mem_cons] at proper
      obtain ⟨middle, first, taken⟩ := exists_select proper.1 set
      obtain ⟨result, others, more⟩ := ih proper.2 middle
      refine ⟨result, by rw [selectAll?, first]; exact others, ?_⟩
      have both := (turned_sublist more selection.runsBackwards).trans taken
      rwa [turned_turned, ← Selection.turn_cons] at both

-----------------------------------------------------------------------------------------
-- Sets in document order
-----------------------------------------------------------------------------------------

/-- A set in document order, which begins with the first of its nodes and ends with the last one. -/
structure IsOrdered (set : NodeSet) (forest : Forest) (stamps : Nat → Prop) : Prop where
  isSet : forest.IsSet stamps set.items
  first_precedes {first : Node} (begins : set.first? = some first)
    : ∀ node ∈ set.items, node = first ∨ first.Precedes node
  precedes_last {last : Node} (ends : set.last? = some last)
    : ∀ node ∈ set.items, node = last ∨ node.Precedes last

theorem isOrdered_of_isSet {forest : Forest} {stamps : Nat → Prop}
    (isSet : forest.IsSet stamps set.items)
    : set.IsOrdered forest stamps := by
  refine ⟨isSet, ?_, ?_⟩
  · intro first begins node member
    obtain ⟨rest, items_eq⟩ := List.head?_eq_some_iff.mp begins
    have ordered := isSet.ordered
    rw [items_eq] at ordered member
    rcases List.mem_cons.mp member with same | later
    · exact .inl same
    · exact .inr ((List.pairwise_cons.mp ordered).1 node later)
  · intro last ends node member
    obtain ⟨before, items_eq⟩ := List.getLast?_eq_some_iff.mp ends
    have ordered := isSet.ordered
    rw [items_eq] at ordered member
    rcases List.mem_append.mp member with earlier | same
    · have apart := (List.pairwise_append.mp ordered).2.2
      exact .inr (apart node earlier last (List.mem_singleton_self last))
    · exact .inl (List.mem_singleton.mp same)

end NodeSet

-----------------------------------------------------------------------------------------
-- Queries for variables
-----------------------------------------------------------------------------------------

namespace Query

variable {library : Library} {forest : Forest} {query : Query} {set : NodeSet}

/-- An accepted query for a variable that its caller binds to a node-set. -/
structure AsksFor (query : Query) (library : Library) (forest : Forest) (set : NodeSet) : Prop where
  isReference : ∃ source expression name entries, query.expression = .text source
    ∧ Expression.ofText library.arityOf source = .ok expression
    ∧ expression.root = .reference name
    ∧ query.values = .mapping entries
    ∧ entries.lookup (some name) = some (.nodes set)
  accepted : ∃ around, surroundings forest query = .ok around

/-- A variable has the value of its datum, by induction on the mapping. -/
theorem find?_valuesOfEntries {entries : List (Option String × Datum)}
    {values : List (String × Value)} {name : String}
    (checked : valuesOfEntries forest entries = .ok values)
    (bound : entries.lookup (some name) = some (.nodes set))
    : values.find? (·.1 == name) = some (name, .nodes set) := by
  induction entries generalizing values with
  | nil => cases bound
  | cons entry rest ih =>
      obtain ⟨key, datum⟩ := entry
      rw [valuesOfEntries] at checked
      split at checked
      case h_1 => cases checked
      case h_2 value isValue =>
          obtain ⟨others, more, same⟩ := bind_eq_ok.mp checked
          cases same
          rw [lookup_cons_eq_ite] at bound
          by_cases here : key = some name
          · subst here
            simp only [beq_self_eq_true, if_true, Option.some.injEq] at bound
            subst bound
            cases isValue
            simp
          · have later : rest.lookup (some name) = some (.nodes set) := by
              simpa [Ne.symm here] using bound
            cases key with
            | none => exact ih more later
            | some other =>
                have apart : other ≠ name := fun same => here (congrArg some same)
                simpa [apart] using ih more later

/-- The value of such a query is the node-set as it is. -/
theorem AsksFor.evaluate_eq (asks : query.AsksFor library forest set) (stamp : Nat)
    : evaluate library forest stamp query = .ok (.nodes set) := by
  obtain ⟨⟨source, expression, name, entries, text, read, root, mapping, bound⟩, around,
    accepted⟩ :=
    asks
  have given := nodes_ne_nil_of_surroundings accepted
  obtain ⟨first, others, nodes_eq⟩ := List.exists_cons_of_ne_nil given
  have checked : valuesOfEntries forest entries = .ok around.values := by
    rw [surroundings] at accepted
    obtain ⟨nodes, -, accepted⟩ := bind_eq_ok.mp accepted
    obtain ⟨bindings, -, accepted⟩ := bind_eq_ok.mp accepted
    obtain ⟨values, valid, accepted⟩ := bind_eq_ok.mp accepted
    obtain ⟨options, -, same⟩ := bind_eq_ok.mp accepted
    cases same
    rwa [mapping] at valid
  rw [evaluate_eq_evaluateIn accepted text read, evaluateIn, nodes_eq, root]
  simp [Expr.evaluate, Context.valueOf?, find?_valuesOfEntries checked bound]

/-- The query for a variable with a node-set from the top of the first tree. -/
def forVariable (set : NodeSet) : Query :=
  { plain ⟨0, .inner []⟩ "$x" with values := .mapping [(some "x", .nodes set)] }

theorem asksFor_forVariable (set : NodeSet)
    : (forVariable set).AsksFor .core .small set := by
  have tokens : Token.ofText "$x" = .ok [⟨0, "$x", .variable⟩] := by decide +kernel
  have whole : Grammar.whole ⟨"$x".length, Library.core.arityOf⟩ [⟨0, "$x", .variable⟩]
      = .ok (.reference "x") := by cbv
  have read := (Expression.ofText_eq_ok_iff Library.core.arityOf "$x" ⟨.reference "x", "$x"⟩).mpr
    ⟨_, tokens, whole, rfl⟩
  exact ⟨⟨_, _, "x", _, rfl, read, rfl, rfl, rfl⟩, _, rfl⟩

end Query

-----------------------------------------------------------------------------------------
-- Chains of selections
-----------------------------------------------------------------------------------------

namespace NodeSet

/-- A set that is made of any nodes and goes through slices and conditions holds no node twice. It
is in document order if an even number of slices run backwards, and in reverse document order
otherwise. A query for a variable gives it as it is.
-/
theorem selectAll?_ordered {forest : Forest} {stamps : Nat → Prop} {nodes : List Node}
    {selections : List Selection} (among : ∀ node ∈ nodes, forest.HasAmong stamps node)
    (proper : ∀ selection ∈ selections, selection.IsProper)
    : ∃ set result, ofNodes? forest nodes = some set
      ∧ set.selectAll? selections = some result
      ∧ result.items.Nodup
      ∧ (if selections.countP Selection.runsBackwards % 2 = 0 then result.IsOrdered forest stamps
        else result.reverse.IsOrdered forest stamps)
      ∧ ∀ library query stamp, Query.AsksFor query library forest result →
        Query.evaluate library forest stamp query = .ok (.nodes result) := by
  obtain ⟨sorted, found, isSet⟩ := Forest.isSet_of_sorted among
  obtain ⟨result, taken, contained⟩ := exists_selectAll proper ⟨sorted⟩
  have turnedSet := isSet.sublist contained
  refine ⟨⟨sorted⟩, result, congrArg (Option.map mk) found, taken, ?_, ?_, ?_⟩
  · have distinct := turnedSet.nodup
    rw [turned] at distinct
    split at distinct
    · exact List.nodup_reverse.mp distinct
    · exact distinct
  · rw [turned, Selection.turn] at turnedSet
    split
    case isTrue even =>
        rw [if_neg (by simp [even])] at turnedSet
        exact isOrdered_of_isSet turnedSet
    case isFalse odd =>
        rw [if_pos (by simpa using odd)] at turnedSet
        exact isOrdered_of_isSet turnedSet
  · intro library query stamp asks
    exact asks.evaluate_eq stamp

/-- Nodes of two trees in no order, one of them repeated. -/
def mixedNodes : List Node :=
  [⟨0, .inner [1]⟩, ⟨0, .inner []⟩, ⟨0, .inner [1]⟩, ⟨0, .inner [0]⟩, ⟨1, .inner [0]⟩]

/-- The nodes of the first tree from the last one on, and every other of these turned around. -/
def turnedTwice : List Selection :=
  [.slice ⟨none, none, some (-1)⟩, .filter [(·.tree == 0)], .slice ⟨some (-1), none, some (-2)⟩]

theorem ofNodes?_mixedNodes
    : ofNodes? .small mixedNodes
      = some ⟨[⟨0, .inner []⟩, ⟨0, .inner [0]⟩, ⟨0, .inner [1]⟩, ⟨1, .inner [0]⟩]⟩ := by
  cbv

theorem selectAll?_ordered_twice
    : ∃ set result, ofNodes? .small mixedNodes = some set
      ∧ set.selectAll? turnedTwice = some result
      ∧ result.items = [⟨0, .inner []⟩, ⟨0, .inner [1]⟩]
      ∧ result.IsOrdered .small (· = 7)
      ∧ Query.evaluate .core .small 7 (.forVariable result) = .ok (.nodes result) := by
  have among : ∀ node ∈ mixedNodes, Forest.small.HasAmong (· = 7) node := by
    simp only [Forest.hasAmong_iff_hasWithin, ← Forest.mem_traversal_iff (fun tree => -tree),
      Forest.traversal_small]
    decide
  have proper : ∀ selection ∈ turnedTwice, selection.IsProper := by
    simp [turnedTwice, Selection.IsProper, Slice.stride]
  obtain ⟨set, result, made, taken, -, ordered, answers⟩ := selectAll?_ordered among proper
  refine ⟨set, result, made, taken, ?_, ordered, answers _ _ _ (Query.asksFor_forVariable result)⟩
  obtain rfl := Option.some.inj (ofNodes?_mixedNodes.symm.trans made)
  obtain rfl := Option.some.inj taken
  rfl

/-- A set that is turned around begins with the last of its nodes. -/
theorem select?_backwards
    : ∃ set result, ofNodes? .small mixedNodes = some set
      ∧ set.select? (.slice ⟨none, none, some (-1)⟩) = some result
      ∧ result.first? = set.last?
      ∧ ¬ result.items.Pairwise Node.Precedes
      ∧ Query.evaluate .core .small 7 (.forVariable result) = .ok (.nodes result) := by
  refine ⟨_, _, ofNodes?_mixedNodes, rfl, rfl, ?_,
    (Query.asksFor_forVariable _).evaluate_eq 7⟩
  intro ordered
  have before := (List.pairwise_cons.mp ordered).1 ⟨0, .inner []⟩ (by decide)
  rcases before with smaller | ⟨tree, stamp, other, -, isOrigin, -⟩
  · revert smaller
    decide
  · cases isOrigin

end NodeSet

end PathQuery
