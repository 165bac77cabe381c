import PathQuery.Proofs.Number.Order
import PathQuery.Value.Comparison

/-! What comparisons mean. Node-sets satisfy one through some of their nodes; other values are
brought to a common type, which the comparison and both values decide. Exchanged sides satisfy the
mirrored comparison.
-/

namespace PathQuery.Comparison

-----------------------------------------------------------------------------------------
-- Symbols
-----------------------------------------------------------------------------------------

/-- The symbol of a comparison. -/
def symbol : Comparison → String
  | .equal => "="
  | .notEqual => "!="
  | .less => "<"
  | .atMost => "<="
  | .greater => ">"
  | .atLeast => ">="

/-- The comparison with its sides exchanged. -/
def mirrored : Comparison → Comparison
  | .equal => .equal
  | .notEqual => .notEqual
  | .less => .greater
  | .atMost => .atLeast
  | .greater => .less
  | .atLeast => .atMost

/-- A symbol names the comparison that it is the symbol of. -/
theorem ofSymbol?_eq_some_iff (text : String) (comparison : Comparison)
    : ofSymbol? text = some comparison ↔ text = comparison.symbol := by
  constructor
  · intro named
    obtain ⟨entry, found, rfl⟩ := Option.map_eq_some_iff.mp named
    have member := List.mem_of_find?_eq_some found
    obtain rfl : entry.1 = text := by simpa using List.find?_some found
    simp only [symbols, List.mem_cons, List.not_mem_nil, or_false] at member
    rcases member with rfl | rfl | rfl | rfl | rfl | rfl <;> rfl
  · rintro rfl
    cases comparison <;> rfl

theorem ofSymbol?_symbol (comparison : Comparison)
    : ofSymbol? comparison.symbol = some comparison :=
  (ofSymbol?_eq_some_iff _ comparison).mpr rfl

theorem mirroredSymbol?_symbol (comparison : Comparison)
    : mirroredSymbol? comparison.symbol = some comparison.mirrored.symbol := by
  cases comparison <;> rfl

@[simp] theorem testsEquality_mirrored (comparison : Comparison)
    : comparison.mirrored.testsEquality = comparison.testsEquality := by
  cases comparison <;> rfl

-----------------------------------------------------------------------------------------
-- Meaning
-----------------------------------------------------------------------------------------

/-- Whether a comparison holds of members of an order. -/
def Between {α : Type} [LT α] [LE α] (comparison : Comparison) (left right : α) : Prop :=
  match comparison with
  | .equal => left = right
  | .notEqual => left ≠ right
  | .less => left < right
  | .atMost => left ≤ right
  | .greater => right < left
  | .atLeast => right ≤ left

/-- Whether a comparison holds of numbers, as it does of their places. What is no number differs
from every number, itself included, and has no place in the order.
-/
def OfNumbers (comparison : Comparison) (left right : Number) : Prop :=
  match comparison with
  | .notEqual => ¬ left.Placed (· = ·) right
  | other => left.Placed other.Between right

/-- Whether a comparison holds of strings: for equality as they are, for order as numbers. -/
def OfTexts (comparison : Comparison) (left right : String) : Prop :=
  if comparison.testsEquality then comparison.Between left right
  else comparison.OfNumbers (.ofText left) (.ofText right)

/-- Whether a comparison holds of values that are no node-sets. For equality booleans dominate
numbers, which dominate strings; for order there are numbers only.
-/
def OfScalars (forest : Forest) (comparison : Comparison) (left right : Value) : Prop :=
  if comparison.testsEquality then
    match left, right with
    | .boolean _, _ | _, .boolean _ => comparison.Between left.toBoolean right.toBoolean
    | .number _, _ | _, .number _ =>
        comparison.OfNumbers (left.toNumber forest) (right.toNumber forest)
    | _, _ => comparison.Between (left.toText forest) (right.toText forest)
  else comparison.OfNumbers (left.toNumber forest) (right.toNumber forest)

/-- Whether a comparison holds of values. Of a node-set it holds through the string-value of a node;
beside a boolean the whole set counts as one.
-/
def Holds (forest : Forest) (comparison : Comparison) : Value → Value → Prop
  | .nodes left, .nodes right =>
      ∃ node ∈ left.items, ∃ other ∈ right.items,
        comparison.OfTexts (forest.stringValue node) (forest.stringValue other)
  | .nodes set, .number number =>
      ∃ node ∈ set.items, comparison.OfNumbers (.ofText (forest.stringValue node)) number
  | .number number, .nodes set =>
      ∃ node ∈ set.items, comparison.OfNumbers number (.ofText (forest.stringValue node))
  | .nodes set, .string text =>
      ∃ node ∈ set.items, comparison.OfTexts (forest.stringValue node) text
  | .string text, .nodes set =>
      ∃ node ∈ set.items, comparison.OfTexts text (forest.stringValue node)
  | .nodes set, .boolean truth =>
      comparison.OfScalars forest (.boolean (Value.nodes set).toBoolean) (.boolean truth)
  | .boolean truth, .nodes set =>
      comparison.OfScalars forest (.boolean truth) (.boolean (Value.nodes set).toBoolean)
  | left, right => comparison.OfScalars forest left right

-----------------------------------------------------------------------------------------
-- Exchanged sides
-----------------------------------------------------------------------------------------

section Mirrored

variable (forest : Forest) (comparison : Comparison)

theorem between_mirrored {α : Type} [LT α] [LE α] (left right : α)
    : comparison.mirrored.Between right left ↔ comparison.Between left right := by
  cases comparison with
  | equal => exact eq_comm
  | notEqual => exact ne_comm
  | less | atMost | greater | atLeast => exact Iff.rfl

theorem ofNumbers_mirrored (left right : Number)
    : comparison.mirrored.OfNumbers right left ↔ comparison.OfNumbers left right := by
  have equality : right.Placed (· = ·) left ↔ left.Placed (· = ·) right := by
    rw [Number.placed_comm]
    simp only [eq_comm]
  cases comparison with
  | equal => exact equality
  | notEqual => exact not_congr equality
  | less | atMost | greater | atLeast => exact Number.placed_comm

theorem ofTexts_mirrored (left right : String)
    : comparison.mirrored.OfTexts right left ↔ comparison.OfTexts left right := by
  rw [OfTexts, OfTexts, testsEquality_mirrored]
  split
  · exact comparison.between_mirrored left right
  · exact comparison.ofNumbers_mirrored _ _

theorem ofScalars_mirrored (left right : Value)
    : comparison.mirrored.OfScalars forest right left
      ↔ comparison.OfScalars forest left right := by
  unfold OfScalars
  rw [testsEquality_mirrored]
  split
  case isTrue =>
      cases left <;> cases right <;>
        first | exact comparison.between_mirrored _ _ | exact comparison.ofNumbers_mirrored _ _
  case isFalse => exact comparison.ofNumbers_mirrored _ _

/-- A comparison holds if the mirrored one does with the sides exchanged. -/
theorem holds_mirrored (left right : Value)
    : comparison.mirrored.Holds forest right left ↔ comparison.Holds forest left right := by
  cases left with
  | nodes set =>
      cases right with
      | nodes others =>
          simp only [Holds, ofTexts_mirrored]
          exact ⟨fun ⟨other, inside, node, member, holds⟩ => ⟨node, member, other, inside, holds⟩,
            fun ⟨node, member, other, inside, holds⟩ => ⟨other, inside, node, member, holds⟩⟩
      | string => simp only [Holds, ofTexts_mirrored]
      | number => simp only [Holds, ofNumbers_mirrored]
      | boolean => exact ofScalars_mirrored _ _ _ _
  | string =>
      cases right with
      | nodes => simp only [Holds, ofTexts_mirrored]
      | string | number | boolean => exact ofScalars_mirrored _ _ _ _
  | number =>
      cases right with
      | nodes => simp only [Holds, ofNumbers_mirrored]
      | string | number | boolean => exact ofScalars_mirrored _ _ _ _
  | boolean => cases right <;> exact ofScalars_mirrored _ _ _ _

end Mirrored

-----------------------------------------------------------------------------------------
-- Decisions
-----------------------------------------------------------------------------------------

section Decisions

variable (forest : Forest) (comparison : Comparison)

theorem onNumbers_iff (left right : Number)
    : comparison.onNumbers left right ↔ comparison.OfNumbers left right := by
  cases comparison with
  | equal => exact left.equals_iff right
  | notEqual => rw [onNumbers, Bool.not_eq_true', ← Bool.not_eq_true, Number.equals_iff, OfNumbers]
  | less => exact left.less_iff right
  | atMost => exact left.atMost_iff right
  | greater => exact (right.less_iff left).trans Number.placed_comm
  | atLeast => exact (right.atMost_iff left).trans Number.placed_comm

theorem onTexts_iff (left right : String)
    : comparison.onTexts left right ↔ comparison.OfTexts left right := by
  cases comparison with
  | equal => exact beq_iff_eq
  | notEqual => exact bne_iff_ne
  | less => exact onNumbers_iff .less _ _
  | atMost => exact onNumbers_iff .atMost _ _
  | greater => exact onNumbers_iff .greater _ _
  | atLeast => exact onNumbers_iff .atLeast _ _

/-- Booleans are equal if the numbers that stand for them are. -/
theorem onTruths_iff (equality : comparison.testsEquality) (left right : Bool)
    : comparison.onNumbers (onScalars.ofTruth left) (onScalars.ofTruth right)
      ↔ comparison.Between left right := by
  have equals : (onScalars.ofTruth left).equals (onScalars.ofTruth right) = (left == right) := by
    cases left <;> cases right <;> decide +kernel
  cases comparison with
  | equal => simp [onNumbers, equals, Between]
  | notEqual => simp [onNumbers, equals, Between]
  | less | atMost | greater | atLeast => cases equality

theorem onScalars_iff (left right : Value)
    : comparison.onScalars forest left right ↔ comparison.OfScalars forest left right := by
  unfold onScalars OfScalars
  split
  case isTrue equality =>
      cases left <;> cases right <;> first
        | exact comparison.onNumbers_iff _ _
        | exact comparison.onTruths_iff equality _ _
        | rw [onTexts_iff, OfTexts, if_pos equality]
  case isFalse => exact comparison.onNumbers_iff _ _

/-- Sets differ unless all their string-values are one. -/
theorem onTextLists_iff (left right : List String)
    : comparison.onTextLists left right
      ↔ ∃ text ∈ left, ∃ other ∈ right, comparison.OfTexts text other := by
  simp only [← onTexts_iff]
  cases comparison with
  | notEqual => simp [onTextLists, onTexts, @eq_comm String]
  | equal | less | atMost | greater | atLeast => simp [onTextLists, onTexts]

/-- The string-values of a node-set decide how it compares with a value that is none. -/
theorem exists_onTextsAndScalar (set : NodeSet) {value : Value}
    (scalar : ∀ others, value ≠ .nodes others)
    : ∃ outcome, comparison.onTextsAndScalar forest (textsOf forest set) value = .ok outcome
      ∧ (outcome ↔ comparison.Holds forest (.nodes set) value) := by
  cases value with
  | nodes others => exact absurd rfl (scalar others)
  | string => exact ⟨_, rfl, by simp [Holds, textsOf, onTexts_iff]⟩
  | number => exact ⟨_, rfl, by simp [Holds, textsOf, onNumbers_iff]⟩
  | boolean truth => exact ⟨_, rfl, by simp [Holds, textsOf, onScalars_iff, Value.toBoolean]⟩

/-- Two values compare by a symbol as its comparison holds of them. -/
theorem exists_compare_symbol (left right : Value)
    : ∃ outcome, compare forest comparison.symbol left right = .ok outcome
      ∧ (outcome ↔ comparison.Holds forest left right) := by
  cases left with
  | nodes set =>
      cases right with
      | nodes others =>
          rw [compare]
          split
          case isTrue empty =>
              refine ⟨false, rfl, ?_⟩
              rcases Bool.or_eq_true .. ▸ empty with none | none <;>
                simp [Holds, List.isEmpty_iff.mp none]
          case isFalse =>
              rw [ofSymbol?_symbol]
              refine ⟨_, rfl, ?_⟩
              simp [onTextLists_iff, textsOf, Holds]
      | string | number | boolean =>
          simp only [compare, ofSymbol?_symbol, Table.expect, bind, Except.bind]
          exact exists_onTextsAndScalar forest comparison set (by simp)
  | string | number | boolean =>
      cases right with
      | nodes set =>
          simp only [compare, mirroredSymbol?_symbol, ofSymbol?_symbol, Table.expect, bind,
            Except.bind, ← holds_mirrored forest comparison]
          exact exists_onTextsAndScalar forest comparison.mirrored set (by simp)
      | string | number | boolean =>
          simp only [compare, ofSymbol?_symbol]
          exact ⟨_, rfl, comparison.onScalars_iff forest _ _⟩

end Decisions

/-- Any two values can be compared by a symbol that there is a comparison of. -/
theorem exists_compare (forest : Forest) {symbol : String} (known : (ofSymbol? symbol).isSome)
    (left right : Value)
    : ∃ outcome, compare forest symbol left right = .ok outcome := by
  obtain ⟨comparison, named⟩ := Option.isSome_iff_exists.mp known
  obtain rfl := (ofSymbol?_eq_some_iff symbol comparison).mp named
  obtain ⟨outcome, compares, -⟩ := comparison.exists_compare_symbol forest left right
  exact ⟨outcome, compares⟩

/-- Any two values can be compared, with the outcome that the comparison has by its meaning, and
with the same outcome from the other side by the mirrored symbol.
-/
theorem compare_iff_holds (forest : Forest) (comparison : Comparison) (left right : Value)
    : (∃ outcome, compare forest comparison.symbol left right = .ok outcome
        ∧ (outcome ↔ comparison.Holds forest left right))
      ∧ compare forest comparison.mirrored.symbol right left
        = compare forest comparison.symbol left right := by
  obtain ⟨outcome, compares, holds⟩ := comparison.exists_compare_symbol forest left right
  obtain ⟨other, mirrors, also⟩ := comparison.mirrored.exists_compare_symbol forest right left
  have same : other = outcome := by
    rw [Bool.eq_iff_iff, also, holds, holds_mirrored]
  exact ⟨⟨outcome, compares, holds⟩, by rw [compares, mirrors, same]⟩

end PathQuery.Comparison
