import PathQuery.Context

/-! Comparisons and arithmetic operations, which expressions name by symbols. A node-set is compared
through the string-values of its nodes, of which one that satisfies the comparison suffices; the
distinct ones decide where two sets are tested for equality. Other values are brought to a common
type first.
-/

namespace PathQuery

/-- The comparisons. -/
inductive Comparison where
  | equal
  | notEqual
  | less
  | atMost
  | greater
  | atLeast
deriving DecidableEq, Repr

/-- The arithmetic operations with two operands. -/
inductive Operation where
  | add
  | subtract
  | multiply
  | divide
  | remainder
deriving DecidableEq, Repr

namespace Comparison

/-- All comparisons with their symbols. -/
def symbols : List (String × Comparison) :=
  [("=", .equal), ("!=", .notEqual), ("<", .less), ("<=", .atMost), (">", .greater),
    (">=", .atLeast)]

/-- The comparison of a symbol. -/
def ofSymbol? (symbol : String) : Option Comparison :=
  (symbols.find? (·.1 == symbol)).map Prod.snd

/-- The symbols with those of the comparisons that have the sides exchanged. -/
def mirroredSymbols : List (String × String) :=
  [("=", "="), ("!=", "!="), ("<", ">"), ("<=", ">="), (">", "<"), (">=", "<=")]

/-- The symbol of the comparison with its sides exchanged. -/
def mirroredSymbol? (symbol : String) : Option String :=
  (mirroredSymbols.find? (·.1 == symbol)).map Prod.snd

/-- Whether a comparison tests equality; the others test order. -/
def testsEquality : Comparison → Bool
  | .equal => true
  | .notEqual => true
  | _ => false

/-- Compares numbers. What is no number differs from everything and has no place in the order. -/
def onNumbers (comparison : Comparison) (left right : Number) : Bool :=
  match comparison with
  | .equal => left.equals right
  | .notEqual => !left.equals right
  | .less => left.less right
  | .atMost => left.atMost right
  | .greater => right.less left
  | .atLeast => right.atMost left

/-- Compares strings, by order as numbers. -/
def onTexts (comparison : Comparison) (left right : String) : Bool :=
  match comparison with
  | .equal => left == right
  | .notEqual => left != right
  | other => other.onNumbers (.ofText left) (.ofText right)

/-- Compares values that are no node-sets: for equality as booleans if one is a boolean, else as
numbers if one is a number, else as strings; for order as numbers.
-/
def onScalars (forest : Forest) (comparison : Comparison) (left right : Value) : Bool :=
  if comparison.testsEquality then
    match left, right with
    | .boolean truth, other => comparison.onNumbers (ofTruth truth) (ofTruth other.toBoolean)
    | other, .boolean truth => comparison.onNumbers (ofTruth other.toBoolean) (ofTruth truth)
    | .number number, other => comparison.onNumbers number (other.toNumber forest)
    | other, .number number => comparison.onNumbers (other.toNumber forest) number
    | left, right => comparison.onTexts (left.toText forest) (right.toText forest)
  else comparison.onNumbers (left.toNumber forest) (right.toNumber forest)
where
  /-- One for true and zero for false. -/
  ofTruth (truth : Bool) : Number := .ofNat (if truth then 1 else 0)

/-- Compares the string-values of two node-sets. Sets with a common one are equal in the sense of
comparisons, and sets differ unless all their string-values are the same one.
-/
def onTextLists (comparison : Comparison) (left right : List String) : Bool :=
  match comparison with
  | .equal => left.eraseDups.any right.contains
  | .notEqual =>
      left.eraseDups.any (fun text => !(right.eraseDups.filter (· != text)).isEmpty)
  | other =>
      let numbers := right.map Number.ofText
      left.any (fun text => numbers.any (other.onNumbers (.ofText text)))

/-- Compares the string-values of a node-set with a value that is none. -/
def onTextsAndScalar (forest : Forest) (comparison : Comparison) (texts : List String)
    : Value → Except Fault Bool
  | .boolean truth =>
      .ok (comparison.onScalars forest (.boolean !texts.isEmpty) (.boolean truth))
  | .number number => .ok (texts.any (fun text => comparison.onNumbers (.ofText text) number))
  | .string other => .ok (texts.any (fun text => comparison.onTexts text other))
  | .nodes _ => .error .unintended

/-- The string-values of a node-set in order. -/
def textsOf (forest : Forest) (set : NodeSet) : List String :=
  set.items.map forest.stringValue

/-- Compares two values as a symbol says. A node-set on the right alone is compared from its side.
No symbol is looked up for empty node-sets.
-/
def compare (forest : Forest) (symbol : String) : Value → Value → Except Fault Bool
  | .nodes left, .nodes right =>
      if left.items.isEmpty || right.items.isEmpty then .ok false
      else do
        let comparison ← Table.comparisons.expect symbol (ofSymbol? symbol)
        .ok (comparison.onTextLists (textsOf forest left) (textsOf forest right))
  | .nodes left, right => do
      let comparison ← Table.comparisons.expect symbol (ofSymbol? symbol)
      comparison.onTextsAndScalar forest (textsOf forest left) right
  | left, .nodes right => do
      let mirrored ← Table.mirroredComparisons.expect symbol (mirroredSymbol? symbol)
      let comparison ← Table.comparisons.expect mirrored (ofSymbol? mirrored)
      comparison.onTextsAndScalar forest (textsOf forest right) left
  | left, right => do
      let comparison ← Table.comparisons.expect symbol (ofSymbol? symbol)
      .ok (comparison.onScalars forest left right)

end Comparison

/-- All arithmetic operations with their symbols. -/
def Operation.symbols : List (String × Operation) :=
  [("+", .add), ("-", .subtract), ("*", .multiply), ("div", .divide), ("mod", .remainder)]

/-- The arithmetic operation of a symbol. -/
def Operation.ofSymbol? (symbol : String) : Option Operation :=
  (symbols.find? (·.1 == symbol)).map Prod.snd

/-- The result of an arithmetic operation. -/
def Operation.apply : Operation → Number → Number → Number
  | .add => Number.add
  | .subtract => Number.subtract
  | .multiply => Number.multiply
  | .divide => Number.divide
  | .remainder => Number.remainder

end PathQuery
