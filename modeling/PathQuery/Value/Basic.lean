import PathQuery.Number.Arithmetic
import PathQuery.Number.Decimal
import PathQuery.Value.NodeSet

/-! The four types of values and the conversions between them. A node-set counts as the
string-value of its first node where a string or a number is wanted.
-/

namespace PathQuery

/-- The value of an expression. -/
inductive Value where
  | nodes (set : NodeSet)
  | string (text : String)
  | number (it : Number)
  | boolean (truth : Bool)
deriving DecidableEq

namespace Value

/-- Whether a value counts as true: a node-set or string that is not empty, and a number that is
neither zero nor no number.
-/
def toBoolean : Value → Bool
  | .nodes set => !set.items.isEmpty
  | .string text => !text.isEmpty
  | .number it => !(it.equals (.zero false) || it.isNaN)
  | .boolean truth => truth

/-- The string of a value. -/
def toText (forest : Forest) : Value → String
  | .nodes set => (set.first?.map forest.stringValue).getD ""
  | .string text => text
  | .number it => it.toText
  | .boolean truth => if truth then "true" else "false"

/-- The number of a value. -/
def toNumber (forest : Forest) : Value → Number
  | .nodes set => .ofText ((Value.nodes set).toText forest)
  | .string text => .ofText text
  | .number it => it
  | .boolean truth => .ofNat (if truth then 1 else 0)

/-- The nodes of a node-set. -/
def nodes? : Value → Option NodeSet
  | .nodes set => some set
  | _ => none

end Value

end PathQuery
