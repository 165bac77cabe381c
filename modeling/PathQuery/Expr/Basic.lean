import PathQuery.Number.Basic

/-! Expressions as trees. A location path is a list of steps, each with an axis, a node test and
predicates; abbreviations are written out. Operators, axes and types of nodes stand in the trees
by their names, which an evaluation looks up. Expressions are compared by structure, numbers among
them by value.
-/

namespace PathQuery

/-- The test that a step puts to the nodes on its axis: a name, possibly with any local part or
without namespace qualifier, or a type of nodes.
-/
inductive NodeTest where
  | anyName (qualifier : Option String)
  | name (qualifier : Option String) (localPart : String)
  | nodeType (typeName : String)
  | instruction (target : Option String)
deriving DecidableEq, Repr

mutual

/-- An expression. -/
inductive Expr where
  | binary (operator : String) (left right : Expr)
  | negate (operand : Expr)
  | union (left right : Expr)
  | number (value : Number)
  | string (value : String)
  | reference (name : String)
  | call (name : String) (arguments : List Expr)
  | filter (primary : Expr) (predicates : List Expr)
  | path (absolute : Bool) (steps : List Step)
  | continued (start : Expr) (steps : List Step)

/-- A step of a location path. -/
inductive Step where
  | mk (axis : String) (test : NodeTest) (predicates : List Expr)

end

/-- The step that `//` stands for. -/
def Step.anywhereBelow : Step :=
  .mk "descendant-or-self" (.nodeType "node") []

/-- An expression that was read, with its text. -/
structure Expression where
  root : Expr
  source : String

mutual

/-- Whether two expressions have the same structure. -/
def Expr.same : Expr → Expr → Bool
  | .binary operator a b, .binary operator' a' b' =>
      operator == operator' && a.same a' && b.same b'
  | .negate a, .negate a' => a.same a'
  | .union a b, .union a' b' => a.same a' && b.same b'
  | .number value, .number value' => value.equals value'
  | .string value, .string value' => value == value'
  | .reference name, .reference name' => name == name'
  | .call name list, .call name' list' => name == name' && Expr.sameAll list list'
  | .filter a list, .filter a' list' => a.same a' && Expr.sameAll list list'
  | .path absolute steps, .path absolute' steps' =>
      absolute == absolute' && Step.sameAll steps steps'
  | .continued a steps, .continued a' steps' => a.same a' && Step.sameAll steps steps'
  | _, _ => false

/-- Whether two lists of expressions have the same structure. -/
def Expr.sameAll : List Expr → List Expr → Bool
  | [], [] => true
  | a :: rest, a' :: rest' => a.same a' && Expr.sameAll rest rest'
  | _, _ => false

/-- Whether two steps have the same structure. -/
def Step.same : Step → Step → Bool
  | .mk axis test list, .mk axis' test' list' =>
      axis == axis' && test == test' && Expr.sameAll list list'

/-- Whether two lists of steps have the same structure. -/
def Step.sameAll : List Step → List Step → Bool
  | [], [] => true
  | a :: rest, a' :: rest' => a.same a' && Step.sameAll rest rest'
  | _, _ => false

end

end PathQuery
