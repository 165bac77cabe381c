import PathQuery.Bindings
import PathQuery.Tree.Axis
import PathQuery.Expr.Arity
import PathQuery.Function.Signature

/-! What an expression is evaluated in: the context node with its position among the nodes that it
was taken from, the namespaces, variables and options, and the trees with the stamp of the origins
that this evaluation makes. A function is handed the same context.
-/

namespace PathQuery

/-- How an evaluation treats what its context does not declare. -/
structure Options where
  strictNamespaces : Bool
deriving DecidableEq, Repr

/-- Undeclared namespace qualifiers are refused unless otherwise wanted. -/
def Options.standard : Options :=
  ⟨true⟩

/-- The context of an evaluation. -/
structure Context where
  forest : Forest
  stamp : Nat
  node : Node
  position : Nat
  size : Nat
  bindings : Bindings
  values : List (String × Value)
  options : Options

namespace Context

/-- The context with another context node at a position among some nodes. -/
def focus (context : Context) (node : Node) (position size : Nat) : Context :=
  { context with node, position, size }

/-- The value of a variable. -/
def valueOf? (context : Context) (name : String) : Option Value :=
  (context.values.find? (·.1 == name)).map Prod.snd

/-- The root of a node's tree in this evaluation. -/
def rootOf (context : Context) (node : Node) : Node :=
  context.forest.rootOf context.stamp node

/-- The nodes on an axis in this evaluation. -/
def onAxis? (context : Context) (axis : Axis) (node : Node) : Option (List Node) :=
  context.forest.onAxis? context.stamp axis node

/-- The string-value of the context node. -/
def text (context : Context) : String :=
  context.forest.stringValue context.node

end Context

/-- Where a node-set is wanted. -/
inductive NodesWanted where
  | unionOperands
  | filterOperand
  | pathStart
  | argument (index : Nat) (function : String)
deriving DecidableEq, Repr

/-- The tables that an evaluation looks up what an expression names. -/
inductive Table where
  | axes
  | comparisons
  | mirroredComparisons
  | operations
  | conversions
deriving DecidableEq, Repr

/-- Why an evaluation has no value. The last four stand for what should never come about: an axis
that a lone node does not have, a node that its tree does not have, a key that a table does not
have, and a case that none of the code provides for.
-/
inductive Fault where
  | unboundVariable (name : String)
  | unboundNamespace (qualifier : String)
  | noNodes (wanted : NodesWanted)
  | call (fault : CallFault)
  | result (fault : DatumFault)
  | loneNode
  | unlocated
  | noEntry (table : Table) (key : String)
  | unintended
deriving DecidableEq, Repr

/-- The entry of a table, which must have one. -/
def Table.expect {α : Type} (table : Table) (key : String) : Option α → Except Fault α
  | some entry => .ok entry
  | none => .error (.noEntry table key)

/-- The wording of a demand for a node-set. -/
def NodesWanted.message : NodesWanted → String
  | .unionOperands => "The operands of a union must be node-sets."
  | .filterOperand => "Only node-sets can be filtered by predicates."
  | .pathStart => "A location path can only continue from a node-set."
  | .argument index function =>
      "Argument " ++ toString (index + 1) ++ " of the function `" ++ function
        ++ "` must be a node-set."

/-- The wording for what no evaluation should come to. -/
def unintendedMessage : String :=
  "An unintended path was taken through the code. Please report this bug."

/-- The wording of a fault, if it has one. -/
def Fault.message? : Fault → Option String
  | .unboundVariable name => some ("The variable `$" ++ name ++ "` is not bound.")
  | .unboundNamespace qualifier =>
      some ("The namespace prefix `" ++ qualifier ++ "` is unknown in the evaluation context.")
  | .noNodes wanted => some wanted.message
  | .call fault => some fault.message
  | .result fault => fault.message?
  | .loneNode => none
  | .unlocated => none
  | .noEntry _ _ => none
  | .unintended => some unintendedMessage

end PathQuery
